import EntitySql.Dialect.BuiltIn
import EntitySql.Proofs.Segments
import EntitySql.Sql.RowRange
import Mathlib.Algebra.Group.Int.Defs
import Mathlib.Algebra.Group.Nat.Defs
import Mathlib.Order.Basic
import Mathlib.Order.MinMax

/-!
# Pages tile the rows

The offset of a page is the exact number of rows on the pages before it, or the largest word where
that does not fit.  Rows that can be counted lie on exactly one page each, and every built-in
dialect asks for the rows of the page.
-/

namespace EntitySql

open EntitySql.Text

namespace Page

/-! ## Offsets -/

theorem toNat_saturatingMul (left right : UInt64) :
    (saturatingMul left right).toNat = min (left.toNat * right.toNat) (2 ^ 64 - 1) := by
  rw [saturatingMul, UInt64.toNat_ofNat']
  exact Nat.mod_eq_of_lt (by simp only [UInt64.size]; omega)

theorem toNat_preceding (page : Page) :
    page.preceding.toNat = (page.number.toInt - 1).toNat := by
  have bound := page.number.toInt_lt
  rw [preceding, UInt64.toNat_ofNat']
  exact Nat.mod_eq_of_lt (by omega)

theorem toNat_offset (page : Page) :
    page.offset.toNat =
      min ((page.number.toInt - 1).toNat * page.size.toNat) (2 ^ 64 - 1) := by
  rw [offset, toNat_saturatingMul, toNat_preceding, UInt32.toNat_toUInt64]

/-- The offset in exact arithmetic, cut to a word. -/
theorem offset_eq (page : Page) :
    (page.offset.toNat : Int) =
      min ((max page.number.toInt 1 - 1) * page.size.toNat) (2 ^ 64 - 1) := by
  have clamped : max page.number.toInt 1 - 1 = ((page.number.toInt - 1).toNat : Int) := by omega
  rw [toNat_offset, clamped, ← Int.natCast_mul]
  generalize (page.number.toInt - 1).toNat * page.size.toNat = rows
  omega

theorem offset_mono {page page' : Page} (number : page.number ≤ page'.number)
    (size : page.size ≤ page'.size) : page.offset ≤ page'.offset := by
  have preceding : (page.number.toInt - 1).toNat ≤ (page'.number.toInt - 1).toNat := by
    rw [Int64.le_iff_toInt_le] at number
    omega
  have product := Nat.mul_le_mul preceding (UInt32.le_iff_toNat_le.mp size)
  rw [UInt64.le_iff_toNat_le, toNat_offset, toNat_offset]
  omega

/-- All pages before the first one begin where the first one does. -/
theorem offset_of_lt_one {number : Int64} (below : number < 1) (size : UInt32) :
    (Page.mk number size).offset = (Page.mk 1 size).offset := by
  rw [Int64.lt_iff_toInt_lt, Int64.toInt_one] at below
  have preceding : (number.toInt - 1).toNat = 0 := by omega
  apply UInt64.toNat_inj.mp
  rw [toNat_offset, toNat_offset]
  simp [preceding]

/-! ## Rows of a page -/

/-- The row with this many rows before it is on the page. -/
def Holds (page : Page) (row : Nat) : Prop :=
  page.offset.toNat ≤ row ∧ row < page.offset.toNat + page.size.toNat

/-- A row that can be counted is on the page that as many pages precede as fit before it.  An offset
that is cut lies behind the row. -/
theorem holds_iff (page : Page) (notEmpty : 0 < page.size.toNat) {row : Nat}
    (counted : row < 2 ^ 63 - 1) :
    page.Holds row ↔ (page.number.toInt - 1).toNat = row / page.size.toNat := by
  rw [Holds, toNat_offset, eq_comm, Nat.div_eq_iff notEmpty]
  omega

/-- Every row that can be counted is on exactly one page. -/
theorem existsUnique_holds {size : UInt32} (notEmpty : 1 ≤ size) {row : Nat}
    (counted : row < 2 ^ 63 - 1) :
    ∃! number : Int64, 1 ≤ number ∧ (Page.mk number size).Holds row := by
  have positive : 0 < size.toNat := UInt32.le_iff_toNat_le.mp notEmpty
  have holds_iff (number : Int64) :
      (Page.mk number size).Holds row ↔ (number.toInt - 1).toNat = row / size.toNat :=
    Page.holds_iff ⟨number, size⟩ positive counted
  have few := Nat.div_le_self row size.toNat
  generalize row / size.toNat = pages at holds_iff few
  have exact : (Int64.ofInt (pages + 1)).toInt = pages + 1 :=
    Int64.toInt_ofInt_of_le (by omega) (by omega)
  refine ⟨Int64.ofInt (pages + 1), ⟨?_, ?_⟩, ?_⟩
  · rw [Int64.le_iff_toInt_le, exact, Int64.toInt_one]
    omega
  · rw [holds_iff, exact]
    omega
  · rintro number ⟨first, holds⟩
    rw [holds_iff] at holds
    rw [Int64.le_iff_toInt_le, Int64.toInt_one] at first
    apply Int64.toInt_inj.mp
    rw [exact]
    omega

/-! ## Paging clauses -/

/-- The range of the rows of the page. -/
def range (page : Page) : Sql.RowRange :=
  ⟨page.offset.toNat, page.size.toNat⟩

end Page

namespace Sql

theorem toList_toString (n : Nat) : (toString n).toList = Nat.toDigits 10 n := by
  rw [Nat.toString_eq_ofList_toDigits, String.toList_ofList]

theorem number?_toString (n : Nat) : number? (toString n) = some n := by
  have notEmpty : toString n ≠ "" := by
    rw [ne_eq, ← String.toList_eq_nil_iff, toList_toString]
    exact Nat.toDigits_ne_nil
  have digits : (toString n).toList.all Char.isDigit = true := by
    rw [List.all_eq_true, toList_toString]
    exact fun c member => Nat.isDigit_of_mem_toDigits (by decide) (by decide) member
  rw [number?, if_pos ⟨notEmpty, digits⟩, toList_toString, Nat.ofDigitChars_ten_toDigits]

theorem ofNumbers?_toString (skipped taken : Nat) :
    RowRange.ofNumbers? (toString skipped) (toString taken) = some ⟨skipped, taken⟩ := by
  rw [RowRange.ofNumbers?, number?_toString, number?_toString]
  rfl

/-- No character but digits is in a number. -/
theorem notMem_toString (n : Nat) {c : Char} (notDigit : c.isDigit = false) :
    c ∉ (toString n).toList := by
  rw [toList_toString]
  intro member
  rw [Nat.isDigit_of_mem_toDigits (by decide) (by decide) member] at notDigit
  cases notDigit

variable {skipped taken : String}

theorem segments_offsetFetch (skippedWord : ' ' ∉ skipped.toList)
    (takenWord : ' ' ∉ taken.toList) :
    segments ' ' (" offset " ++ skipped ++ " rows fetch next " ++ taken ++ " rows only") =
      ["", "offset", skipped, "rows", "fetch", "next", taken, "rows", "only"] :=
  segments_of_toList_eq (by simp [String.toList_append]) (by simp)
    (by simp [skippedWord, takenWord])

theorem segments_offsetLimit (skippedWord : ' ' ∉ skipped.toList)
    (takenWord : ' ' ∉ taken.toList) :
    segments ' ' (" offset " ++ skipped ++ " limit " ++ taken) =
      ["", "offset", skipped, "limit", taken] :=
  segments_of_toList_eq (by simp [String.toList_append]) (by simp)
    (by simp [skippedWord, takenWord])

theorem segments_limitPair (skippedWord : ',' ∉ skipped.toList) (takenWord : ',' ∉ taken.toList) :
    segments ',' (" limit " ++ skipped ++ ", " ++ taken) = [" limit " ++ skipped, " " ++ taken] :=
  segments_of_toList_eq (by simp [String.toList_append]) (by simp)
    (by simp [String.toList_append, skippedWord, takenWord])

theorem segments_limited (skippedWord : ' ' ∉ skipped.toList) :
    segments ' ' (" limit " ++ skipped) = ["", "limit", skipped] :=
  segments_of_toList_eq (by simp [String.toList_append]) (by simp) (by simp [skippedWord])

theorem segments_following (takenWord : ' ' ∉ taken.toList) :
    segments ' ' (" " ++ taken) = ["", taken] :=
  segments_of_toList_eq (by simp [String.toList_append]) (by simp) (by simp [takenWord])

end Sql

namespace DialectKind

/-- The words in which the product's databases write a range of rows. -/
def rangeGrammar : DialectKind → Sql.RangeGrammar
  | .sqlServer | .sqlServerCompact => .offsetFetch
  | .postgres => .offsetLimit
  | .mySql | .sqlite => .limitPair

open Sql in
/-- A built-in dialect keeps the ordering and asks for the rows of the page after it. -/
theorem exists_read?_paging (kind : DialectKind) (ordering : String) (page : Page) :
    ∃ clause, kind.dialect.paging ordering page = ordering ++ clause ∧
      kind.rangeGrammar.read? clause = some page.range := by
  have word (n : Nat) : ' ' ∉ (toString n).toList := notMem_toString n rfl
  have number (n : Nat) : ',' ∉ (toString n).toList := notMem_toString n rfl
  cases kind with
  | sqlServer | sqlServerCompact =>
      refine ⟨" offset " ++ toString page.offset.toNat ++ " rows fetch next "
        ++ toString page.size.toNat ++ " rows only", ?_, ?_⟩
      · simp only [dialect, offsetFetch, String.append_assoc]
      · simp only [rangeGrammar, RangeGrammar.read?, segments_offsetFetch (word _) (word _)]
        exact ofNumbers?_toString _ _
  | postgres =>
      refine ⟨" offset " ++ toString page.offset.toNat ++ " limit " ++ toString page.size.toNat,
        ?_, ?_⟩
      · simp only [dialect, offsetLimit, String.append_assoc]
      · simp only [rangeGrammar, RangeGrammar.read?, segments_offsetLimit (word _) (word _)]
        exact ofNumbers?_toString _ _
  | mySql | sqlite =>
      refine ⟨" limit " ++ toString page.offset.toNat ++ ", " ++ toString page.size.toNat, ?_, ?_⟩
      · simp only [dialect, limitPair, String.append_assoc]
      · simp only [rangeGrammar, RangeGrammar.read?, segments_limitPair (number _) (number _),
          segments_limited (word _), segments_following (word _)]
        exact ofNumbers?_toString _ _

end DialectKind

/-- Pages tile the rows.  Every row that can be counted is on exactly one page from the first one
on, the numbers before it mean the first page, the offset is the exact one cut to a word, which
grows with number and size, and every built-in dialect asks for the rows of the page after the
ordering. -/
theorem Page.pages_tile_rows :
    (∀ (size : UInt32) (row : Nat), 1 ≤ size → row < 2 ^ 63 - 1 →
      ∃! number : Int64, 1 ≤ number ∧ (Page.mk number size).Holds row) ∧
    (∀ (number : Int64) (size : UInt32), number < 1 →
      (Page.mk number size).offset = (Page.mk 1 size).offset) ∧
    (∀ page : Page, (page.offset.toNat : Int) =
      min ((max page.number.toInt 1 - 1) * page.size.toNat) (2 ^ 64 - 1)) ∧
    (∀ page page' : Page, page.number ≤ page'.number → page.size ≤ page'.size →
      page.offset ≤ page'.offset) ∧
    (∀ (kind : DialectKind) (ordering : String) (page : Page),
      ∃ clause, kind.dialect.paging ordering page = ordering ++ clause ∧
        kind.rangeGrammar.read? clause = some ⟨page.offset.toNat, page.size.toNat⟩) :=
  ⟨fun _ _ notEmpty counted => existsUnique_holds notEmpty counted,
    fun _ size below => offset_of_lt_one below size,
    offset_eq,
    fun _ _ number size => offset_mono number size,
    DialectKind.exists_read?_paging⟩

/-- The row after twenty-four others is on the third page of ten, which begins no earlier than the
second one, and page zero begins where the first page does. -/
theorem Page.third_page_of_ten_holds_row :
    (∃! number : Int64, 1 ≤ number ∧ (Page.mk number 10).Holds 24) ∧
      (Page.mk 0 10).offset = (Page.mk 1 10).offset ∧
      (Page.mk 2 10).offset ≤ (Page.mk 3 10).offset :=
  ⟨pages_tile_rows.1 10 24 (by decide) (by decide),
    pages_tile_rows.2.1 0 10 (by decide),
    pages_tile_rows.2.2.2.1 ⟨2, 10⟩ ⟨3, 10⟩ (by decide) (by decide)⟩

end EntitySql
