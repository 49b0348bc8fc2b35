import EntitySql.Text.Segments

/-!
# Cutting text and joining it

A text is cut into segments that do not have the separator in them, and joining these with the
separator gives the text back.  No other texts do so.
-/

namespace EntitySql.Text

theorem splitAt_eq_splitOn (separator : Char) (text : List Char) :
    splitAt separator text = text.splitOn separator := by
  induction text with
  | nil => rfl
  | cons c text ih =>
      rw [splitAt, ih, List.splitOn_cons_eq_if_modifyHead]
      by_cases isSeparator : c = separator
      · simp [isSeparator]
      · cases split : text.splitOn separator with
        | nil => exact absurd split (List.splitOn_ne_nil separator text)
        | cons segment others => simp [isSeparator]

theorem segments_ne_nil (separator : Char) (text : String) : segments separator text ≠ [] := by
  simp [segments, splitAt_eq_splitOn, List.splitOn_ne_nil]

theorem map_toList_segments (separator : Char) (text : String) :
    (segments separator text).map String.toList = text.toList.splitOn separator := by
  simp [segments, splitAt_eq_splitOn, Function.comp_def]

/-- The segments with the separator between them are the text. -/
theorem intercalate_segments (separator : Char) (text : String) :
    (String.singleton separator).intercalate (segments separator text) = text := by
  apply String.toList_inj.mp
  rw [String.toList_intercalate, map_toList_segments, String.toList_singleton,
    List.intercalate_splitOn]

/-- Texts without the separator are the segments of the text that they make with the separator
between them. -/
theorem segments_of_toList_eq {separator : Char} {text : String} {parts : List String}
    (joined : text.toList = [separator].intercalate (parts.map String.toList))
    (notEmpty : parts ≠ []) (apart : ∀ part ∈ parts, separator ∉ part.toList) :
    segments separator text = parts := by
  rw [segments, splitAt_eq_splitOn, joined,
    List.splitOn_intercalate separator (by simpa using apart) (by simpa using notEmpty)]
  simp [Function.comp_def]

theorem not_mem_of_mem_splitOn {separator : Char} {text segment : List Char}
    (member : segment ∈ text.splitOn separator) : separator ∉ segment := by
  induction text generalizing segment with
  | nil =>
      obtain rfl : segment = [] := by simpa using member
      simp
  | cons c text ih =>
      rw [List.splitOn_cons_eq_if_modifyHead] at member
      by_cases isSeparator : c = separator
      · rcases (by simpa [isSeparator] using member) with rfl | among
        · simp
        · exact ih among
      · cases split : text.splitOn separator with
        | nil => exact absurd split (List.splitOn_ne_nil separator text)
        | cons first others =>
            rw [split] at ih member
            rcases (by simpa [isSeparator] using member) with rfl | among
            · simpa [Ne.symm isSeparator] using ih List.mem_cons_self
            · exact ih (List.mem_cons_of_mem first among)

/-- No segment has the separator in it. -/
theorem not_mem_of_mem_segments {separator : Char} {text segment : String}
    (member : segment ∈ segments separator text) : separator ∉ segment.toList := by
  obtain ⟨characters, among, rfl⟩ := List.mem_map.mp member
  rw [splitAt_eq_splitOn] at among
  rw [String.toList_ofList]
  exact not_mem_of_mem_splitOn among

end EntitySql.Text
