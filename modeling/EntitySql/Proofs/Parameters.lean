import EntitySql.Parameters

/-!
# Laws of parameters

Binding appends, so dropping what was bound last restores the parameters of
before.  Parameters that were bound from the start are numbered: the name at each
position is the one that counts the position, and finds the value there.
-/

namespace EntitySql.Parameters

theorem nameAt_injective {first second : Nat} (namesEq : nameAt first = nameAt second) :
    first = second := by
  have digitsEq : Nat.toDigits 10 (first + 1) = Nat.toDigits 10 (second + 1) := by
    have listsEq := congrArg String.toList namesEq
    simpa [nameAt, Nat.toString_eq_ofList_toDigits] using listsEq
  have numbersEq := congrArg (fun digits => Nat.ofDigitChars 10 digits 0) digitsEq
  simpa [Nat.ofDigitChars_ten_toDigits] using numbersEq

variable {parameters : Parameters}

@[simp] theorem size_bind (parameters : Parameters) (value : Value) :
    (parameters.bind value).size = parameters.size + 1 := by
  simp [bind, size]

@[simp] theorem names_bind (parameters : Parameters) (value : Value) :
    (parameters.bind value).names = parameters.names ++ [parameters.nextName] := by
  simp [bind, names]

@[simp] theorem values_bind (parameters : Parameters) (value : Value) :
    (parameters.bind value).values = parameters.values ++ [value] := by
  simp [bind, values]

@[simp] theorem bindAll_nil (parameters : Parameters) : parameters.bindAll [] = parameters :=
  rfl

@[simp] theorem bindAll_cons (parameters : Parameters) (value : Value) (values : List Value) :
    parameters.bindAll (value :: values) = (parameters.bind value).bindAll values :=
  rfl

theorem bindAll_append (parameters : Parameters) (first second : List Value) :
    parameters.bindAll (first ++ second) = (parameters.bindAll first).bindAll second := by
  simp [bindAll]

@[simp] theorem size_bindAll (parameters : Parameters) (values : List Value) :
    (parameters.bindAll values).size = parameters.size + values.length := by
  induction values generalizing parameters with
  | nil => rfl
  | cons value values ih =>
      rw [bindAll_cons, ih, size_bind, List.length_cons]
      omega

@[simp] theorem values_bindAll (parameters : Parameters) (values : List Value) :
    (parameters.bindAll values).values = parameters.values ++ values := by
  induction values generalizing parameters with
  | nil => simp
  | cons value values ih => rw [bindAll_cons, ih, values_bind]; simp

@[simp] theorem length_names (parameters : Parameters) :
    parameters.names.length = parameters.size := by
  simp [names, size]

@[simp] theorem length_values (parameters : Parameters) :
    parameters.values.length = parameters.size := by
  simp [values, size]

/-- The names that values get which are bound next. -/
def nextNames (parameters : Parameters) (count : Nat) : List String :=
  (List.range' parameters.size count).map nameAt

@[simp] theorem nextNames_zero (parameters : Parameters) : parameters.nextNames 0 = [] :=
  rfl

theorem nextNames_succ (parameters : Parameters) (value : Value) (count : Nat) :
    parameters.nextNames (count + 1) =
      parameters.nextName :: (parameters.bind value).nextNames count := by
  simp [nextNames, nextName, List.range'_succ]

theorem names_bindAll (parameters : Parameters) (values : List Value) :
    (parameters.bindAll values).names =
      parameters.names ++ parameters.nextNames values.length := by
  induction values generalizing parameters with
  | nil => simp
  | cons value values ih =>
      rw [bindAll_cons, ih, names_bind, List.length_cons, nextNames_succ parameters value]
      simp

theorem entries_eq_zip (parameters : Parameters) :
    parameters.entries = parameters.names.zip parameters.values := by
  simp [names, values, List.zip_map', List.map_id'']

theorem ext_names_values {first second : Parameters} (namesEq : first.names = second.names)
    (valuesEq : first.values = second.values) : first = second := by
  have entriesEq : first.entries = second.entries := by
    rw [entries_eq_zip, entries_eq_zip, namesEq, valuesEq]
  cases first
  cases second
  simpa using entriesEq

/-- Dropping what was bound since restores the parameters. -/
@[simp] theorem truncate_bindAll (parameters : Parameters) (values : List Value) :
    (parameters.bindAll values).truncate parameters.size = parameters := by
  apply ext_names_values
  · have taken := congrArg (List.take parameters.size) (names_bindAll parameters values)
    rw [List.take_left' (length_names parameters)] at taken
    simpa [truncate, names] using taken
  · have taken := congrArg (List.take parameters.size) (values_bindAll parameters values)
    rw [List.take_left' (length_values parameters)] at taken
    simpa [truncate, Parameters.values] using taken

/-- The names count the positions. -/
def Numbered (parameters : Parameters) : Prop :=
  parameters.names = (List.range parameters.size).map nameAt

theorem numbered_empty : Numbered {} :=
  rfl

theorem Numbered.bindAll (numbered : parameters.Numbered) (values : List Value) :
    (parameters.bindAll values).Numbered := by
  have ranges : List.range' 0 parameters.size ++ List.range' parameters.size values.length =
      List.range' 0 (parameters.size + values.length) := by
    have appended := @List.range'_append_1 0 parameters.size values.length
    rwa [Nat.zero_add] at appended
  rw [Numbered, names_bindAll, numbered, size_bindAll, nextNames, ← List.map_append,
    List.range_eq_range', List.range_eq_range', ranges]

theorem Numbered.bind (numbered : parameters.Numbered) (value : Value) :
    (parameters.bind value).Numbered :=
  numbered.bindAll [value]

theorem numbered_ofValues (values : List Value) : (ofValues values).Numbered :=
  numbered_empty.bindAll values

/-- The name at a position finds the value there. -/
theorem Numbered.get?_nameAt (numbered : parameters.Numbered) (position : Nat) :
    parameters.get? (nameAt position) = parameters.values[position]? := by
  have lookup_zip (start : Nat) (values : List Value) (offset : Nat) :
      (((List.range' start values.length).map nameAt).zip values).lookup
        (nameAt (start + offset)) = values[offset]? := by
    induction values generalizing start offset with
    | nil => simp
    | cons value values ih =>
        rw [List.length_cons, List.range'_succ, List.map_cons, List.zip_cons_cons,
          List.lookup_cons]
        cases offset with
        | zero => simp
        | succ offset =>
            have differs : (nameAt (start + (offset + 1)) == nameAt start) = false := by
              rw [beq_eq_false_iff_ne]
              intro namesEq
              have := nameAt_injective namesEq
              omega
            rw [differs]
            have found := ih (start + 1) offset
            rw [show start + 1 + offset = start + (offset + 1) by omega] at found
            simpa using found
  have found := lookup_zip 0 parameters.values position
  rw [length_values, Nat.zero_add, ← List.range_eq_range', ← numbered,
    ← entries_eq_zip] at found
  exact found

/-- The next name finds the value bound under it, whatever is bound after it. -/
theorem Numbered.get?_nextName (numbered : parameters.Numbered) (value : Value)
    (more : List Value) :
    ((parameters.bind value).bindAll more).get? parameters.nextName = some value := by
  rw [nextName, ((numbered.bind value).bindAll more).get?_nameAt]
  simp

end EntitySql.Parameters
