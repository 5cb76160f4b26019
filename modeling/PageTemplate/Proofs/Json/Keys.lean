/-
The keys of objects that are read. An object is built field by field, and a
field whose key is there already replaces the value, so no key stands twice
(`distinct_of_readValue`), in the one object of a document (`distinct_of_ofChars`)
and in that of a file (`distinct_of_readObjectFile`).
-/
import PageTemplate.Json.ObjectFile
import PageTemplate.Proofs.Dictionary

namespace PageTemplate.Json

/-- What is read is no object with a key that stands twice. -/
def HasDistinctKeys (value : Json) : Prop := ∀ fields : Dictionary Json, value = .object fields → fields.Distinct

theorem hasDistinctKeys_object {fields : Dictionary Json} (h : fields.Distinct) : HasDistinctKeys (.object fields) := by
  intro fields' heq
  cases heq
  exact h

theorem hasDistinctKeys_keyword {cs : List Char} {value : Json} {width : Nat} (h : keyword? cs = some (value, width)) :
    value.HasDistinctKeys := by
  rintro fields rfl
  unfold keyword? at h
  repeat' split at h
  all_goals cases h

theorem hasDistinctKeys_readNumber {c c' : Cursor} {value : Json} (h : readNumber c = .ok (value, c')) :
    value.HasDistinctKeys := by
  rintro fields rfl
  unfold readNumber at h
  simp only at h
  repeat' split at h
  all_goals cases h

theorem hasDistinctKeys_readItems {fuel room : Nat} {taken : List Json} {c c' : Cursor} {value : Json}
    (h : readItems fuel room taken c = .ok (value, c')) : value.HasDistinctKeys := by
  rintro fields rfl
  induction fuel generalizing taken c with
  | zero => simp [readItems] at h
  | succ fuel ih =>
    rw [readItems] at h
    split at h
    · cases h
    · simp only at h
      split at h
      · cases h
      · exact ih h
      · cases h

theorem hasDistinctKeys_readFields {fuel room : Nat} {taken : Dictionary Json} {c c' : Cursor} {value : Json}
    (htaken : taken.Distinct) (h : readFields fuel room taken c = .ok (value, c')) : value.HasDistinctKeys := by
  induction fuel generalizing taken c with
  | zero => simp [readFields] at h
  | succ fuel ih =>
    rw [readFields] at h
    split at h
    · cases h
    · split at h
      · cases h
      · rename_i key behind hkey
        simp only at h
        split at h
        · cases h
        · split at h
          · cases h
          · rename_i field rest hfield
            split at h
            · cases h
              exact hasDistinctKeys_object (htaken.insert key field)
            · exact ih (htaken.insert key field) h
            · cases h

theorem distinct_of_readValue {fuel room : Nat} {c c' : Cursor} {value : Json}
    (h : readValue fuel room c = .ok (value, c')) : value.HasDistinctKeys := by
  cases fuel with
  | zero => simp [readValue] at h
  | succ fuel =>
    have hnil : Dictionary.Distinct ([] : Dictionary Json) := List.nodup_nil
    rw [readValue.eq_def] at h
    simp only at h
    split at h
    · split at h
      · cases h
      · cases h
        rintro fields ⟨⟩
    · split at h
      · cases h
      · split at h
        · cases h
          exact hasDistinctKeys_object hnil
        · exact hasDistinctKeys_readFields hnil h
    · split at h
      · cases h
      · split at h
        · cases h
          rintro fields ⟨⟩
        · exact hasDistinctKeys_readItems h
    · split at h
      · rename_i hkeyword
        cases h
        exact hasDistinctKeys_keyword hkeyword
      · exact hasDistinctKeys_readNumber h

theorem distinct_of_ofChars [Platform] {cs : List Char} {fields : Dictionary Json}
    (h : ofChars cs = .ok (.object fields)) : fields.Distinct := by
  unfold ofChars at h
  split at h
  · rename_i value hread
    cases h
    unfold readDocument at hread
    split at hread
    · cases hread
    · split at hread
      · cases hread
      · rename_i value c hvalue
        simp only at hread
        split at hread
        · cases hread
          exact distinct_of_readValue hvalue fields rfl
        · cases hread
  · cases h

theorem distinct_of_readObjectFile [Platform] {purpose : String} {files : FileTree} {path : Path}
    {fields : Dictionary Json} (h : readObjectFile purpose files path = .ok fields) : fields.Distinct := by
  unfold readObjectFile at h
  split at h
  · cases h
  · cases h
  · split at h
    · cases h
    · rename_i bytes hbytes
      split at h
      · rename_i object hobject
        cases h
        unfold ofTextFile at hobject
        split at hobject
        · cases hobject
        · exact distinct_of_ofChars hobject
      · cases h
      · cases h
      · cases h

end PageTemplate.Json
