/-
Fields that stand for one variable: those whose text is the variable's name
between two dollars (`awaited?_eq_some_iff`). Such a field waits in the slots,
and any other that can be read has a value and leaves the slots as they are
(`extract_ok`). Of exclusive fields one is read so, and the others cannot be
read at all (`extractExclusive_ok`).
-/
import PageTemplate.Field.Extraction
import PageTemplate.Proofs.Result

namespace PageTemplate

namespace Segments

/-- A reference is read up to its closing dollar; without a name it is a literal dollar. -/
theorem scan_reference (rest : List Char) : ∀ (name before : List Char), '$' ∉ name →
    scan (some before) (name ++ '$' :: rest) =
      (scan none rest).map
        (if before.reverse ++ name = [] then push '$' else reference (before.reverse ++ name))
  | [], before, _ => by
    cases before <;> simp [scan]
  | c :: name, before, h => by
    simp only [List.mem_cons, not_or] at h
    rw [List.cons_append, scan, if_neg (Ne.symm h.1), scan_reference rest name (c :: before) h.2]
    simp

/-- An open reference that can be read is closed. -/
theorem eq_of_scan_some {s : Segments} : ∀ {cs before : List Char}, scan (some before) cs = some s →
    ∃ name rest, cs = name ++ '$' :: rest ∧ '$' ∉ name
  | [], before, h => by simp [scan] at h
  | c :: cs, before, h => by
    by_cases hc : c = '$'
    · exact ⟨[], cs, by rw [hc]; rfl, by simp⟩
    · rw [scan, if_neg hc] at h
      obtain ⟨name, rest, rfl, hname⟩ := eq_of_scan_some h
      exact ⟨c :: name, rest, rfl, by simp [hname, Ne.symm hc]⟩

/-- A text that is read as a single empty literal is empty. -/
theorem eq_nil_of_scan {cs : List Char} (h : scan none cs = some ⟨[], []⟩) : cs = [] := by
  cases cs with
  | nil => rfl
  | cons c cs =>
    rw [scan] at h
    split at h
    · obtain ⟨name, rest, rfl, hname⟩ := eq_of_scan_some h
      rw [scan_reference rest name [] hname] at h
      obtain ⟨s, -, hs⟩ := Option.map_eq_some_iff.1 h
      split at hs <;> simp [push, reference] at hs
    · obtain ⟨s, -, hs⟩ := Option.map_eq_some_iff.1 h
      simp [push] at hs

/-- A text of one variable and nothing else is the variable's name between dollars. -/
theorem scan_single_iff {cs name : List Char} :
    scan none cs = some ⟨[], [(name, [])]⟩ ↔ name ≠ [] ∧ '$' ∉ name ∧ cs = '$' :: name ++ ['$'] := by
  constructor
  · intro h
    cases cs with
    | nil => simp [scan] at h
    | cons c cs =>
      rw [scan] at h
      split at h
      · rename_i hc
        obtain ⟨name', rest, rfl, hname⟩ := eq_of_scan_some h
        rw [scan_reference rest name' [] hname] at h
        obtain ⟨s, hrest, hs⟩ := Option.map_eq_some_iff.1 h
        split at hs
        · simp [push] at hs
        · rename_i hne
          simp only [reference, List.reverse_nil, List.nil_append, Segments.mk.injEq, true_and,
            List.cons.injEq, Prod.mk.injEq] at hs hne
          obtain ⟨⟨rfl, hfirst⟩, hmore⟩ := hs
          obtain rfl := eq_nil_of_scan (hrest.trans (congrArg some (by cases s; simp_all)))
          exact ⟨hne, hname, by rw [hc]; rfl⟩
      · obtain ⟨s, -, hs⟩ := Option.map_eq_some_iff.1 h
        simp [push] at hs
  · rintro ⟨hne, hname, rfl⟩
    rw [List.cons_append, scan, if_pos rfl, scan_reference [] name [] hname]
    simp [scan, hne, reference]

end Segments

/-- Whether a text can be the name of a variable: it is not empty and has no dollar in it. -/
def IsVariable (v : String) : Prop := v ≠ "" ∧ '$' ∉ v.toList

/-- The field text that stands for a variable. -/
def variableText (v : String) : String := "$" ++ v ++ "$"

/-- The variable that a field text stands for. -/
def awaited? (text : String) : Option String :=
  match Segments.parse text with
  | .ok segments => segments.single?
  | .error _ => none

theorem Segments.single?_eq_some_iff {s : Segments} {v : String} :
    s.single? = some v ↔ s = ⟨[], [(v.toList, [])]⟩ := by
  unfold single?
  split
  · rename_i first rest name hfirst hrest
    cases s
    simp only at hfirst hrest
    subst hfirst hrest
    simp [← String.toList_inj]
  · rename_i hnot
    simp only [reduceCtorEq, false_iff]
    rintro rfl
    exact hnot _ rfl rfl

theorem awaited?_eq_some_iff {text v : String} :
    awaited? text = some v ↔ IsVariable v ∧ text = variableText v := by
  have htext : text = variableText v ↔ text.toList = '$' :: v.toList ++ ['$'] := by
    rw [← String.toList_inj, variableText, String.toList_append, String.toList_append]
    rfl
  have hempty : v = "" ↔ v.toList = [] := by rw [← String.toList_inj]; rfl
  rw [htext, IsVariable, ne_eq, hempty, and_assoc, ← Segments.scan_single_iff]
  unfold awaited? Segments.parse
  by_cases hne : text = ""
  · subst hne
    simp [Segments.scan]
  · rw [if_neg hne]
    cases Segments.scan none text.toList with
    | none => simp
    | some s => simp [Segments.single?_eq_some_iff]

/-! ## Extraction -/

namespace Candidate

variable {α : Type}

/-- A field that can be read waits for the variable it stands for, or has the value of its literal. -/
theorem extract_ok {c : Candidate α} {slots after : SlotMap} {value : Option α}
    (h : c.extract slots = .ok (after, value)) :
    (∃ v, awaited? c.text = some v ∧ after = slots.add v c.property ∧ value = none) ∨
      (awaited? c.text = none ∧ after = slots ∧
        ∃ literal, value = some literal ∧ c.read c.text = .ok literal) := by
  unfold extract at h
  unfold awaited?
  cases hparse : Segments.parse c.text with
  | error fault => rw [hparse] at h; cases h
  | ok segments =>
    rw [hparse] at h
    simp only at h ⊢
    by_cases hvars : segments.hasVariables = true
    · rw [if_pos hvars] at h
      cases hsingle : segments.single? with
      | none => rw [hsingle] at h; cases h
      | some v => rw [hsingle] at h; cases h; exact .inl ⟨v, rfl, rfl, rfl⟩
    · rw [if_neg hvars] at h
      obtain ⟨literal, hread, hpair⟩ := Except.map_ok_iff.1 h
      cases hpair
      have hsingle : segments.single? = none := by
        rw [Option.eq_none_iff_forall_ne_some]
        intro v hv
        rw [Segments.single?_eq_some_iff.1 hv] at hvars
        exact hvars rfl
      exact .inr ⟨hsingle, rfl, literal, rfl, hread⟩

/-- A field that stands for a variable can always be read. -/
theorem extract_of_awaited? {c : Candidate α} {v : String} (h : awaited? c.text = some v)
    (slots : SlotMap) : c.extract slots = .ok (slots.add v c.property, none) := by
  unfold awaited? at h
  unfold extract
  cases hparse : Segments.parse c.text with
  | error fault => rw [hparse] at h; cases h
  | ok segments =>
    rw [hparse] at h
    simp only at h ⊢
    have hvars : segments.hasVariables = true := by
      rw [Segments.single?_eq_some_iff.1 h]; rfl
    rw [if_pos hvars, h]

/-- A candidate that cannot be read. -/
def Unset (c : Candidate α) : Prop := ∃ fault, c.extract [] = .error fault

theorem Unset.awaited?_eq_none {c : Candidate α} (h : c.Unset) : awaited? c.text = none := by
  rw [Option.eq_none_iff_forall_ne_some]
  intro v hv
  obtain ⟨fault, hfault⟩ := h
  rw [extract_of_awaited? hv] at hfault
  cases hfault

theorem outcomes_nil {k : Nat} {cs : List (Candidate α)} (h : outcomes k cs = .ok []) :
    ∀ c ∈ cs, c.Unset := by
  induction cs generalizing k with
  | nil => simp
  | cons c rest ih =>
    rw [outcomes] at h
    split at h
    · obtain ⟨others, -, hnil⟩ := Except.map_ok_iff.1 h
      cases hnil
    · rename_i fault hfault
      split at h
      · exact List.forall_mem_cons.2 ⟨⟨fault, hfault⟩, ih h⟩
      · cases h

/-- If just one candidate can be read, all those before and behind it cannot. -/
theorem outcomes_single {k place : Nat} {cs : List (Candidate α)} {added : SlotMap} {value : Option α}
    (h : outcomes k cs = .ok [(place, added, value)]) :
    ∃ before c after, cs = before ++ c :: after ∧ place = k + before.length ∧
      c.extract [] = .ok (added, value) ∧ ∀ d ∈ before ++ after, d.Unset := by
  induction cs generalizing k with
  | nil => simp [outcomes] at h
  | cons c rest ih =>
    rw [outcomes] at h
    split at h
    · rename_i slots value' hextract
      obtain ⟨others, hothers, heq⟩ := Except.map_ok_iff.1 h
      cases heq
      exact ⟨[], c, rest, rfl, rfl, hextract, outcomes_nil hothers⟩
    · rename_i fault hfault
      split at h
      · obtain ⟨before, d, after, rfl, rfl, hd, hunset⟩ := ih h
        refine ⟨c :: before, d, after, rfl, ?_, hd, ?_⟩
        · simp; omega
        · exact List.forall_mem_cons.2 ⟨⟨fault, hfault⟩, hunset⟩
      · cases h

/-- What a field adds to the slots does not depend on them. -/
theorem extract_eq_merge (c : Candidate α) (slots : SlotMap) :
    c.extract slots = (c.extract []).map fun (added, value) => (slots.merge added, value) := by
  unfold extract
  cases Segments.parse c.text with
  | error fault => rfl
  | ok segments =>
    by_cases hvars : segments.hasVariables = true
    · cases hsingle : segments.single? with
      | none => simp [hvars, hsingle, Except.map]
      | some v =>
        simp [hvars, hsingle, Except.map, SlotMap.add, SlotMap.merge, Dictionary.get?, Dictionary.insert]
    · cases c.read c.text with
      | error fault => simp [hvars, Except.map]
      | ok literal => simp [hvars, Except.map, SlotMap.merge]

/-- Of exclusive fields one is read, and the others cannot be. -/
theorem extractExclusive_ok {cs : List (Candidate α)} {slots after : SlotMap} {value : Option α}
    {place : Nat} (h : extractExclusive cs slots = .ok (after, value, place)) :
    ∃ before c others, cs = before ++ c :: others ∧ place = before.length ∧
      c.extract slots = .ok (after, value) ∧ ∀ d ∈ before ++ others, d.Unset := by
  unfold extractExclusive at h
  split at h
  · cases h
  · rename_i place' added value' houtcomes
    cases h
    obtain ⟨before, c, others, rfl, hplace, hextract, hunset⟩ := outcomes_single houtcomes
    exact ⟨before, c, others, rfl, by omega, by rw [extract_eq_merge, hextract]; rfl, hunset⟩
  · cases h

end Candidate

end PageTemplate
