/-
Exclusive fields. Each candidate is read on its own, and the slots are changed
only once the one that is set is known. That comes to the same as reading this
one alone (`extractExclusive_ok_iff`), so an exclusive field is what the only
readable candidate would be as a plain one (`extractExclusive_agrees`).
-/
import PageTemplate.Fault.Basic
import PageTemplate.Proofs.Dictionary
import PageTemplate.Proofs.Field.Escaping

namespace PageTemplate

namespace Candidate

variable {α : Type} {cs : List (Candidate α)} {slots after : SlotMap} {value : Option α} {place : Nat}

/-- Whether a candidate only fails by not being set: its text is malformed, composite or no literal of
its type. -/
def Settled (c : Candidate α) : Prop :=
  FailsOnly (fun fault => fault.kind ∈ [.parse, .composite, .coercion]) (c.extract [])

/-- Whether the candidate at a place can be read. -/
def SetAt (cs : List (Candidate α)) (slots : SlotMap) (i : Nat) : Prop :=
  ∃ c result, cs[i]? = some c ∧ c.extract slots = .ok result

/-! ## One candidate -/

theorem isUnset_of_kind {fault : FieldFault} (h : fault.kind ∈ [.parse, .composite, .coercion]) :
    isUnset fault = true := by
  cases fault with
  | tooManyDigits count => simp [FieldFault.kind] at h
  | _ => rfl

theorem unset_iff {c : Candidate α} (slots : SlotMap) :
    c.Unset ↔ ¬ ∃ result, c.extract slots = .ok result := by
  rw [Unset, extract_eq_merge c slots]
  cases c.extract [] <;> simp [Except.map]

theorem setAt_iff {i : Nat} {c : Candidate α} (h : cs[i]? = some c) : SetAt cs slots i ↔ ¬ c.Unset := by
  rw [unset_iff slots, not_not, SetAt, h]
  simp

/-! ## All of them -/

/-- Candidates that are not set leave nothing. -/
theorem outcomes_append {before : List (Candidate α)} (hsettled : ∀ c ∈ before, c.Settled)
    (hunset : ∀ c ∈ before, c.Unset) (k : Nat) (rest : List (Candidate α)) :
    outcomes k (before ++ rest) = outcomes (k + before.length) rest := by
  induction before generalizing k with
  | nil => rfl
  | cons c before ih =>
    obtain ⟨hfirst, hothers⟩ := List.forall_mem_cons.1 hsettled
    obtain ⟨⟨fault, hfault⟩, hothers'⟩ := List.forall_mem_cons.1 hunset
    have hkind : isUnset fault = true := isUnset_of_kind (hfirst fault hfault)
    rw [List.cons_append, outcomes, hfault]
    simp only [hkind, if_true]
    rw [ih hothers hothers', List.length_cons]
    congr 1
    omega

/-- Candidates that only fail by not being set are all looked at. -/
theorem outcomes_ok (hsettled : ∀ c ∈ cs, c.Settled) (k : Nat) : ∃ found, outcomes k cs = .ok found := by
  induction cs generalizing k with
  | nil => exact ⟨[], rfl⟩
  | cons c cs ih =>
    obtain ⟨hfirst, hothers⟩ := List.forall_mem_cons.1 hsettled
    obtain ⟨found, hfound⟩ := ih hothers (k + 1)
    cases hc : c.extract [] with
    | ok result => exact ⟨(k, result.1, result.2) :: found, by rw [outcomes, hc, hfound]; rfl⟩
    | error fault =>
      refine ⟨found, ?_⟩
      rw [outcomes, hc]
      simp only [isUnset_of_kind (hfirst fault hc), if_true, hfound]

theorem eq_append_of_getElem? {β : Type} {bs : List β} {b : β} {i : Nat} (h : bs[i]? = some b) :
    bs = bs.take i ++ b :: bs.drop (i + 1) := by
  obtain ⟨hlt, rfl⟩ := List.getElem?_eq_some_iff.1 h
  rw [← List.drop_eq_getElem_cons hlt, List.take_append_drop]

/-- An exclusive field is read if one candidate is, in just the same way, and no other can be. -/
theorem extractExclusive_ok_iff (hsettled : ∀ c ∈ cs, c.Settled) :
    extractExclusive cs slots = .ok (after, value, place) ↔
      ∃ c, cs[place]? = some c ∧ c.extract slots = .ok (after, value) ∧
        ∀ d ∈ cs.eraseIdx place, d.Unset := by
  constructor
  · intro h
    obtain ⟨before, c, others, rfl, rfl, hextract, hunset⟩ := extractExclusive_ok h
    refine ⟨c, by simp, hextract, ?_⟩
    rw [List.eraseIdx_append_of_length_le (Nat.le_refl _), Nat.sub_self]
    exact hunset
  · rintro ⟨c, hc, hextract, hunset⟩
    have hlength : (cs.take place).length = place :=
      List.length_take_of_le (Nat.le_of_lt (List.getElem?_eq_some_iff.1 hc).1)
    rw [List.eraseIdx_eq_take_drop_succ, List.forall_mem_append] at hunset
    have hbefore := outcomes_append (fun d hd => hsettled d (List.mem_of_mem_take hd)) hunset.1 0
      (c :: cs.drop (place + 1))
    have hothers := outcomes_append (fun d hd => hsettled d (List.mem_of_mem_drop hd)) hunset.2
      (place + 1) []
    rw [← eq_append_of_getElem? hc, Nat.zero_add, hlength] at hbefore
    rw [List.append_nil, outcomes] at hothers
    rw [extract_eq_merge, Except.map_ok_iff] at hextract
    obtain ⟨⟨added, value'⟩, hadded, hresult⟩ := hextract
    cases hresult
    rw [extractExclusive, hbefore, outcomes, hadded]
    simp only [hothers, Except.map]

theorem extractExclusive_eq_ok_or (hsettled : ∀ c ∈ cs, c.Settled) :
    (∃ result, extractExclusive cs slots = .ok result) ∨
      extractExclusive cs slots = .error (.notExclusive (cs.map (·.property))) := by
  obtain ⟨found, hfound⟩ := outcomes_ok hsettled 0
  rw [extractExclusive, hfound]
  split
  · rename_i h
    cases h
  · exact .inl ⟨_, rfl⟩
  · exact .inr rfl

/-! ## The one that is set -/

theorem forall_unset_iff (hset : SetAt cs slots place) :
    (∀ d ∈ cs.eraseIdx place, d.Unset) ↔ ∀ i, SetAt cs slots i ↔ i = place := by
  simp only [List.mem_eraseIdx_iff_getElem?]
  constructor
  · intro hunset i
    refine ⟨fun hi => ?_, fun hi => hi ▸ hset⟩
    obtain ⟨d, -, hd, -⟩ := id hi
    by_contra hne
    exact (setAt_iff hd).1 hi (hunset d ⟨i, hne, hd⟩)
  · rintro h d ⟨i, hne, hd⟩
    by_contra hd'
    exact hne ((h i).1 ((setAt_iff hd).2 hd'))

theorem extractExclusive_ok_iff_setAt (hsettled : ∀ c ∈ cs, c.Settled) :
    extractExclusive cs slots = .ok (after, value, place) ↔
      (∀ i, SetAt cs slots i ↔ i = place) ∧
        ∃ c, cs[place]? = some c ∧ c.extract slots = .ok (after, value) := by
  rw [extractExclusive_ok_iff hsettled]
  constructor
  · rintro ⟨c, hc, hextract, hunset⟩
    exact ⟨(forall_unset_iff ⟨c, _, hc, hextract⟩).1 hunset, c, hc, hextract⟩
  · rintro ⟨honly, c, hc, hextract⟩
    exact ⟨c, hc, hextract, (forall_unset_iff ⟨c, _, hc, hextract⟩).2 honly⟩

/-- What reading a candidate does to the slots: nothing if it has a value; if a variable stands there, its
property comes last of those that wait for the variable, and nothing else changes. -/
def Leaves (c : Candidate α) (slots after : SlotMap) (value : Option α) : Prop :=
  (∃ literal, value = some literal ∧ after = slots) ∨
    ∃ v, IsVariable v ∧ c.text = variableText v ∧ value = none ∧
      after.get? v = some ((slots.get? v).getD [] ++ [c.property]) ∧
      (∀ w ≠ v, after.get? w = slots.get? w) ∧
      after.keys = if v ∈ slots.keys then slots.keys else slots.keys ++ [v]

theorem leaves_of_extract {c : Candidate α} (h : c.extract slots = .ok (after, value)) :
    c.Leaves slots after value := by
  obtain ⟨v, hv, rfl, rfl⟩ | ⟨-, rfl, literal, rfl, -⟩ := extract_ok h
  · obtain ⟨hvariable, htext⟩ := awaited?_eq_some_iff.1 hv
    refine .inr ⟨v, hvariable, htext, rfl, ?_, fun w hw => ?_, ?_⟩
    · exact Dictionary.get?_insert_self _ _ _
    · exact Dictionary.get?_insert_other _ _ hw
    · exact Dictionary.keys_insert _ _ _
  · exact .inl ⟨literal, rfl, rfl⟩

/-- An exclusive field of candidates that only fail by not being set is read just if one of them can be
read and no other, and then it is what this one is as a plain field, with the same slots behind it. If none
or several can be read, it is refused with the names of all candidates, in order. -/
theorem extractExclusive_agrees (cs : List (Candidate α)) (slots : SlotMap)
    (hsettled : ∀ c ∈ cs, c.Settled) :
    (∀ after value place, extractExclusive cs slots = .ok (after, value, place) ↔
      (∀ i, SetAt cs slots i ↔ i = place) ∧
        ∃ c, cs[place]? = some c ∧ c.extract slots = .ok (after, value)) ∧
    (∀ after value place, extractExclusive cs slots = .ok (after, value, place) →
      ∃ c, cs[place]? = some c ∧ c.Leaves slots after value) ∧
    ((¬ ∃! i, SetAt cs slots i) ↔
      extractExclusive cs slots = .error (.notExclusive (cs.map (·.property)))) := by
  refine ⟨fun after value place => extractExclusive_ok_iff_setAt hsettled, fun after value place h => ?_,
    fun hnone => ?_, fun herror honly => ?_⟩
  · obtain ⟨-, c, hc, hextract⟩ := (extractExclusive_ok_iff_setAt hsettled).1 h
    exact ⟨c, hc, leaves_of_extract hextract⟩
  · refine (extractExclusive_eq_ok_or hsettled).resolve_left ?_
    rintro ⟨⟨after, value, place⟩, h⟩
    have honly := ((extractExclusive_ok_iff_setAt hsettled).1 h).1
    exact hnone ⟨place, (honly place).2 rfl, fun i hi => (honly i).1 hi⟩
  · obtain ⟨place, hset, hunique⟩ := honly
    obtain ⟨c, ⟨after, value⟩, hc, hextract⟩ := id hset
    have h := (extractExclusive_ok_iff_setAt hsettled).2
      ⟨fun i => ⟨hunique i, fun hi => hi ▸ hset⟩, c, hc, hextract⟩
    rw [h] at herror
    cases herror

/-- A font whose name waits for a variable and whose file is not given. -/
def fontCandidates : List (Candidate Literal) := [ofText "fontName" "$f$", ofText "fontFile" ""]

theorem extractExclusive_agrees_font :
    (∀ c ∈ fontCandidates, c.Settled) ∧
      extractExclusive fontCandidates [("f", ["content"]), ("x", ["startX"])] =
        .ok ([("f", ["content", "fontName"]), ("x", ["startX"])], none, 0) ∧
      ∀ i, SetAt fontCandidates [("f", ["content"]), ("x", ["startX"])] i ↔ i = 0 := by
  have hsettled : ∀ c ∈ fontCandidates, c.Settled := by
    intro c hc fault hfault
    rcases List.mem_pair.1 hc with rfl | rfl <;> cases hfault
    decide
  have hextract : extractExclusive fontCandidates [("f", ["content"]), ("x", ["startX"])] =
      .ok ([("f", ["content", "fontName"]), ("x", ["startX"])], none, 0) := rfl
  exact ⟨hsettled, hextract, (((extractExclusive_agrees _ _ hsettled).1 _ _ _).1 hextract).1⟩

end Candidate

end PageTemplate
