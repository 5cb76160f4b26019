/-
Field texts by their dollars. Dollars come in pairs, taken from the left, so a
text can be taken apart just if it is not empty and has an even number of them
(`scan_isSome_iff`). A pair is an escape if its dollars stand side by side and
a reference if not, so a text has no variables just if all its pairs are of the
first sort (`adjacent_reconstructed_iff`).
-/
import PageTemplate.Proofs.Field.Segments
import Mathlib.Algebra.Ring.Parity

namespace PageTemplate.Segments

/-! ## How many dollars -/

/-- A text is taken apart if its dollars are even in number; inside a reference one of them is still
missing. -/
theorem scan_isSome (cs : List Char) :
    ((scan none cs).isSome ↔ Even (cs.count '$')) ∧
      ∀ name, (scan (some name) cs).isSome ↔ ¬ Even (cs.count '$') := by
  -- A dollar opens or closes a reference, so each half needs the other for the rest of the text.
  induction cs with
  | nil => simp [scan]
  | cons c cs ih =>
    by_cases hc : c = '$'
    · subst hc
      rw [List.count_cons_self, Nat.even_add_one, not_not]
      refine ⟨ih.2 [], fun name => ?_⟩
      rw [scan, if_pos rfl, Option.isSome_map]
      exact ih.1
    · rw [List.count_cons_of_ne hc]
      refine ⟨?_, fun name => ?_⟩
      · rw [scan, if_neg hc, Option.isSome_map]
        exact ih.1
      · rw [scan, if_neg hc]
        exact ih.2 _

theorem scan_isSome_iff {cs : List Char} : (∃ s, scan none cs = some s) ↔ Even (cs.count '$') := by
  rw [← (scan_isSome cs).1, Option.isSome_iff_exists]

/-! ## Where they stand -/

/-- The places of the dollars in a text that begins at some place. -/
def dollars (start : Nat) (cs : List Char) : List Nat := cs.idxsOf '$' start

/-- Takes places in pairs, from the left. -/
def paired : List Nat → List (Nat × Nat)
  | i :: j :: rest => (i, j) :: paired rest
  | _ => []

/-- Whether the two dollars of each pair stand side by side. -/
def Adjacent (start : Nat) (cs : List Char) : Prop :=
  ∀ pair ∈ paired (dollars start cs), pair.2 = pair.1 + 1

theorem dollars_cons (start : Nat) (c : Char) (cs : List Char) :
    dollars start (c :: cs) = if c = '$' then start :: dollars (start + 1) cs else dollars (start + 1) cs := by
  simp [dollars, List.idxsOf]

theorem dollars_append_of_not_mem {name : List Char} (h : '$' ∉ name) (start : Nat) (rest : List Char) :
    dollars start (name ++ rest) = dollars (start + name.length) rest := by
  induction name generalizing start with
  | nil => rfl
  | cons c name ih =>
    simp only [List.mem_cons, not_or] at h
    rw [List.cons_append, dollars_cons, if_neg (Ne.symm h.1), ih h.2, List.length_cons]
    congr 1
    omega

theorem adjacent_cons {c : Char} (hc : c ≠ '$') (start : Nat) (rest : List Char) :
    Adjacent start (c :: rest) ↔ Adjacent (start + 1) rest := by
  unfold Adjacent
  rw [dollars_cons, if_neg hc]

theorem adjacent_escaped_dollar (start : Nat) (rest : List Char) :
    Adjacent start ('$' :: '$' :: rest) ↔ Adjacent (start + 2) rest := by
  unfold Adjacent
  rw [dollars_cons, dollars_cons, if_pos rfl, if_pos rfl, paired, List.forall_mem_cons]
  exact and_iff_right rfl

/-- The dollars of an escaped literal are paired with each other, whatever stands behind it. -/
theorem adjacent_escape_append (literal : List Char) (start : Nat) (rest : List Char) :
    Adjacent start (escape literal ++ rest) ↔ Adjacent (start + (escape literal).length) rest := by
  induction literal generalizing start with
  | nil => rfl
  | cons c literal ih =>
    rw [escape_cons, List.append_assoc, List.length_append, ← Nat.add_assoc]
    by_cases hc : c = '$'
    · rw [if_pos hc, ← ih]
      exact adjacent_escaped_dollar start _
    · rw [if_neg hc, ← ih]
      exact adjacent_cons hc start _

/-- The dollars of a reference are a pair with its name between them. -/
theorem not_adjacent_reference {name : List Char} (hname : name ≠ [] ∧ '$' ∉ name) (start : Nat)
    (rest : List Char) : ¬ Adjacent start ('$' :: name ++ '$' :: rest) := by
  intro h
  have hfirst := h (start, start + 1 + name.length) (by
    rw [List.cons_append, dollars_cons, if_pos rfl, dollars_append_of_not_mem hname.2, dollars_cons,
      if_pos rfl, paired]
    exact List.mem_cons_self)
  have hlength := List.length_pos_iff.2 hname.1
  simp only at hfirst
  omega

/-- Segments are written with escapes alone just if they have no variables. -/
theorem adjacent_reconstructed_iff {s : Segments} (h : s.Named) :
    Adjacent 0 s.reconstructed ↔ s.hasVariables = false := by
  rw [reconstructed, adjacent_escape_append]
  cases hrest : s.rest with
  | nil => simp [Adjacent, dollars, paired, hasVariables, hrest]
  | cons entry rest =>
    have hname := h entry (by rw [hrest]; exact List.mem_cons_self)
    simp only [List.flatMap_cons, List.append_assoc, List.cons_append, hasVariables, hrest,
      List.isEmpty_cons, Bool.not_false, Bool.true_eq_false, iff_false]
    exact not_adjacent_reference hname _ _

/-! ## Texts -/

theorem single?_eq_awaited? {text : String} {s : Segments} (h : parse text = .ok s) :
    s.single? = awaited? text := by
  rw [awaited?, h]

/-- What becomes of a text is decided by its dollars. The empty text is refused, and so is one with an odd
number of dollars; any other is taken apart. It has no variables just if all pairs of dollars, from the
left, stand side by side, and it is a single variable just if that variable's name stands between two
dollars. -/
theorem parse_by_dollars (text : String) :
    (text = "" → parse text = .error .empty ∧
      SegmentFault.empty.message = "could not parse empty property") ∧
    (Odd (text.toList.count '$') → parse text = .error (.unclosed text) ∧
      (SegmentFault.unclosed text).message = "unclosed named property in '" ++ text ++ "'") ∧
    (text ≠ "" → Even (text.toList.count '$') → ∃ s, parse text = .ok s ∧
      (s.hasVariables = false ↔ Adjacent 0 text.toList) ∧
      ∀ v, s.single? = some v ↔ (v ≠ "" ∧ '$' ∉ v.toList) ∧ text = "$" ++ v ++ "$") := by
  refine ⟨?_, ?_, ?_⟩
  · rintro rfl
    exact ⟨rfl, rfl⟩
  · intro hodd
    have heven := Nat.not_even_iff_odd.2 hodd
    have hne : text ≠ "" := by
      rintro rfl
      exact heven (by decide)
    have hscan : scan none text.toList = none := by
      rw [Option.eq_none_iff_forall_ne_some]
      exact fun s hs => heven (scan_isSome_iff.1 ⟨s, hs⟩)
    refine ⟨?_, rfl⟩
    rw [parse, if_neg hne, hscan]
  · intro hne heven
    obtain ⟨s, hs⟩ := scan_isSome_iff.2 heven
    have hparse : parse text = .ok s := by rw [parse, if_neg hne, hs]
    obtain ⟨hnamed, hwritten⟩ := reconstructed_of_scan hs
    refine ⟨s, hparse, ?_, fun v => ?_⟩
    · rw [← adjacent_reconstructed_iff hnamed, hwritten]
    · rw [single?_eq_awaited? hparse]
      exact awaited?_eq_some_iff

/-- An escape and then a reference. -/
theorem parse_by_dollars_mixed :
    Even ("$$$who$".toList.count '$') ∧
      ∃ s, parse "$$$who$" = .ok s ∧ s.hasVariables = true ∧ s.single? ≠ some "who" := by
  obtain ⟨s, hparse, hvariables, hsingle⟩ := (parse_by_dollars "$$$who$").2.2 (by decide) (by decide)
  refine ⟨by decide, s, hparse, ?_, fun h => ?_⟩
  · rw [← Bool.not_eq_false, hvariables]
    intro hadjacent
    cases hadjacent (2, 6) (by decide)
  · exact absurd ((hsingle "who").1 h).2 (by decide)

end PageTemplate.Segments
