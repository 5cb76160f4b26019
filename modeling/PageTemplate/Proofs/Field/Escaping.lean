/-
Literals written as field texts. A literal is written with its dollars doubled
(`literalText`), and the texts that are taken apart into one literal and no
variables are those that are written so (`parse_literal_iff`).

A field of type text does not take the literal, though. It takes the text as it
stands, so its dollars stay doubled (`extract_text_iff`), and only a literal
without dollars is taken as it was meant (`literalText_eq_self_iff`).
-/
import PageTemplate.Proofs.Field.Segments

namespace PageTemplate

namespace Segments

variable {t text : String}

/-- The text of a literal, with its dollars doubled. -/
def literalText (t : String) : String := reconstruct ⟨t.toList, []⟩

theorem toList_literalText (t : String) : (literalText t).toList = escape t.toList := by
  rw [literalText, reconstruct, String.toList_ofList, reconstructed, List.flatMap_nil, List.append_nil]

theorem length_escape (literal : List Char) : (escape literal).length = literal.length + literal.count '$' := by
  induction literal with
  | nil => rfl
  | cons c literal ih =>
    rw [escape_cons, List.length_append, ih, List.length_cons, List.count_cons]
    by_cases hc : c = '$'
    · simp [hc]
      omega
    · simp [hc]
      omega

theorem escape_of_not_mem {literal : List Char} (h : '$' ∉ literal) : escape literal = literal := by
  induction literal with
  | nil => rfl
  | cons c literal ih =>
    simp only [List.mem_cons, not_or] at h
    obtain ⟨hc, hrest⟩ := h
    rw [escape_cons, if_neg (Ne.symm hc), ih hrest]
    rfl

/-- Doubling its dollars keeps only a text without any. -/
theorem literalText_eq_self_iff : literalText t = t ↔ '$' ∉ t.toList := by
  rw [← String.toList_inj, toList_literalText]
  refine ⟨fun h => ?_, escape_of_not_mem⟩
  have hlength := length_escape t.toList
  rw [h] at hlength
  exact List.count_eq_zero.1 (by omega)

theorem literalText_eq_empty_iff : literalText t = "" ↔ t = "" := by
  rw [literalText, reconstruct_eq_empty_iff (by simp [Named]), Segments.mk.injEq]
  simp

/-- A literal is taken apart into itself. -/
theorem parse_literalText (h : t ≠ "") : parse (literalText t) = .ok ⟨t.toList, []⟩ :=
  parse_eq_ok_iff.2 ⟨mt literalText_eq_empty_iff.1 h, by simp [Named], rfl⟩

theorem single?_literal (literal : List Char) : single? ⟨literal, []⟩ = none := by
  cases literal <;> rfl

/-- The texts without variables are those of literals. -/
theorem parse_literal_iff : (∃ s, parse text = .ok s ∧ s.hasVariables = false) ↔ ∃ t ≠ "", text = literalText t := by
  constructor
  · rintro ⟨⟨first, rest⟩, hparse, hvariables⟩
    obtain ⟨hne, -, hwritten⟩ := parse_eq_ok_iff.1 hparse
    obtain rfl : rest = [] := by simpa [hasVariables] using hvariables
    have htext : literalText (String.ofList first) = text := by
      rw [literalText, String.toList_ofList]
      exact hwritten
    exact ⟨String.ofList first, fun hempty => hne (by rw [← htext, literalText_eq_empty_iff.2 hempty]), htext.symm⟩
  · rintro ⟨t, ht, rfl⟩
    exact ⟨_, parse_literalText ht, rfl⟩

end Segments

theorem awaited?_literalText {t : String} (h : t ≠ "") : awaited? (Segments.literalText t) = none := by
  rw [awaited?, Segments.parse_literalText h]
  exact Segments.single?_literal _

namespace Candidate

open Segments

/-- A field of type text. -/
def ofText (name text : String) : Candidate Literal := ⟨text, name, Literal.read .text name⟩

/-- A field of type text has the value that stands there, if that is the text of a literal, and lets nothing
wait. -/
theorem extract_text_iff {name text : String} {slots after : SlotMap} {value : Literal} :
    (ofText name text).extract slots = .ok (after, some value) ↔
      after = slots ∧ value = .text text ∧ ∃ t ≠ "", text = literalText t := by
  rw [← parse_literal_iff]
  have htext : (ofText name text).text = text := rfl
  unfold extract
  rw [htext]
  constructor
  · intro h
    split at h
    · cases h
    · rename_i segments hparse
      split at h
      · split at h <;> cases h
      · rename_i hvariables
        cases h
        exact ⟨rfl, rfl, segments, hparse, by simpa using hvariables⟩
  · rintro ⟨rfl, rfl, segments, hparse, hvariables⟩
    simp only [hparse, hvariables]
    rfl

theorem extract_literalText {t : String} (h : t ≠ "") (name : String) (slots : SlotMap) :
    (ofText name (literalText t)).extract slots = .ok (slots, some (.text (literalText t))) :=
  extract_text_iff.2 ⟨rfl, rfl, t, h, rfl⟩

end Candidate

end PageTemplate
