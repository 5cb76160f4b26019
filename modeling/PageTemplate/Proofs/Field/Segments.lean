/-
Field texts and their segments are two writings of one thing
(`parse_reconstruct_inverse`): a text that can be taken apart is what its
segments are written as, and segments whose variables have proper names are
what the written text is taken apart into.

Dollars are paired from the left, so the only runs of dollars that could be
paired in two ways are those where a literal meets a reference. `scan_escape`
and `scan_reference` say that the pairing ends just where the literal and the
reference do.
-/
import PageTemplate.Proofs.Field.Variable

namespace PageTemplate.Segments

/-- Whether every variable has a name that a reference can hold. -/
def Named (s : Segments) : Prop := ∀ entry ∈ s.rest, entry.1 ≠ [] ∧ '$' ∉ entry.1

/-- Puts a literal before the first one. -/
def prepend (literal : List Char) (s : Segments) : Segments := { s with first := literal ++ s.first }

theorem escape_cons (c : Char) (literal : List Char) :
    escape (c :: literal) = (if c = '$' then ['$', '$'] else [c]) ++ escape literal :=
  List.flatMap_cons

/-! ## What is written -/

theorem reconstructed_push (c : Char) (s : Segments) :
    (push c s).reconstructed = (if c = '$' then ['$', '$'] else [c]) ++ s.reconstructed := by
  rw [reconstructed, push, escape_cons, List.append_assoc, reconstructed]

theorem reconstructed_reference (name : List Char) (s : Segments) :
    (reference name s).reconstructed = '$' :: name ++ '$' :: s.reconstructed := by
  simp [reconstructed, reference, escape]

/-! ## Reading what is written -/

theorem scan_dollars (rest : List Char) : scan none ('$' :: '$' :: rest) = (scan none rest).map (push '$') :=
  rfl

/-- An escaped literal is read to its end, whatever stands behind it. -/
theorem scan_escape (literal rest : List Char) :
    scan none (escape literal ++ rest) = (scan none rest).map (prepend literal) := by
  induction literal with
  | nil =>
    have hid : prepend [] = id := rfl
    rw [hid, Option.map_id]
    rfl
  | cons c literal ih =>
    have hpush : push c ∘ prepend literal = prepend (c :: literal) := rfl
    rw [escape_cons, List.append_assoc, ← hpush, ← Option.map_map, ← ih]
    by_cases hc : c = '$'
    · subst hc
      exact scan_dollars _
    · rw [if_neg hc, List.singleton_append, scan, if_neg hc]

/-- Segments are read from what they are written as. -/
theorem scan_reconstructed (first : List Char) (rest : List (List Char × List Char))
    (h : Named ⟨first, rest⟩) : scan none (reconstructed ⟨first, rest⟩) = some ⟨first, rest⟩ := by
  induction rest generalizing first with
  | nil =>
    rw [reconstructed, List.flatMap_nil, scan_escape]
    simp [scan, prepend]
  | cons entry rest ih =>
    obtain ⟨name, literal⟩ := entry
    obtain ⟨⟨hne, hname⟩, hrest⟩ := List.forall_mem_cons.1 h
    have hsplit : reconstructed ⟨first, (name, literal) :: rest⟩ =
        escape first ++ '$' :: (name ++ '$' :: reconstructed ⟨literal, rest⟩) := by
      simp [reconstructed]
    rw [hsplit, scan_escape, scan, if_pos rfl, scan_reference _ name [] hname, ih literal hrest]
    simp [hne, reference, prepend]

/-! ## Writing what is read -/

/-- What is read is named properly and is written as what it was read from. -/
theorem reconstructed_of_scan {cs : List Char} {s : Segments} (h : scan none cs = some s) :
    s.Named ∧ s.reconstructed = cs := by
  -- A reference takes several characters at once, so the induction is on how many are left.
  induction hlength : cs.length using Nat.strongRecOn generalizing cs s with
  | ind length ih =>
  subst hlength
  cases cs with
  | nil =>
    cases h
    exact ⟨by simp [Named], rfl⟩
  | cons c cs =>
    rw [scan] at h
    split at h
    · rename_i hc
      obtain ⟨name, rest, rfl, hname⟩ := eq_of_scan_some h
      rw [scan_reference rest name [] hname] at h
      obtain ⟨s, hs, rfl⟩ := Option.map_eq_some_iff.1 h
      obtain ⟨hnamed, hrest⟩ := ih rest.length (by simp; omega) hs rfl
      rw [List.reverse_nil, List.nil_append, hc]
      split
      · rename_i hempty
        refine ⟨hnamed, ?_⟩
        rw [reconstructed_push, hrest, hempty]
        rfl
      · rename_i hne
        refine ⟨List.forall_mem_cons.2 ⟨⟨hne, hname⟩, hnamed⟩, ?_⟩
        rw [reconstructed_reference, hrest]
        rfl
    · rename_i hc
      obtain ⟨s, hs, rfl⟩ := Option.map_eq_some_iff.1 h
      obtain ⟨hnamed, hrest⟩ := ih cs.length (by simp) hs rfl
      refine ⟨hnamed, ?_⟩
      rw [reconstructed_push, hrest, if_neg hc]
      rfl

theorem scan_eq_some_iff {cs : List Char} {s : Segments} :
    scan none cs = some s ↔ s.Named ∧ s.reconstructed = cs := by
  refine ⟨reconstructed_of_scan, ?_⟩
  rintro ⟨hnamed, rfl⟩
  exact scan_reconstructed s.first s.rest hnamed

/-! ## Texts -/

theorem named_iff {s : Segments} : s.Named ↔ ∀ name ∈ s.names, IsVariable name := by
  rw [names, List.forall_mem_map]
  refine forall₂_congr fun entry _ => ?_
  change _ ↔ String.ofList entry.1 ≠ "" ∧ '$' ∉ (String.ofList entry.1).toList
  rw [String.toList_ofList, ne_eq, ne_eq, ← String.toList_inj, String.toList_ofList]
  rfl

theorem reconstruct_eq_iff {s : Segments} {text : String} :
    s.reconstruct = text ↔ s.reconstructed = text.toList := by
  rw [reconstruct, ← String.toList_inj, String.toList_ofList]

/-- Only the empty text is written for a single empty literal. -/
theorem reconstruct_eq_empty_iff {s : Segments} (h : s.Named) : s.reconstruct = "" ↔ s = ⟨[], []⟩ := by
  rw [reconstruct_eq_iff]
  constructor
  · intro hnil
    have hread := scan_eq_some_iff.2 ⟨h, hnil⟩
    exact (Option.some.inj hread).symm
  · rintro rfl
    rfl

theorem parse_eq_ok_iff {text : String} {s : Segments} :
    parse text = .ok s ↔ text ≠ "" ∧ s.Named ∧ s.reconstruct = text := by
  rw [reconstruct_eq_iff, ← scan_eq_some_iff, parse]
  by_cases htext : text = ""
  · simp [htext]
  · rw [if_neg htext]
    cases scan none text.toList <;> simp [htext]

/-! ## Literals and variables -/

theorem map_ofList_eq_iff {α : Type} {f : α → List Char} {items : List α} {texts : List String} :
    (items.map fun item => String.ofList (f item)) = texts ↔ items.map f = texts.map String.toList := by
  constructor
  · rintro rfl
    simp
  · intro h
    have hmap : (items.map fun item => String.ofList (f item)) = (items.map f).map String.ofList := by simp
    rw [hmap, h]
    simp

theorem literals_names_iff {s : Segments} {first : String} {others names : List String}
    (h : others.length = names.length) :
    s.literals = first :: others ∧ s.names = names ↔
      s = ⟨first.toList, (names.map String.toList).zip (others.map String.toList)⟩ := by
  have hfirst : String.ofList s.first = first ↔ s.first = first.toList := by
    rw [← String.toList_inj, String.toList_ofList]
  have hliterals : s.literals = String.ofList s.first :: s.rest.map fun entry => String.ofList entry.2 := rfl
  have hothers : s.rest.map (fun entry => String.ofList entry.2) = others ↔
      s.rest.map Prod.snd = others.map String.toList := map_ofList_eq_iff
  have hnames : s.names = names ↔ s.rest.map Prod.fst = names.map String.toList := map_ofList_eq_iff
  rw [hliterals, List.cons.injEq, hfirst, hothers, hnames]
  constructor
  · rintro ⟨⟨hf, ho⟩, hn⟩
    obtain ⟨first', rest⟩ := s
    rw [← hf, ← List.zip_of_prod hn ho]
  · rintro rfl
    refine ⟨⟨rfl, List.map_snd_zip ?_⟩, List.map_fst_zip ?_⟩ <;> simp [h]

/-- Some literals with one variable between each two make up segments in just one way. -/
theorem existsUnique_segments {literals names : List String} (h : literals.length = names.length + 1) :
    ∃! s : Segments, s.literals = literals ∧ s.names = names := by
  obtain ⟨first, others, rfl⟩ := List.exists_cons_of_length_eq_add_one h
  have hlength : others.length = names.length := by simpa using h
  exact ⟨_, (literals_names_iff hlength).2 rfl, fun s hs => (literals_names_iff hlength).1 hs⟩

/-- Taking apart and writing undo each other. A text that can be taken apart is written from its
segments again, and these are literals with one properly named variable between each two. Any such
literals and variables make up segments, and these are what their text is taken apart into; only the
single empty literal has no text of its own. -/
theorem parse_reconstruct_inverse :
    (∀ text s, parse text = .ok s →
      s.reconstruct = text ∧ s.literals.length = s.names.length + 1 ∧ ∀ name ∈ s.names, IsVariable name) ∧
    ∀ literals names : List String, literals.length = names.length + 1 →
      (∀ name ∈ names, IsVariable name) → (literals, names) ≠ ([""], []) →
        (∃! s : Segments, s.literals = literals ∧ s.names = names) ∧
        ∀ s : Segments, s.literals = literals → s.names = names → parse s.reconstruct = .ok s := by
  constructor
  · intro text s h
    obtain ⟨-, hnamed, hwritten⟩ := parse_eq_ok_iff.1 h
    exact ⟨hwritten, by simp [literals, names], named_iff.1 hnamed⟩
  · intro literals names hlength hnames hne
    refine ⟨existsUnique_segments hlength, ?_⟩
    rintro s rfl rfl
    have hnamed := named_iff.2 hnames
    refine parse_eq_ok_iff.2 ⟨fun hempty => hne ?_, hnamed, rfl⟩
    obtain rfl := (reconstruct_eq_empty_iff hnamed).1 hempty
    rfl

/-- A literal that ends in a dollar, two references side by side, and a literal of dollars. -/
theorem parse_reconstruct_inverse_dollars :
    parse "a$$$x$$y$$$$$" = .ok ⟨['a', '$'], [(['x'], []), (['y'], ['$', '$'])]⟩ ∧
      reconstruct ⟨['a', '$'], [(['x'], []), (['y'], ['$', '$'])]⟩ = "a$$$x$$y$$$$$" ∧
      ∃! s : Segments, s.literals = ["a$", "", "$$"] ∧ s.names = ["x", "y"] := by
  have hvariables : ∀ name ∈ ["x", "y"], IsVariable name := by
    simp [IsVariable]
  obtain ⟨hunique, hread⟩ := parse_reconstruct_inverse.2 ["a$", "", "$$"] ["x", "y"] rfl hvariables (by simp)
  have hparse := hread ⟨['a', '$'], [(['x'], []), (['y'], ['$', '$'])]⟩ rfl rfl
  exact ⟨hparse, (parse_reconstruct_inverse.1 _ _ hparse).1, hunique⟩

end PageTemplate.Segments
