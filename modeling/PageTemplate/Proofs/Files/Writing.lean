/-
Writing a file. Once a file has been put at the destination of a path, the path
leads to that file, and every other entry is what it was
(`FileTree.put_destination`). Both need that the folder of the destination is
there, which holds because following a path comes only to places that are there
(`FileTree.has_of_walk`). So a writing changes no entry but that of its
destination, and none at all when it is refused (`FileTree.write_frame`).
-/
import PageTemplate.Files.Tree
import Mathlib.Data.List.Infix

namespace PageTemplate.FileTree

variable {t : FileTree} {place dest found : Place} {bytes : List UInt8} {p : Path}

/-! ## Places that are there -/

/-- Whether there is something at a place. -/
def Has (t : FileTree) (place : Place) : Prop := (t.entryAt? place).isSome

theorem leadsOn_iff : t.leadsOn place ↔ place <+: t.workingFolder ∨ ∃ e ∈ t.entries, place <+: e.1 := by
  simp [leadsOn]

theorem has_iff : t.Has place ↔ t.leadsOn place := by
  unfold Has entryAt?
  cases hfind : t.listed? place with
  | some e =>
    have hlisted : e.1 = place := by simpa using List.find?_some hfind
    exact iff_of_true rfl (leadsOn_iff.2 (.inr ⟨e, List.mem_of_find?_eq_some hfind, hlisted ▸ List.prefix_rfl⟩))
  | none => by_cases hleads : t.leadsOn place <;> simp [hleads]

/-- Whatever leads to a place that is there is there. -/
theorem has_of_lead {lead : Place} (h : t.Has place) (hlead : lead <+: place) : t.Has lead := by
  rw [has_iff, leadsOn_iff] at h ⊢
  exact h.imp hlead.trans fun ⟨e, he, hplace⟩ => ⟨e, he, hlead.trans hplace⟩

theorem entryAt?_eq_of_has (h : t.Has place) : t.entryAt? place = some (t.entryOf place) := by
  obtain ⟨entry, hentry⟩ := Option.isSome_iff_exists.1 h
  rw [entryOf, hentry, Option.getD_some]

/-- A step that goes through goes through a folder, up to the folder above or down to an entry. -/
theorem step_ok_iff {part : String} :
    t.step place part = .ok found ↔ ∃ locks, t.entryOf place = .folder locks ∧ locks.passing = none ∧
      part.utf8ByteSize ≤ 255 ∧
        (part = ".." ∧ found = place.dropLast ∨ part ≠ ".." ∧ found = place ++ [part] ∧ t.Has found) := by
  constructor
  · intro h
    unfold step at h
    split at h
    · cases h
    rename_i locks hentry
    split at h
    · cases h
    rename_i hpassing
    split at h
    · cases h
    rename_i hshort
    refine ⟨locks, hentry, hpassing, Nat.not_lt.1 hshort, ?_⟩
    split at h
    · rename_i hup
      cases h
      exact .inl ⟨hup, rfl⟩
    · rename_i hdown
      split at h
      · rename_i entry hthere
        cases h
        exact .inr ⟨hdown, rfl, Option.isSome_of_eq_some hthere⟩
      · cases h
  · rintro ⟨locks, hentry, hpassing, hshort, hfound⟩
    simp only [step, hentry, hpassing, if_neg (Nat.not_lt.2 hshort)]
    obtain ⟨hup, rfl⟩ | ⟨hdown, rfl, hhas⟩ := hfound
    · rw [if_pos hup]
    · obtain ⟨entry, hthere⟩ := Option.isSome_iff_exists.1 hhas
      rw [if_neg hdown, hthere]

/-- A step leads on to something that is there. -/
theorem has_of_step {part : String} (h : t.Has place) (hstep : t.step place part = .ok found) : t.Has found := by
  obtain ⟨_, -, -, -, ⟨-, rfl⟩ | ⟨-, -, hfound⟩⟩ := step_ok_iff.1 hstep
  · exact has_of_lead h (List.dropLast_prefix place)
  · exact hfound

/-- Following a path comes to something that is there. -/
theorem has_of_walk {path : List String} (h : t.Has place) (hwalk : t.walk place path = .ok found) :
    t.Has found := by
  induction path generalizing place with
  | nil => cases hwalk; exact h
  | cons part path ih =>
    rw [walk] at hwalk
    split at hwalk
    · rename_i next hstep
      exact ih (has_of_step h hstep) hwalk
    · cases hwalk

theorem has_start (t : FileTree) (p : Path) : t.Has (t.start p) := by
  rw [has_iff, leadsOn_iff]
  unfold start
  split
  · exact .inl List.nil_prefix
  · exact .inl List.prefix_rfl

/-- A path that leads somewhere, or fails on the way, can be followed. -/
theorem find_eq_walk (h : ∀ fault, t.find p = .error fault → fault = .missing) (other : FileTree) :
    other.find p = other.walk (other.start p) p.parts := by
  unfold find at h ⊢
  split
  · rename_i hnul
    rw [if_pos hnul] at h
    cases h _ rfl
  · rename_i hnul
    rw [if_neg hnul] at h
    split
    · rename_i hlong
      rw [if_pos hlong] at h
      cases h _ rfl
    · rfl

theorem find_eq_walk_of_ok (h : t.find p = .ok found) (other : FileTree) :
    other.find p = other.walk (other.start p) p.parts :=
  find_eq_walk (fun fault he => by rw [h] at he; cases he) other

theorem find_eq_walk_of_missing (h : t.find p = .error .missing) (other : FileTree) :
    other.find p = other.walk (other.start p) p.parts :=
  find_eq_walk (fun fault he => by rw [h] at he; cases he; rfl) other

theorem has_of_find (h : t.find p = .ok found) : t.Has found := by
  rw [find_eq_walk_of_ok h t] at h
  exact has_of_walk (has_start t p) h

/-- A path is followed one part after the other. -/
theorem walk_concat (place : Place) (path : List String) (name : String) :
    t.walk place (path ++ [name]) =
      match t.walk place path with
      | .ok found => t.step found name
      | .error fault => .error fault := by
  induction path generalizing place with
  | nil =>
    change t.walk place [name] = t.step place name
    rw [walk]
    cases t.step place name <;> rfl
  | cons part path ih =>
    rw [List.cons_append, walk, walk]
    cases t.step place part with
    | error fault => rfl
    | ok next => exact ih next

/-! ## A file that is put somewhere -/

theorem entryAt?_put_self (t : FileTree) (dest : Place) (bytes : List UInt8) :
    (t.put dest bytes).entryAt? dest =
      some (.file bytes (((t.entryAt? dest).map FileEntry.locks).getD {})) := by
  simp [put, entryAt?, listed?]

/-- What leads to the new file led to its folder before. -/
theorem leadsOn_put_iff (hfolder : t.Has dest.dropLast) (hne : place ≠ dest) :
    (t.put dest bytes).leadsOn place ↔ t.leadsOn place := by
  simp only [leadsOn_iff, put, List.mem_cons, List.mem_filter, bne_iff_ne]
  constructor
  · rintro (hworking | ⟨e, rfl | ⟨he, -⟩, hlead⟩)
    · exact .inl hworking
    · by_cases hdest : dest = []
      · exact absurd (List.prefix_nil.1 (hdest ▸ hlead)) (hdest ▸ hne)
      · have hlead : place <+: dest.dropLast := by
          rw [← List.dropLast_concat_getLast hdest, List.prefix_concat_iff,
            List.dropLast_concat_getLast hdest] at hlead
          exact hlead.resolve_left hne
        exact leadsOn_iff.1 (has_iff.1 (has_of_lead hfolder hlead))
    · exact .inr ⟨e, he, hlead⟩
  · rintro (hworking | ⟨e, he, hlead⟩)
    · exact .inl hworking
    · by_cases hlisted : e.1 = dest
      · exact .inr ⟨_, .inl rfl, hlisted ▸ hlead⟩
      · exact .inr ⟨e, .inr ⟨he, hlisted⟩, hlead⟩

/-- Every entry but that of the file is what it was. -/
theorem entryAt?_put_other (hfolder : t.Has dest.dropLast) (hne : place ≠ dest) :
    (t.put dest bytes).entryAt? place = t.entryAt? place := by
  unfold entryAt?
  have hfind : (t.put dest bytes).listed? place = t.listed? place := by
    rw [listed?, listed?, put, List.find?_cons_of_neg (by simpa using Ne.symm hne), List.find?_filter]
    congr 1
    funext e
    by_cases he : e.1 = place <;> simp [he, hne]
  have hleads : (t.put dest bytes).leadsOn place = t.leadsOn place :=
    Bool.eq_iff_iff.2 (leadsOn_put_iff hfolder hne)
  rw [hfind, hleads]

section Put

variable (hfolder : t.Has dest.dropLast) (hdest : ∀ locks, t.entryAt? dest ≠ some (.folder locks))
include hfolder

theorem has_put (h : t.Has place) : (t.put dest bytes).Has place := by
  by_cases he : place = dest
  · rw [he, Has, entryAt?_put_self]
    rfl
  · rwa [Has, entryAt?_put_other hfolder he]

include hdest

/-- Where no folder has to make way, folders stay what they are. -/
theorem entryOf_put (h : t.Has place) {locks : Locks} (hplace : t.entryOf place = .folder locks) :
    (t.put dest bytes).entryOf place = .folder locks := by
  have hentry := entryAt?_eq_of_has h
  rw [hplace] at hentry
  have hne : place ≠ dest := fun he => hdest locks (he ▸ hentry)
  rw [entryOf, entryAt?_put_other hfolder hne, hentry, Option.getD_some]

theorem step_put {part : String} (h : t.Has place) (hstep : t.step place part = .ok found) :
    (t.put dest bytes).step place part = .ok found := by
  obtain ⟨locks, hplace, hpassing, hshort, hfound⟩ := step_ok_iff.1 hstep
  refine step_ok_iff.2 ⟨locks, entryOf_put hfolder hdest h hplace, hpassing, hshort, hfound.imp id ?_⟩
  exact fun ⟨hdown, heq, hhas⟩ => ⟨hdown, heq, has_put hfolder hhas⟩

theorem walk_put {path : List String} (h : t.Has place) (hwalk : t.walk place path = .ok found) :
    (t.put dest bytes).walk place path = .ok found := by
  induction path generalizing place with
  | nil => exact hwalk
  | cons part path ih =>
    rw [walk] at hwalk ⊢
    split at hwalk
    · rename_i next hstep
      rw [step_put hfolder hdest h hstep]
      exact ih (has_of_step h hstep) hwalk
    · cases hwalk

end Put

/-! ## Destinations -/

/-- A step that finds nothing finds the file once that is put there. -/
theorem step_missing {name : String} (hhas : t.Has place) {locks : Locks} (hplace : t.entryOf place = .folder locks)
    (h : t.step place name = .error .missing) :
    t.entryAt? (place ++ [name]) = none ∧ ∀ bytes,
      (t.put (place ++ [name]) bytes).step place name = .ok (place ++ [name]) := by
  unfold step at h
  simp only [hplace] at h
  split at h
  · cases h
  rename_i hpassing
  split at h
  · cases h
  rename_i hshort
  split at h
  · cases h
  rename_i hdown
  split at h
  · cases h
  rename_i hnone
  have hfolder : t.Has (place ++ [name]).dropLast := by rwa [List.dropLast_concat]
  have hfree : ∀ locks, t.entryAt? (place ++ [name]) ≠ some (.folder locks) := by simp [hnone]
  refine ⟨hnone, fun bytes => step_ok_iff.2 ⟨locks, entryOf_put hfolder hfree hhas hplace, hpassing,
    Nat.not_lt.1 hshort, .inr ⟨hdown, rfl, ?_⟩⟩⟩
  rw [Has, entryAt?_put_self]
  rfl

/-- A place where a file for a path can be put: its folder is there, it is no folder itself, and the path
leads to it once the file is there. -/
structure Receives (t : FileTree) (p : Path) (dest : Place) : Prop where
  folder : t.Has dest.dropLast
  free : ∀ locks, t.entryAt? dest ≠ some (.folder locks)
  leads : ∀ bytes, (t.put dest bytes).find p = .ok dest

/-- A file that a path leads to can be replaced. -/
theorem receives_of_file {content : List UInt8} {locks : Locks} (hfind : t.find p = .ok dest)
    (hentry : t.entryOf dest = .file content locks) : t.Receives p dest := by
  have hhas := has_of_find hfind
  have hfile := entryAt?_eq_of_has hhas
  rw [hentry] at hfile
  have hfolder := has_of_lead hhas (List.dropLast_prefix dest)
  have hfree : ∀ locks, t.entryAt? dest ≠ some (.folder locks) := by simp [hfile]
  refine ⟨hfolder, hfree, fun bytes => ?_⟩
  rw [find_eq_walk_of_ok hfind]
  rw [find_eq_walk_of_ok hfind] at hfind
  exact walk_put hfolder hfree (has_start t p) hfind

/-- Where a path leads to nothing, and to a folder but for its last part, a file can come into the folder. -/
theorem receives_of_missing {name : String} {locks : Locks} (hmiss : t.find p = .error .missing)
    (hlast : p.parts.getLast? = some name) (hfind : t.find ⟨p.root, p.parts.dropLast⟩ = .ok place)
    (hentry : t.entryOf place = .folder locks) : t.Receives p (place ++ [name]) := by
  have hparts : p.parts = p.parts.dropLast ++ [name] := (List.dropLast_append_getLast? name hlast).symm
  have hhas := has_of_find hfind
  have hfollow := find_eq_walk_of_missing hmiss
  rw [find_eq_walk_of_ok hfind] at hfind
  have hlead : t.walk (t.start p) p.parts.dropLast = .ok place := hfind
  have hstep : t.step place name = .error .missing := by
    rwa [hfollow, hparts, walk_concat, hlead] at hmiss
  obtain ⟨hnone, hstep⟩ := step_missing hhas hentry hstep
  have hfolder : t.Has (place ++ [name]).dropLast := by rwa [List.dropLast_concat]
  have hfree : ∀ locks, t.entryAt? (place ++ [name]) ≠ some (.folder locks) := by simp [hnone]
  refine ⟨hfolder, hfree, fun bytes => ?_⟩
  have hstart : (t.put (place ++ [name]) bytes).start p = t.start p := rfl
  rw [hfollow, hparts, walk_concat, hstart, walk_put hfolder hfree (has_start t p) hlead]
  exact hstep bytes

theorem receives_of_destination (h : t.destination p = .ok dest) : t.Receives p dest := by
  unfold destination at h
  split at h
  · rename_i hfind
    split at h
    · cases h
    · rename_i hentry
      split at h <;> cases h
      exact receives_of_file hfind hentry
  · rename_i name hmiss hlast
    split at h
    · cases h
    · rename_i hfind
      split at h
      · cases h
      · rename_i hentry
        split at h <;> cases h
        exact receives_of_missing hmiss hlast hfind hentry
  · cases h

/-- Whether a path leads to a file with some bytes. -/
def Holds (t : FileTree) (p : Path) (bytes : List UInt8) : Prop :=
  ∃ place locks, t.find p = .ok place ∧ t.entryAt? place = some (.file bytes locks)

/-- A file that is put at the destination of a path is where the path leads, and no other entry changes. -/
theorem put_destination (h : t.destination p = .ok dest) (bytes : List UInt8) :
    (∀ place, place ≠ dest → (t.put dest bytes).entryAt? place = t.entryAt? place) ∧
      (t.put dest bytes).Holds p bytes := by
  have hreceives := receives_of_destination h
  exact ⟨fun place hne => entryAt?_put_other hreceives.folder hne,
    dest, _, hreceives.leads bytes, entryAt?_put_self t dest bytes⟩

/-! ## Writing -/

/-- What a writing leaves: the tree as it was when it is refused, and else the destination alone is changed,
to a file with all of the bytes or, where the writing breaks off, with the first of them. -/
theorem write_frame (t : FileTree) (p : Path) (bytes : List UInt8) :
    let after := (t.write p bytes).2
    match t.destination p with
    | .error fault => t.write p bytes = (.error (.refused fault), t)
    | .ok dest =>
      (∀ place, place ≠ dest → after.entryAt? place = t.entryAt? place) ∧
      match t.breaking with
      | none => (t.write p bytes).1 = .ok () ∧ after.Holds p bytes
      | some (count, refusal) => (t.write p bytes).1 = .error (.broken refusal) ∧ after.Holds p (bytes.take count) := by
  unfold write
  cases hdest : t.destination p with
  | error fault => rfl
  | ok dest =>
    cases t.breaking with
    | none =>
      obtain ⟨hothers, hholds⟩ := put_destination hdest bytes
      exact ⟨hothers, rfl, hholds⟩
    | some broken =>
      obtain ⟨count, refusal⟩ := broken
      obtain ⟨hothers, hholds⟩ := put_destination hdest (bytes.take count)
      exact ⟨hothers, rfl, hholds⟩

end PageTemplate.FileTree
