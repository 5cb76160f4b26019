/-
What registering a type does. It goes through just if all names of the type can
be taken (`Admits`), and then the type answers to them and every other name to
what it answered before (`owner?_adding`). If it fails the registry is what it
was (`register_outcome`): every check stands before the first write.

So a registry changes by types being added to it, each with all its names
(`Grows`), whatever calls are made and whether or not they fail. What is found
under a name stays (`Grows.get`). The types that are always there all go in, and
stand under their names as these are written (`builtin_eq`).
-/
import PageTemplate.Proofs.Dictionary
import PageTemplate.Proofs.Result
import PageTemplate.Registry.Basic

namespace PageTemplate

variable {μ : Type}

/-- The keys of all names of a type, that of its own name first. -/
def ComponentType.keys (t : ComponentType μ) : List String := Registry.key t.name :: t.aliases.map Registry.key

namespace Registry

/-! ## Names that can be taken -/

/-- All names of a type can be taken: none of them is blank, none is taken, and no two are the same. -/
structure Admits (r : Registry μ) (t : ComponentType μ) : Prop where
  named : ∀ k ∈ t.keys, k ≠ ""
  free : ∀ k ∈ t.keys, r.owner? k = none
  nodup : t.keys.Nodup

theorem checkAliases_cons_ok_iff {r : Registry μ} {kind k : String} {seen rest : List String} :
    r.checkAliases kind seen (k :: rest) = .ok () ↔
      (k ≠ "" ∧ k ≠ kind ∧ r.owner? k = none ∧ k ∉ seen) ∧ r.checkAliases kind (k :: seen) rest = .ok () := by
  rw [checkAliases]
  split
  · rename_i h; simp [h]
  split
  · rename_i h; simp [h]
  split
  · rename_i h
    simp only [Bool.or_eq_true, Option.isSome_iff_ne_none, List.contains_iff_mem] at h
    simp only [reduceCtorEq, false_iff, not_and]
    rintro ⟨-, -, hfree, hseen⟩ -
    exact h.elim (fun h => h hfree) hseen
  · rename_i hnamed hkind h
    have h : r.owner? k = none ∧ k ∉ seen := by simpa using h
    exact ⟨fun hrest => ⟨⟨hnamed, hkind, h⟩, hrest⟩, fun hrest => hrest.2⟩

theorem checkAliases_ok_iff {r : Registry μ} {kind : String} {seen aliasKeys : List String} :
    r.checkAliases kind seen aliasKeys = .ok () ↔
      (∀ k ∈ aliasKeys, k ≠ "" ∧ k ≠ kind ∧ r.owner? k = none ∧ k ∉ seen) ∧ aliasKeys.Nodup := by
  induction aliasKeys generalizing seen with
  | nil => simp [checkAliases]
  | cons k rest ih =>
    rw [checkAliases_cons_ok_iff, ih, List.forall_mem_cons, List.nodup_cons]
    simp only [List.mem_cons, not_or]
    constructor
    · rintro ⟨hk, hrest, hnodup⟩
      refine ⟨⟨hk, fun k' hk' => ?_⟩, fun hmem => (hrest k hmem).2.2.2.1 rfl, hnodup⟩
      obtain ⟨hnamed, hkind, hfree, -, hseen⟩ := hrest k' hk'
      exact ⟨hnamed, hkind, hfree, hseen⟩
    · rintro ⟨⟨hk, hrest⟩, hnew, hnodup⟩
      refine ⟨hk, fun k' hk' => ?_, hnodup⟩
      obtain ⟨hnamed, hkind, hfree, hseen⟩ := hrest k' hk'
      exact ⟨hnamed, hkind, hfree, fun he => hnew (he ▸ hk'), hseen⟩

theorem check_ok_iff {r : Registry μ} {t : ComponentType μ} :
    r.check (key t.name) (t.aliases.map key) = .ok () ↔ r.Admits t := by
  rw [check]
  by_cases hnamed : key t.name = ""
  · rw [if_pos hnamed]
    simp only [reduceCtorEq, false_iff]
    exact fun h => h.named _ List.mem_cons_self hnamed
  rw [if_neg hnamed]
  cases howner : r.owner? (key t.name) with
  | some owner =>
    have hrefused : ¬ r.Admits t := fun h => by
      rw [h.free _ List.mem_cons_self] at howner
      cases howner
    by_cases hown : owner = key t.name <;> simp [hown, hrefused]
  | none =>
    simp only [checkAliases_ok_iff]
    constructor
    · rintro ⟨haliases, hnodup⟩
      refine ⟨?_, ?_, List.nodup_cons.2 ⟨fun hmem => (haliases _ hmem).2.1 rfl, hnodup⟩⟩
      · exact List.forall_mem_cons.2 ⟨hnamed, fun k hk => (haliases k hk).1⟩
      · exact List.forall_mem_cons.2 ⟨howner, fun k hk => (haliases k hk).2.2.1⟩
    · intro h
      obtain ⟨hnew, hnodup⟩ := List.nodup_cons.1 h.nodup
      refine ⟨fun k hk => ?_, hnodup⟩
      have hk' := List.mem_cons_of_mem (key t.name) hk
      exact ⟨h.named k hk', fun he => hnew (he ▸ hk), h.free k hk', List.not_mem_nil⟩

/-! ## What registering leaves -/

/-- The registry with a type added under all its names. -/
def adding (r : Registry μ) (t : ComponentType μ) : Registry μ :=
  { types := r.types.insert (key t.name) t
    aliases := (t.aliases.map key).foldl (fun d k => d.insert k (key t.name)) r.aliases }

theorem aliases_get?_adding (r : Registry μ) (t : ComponentType μ) (k : String) :
    (r.adding t).aliases.get? k = if k ∈ t.aliases.map key then some (key t.name) else r.aliases.get? k :=
  Dictionary.get?_foldl_insert _ _ _ _

theorem types_get?_adding (r : Registry μ) (t : ComponentType μ) (k : String) :
    (r.adding t).types.get? k = if k = key t.name then some t else r.types.get? k := by
  by_cases h : k = key t.name
  · rw [if_pos h, h]
    exact Dictionary.get?_insert_self _ _ _
  · rw [if_neg h]
    exact Dictionary.get?_insert_other _ _ h

theorem owner?_eq_none_iff {r : Registry μ} {k : String} :
    r.owner? k = none ↔ r.types.get? k = none ∧ r.aliases.get? k = none := by
  unfold owner? Dictionary.contains
  cases r.types.get? k <;> simp

theorem owner?_adding {r : Registry μ} {t : ComponentType μ} (h : r.Admits t) (k : String) :
    (r.adding t).owner? k = if k ∈ t.keys then some (key t.name) else r.owner? k := by
  unfold owner? Dictionary.contains
  rw [types_get?_adding, aliases_get?_adding, ComponentType.keys]
  by_cases hkind : k = key t.name
  · simp [hkind]
  · rw [if_neg hkind]
    by_cases halias : k ∈ t.aliases.map key
    · have hfree := (owner?_eq_none_iff.1 (h.free k (List.mem_cons_of_mem _ halias))).1
      simp [hfree, halias]
    · simp [hkind, halias]

end Registry

namespace RegistryAct

open Registry

theorem outcome_pure {α : Type} (a : α) (r : Registry μ) : (pure a : RegistryAct μ α).outcome r = (.ok a, r) := rfl

theorem outcome_bind {α β : Type} (act : RegistryAct μ α) (next : α → RegistryAct μ β) (r : Registry μ) :
    (act >>= next : RegistryAct μ β).outcome r =
      match act.outcome r with
      | (.ok a, s) => (next a).outcome s
      | (.error fault, s) => (.error fault, s) := by
  refine (run_bind act next r).trans ?_
  unfold outcome
  rcases StateT.run (ExceptT.run act) r with ⟨_ | a, s⟩ <;> rfl

theorem outcome_ofExcept {α : Type} (x : Except RegistryFault α) (r : Registry μ) :
    (MonadExcept.ofExcept x : RegistryAct μ α).outcome r = (x, r) := by
  cases x <;> rfl

theorem outcome_register (t : ComponentType μ) (r : Registry μ) :
    (register t).outcome r =
      match r.check (key t.name) (t.aliases.map key) with
      | .ok () => (.ok (), r.adding t)
      | .error fault => (.error fault, r) := by
  have hget : (get : RegistryAct μ (Registry μ)).outcome r = (.ok r, r) := rfl
  rw [register, outcome_bind, hget]
  simp only [outcome_bind, outcome_ofExcept]
  cases r.check (key t.name) (t.aliases.map key) <;> rfl

/-- Registering a type adds it if all its names can be taken. If not, the registry stays what it was. -/
theorem register_outcome (t : ComponentType μ) (r : Registry μ) :
    (r.Admits t ∧ (register t).outcome r = (.ok (), r.adding t)) ∨
      ¬ r.Admits t ∧ ∃ fault, (register t).outcome r = (.error fault, r) := by
  rw [outcome_register, ← check_ok_iff]
  cases r.check (key t.name) (t.aliases.map key) with
  | ok u => exact .inl ⟨rfl, rfl⟩
  | error fault => exact .inr ⟨by simp, fault, rfl⟩

theorem outcome_register_of_admits {t : ComponentType μ} {r : Registry μ} (h : r.Admits t) :
    (register t).outcome r = (.ok (), r.adding t) := by
  rw [outcome_register, check_ok_iff.2 h]

theorem register_ok {t : ComponentType μ} {r s : Registry μ} (h : (register t).outcome r = (.ok (), s)) :
    r.Admits t ∧ s = r.adding t := by
  rcases register_outcome t r with ⟨hadmits, hrun⟩ | ⟨-, fault, hrun⟩
  · rw [hrun] at h
    cases h
    exact ⟨hadmits, rfl⟩
  · rw [hrun] at h
    cases h

theorem register_error {t : ComponentType μ} {r s : Registry μ} {fault : RegistryFault}
    (h : (register t).outcome r = (.error fault, s)) : ¬ r.Admits t ∧ s = r := by
  rcases register_outcome t r with ⟨-, hrun⟩ | ⟨hrefused, fault', hrun⟩
  · rw [hrun] at h
    cases h
  · rw [hrun] at h
    cases h
    exact ⟨hrefused, rfl⟩

end RegistryAct

namespace Registry

/-! ## Registries grow -/

/-- The registries that a registry becomes by types being added to it, each when all its names can be
taken. -/
inductive Grows (r : Registry μ) : Registry μ → Prop
  | start : Grows r r
  | add {s : Registry μ} {t : ComponentType μ} : Grows r s → s.Admits t → Grows r (s.adding t)

theorem Grows.trans {r s u : Registry μ} (h : Grows r s) (h' : Grows s u) : Grows r u := by
  induction h' with
  | start => exact h
  | add _ hadmits ih => exact .add ih hadmits

theorem grows_register (t : ComponentType μ) (r : Registry μ) : Grows r ((RegistryAct.register t).outcome r).2 := by
  rcases RegistryAct.register_outcome t r with ⟨hadmits, hrun⟩ | ⟨-, fault, hrun⟩
  · rw [hrun]
    exact .add .start hadmits
  · rw [hrun]
    exact .start

theorem grows_registerMany (ts : List (ComponentType μ)) (r : Registry μ) :
    Grows r ((RegistryAct.registerMany ts).outcome r).2 := by
  induction ts generalizing r with
  | nil =>
    rw [RegistryAct.registerMany, RegistryAct.outcome_pure]
    exact .start
  | cons t ts ih =>
    rw [RegistryAct.registerMany, RegistryAct.outcome_bind]
    rcases RegistryAct.register_outcome t r with ⟨hadmits, hrun⟩ | ⟨-, fault, hrun⟩
    · rw [hrun]
      exact (Grows.add .start hadmits).trans (ih (r.adding t))
    · rw [hrun]
      exact .start

theorem grows_of_registerMany {ts : List (ComponentType μ)} {r s : Registry μ}
    (h : (RegistryAct.registerMany ts).outcome r = (.ok (), s)) : Grows r s := by
  have hgrows := grows_registerMany ts r
  rw [h] at hgrows
  exact hgrows

theorem resolve_ok_iff {r : Registry μ} {name k : String} :
    r.resolve name = .ok k ↔ r.owner? (key name) = some k := by
  unfold resolve
  cases r.owner? (key name) <;> simp

theorem get_ok_iff {r : Registry μ} {name : String} {t : ComponentType μ} :
    r.get name = .ok t ↔ ∃ k, r.resolve name = .ok k ∧ r.types.get? k = some t := by
  unfold get
  cases r.resolve name with
  | error fault => simp
  | ok k => cases hget : r.types.get? k <;> simp [hget]

section Adding

variable {r : Registry μ} {t : ComponentType μ} (h : r.Admits t)
include h

theorem Admits.resolve_adding {name k : String} (hname : r.resolve name = .ok k) :
    (r.adding t).resolve name = .ok k := by
  rw [resolve_ok_iff] at hname ⊢
  have hold : key name ∉ t.keys := fun hmem => by
    rw [h.free _ hmem] at hname
    cases hname
  rw [owner?_adding h, if_neg hold, hname]

/-- What a key stands for is not touched by a type with other names. -/
theorem Admits.types_adding {k : String} {t' : ComponentType μ} (hk : r.types.get? k = some t') :
    (r.adding t).types.get? k = some t' := by
  have hfree := (owner?_eq_none_iff.1 (h.free (key t.name) List.mem_cons_self)).1
  rw [types_get?_adding, if_neg, hk]
  rintro rfl
  rw [hfree] at hk
  cases hk

/-- The type answers to all its names, however they are written. -/
theorem Admits.get_adding {name : String} (hname : key name ∈ t.keys) : (r.adding t).get name = .ok t := by
  refine get_ok_iff.2 ⟨key t.name, ?_, ?_⟩
  · rw [resolve_ok_iff, owner?_adding h, if_pos hname]
  · rw [types_get?_adding, if_pos rfl]

end Adding

/-- The key of a type that a name stands for stays the same. -/
theorem Grows.resolve {r s : Registry μ} (h : Grows r s) {name k : String} (hname : r.resolve name = .ok k) :
    s.resolve name = .ok k := by
  induction h with
  | start => exact hname
  | add _ hadmits ih => exact hadmits.resolve_adding ih

/-- The type that a name stands for stays the same. -/
theorem Grows.get {r s : Registry μ} (h : Grows r s) {name : String} {t : ComponentType μ}
    (hname : r.get name = .ok t) : s.get name = .ok t := by
  obtain ⟨k, hresolve, htype⟩ := get_ok_iff.1 hname
  refine get_ok_iff.2 ⟨k, h.resolve hresolve, ?_⟩
  clear hname hresolve
  induction h with
  | start => exact htype
  | add _ hadmits ih => exact hadmits.types_adding ih

/-- Types that are registered one after the other all answer to their names in the end. -/
theorem get_of_registerMany {ts : List (ComponentType μ)} {r s : Registry μ}
    (h : (RegistryAct.registerMany ts).outcome r = (.ok (), s)) :
    ∀ t ∈ ts, ∀ name, key name ∈ t.keys → s.get name = .ok t := by
  induction ts generalizing r with
  | nil => simp
  | cons t ts ih =>
    rw [RegistryAct.registerMany, RegistryAct.outcome_bind] at h
    rcases RegistryAct.register_outcome t r with ⟨hadmits, hrun⟩ | ⟨-, fault, hrun⟩
    · rw [hrun] at h
      have hrest : (RegistryAct.registerMany ts).outcome (r.adding t) = (.ok (), s) := h
      refine List.forall_mem_cons.2 ⟨fun name hname => ?_, ih hrest⟩
      exact (grows_of_registerMany hrest).get (hadmits.get_adding hname)
    · rw [hrun] at h
      cases h

theorem registerMany_nil_ok_iff {r s : Registry μ} :
    (RegistryAct.registerMany []).outcome r = (.ok (), s) ↔ s = r := by
  rw [RegistryAct.registerMany, RegistryAct.outcome_pure]
  simp [eq_comm]

theorem registerMany_cons_ok_iff {t : ComponentType μ} {ts : List (ComponentType μ)} {r s : Registry μ} :
    (RegistryAct.registerMany (t :: ts)).outcome r = (.ok (), s) ↔
      r.Admits t ∧ (RegistryAct.registerMany ts).outcome (r.adding t) = (.ok (), s) := by
  rw [RegistryAct.registerMany, RegistryAct.outcome_bind]
  rcases RegistryAct.register_outcome t r with ⟨hadmits, hrun⟩ | ⟨hrefused, fault, hrun⟩
  · rw [hrun]
    simp [hadmits]
  · rw [hrun]
    simp [hrefused]

/-- Types can be registered one after the other just if none of their keys is empty or taken or comes twice. -/
theorem registerMany_ok_iff {ts : List (ComponentType μ)} {r : Registry μ} :
    (∃ s, (RegistryAct.registerMany ts).outcome r = (.ok (), s)) ↔
      (∀ k ∈ ts.flatMap ComponentType.keys, k ≠ "" ∧ r.owner? k = none) ∧
        (ts.flatMap ComponentType.keys).Nodup := by
  induction ts generalizing r with
  | nil => simp [registerMany_nil_ok_iff]
  | cons t ts ih =>
    simp only [registerMany_cons_ok_iff, exists_and_left, ih, List.flatMap_cons, List.nodup_append,
      List.forall_mem_append]
    constructor
    · rintro ⟨hadmits, hrest, hnodup⟩
      have hnew : ∀ k ∈ ts.flatMap ComponentType.keys, k ∉ t.keys ∧ r.owner? k = none := fun k hk => by
        have hfree := (hrest k hk).2
        rw [owner?_adding hadmits] at hfree
        split at hfree
        · cases hfree
        · rename_i hmem
          exact ⟨hmem, hfree⟩
      refine ⟨⟨fun k hk => ⟨hadmits.named k hk, hadmits.free k hk⟩,
        fun k hk => ⟨(hrest k hk).1, (hnew k hk).2⟩⟩, hadmits.nodup, hnodup, ?_⟩
      rintro k hk _ hk' rfl
      exact (hnew k hk').1 hk
    · rintro ⟨⟨hown, hothers⟩, hnodup, hnodup', hapart⟩
      have hadmits : r.Admits t := ⟨fun k hk => (hown k hk).1, fun k hk => (hown k hk).2, hnodup⟩
      refine ⟨hadmits, fun k hk => ⟨(hothers k hk).1, ?_⟩, hnodup'⟩
      rw [owner?_adding hadmits, if_neg fun hmem => hapart k hmem k hk rfl]
      exact (hothers k hk).2

/-! ## The types that are always there -/

/-- Every type under its name, and its name under each of its aliases. -/
def builtinTable : Registry where
  types := builtinTypes.map fun t => (t.name, t)
  aliases := builtinTypes.flatMap fun t => t.aliases.map fun other => (other, t.name)

theorem outcome_builtinTypes : (RegistryAct.registerMany builtinTypes).outcome {} = (.ok (), builtinTable) := by
  decide +kernel

theorem registerMany_fst (r : Registry μ) (ts : List (ComponentType μ)) :
    (r.registerMany ts).1 = ((RegistryAct.registerMany ts).outcome r).2 := rfl

/-- A type that is always there is found under all its names, wherever its kind stands among others. -/
theorem get_builtinAs (ofShape : ShapeKind → μ) {t : ComponentType} (ht : t ∈ builtinTypes) {name : String}
    (hname : key name ∈ t.keys) : (builtinAs ofShape).get name = .ok { t with kind := ofShape t.kind } := by
  -- Only the keys decide what can be registered, and those of the types that are always there can be.
  have hkeys : (builtinTypes.map fun t => { t with kind := ofShape t.kind }).flatMap ComponentType.keys =
      builtinTypes.flatMap ComponentType.keys := by
    rw [List.flatMap_map]
    rfl
  obtain ⟨hnamed, hnodup⟩ := registerMany_ok_iff.1 ⟨_, outcome_builtinTypes⟩
  rw [← hkeys] at hnamed hnodup
  have hempty : ∀ k, ({} : Registry μ).owner? k = none := fun _ => rfl
  obtain ⟨s, hs⟩ := registerMany_ok_iff.2 ⟨fun k hk => ⟨(hnamed k hk).1, hempty k⟩, hnodup⟩
  have hget := get_of_registerMany hs _ (List.mem_map_of_mem ht) name hname
  rw [builtinAs, registerMany_fst, hs]
  exact hget

/-- The names of the types that are always there are their own keys. -/
theorem builtin_eq : builtin = builtinTable := by
  have hsame : builtinTypes.map (fun t => { t with kind := id t.kind }) = builtinTypes := List.map_id _
  rw [builtin, builtinAs, hsame, registerMany_fst, outcome_builtinTypes]

end Registry

end PageTemplate
