/-
Whole runs of calls on a registry (`calls_coherent`). Each call registers types
one after the other, goes through or fails, and the next call is made all the
same. A registry only ever grows by types whose names were all free, so what
such an addition keeps holds of every registry there can be: no key is both a
type's and an alias's, every alias leads to a type, and none is empty
(`Coherent`). Nor does any name ever come to stand for another type.
-/
import PageTemplate.Proofs.Registry.Plugins

namespace PageTemplate

variable {μ : Type}

/-- A call on a registry: it registers one type, or several. -/
inductive RegistryCall (μ : Type) where
  | register (t : ComponentType μ)
  | registerMany (ts : List (ComponentType μ))

/-- What a call does. -/
def RegistryCall.act : RegistryCall μ → RegistryAct μ Unit
  | .register t => RegistryAct.register t
  | .registerMany ts => RegistryAct.registerMany ts

namespace Registry

/-- The registry after calls that are made one after the other, whether or not they fail. -/
def after (r : Registry μ) (calls : List (RegistryCall μ)) : Registry μ :=
  calls.foldl (fun r call => (call.act.outcome r).2) r

theorem grows_act (call : RegistryCall μ) (r : Registry μ) : Grows r (call.act.outcome r).2 := by
  cases call with
  | register t => exact grows_register t r
  | registerMany ts => exact grows_registerMany ts r

theorem grows_after (r : Registry μ) (calls : List (RegistryCall μ)) : Grows r (r.after calls) := by
  induction calls generalizing r with
  | nil => exact .start
  | cons call calls ih => exact (grows_act call r).trans (ih _)

/-- The keys of types and of aliases are apart, every alias leads to a type, and no key is empty. -/
structure Coherent (r : Registry μ) : Prop where
  apart : ∀ k ∈ r.types.keys, k ∉ r.aliases.keys
  leads : ∀ k owner, r.aliases.get? k = some owner → owner ∈ r.types.keys
  named : "" ∉ r.types.keys ∧ "" ∉ r.aliases.keys

theorem coherent_empty : Coherent ({} : Registry μ) :=
  ⟨by simp [Dictionary.keys], by simp [Dictionary.get?], by simp [Dictionary.keys]⟩

theorem mem_types_adding {r : Registry μ} {t : ComponentType μ} {k : String} :
    k ∈ (r.adding t).types.keys ↔ k = key t.name ∨ k ∈ r.types.keys :=
  Dictionary.mem_keys_insert

theorem mem_aliases_adding {r : Registry μ} {t : ComponentType μ} {k : String} :
    k ∈ (r.adding t).aliases.keys ↔ k ∈ t.aliases.map key ∨ k ∈ r.aliases.keys := by
  rw [← Dictionary.get?_isSome_iff, ← Dictionary.get?_isSome_iff, aliases_get?_adding]
  by_cases h : k ∈ t.aliases.map key <;> simp [h]

/-- Adding a type whose names are free keeps a registry coherent. -/
theorem Coherent.adding {r : Registry μ} (h : r.Coherent) {t : ComponentType μ} (hadmits : r.Admits t) :
    (r.adding t).Coherent := by
  have hfree : ∀ k ∈ t.keys, k ∉ r.types.keys ∧ k ∉ r.aliases.keys := fun k hk => by
    obtain ⟨htype, halias⟩ := owner?_eq_none_iff.1 (hadmits.free k hk)
    exact ⟨Dictionary.get?_eq_none_iff.1 htype, Dictionary.get?_eq_none_iff.1 halias⟩
  have hown : key t.name ∈ t.keys := List.mem_cons_self
  have halias : ∀ k ∈ t.aliases.map key, k ∈ t.keys := fun k => List.mem_cons_of_mem _
  refine ⟨fun k htype hmem => ?_, fun k owner howner => ?_, fun hmem => ?_, fun hmem => ?_⟩
  · rcases mem_types_adding.1 htype with rfl | htype
    · rcases mem_aliases_adding.1 hmem with hmem | hmem
      · exact (List.nodup_cons.1 hadmits.nodup).1 hmem
      · exact (hfree _ hown).2 hmem
    · rcases mem_aliases_adding.1 hmem with hmem | hmem
      · exact (hfree k (halias k hmem)).1 htype
      · exact h.apart k htype hmem
  · rw [aliases_get?_adding] at howner
    rw [mem_types_adding]
    by_cases hnew : k ∈ t.aliases.map key
    · rw [if_pos hnew] at howner
      exact .inl (Option.some.inj howner).symm
    · rw [if_neg hnew] at howner
      exact .inr (h.leads k owner howner)
  · rcases mem_types_adding.1 hmem with he | hmem
    · exact hadmits.named _ hown he.symm
    · exact h.named.1 hmem
  · rcases mem_aliases_adding.1 hmem with hmem | hmem
    · exact hadmits.named _ (halias _ hmem) rfl
    · exact h.named.2 hmem

theorem Grows.coherent {r s : Registry μ} (hgrows : Grows r s) (h : r.Coherent) : s.Coherent := by
  induction hgrows with
  | start => exact h
  | add _ hadmits ih => exact ih.adding hadmits

theorem Coherent.mem_of_owner? {r : Registry μ} (h : r.Coherent) {k owner : String}
    (howner : r.owner? k = some owner) : owner ∈ r.types.keys := by
  unfold owner? at howner
  by_cases hown : r.types.contains k = true
  · rw [if_pos hown] at howner
    exact Option.some.inj howner ▸ Dictionary.contains_iff.1 hown
  · rw [if_neg hown] at howner
    exact h.leads k owner howner

/-- In a coherent registry every name that stands for a key stands for a type. -/
theorem Coherent.get {r : Registry μ} (h : r.Coherent) {name k : String} (hname : r.resolve name = .ok k) :
    ∃ t, r.get name = .ok t := by
  have hmem := h.mem_of_owner? (resolve_ok_iff.1 hname)
  obtain ⟨t, ht⟩ := Option.isSome_iff_exists.1 (Dictionary.get?_isSome_iff.2 hmem)
  exact ⟨t, get_ok_iff.2 ⟨k, hname, ht⟩⟩

/-- Whatever calls have been made on a registry that was empty, with or without success, it is coherent. A
type that fails to register leaves it as it was; one that is registered is found under all its names, however
they are written. Whatever calls and plugins follow, a name keeps its type, and every name that is resolved
has one. So the built-in types are found under their names whatever plugins do, and whatever kinds they
bring. -/
theorem calls_coherent [Platform] (calls : List (RegistryCall μ)) :
    let r := after {} calls
    (∀ k ∈ r.types.keys, k ∉ r.aliases.keys) ∧
    (∀ k owner, r.aliases.get? k = some owner → owner ∈ r.types.keys) ∧
    ("" ∉ r.types.keys ∧ "" ∉ r.aliases.keys) ∧
    (∀ t fault s, (RegistryAct.register t).outcome r = (.error fault, s) → s = r) ∧
    (∀ t s, (RegistryAct.register t).outcome r = (.ok (), s) →
      ∀ written ∈ t.name :: t.aliases, ∀ name, key name = key written → s.get name = .ok t) ∧
    (∀ name k, r.resolve name = .ok k → ∀ others w moduleNames group,
      (r.after others).resolve name = .ok k ∧
        (r.loadPlugins w moduleNames group).registry.resolve name = .ok k) ∧
    (∀ name t, r.get name = .ok t → ∀ others w moduleNames group,
      (r.after others).get name = .ok t ∧ (r.loadPlugins w moduleNames group).registry.get name = .ok t) ∧
    (∀ name k, r.resolve name = .ok k → ∃ t, r.get name = .ok t) ∧
    ∀ (ofShape : ShapeKind → μ), ∀ t ∈ builtinTypes, ∀ written ∈ t.name :: t.aliases,
      ∀ name, key name = key written → ∀ others w moduleNames group,
        (((builtinAs ofShape).after others).loadPlugins w moduleNames group).registry.get name =
          .ok { t with kind := ofShape t.kind } := by
  intro r
  have hcoherent : r.Coherent := (grows_after {} calls).coherent coherent_empty
  have hkeys : ∀ {ν : Type} {t : ComponentType ν} {written name : String}, written ∈ t.name :: t.aliases →
      key name = key written → key name ∈ t.keys := fun {ν} {t} {written} {name} hwritten hname => by
    rw [hname, ComponentType.keys, ← List.map_cons]
    exact List.mem_map_of_mem hwritten
  refine ⟨hcoherent.apart, hcoherent.leads, hcoherent.named, ?_, ?_, ?_, ?_, fun _ _ => hcoherent.get, ?_⟩
  · exact fun t fault s h => (RegistryAct.register_error h).2
  · intro t s h written hwritten name hname
    obtain ⟨hadmits, rfl⟩ := RegistryAct.register_ok h
    exact hadmits.get_adding (hkeys hwritten hname)
  · intro name k h others w moduleNames group
    exact ⟨(grows_after r others).resolve h, (grows_loadSources r w _).resolve h⟩
  · intro name t h others w moduleNames group
    exact ⟨(grows_after r others).get h, (grows_loadSources r w _).get h⟩
  · intro ofShape t ht written hwritten name hname others w moduleNames group
    exact ((grows_after _ others).trans (grows_loadSources _ w _)).get
      (get_builtinAs ofShape ht (hkeys hwritten hname))

end Registry

end PageTemplate
