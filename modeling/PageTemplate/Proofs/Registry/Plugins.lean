/-
Plugins that fail (`loadPlugins_skips_iff`). A plugin registers types one after
the other and may stop at any of them. Each that stops is told once, in the order
of the sources, and the others are loaded all the same.

What a plugin has registered before it stops stays. So loading comes to what
loading only the plugins that did not fail comes to, just if each of the others
stops before its first type: a registry without the leftovers has fewer names
taken, and so it admits whatever the fuller one admits (`Within`); but it is
shorter by every type that was left over.
-/
import PageTemplate.Platform.Plain
import PageTemplate.Proofs.Registry.Registering
import PageTemplate.Registry.Plugin

namespace PageTemplate

variable {μ : Type}

namespace Registry

/-! ## Types registered one after the other -/

theorem Admits.length_adding {r : Registry μ} {t : ComponentType μ} (h : r.Admits t) :
    (r.adding t).types.length = r.types.length + 1 := by
  have hfree := (owner?_eq_none_iff.1 (h.free (key t.name) List.mem_cons_self)).1
  rw [adding, Dictionary.insert_of_not_mem (Dictionary.get?_eq_none_iff.1 hfree), List.length_append]
  rfl

theorem length_of_registerMany {ts : List (ComponentType μ)} {r s : Registry μ}
    (h : (RegistryAct.registerMany ts).outcome r = (.ok (), s)) :
    s.types.length = r.types.length + ts.length := by
  induction ts generalizing r with
  | nil =>
    rw [registerMany_nil_ok_iff.1 h]
    rfl
  | cons t ts ih =>
    obtain ⟨hadmits, hrest⟩ := registerMany_cons_ok_iff.1 h
    rw [ih hrest, hadmits.length_adding, List.length_cons]
    omega

/-- Every name that is taken in the first registry is taken in the second. -/
def Within (r' r : Registry μ) : Prop := ∀ k, r.owner? k = none → r'.owner? k = none

theorem Within.refl (r : Registry μ) : Within r r := fun _ h => h

section Within

variable {r r' s : Registry μ} (h : Within r' r)
include h

theorem Within.admits {t : ComponentType μ} (hadmits : r.Admits t) : r'.Admits t :=
  ⟨hadmits.named, fun k hk => h k (hadmits.free k hk), hadmits.nodup⟩

theorem Within.adding {t : ComponentType μ} (hadmits : r.Admits t) : Within (r'.adding t) (r.adding t) := by
  intro k hk
  rw [owner?_adding (h.admits hadmits)]
  rw [owner?_adding hadmits] at hk
  split at hk
  · cases hk
  · rename_i hnew
    rw [if_neg hnew]
    exact h k hk

/-- What a registry admits, one with fewer names admits too, and still it has fewer names. -/
theorem Within.registerMany {ts : List (ComponentType μ)}
    (hrun : (RegistryAct.registerMany ts).outcome r = (.ok (), s)) :
    ∃ s', (RegistryAct.registerMany ts).outcome r' = (.ok (), s') ∧ Within s' s := by
  induction ts generalizing r r' with
  | nil =>
    rw [registerMany_nil_ok_iff.1 hrun]
    exact ⟨r', registerMany_nil_ok_iff.2 rfl, h⟩
  | cons t ts ih =>
    obtain ⟨hadmits, hrest⟩ := registerMany_cons_ok_iff.1 hrun
    obtain ⟨s', hrest', hwithin⟩ := ih (h.adding hadmits) hrest
    exact ⟨s', registerMany_cons_ok_iff.2 ⟨h.admits hadmits, hrest'⟩, hwithin⟩

theorem Within.grows (hgrows : Grows r s) : Within r' s := by
  intro k hk
  refine h k ?_
  induction hgrows with
  | start => exact hk
  | add _ hadmits ih =>
    rw [owner?_adding hadmits] at hk
    split at hk
    · cases hk
    · exact ih hk

end Within

end Registry

/-! ## The steps of a plugin -/

/-- A step fails on a registry: it fails whatever the registry is, or its type cannot be registered. -/
inductive PluginStep.FailsOn (r : Registry μ) : PluginStep μ → PluginFault → Prop
  | failed (text : String) : FailsOn r (.fail text) (.failed text)
  | refused {t : ComponentType μ} {fault : RegistryFault} :
    (RegistryAct.register t).outcome r = (.error fault, r) → FailsOn r (.register t) (.registry fault)

namespace Registry

/-- The steps of a registration register all their types, or those before the step that fails. -/
theorem runSteps_outcome (steps : List (PluginStep μ)) (r : Registry μ) :
    (∃ ts s, steps = ts.map .register ∧ (RegistryAct.registerMany ts).outcome r = (.ok (), s) ∧
      r.runSteps steps = (s, .ok ())) ∨
    ∃ ts step rest s fault, steps = ts.map .register ++ step :: rest ∧
      (RegistryAct.registerMany ts).outcome r = (.ok (), s) ∧ step.FailsOn s fault ∧
      r.runSteps steps = (s, .error fault) := by
  induction steps generalizing r with
  | nil => exact .inl ⟨[], r, rfl, registerMany_nil_ok_iff.2 rfl, rfl⟩
  | cons step steps ih =>
    cases step with
    | fail text =>
      exact .inr ⟨[], .fail text, steps, r, .failed text, rfl, registerMany_nil_ok_iff.2 rfl, .failed text, rfl⟩
    | register t =>
      rw [runSteps]
      rcases RegistryAct.register_outcome t r with ⟨hadmits, hrun⟩ | ⟨-, fault, hrun⟩
      · rw [hrun]
        rcases ih (r.adding t) with ⟨ts, s, rfl, hts, hsteps⟩ |
          ⟨ts, step, rest, s, fault, rfl, hts, hfails, hsteps⟩
        · exact .inl ⟨t :: ts, s, rfl, registerMany_cons_ok_iff.2 ⟨hadmits, hts⟩, hsteps⟩
        · exact .inr ⟨t :: ts, step, rest, s, fault, rfl, registerMany_cons_ok_iff.2 ⟨hadmits, hts⟩, hfails,
            hsteps⟩
      · rw [hrun]
        exact .inr ⟨[], .register t, steps, r, .registry fault, rfl, registerMany_nil_ok_iff.2 rfl,
          .refused hrun, rfl⟩

variable [Platform]

/-- A plugin stops with a fault when it has registered some types: there is no plugin to begin with, or its
next step fails on the registry as it is then. -/
inductive Stops (w : PluginWorld μ) (source : PluginSource) (r : Registry μ) :
    List (ComponentType μ) → PluginFault → Prop
  | missing {fault : PluginFault} : w.steps source = .error fault → Stops w source r [] fault
  | step {ts : List (ComponentType μ)} {step : PluginStep μ} {rest : List (PluginStep μ)} {fault : PluginFault} :
    w.steps source = .ok (ts.map .register ++ step :: rest) → step.FailsOn r fault → Stops w source r ts fault

/-- Loading a plugin registers all its types, or those before it stops. -/
theorem loadPlugin_outcome (r : Registry μ) (w : PluginWorld μ) (source : PluginSource) :
    (∃ ts s, w.steps source = .ok (ts.map .register) ∧ (RegistryAct.registerMany ts).outcome r = (.ok (), s) ∧
      r.loadPlugin w source = (s, .ok ())) ∨
    ∃ ts s fault, Stops w source s ts fault ∧ (RegistryAct.registerMany ts).outcome r = (.ok (), s) ∧
      r.loadPlugin w source = (s, .error fault) := by
  unfold loadPlugin
  cases hsteps : w.steps source with
  | error fault => exact .inr ⟨[], r, fault, .missing hsteps, registerMany_nil_ok_iff.2 rfl, rfl⟩
  | ok steps =>
    rcases runSteps_outcome steps r with ⟨ts, s, rfl, hts, hrun⟩ |
      ⟨ts, step, rest, s, fault, rfl, hts, hfails, hrun⟩
    · exact .inl ⟨ts, s, rfl, hts, hrun⟩
    · exact .inr ⟨ts, s, fault, .step hsteps hfails, hts, hrun⟩

/-- A plugin whose types can all be registered does not fail. -/
theorem loadPlugin_of_registerMany {w : PluginWorld μ} {source : PluginSource} {ts : List (ComponentType μ)}
    {r s : Registry μ} (hsteps : w.steps source = .ok (ts.map .register))
    (h : (RegistryAct.registerMany ts).outcome r = (.ok (), s)) : r.loadPlugin w source = (s, .ok ()) := by
  rw [loadPlugin, hsteps]
  clear hsteps
  induction ts generalizing r with
  | nil =>
    rw [registerMany_nil_ok_iff.1 h]
    rfl
  | cons t ts ih =>
    obtain ⟨hadmits, hrest⟩ := registerMany_cons_ok_iff.1 h
    have hfirst := RegistryAct.outcome_register_of_admits hadmits
    simp only [List.map_cons, runSteps, hfirst]
    exact ih hrest

theorem grows_loadPlugin (r : Registry μ) (w : PluginWorld μ) (source : PluginSource) :
    Grows r (r.loadPlugin w source).1 := by
  rcases r.loadPlugin_outcome w source with ⟨ts, s, -, hts, hrun⟩ | ⟨ts, s, fault, -, hts, hrun⟩
  all_goals
    rw [hrun]
    exact grows_of_registerMany hts

end Registry

/-! ## Plugins one after the other -/

/-- The turn of a plugin among others: the registry it finds and the one it leaves, and how it ends. -/
structure PluginTurn (μ : Type) where
  source : PluginSource
  before : Registry μ
  after : Registry μ
  result : Except PluginFault Unit

namespace PluginTurn

/-- Whether the plugin failed. -/
def failed (turn : PluginTurn μ) : Bool :=
  match turn.result with
  | .ok () => false
  | .error _ => true

/-- The warning for a plugin that failed. -/
def warning? (turn : PluginTurn μ) : Option String :=
  match turn.result with
  | .ok () => none
  | .error fault => some (Registry.warning turn.source fault)

end PluginTurn

namespace Registry

section Turns

variable [Platform]

/-- The turns of several plugins, each on the registry that the one before it leaves. -/
def turns (r : Registry μ) (w : PluginWorld μ) : List PluginSource → List (PluginTurn μ)
  | [] => []
  | source :: rest =>
    { source := source, before := r, after := (r.loadPlugin w source).1,
      result := (r.loadPlugin w source).2 } :: turns (r.loadPlugin w source).1 w rest

/-- The sources of the plugins that do not fail. -/
def succeeding (r : Registry μ) (w : PluginWorld μ) (sources : List PluginSource) : List PluginSource :=
  ((r.turns w sources).filter fun turn => !turn.failed).map (·.source)

/-- How many types the plugins leave that fail. -/
def leftOver (r : Registry μ) (w : PluginWorld μ) : List PluginSource → Nat
  | [] => 0
  | source :: rest =>
    (match (r.loadPlugin w source).2 with
      | .ok () => 0
      | .error _ => (r.loadPlugin w source).1.types.length - r.types.length) +
      leftOver (r.loadPlugin w source).1 w rest

variable {w : PluginWorld μ}

theorem loadSources_cons_registry (r : Registry μ) (w : PluginWorld μ) (source : PluginSource)
    (rest : List PluginSource) :
    (r.loadSources w (source :: rest)).registry = ((r.loadPlugin w source).1.loadSources w rest).registry := rfl

theorem loadSources_cons_warnings (r : Registry μ) (w : PluginWorld μ) (source : PluginSource)
    (rest : List PluginSource) :
    (r.loadSources w (source :: rest)).warnings =
      (match (r.loadPlugin w source).2 with
        | .ok () => []
        | .error fault => [warning source fault]) ++ ((r.loadPlugin w source).1.loadSources w rest).warnings := rfl

theorem map_source_turns (r : Registry μ) (w : PluginWorld μ) (sources : List PluginSource) :
    (r.turns w sources).map (·.source) = sources := by
  induction sources generalizing r with
  | nil => rfl
  | cons source rest ih => rw [turns, List.map_cons, ih]

/-- One warning for each plugin that fails, in order. -/
theorem warnings_loadSources (r : Registry μ) (w : PluginWorld μ) (sources : List PluginSource) :
    (r.loadSources w sources).warnings = (r.turns w sources).filterMap PluginTurn.warning? := by
  induction sources generalizing r with
  | nil => rfl
  | cons source rest ih =>
    rw [loadSources_cons_warnings, ih, turns, List.filterMap_cons]
    unfold PluginTurn.warning?
    rcases (r.loadPlugin w source).2 with fault | u <;> rfl

theorem grows_loadSources (r : Registry μ) (w : PluginWorld μ) (sources : List PluginSource) :
    Grows r (r.loadSources w sources).registry := by
  induction sources generalizing r with
  | nil => exact .start
  | cons source rest ih =>
    rw [loadSources_cons_registry]
    exact (grows_loadPlugin r w source).trans (ih _)

theorem succeeding_cons (r : Registry μ) (w : PluginWorld μ) (source : PluginSource) (rest : List PluginSource) :
    r.succeeding w (source :: rest) =
      match (r.loadPlugin w source).2 with
      | .ok () => source :: (r.loadPlugin w source).1.succeeding w rest
      | .error _ => (r.loadPlugin w source).1.succeeding w rest := by
  unfold succeeding
  rw [turns, List.filter_cons]
  unfold PluginTurn.failed
  rcases (r.loadPlugin w source).2 with fault | u <;> rfl

/-- A turn is that of its source on the registry it finds, and the registry grows from what it leaves. -/
theorem turn_of_mem {r : Registry μ} {sources : List PluginSource} {turn : PluginTurn μ}
    (h : turn ∈ r.turns w sources) :
    (turn.after, turn.result) = turn.before.loadPlugin w turn.source ∧
      Grows turn.after (r.loadSources w sources).registry := by
  induction sources generalizing r with
  | nil => cases h
  | cons source rest ih =>
    rw [turns, List.mem_cons] at h
    rw [loadSources_cons_registry]
    rcases h with rfl | h
    · exact ⟨rfl, grows_loadSources _ w rest⟩
    · exact ih h

/-- If the plugins that fail leave nothing, loading comes to loading the others. -/
theorem loadSources_succeeding {r : Registry μ} {sources : List PluginSource}
    (h : ∀ turn ∈ r.turns w sources, turn.failed = true → turn.after = turn.before) :
    (r.loadSources w (r.succeeding w sources)).registry = (r.loadSources w sources).registry := by
  induction sources generalizing r with
  | nil => rfl
  | cons source rest ih =>
    rw [turns, List.forall_mem_cons] at h
    obtain ⟨hfirst, hrest⟩ := h
    have hrest := ih hrest
    rw [succeeding_cons, loadSources_cons_registry]
    cases hresult : (r.loadPlugin w source).2 with
    | ok u => rw [loadSources_cons_registry, hrest]
    | error fault =>
      have hnothing : (r.loadPlugin w source).1 = r := hfirst (by rw [PluginTurn.failed, hresult])
      rw [hnothing] at hrest ⊢
      exact hrest

/-- A registry with fewer names gains from the plugins that do not fail as much as the fuller one from all,
but for what the others leave; and there too none of them fails. -/
theorem loadSources_within {r r' : Registry μ} (h : Within r' r) (sources : List PluginSource) :
    (r'.loadSources w (r.succeeding w sources)).warnings = [] ∧
      (r.loadSources w sources).registry.types.length + r'.types.length =
        (r'.loadSources w (r.succeeding w sources)).registry.types.length + r.types.length +
          r.leftOver w sources := by
  induction sources generalizing r r' with
  | nil =>
    exact ⟨rfl, Nat.add_comm _ _⟩
  | cons source rest ih =>
    rw [succeeding_cons, leftOver, loadSources_cons_registry]
    rcases r.loadPlugin_outcome w source with ⟨ts, s, hsteps, hts, hrun⟩ | ⟨ts, s, fault, -, hts, hrun⟩
    · -- The plugin goes through on both registries, and both gain the same types.
      obtain ⟨s', hts', hwithin⟩ := h.registerMany hts
      obtain ⟨hwarnings, hlengths⟩ := ih hwithin
      have hgain := length_of_registerMany hts
      have hgain' := length_of_registerMany hts'
      simp only [hrun]
      rw [loadSources_cons_warnings, loadSources_cons_registry, loadPlugin_of_registerMany hsteps hts']
      refine ⟨hwarnings, ?_⟩
      dsimp only
      omega
    · -- The smaller registry is spared the plugin, which leaves its types on the fuller one.
      obtain ⟨hwarnings, hlengths⟩ := ih (h.grows (grows_of_registerMany hts))
      have hgain := length_of_registerMany hts
      rw [hrun]
      refine ⟨hwarnings, ?_⟩
      change (s.loadSources w rest).registry.types.length + _ =
        (r'.loadSources w (s.succeeding w rest)).registry.types.length + _ +
          (s.types.length - r.types.length + s.leftOver w rest)
      omega

/-- A plugin that fails and leaves no further type leaves the registry as it was. -/
theorem after_eq_before {r : Registry μ} {source : PluginSource}
    (h : (r.loadPlugin w source).1.types.length - r.types.length = 0) : (r.loadPlugin w source).1 = r := by
  rcases r.loadPlugin_outcome w source with ⟨ts, s, -, hts, hrun⟩ | ⟨ts, s, fault, -, hts, hrun⟩
  all_goals
    rw [hrun] at h ⊢
    have hgain := length_of_registerMany hts
    dsimp only at h
    obtain rfl : ts = [] := List.length_eq_zero_iff.1 (by omega)
    exact registerMany_nil_ok_iff.1 hts

/-- If the plugins that fail leave no types, each of them leaves the registry as it was. -/
theorem after_eq_before_of_leftOver {r : Registry μ} {sources : List PluginSource}
    (h : r.leftOver w sources = 0) :
    ∀ turn ∈ r.turns w sources, turn.failed = true → turn.after = turn.before := by
  induction sources generalizing r with
  | nil => simp [turns]
  | cons source rest ih =>
    rw [leftOver, Nat.add_eq_zero_iff] at h
    obtain ⟨hfirst, hrest⟩ := h
    rw [turns, List.forall_mem_cons]
    refine ⟨fun hfailed => ?_, ih hrest⟩
    rw [PluginTurn.failed] at hfailed
    cases hresult : (r.loadPlugin w source).2 with
    | ok u =>
      rw [hresult] at hfailed
      cases hfailed
    | error fault =>
      rw [hresult] at hfirst
      exact after_eq_before hfirst

/-- Each plugin that fails is told once, in the order of the sources, with its fault. What it has registered
before it stopped is found in the end. The plugins that did not fail do not fail either when they are loaded
without the others; and then they leave the same registry just if none of the others had changed it. -/
theorem loadPlugins_skips_iff (r : Registry μ) (w : PluginWorld μ) (moduleNames : List String) (group : String) :
    let all := sources w moduleNames group
    let report := r.loadPlugins w moduleNames group
    let skipping := r.loadSources w (r.succeeding w all)
    (r.turns w all).map (·.source) = all ∧
    report.warnings = (r.turns w all).filterMap PluginTurn.warning? ∧
    (∀ turn ∈ r.turns w all, ∀ fault, turn.result = .error fault → ∃ ts,
      Stops w turn.source turn.after ts fault ∧
      (RegistryAct.registerMany ts).outcome turn.before = (.ok (), turn.after) ∧
      ∀ t ∈ ts, ∀ name, key name ∈ t.keys → report.registry.get name = .ok t) ∧
    skipping.warnings = [] ∧
    (report.registry = skipping.registry ↔
      ∀ turn ∈ r.turns w all, turn.failed = true → turn.after = turn.before) := by
  intro all report skipping
  obtain ⟨hwarnings, hlengths⟩ := loadSources_within (w := w) (Within.refl r) all
  refine ⟨map_source_turns r w all, warnings_loadSources r w all, ?_, hwarnings, ?_, fun h => ?_⟩
  · intro turn hturn fault hfault
    obtain ⟨hrun, hgrows⟩ := turn_of_mem hturn
    rw [hfault] at hrun
    rcases turn.before.loadPlugin_outcome w turn.source with ⟨ts, s, -, -, hrun'⟩ |
      ⟨ts, s, fault', hstops, hts, hrun'⟩
    · rw [hrun'] at hrun
      cases hrun
    · rw [hrun'] at hrun
      cases hrun
      refine ⟨ts, hstops, hts, fun t ht name hname => hgrows.get ?_⟩
      exact get_of_registerMany hts t ht name hname
  · intro heq
    have hregistry : (r.loadSources w all).registry = (r.loadSources w (r.succeeding w all)).registry := heq
    rw [hregistry] at hlengths
    exact after_eq_before_of_leftOver (by omega)
  · exact (loadSources_succeeding h).symm

end Turns

/-- A type of a kind that the program does not have itself. -/
def dot : ComponentType Unit := { name := "dot", title := "Dot", kind := () }

/-- A module whose procedure registers a type and then fails. -/
def halfModule : PluginModule Unit :=
  { name := "half", members := [("register_components", .procedure [.register dot, .fail "boom"])] }

/-- A world with that module alone. -/
def halfWorld : PluginWorld Unit := { modules := [halfModule], reach := fun _ _ => .error "" }

open scoped Plain in
/-- A module that fails after a type is told as failed, and yet its type is found; skipped, it would leave
nothing. -/
theorem half_module_leaves_type :
    (({} : Registry Unit).loadPlugins halfWorld ["half"] pluginGroup).warnings =
        ["warning: failed to load component plugin 'half': boom"] ∧
      (({} : Registry Unit).loadPlugins halfWorld ["half"] pluginGroup).registry.get "dot" = .ok dot ∧
      ({} : Registry Unit).succeeding halfWorld [.module "half"] = [] ∧
      (({} : Registry Unit).loadPlugins halfWorld ["half"] pluginGroup).registry ≠
        (({} : Registry Unit).loadSources halfWorld []).registry := by
  have hleft : (({} : Registry Unit).loadPlugins halfWorld ["half"] pluginGroup).registry =
      ({} : Registry Unit).adding dot := rfl
  refine ⟨rfl, ?_, rfl, ?_⟩
  · rw [hleft]
    decide +kernel
  · rw [hleft, loadSources]
    decide +kernel

end Registry

end PageTemplate
