/-
Supplying values to a template, in any order and in any portions
(`supplyInTurn_confluent`).

A builder takes values as all its components and conditions do. Each of them
becomes the same for some values and then others as for all of them, and the
same for values in another order; so the builder does (`supply_append`,
`supply_congr`).
-/
import PageTemplate.Platform.Plain
import PageTemplate.Proofs.Component.Confluence
import PageTemplate.Proofs.Registry.Registering
import PageTemplate.Proofs.Template.Supplying

namespace PageTemplate

variable {files : FileTree} {settings : Settings} {asked : Font.Request → String → Prop} {shelf : Font.Shelf}
  {values others : Dictionary Value}

namespace Builder

/-- The fonts that supplying values may ask for. -/
def Asks (b : Builder) (values : Dictionary Value) (request : Font.Request) (text : String) : Prop :=
  ∃ g ∈ b.components, g.component.slots.Asks values request text

/-- Whether all components of a builder take values. -/
def Takes (settings : Settings) (asked : Font.Request → String → Prop) (b : Builder)
    (values : Dictionary Value) : Prop :=
  ∀ g ∈ b.components, g.component.Takes settings asked values

theorem Takes.mono {b : Builder} (h : b.Takes settings asked values) (hvalues : ∀ entry ∈ others, entry ∈ values) :
    b.Takes settings asked others := fun g hg => (h g hg).mono (.refl _) rfl hvalues

end Builder

namespace GatedComponent

variable [Platform]

theorem steady_supplyConditions (values : Dictionary Value) (c : Condition) :
    Act.Steady (Font.Held files settings asked shelf) (supplyConditions values c) := by
  intro s hs
  refine ⟨?_, fun t _ => by rw [result_supplyConditions, result_supplyConditions]⟩
  obtain ⟨journal, houtcome⟩ := outcome_supplyConditions values c s
  rw [houtcome]
  exact hs

variable {g : GatedComponent}

theorem steady_supply (hfixed : Font.Fixed files settings asked shelf)
    (h : g.component.Takes settings asked values) :
    Act.Steady (Font.Held files settings asked shelf) (g.supply files values) := by
  rw [supply_eq]
  refine (Component.steady_supply hfixed h).bind fun component => ?_
  exact (steady_supplyConditions values g.condition).bind fun condition => Act.steady_pure _

theorem takes_of_supply (h : g.component.Takes settings asked (values ++ others)) {g' : GatedComponent}
    {s : Session} (hstep : (g.supply files values).result s = some g') :
    g'.component.Takes settings asked others := by
  obtain ⟨t, houtcome⟩ := Act.result_eq_some_iff.1 hstep
  obtain ⟨⟨u, hcomponent⟩, -⟩ := supply_ok houtcome
  obtain ⟨hslots, -, hsettings⟩ := Component.supply_ok h.occupied hcomponent
  refine h.mono ?_ hsettings fun _ => List.mem_append_right values
  rw [hslots]
  exact SlotMap.without_sublist _ _

theorem supply_append (hfixed : Font.Fixed files settings asked shelf)
    (h : g.component.Takes settings asked (values ++ others)) {s : Session}
    (hs : Font.Held files settings asked shelf s) :
    (g.supply files (values ++ others)).result s =
      ((g.supply files values).result s).bind fun g' => (g'.supply files others).result s := by
  refine Option.ext fun g'' => ?_
  rw [result_supply, Component.supply_append hfixed h hs, Condition.setAll_append,
    Option.bind_eq_some_iff, Option.bind_eq_some_iff]
  constructor
  · rintro ⟨⟨component, hcomponent, hcomponent'⟩, hcondition⟩
    cases htold : g.condition.setAll values with
    | error fault => rw [htold] at hcondition; cases hcondition
    | ok told =>
      rw [htold] at hcondition
      have hstep : (g.supply files values).result s = some ⟨told, component⟩ :=
        result_supply.2 ⟨hcomponent, by rw [htold]; rfl⟩
      exact ⟨⟨told, component⟩, hstep, result_supply.2 ⟨hcomponent', hcondition⟩⟩
  · rintro ⟨g', hstep, hstep'⟩
    obtain ⟨hcomponent, hcondition⟩ := result_supply.1 hstep
    obtain ⟨hcomponent', hcondition'⟩ := result_supply.1 hstep'
    refine ⟨⟨g'.component, hcomponent, hcomponent'⟩, ?_⟩
    cases htold : g.condition.setAll values with
    | error fault => rw [htold] at hcondition; cases hcondition
    | ok told => rw [htold] at hcondition; cases hcondition; exact hcondition'

theorem supply_congr (hfixed : Font.Fixed files settings asked shelf)
    (h : g.component.Takes settings asked values) (hvalues : values.Consistent) (hkeys : "" ∉ values.keys)
    (hothers : ∀ entry, entry ∈ others ↔ entry ∈ values) {s : Session}
    (hs : Font.Held files settings asked shelf s) :
    (g.supply files others).result s = (g.supply files values).result s := by
  refine Option.ext fun g' => ?_
  rw [result_supply, result_supply,
    Component.supply_congr hfixed h hvalues hothers hs, g.condition.setAll_congr hvalues hkeys hothers]

end GatedComponent

namespace Builder

/-- Portions of values that agree wherever they share a variable. -/
def Agree (portions : List (Dictionary Value)) : Prop :=
  ∀ values ∈ portions, ∀ others ∈ portions, ∀ k v w,
    values.get? k = some v → others.get? k = some w → v = w

theorem Agree.consistent {portions : List (Dictionary Value)} (h : Agree portions)
    (hdistinct : ∀ values ∈ portions, values.Distinct) : Dictionary.Consistent portions.flatten := by
  intro k v w hv hw
  obtain ⟨values, hvalues, hv⟩ := List.mem_flatten.1 hv
  obtain ⟨others, hothers, hw⟩ := List.mem_flatten.1 hw
  exact h values hvalues others hothers k v w (Dictionary.get?_of_mem (hdistinct _ hvalues) hv)
    (Dictionary.get?_of_mem (hdistinct _ hothers) hw)

section

variable [Platform]

/-- Supplies several portions of values, one after the other. -/
def supplyInTurn (files : FileTree) (portions : List (Dictionary Value)) (b : Builder) :
    BuilderAct ShapeKind Component Builder :=
  portions.foldlM (fun b values => b.supply files values) b

variable {b : Builder}

theorem steady_components (hfixed : Font.Fixed files settings asked shelf)
    (h : b.Takes settings asked values) :
    ∀ g ∈ b.components, Act.Steady (Font.Held files settings asked shelf) (g.supply files values) :=
  fun g hg => GatedComponent.steady_supply hfixed (h g hg)

theorem result_supply (hfixed : Font.Fixed files settings asked shelf) (h : b.Takes settings asked values)
    {s : Session} (hs : Font.Held files settings asked shelf s) :
    result (b.supply files values) s =
      (b.components.mapM fun g => (GatedComponent.supply files values g).result s).map fun gs =>
        { b with components := gs } := by
  rw [(supply_eq files values b s).2, Act.result_mapM (steady_components hfixed h) hs]

/-- Supplying values is steady: it leaves the fonts as they are held, and gives one result wherever they
are so held. -/
theorem steady_supply (hfixed : Font.Fixed files settings asked shelf) (h : b.Takes settings asked values)
    {s : Session} (hs : Font.Held files settings asked shelf s) :
    Font.Held files settings asked shelf (outcome (b.supply files values) s).2 ∧
      ∀ t, Font.Held files settings asked shelf t →
        result (b.supply files values) t = result (b.supply files values) s := by
  have hsteady := Act.steady_mapM (steady_components hfixed h) s hs
  rw [(supply_eq files values b s).1]
  refine ⟨hsteady.1, fun t ht => ?_⟩
  rw [(supply_eq files values b t).2, (supply_eq files values b s).2, hsteady.2 t ht]

theorem takes_of_supply (hfixed : Font.Fixed files settings asked shelf)
    (h : b.Takes settings asked (values ++ others)) {b' : Builder} {s : Session}
    (hs : Font.Held files settings asked shelf s) (hstep : result (b.supply files values) s = some b') :
    b'.Takes settings asked others := by
  have hfirst : b.Takes settings asked values := h.mono fun _ => List.mem_append_left others
  rw [result_supply hfixed hfirst hs] at hstep
  obtain ⟨gs, hgs, rfl⟩ := Option.map_eq_some_iff.1 hstep
  intro g' hg'
  obtain ⟨g, hg, hstep⟩ := exists_of_mem_mapM hgs hg'
  exact GatedComponent.takes_of_supply (h g hg) hstep

/-- Supplying some values and then others is supplying all of them. -/
theorem supply_append (hfixed : Font.Fixed files settings asked shelf)
    (h : b.Takes settings asked (values ++ others)) {s : Session}
    (hs : Font.Held files settings asked shelf s) :
    result (b.supply files (values ++ others)) s =
      (result (b.supply files values) s).bind fun b' => result (b'.supply files others) s := by
  have hfirst : b.Takes settings asked values := h.mono fun _ => List.mem_append_left others
  have heach : (b.components.mapM fun g => (GatedComponent.supply files (values ++ others) g).result s) =
      (b.components.mapM fun g => (GatedComponent.supply files values g).result s).bind fun gs =>
        gs.mapM fun g => (GatedComponent.supply files others g).result s := by
    rw [mapM_bind]
    exact mapM_congr fun g hg => GatedComponent.supply_append hfixed (h g hg) hs
  have hsecond := fun b' (hstep : result (b.supply files values) s = some b') =>
    takes_of_supply hfixed h hs hstep
  rw [result_supply hfixed h hs, heach]
  rw [result_supply hfixed hfirst hs] at hsecond ⊢
  cases hgs : b.components.mapM fun g => (GatedComponent.supply files values g).result s with
  | none => rfl
  | some gs =>
    rw [hgs] at hsecond
    exact (result_supply hfixed (hsecond _ rfl) hs).symm

/-- Supplying the same values in another way is supplying them. -/
theorem supply_congr (hfixed : Font.Fixed files settings asked shelf) (h : b.Takes settings asked values)
    (hvalues : values.Consistent) (hkeys : "" ∉ values.keys)
    (hothers : ∀ entry, entry ∈ others ↔ entry ∈ values) {s : Session}
    (hs : Font.Held files settings asked shelf s) :
    result (b.supply files others) s = result (b.supply files values) s := by
  have hother : b.Takes settings asked others := h.mono fun entry => (hothers entry).1
  rw [result_supply hfixed hother hs, result_supply hfixed h hs]
  congr 1
  exact mapM_congr fun g hg => GatedComponent.supply_congr hfixed (h g hg) hvalues hkeys hothers hs

theorem supply_nil (hfixed : Font.Fixed files settings asked shelf) (h : b.Takes settings asked [])
    {s : Session} (hs : Font.Held files settings asked shelf s) : result (b.supply files []) s = some b := by
  have heach : ∀ g ∈ b.components, (GatedComponent.supply files [] g).result s = some g := fun g hg =>
    GatedComponent.result_supply.2 ⟨Component.supply_nil hfixed (h g hg) hs, rfl⟩
  rw [result_supply hfixed h hs, mapM_congr heach, mapM_some]
  rfl

/-- Supplying several portions in turn is supplying all their values at once. -/
theorem result_supplyInTurn (hfixed : Font.Fixed files settings asked shelf)
    {portions : List (Dictionary Value)} (h : b.Takes settings asked portions.flatten) {s : Session}
    (hs : Font.Held files settings asked shelf s) :
    result (b.supplyInTurn files portions) s = result (b.supply files portions.flatten) s := by
  induction portions generalizing b s with
  | nil => exact (supply_nil hfixed h hs).symm
  | cons values portions ih =>
    have hfirst : b.Takes settings asked values := h.mono fun _ => List.mem_append_left _
    have hheld := (steady_supply hfixed hfirst hs).1
    have hnext := fun b' (hstep : result (b.supply files values) s = some b') =>
      takes_of_supply hfixed h hs hstep
    have hresult : result (b.supply files values) s = (outcome (b.supply files values) s).1.toOption := rfl
    rw [List.flatten_cons, supply_append hfixed h hs, hresult]
    rw [result, supplyInTurn, List.foldlM_cons, outcome_bind]
    rcases houtcome : outcome (b.supply files values) s with ⟨_ | b', t⟩
    · rfl
    · rw [hresult, houtcome] at hnext
      rw [houtcome] at hheld
      have hb' : b'.Takes settings asked portions.flatten := hnext b' rfl
      exact (ih hb' hheld).trans ((steady_supply hfixed hb' hs).2 t hheld)

/-- Portions that hold the same values come to the same. -/
theorem supplyInTurn_eq (hfixed : Font.Fixed files settings asked shelf) (h : b.Takes settings asked values)
    (hvalues : values.Consistent) (hkeys : "" ∉ values.keys) {portions : List (Dictionary Value)}
    (hportions : ∀ entry, entry ∈ portions.flatten ↔ entry ∈ values) {s : Session}
    (hs : Font.Held files settings asked shelf s) :
    result (b.supplyInTurn files portions) s = result (b.supply files values) s := by
  rw [result_supplyInTurn hfixed (h.mono fun entry => (hportions entry).1) hs]
  exact supply_congr hfixed h hvalues hkeys hportions hs

/-- A loaded builder takes values, whatever fonts it asks for. -/
theorem Loaded.takes (hb : b.Loaded) (hfiles : ∀ entry ∈ values, entry.2.isFile = false) :
    b.Takes b.settings (b.Asks values) values := fun g hg =>
  ⟨⟨_, (hb.each g hg).sound⟩, (hb.each g hg).settings_eq, hfiles, fun _ _ h => ⟨g, hg, h⟩⟩

/-- Supplying several portions of values in turn goes through just if supplying their union at once
does, and then both give the same builder. The order of the portions makes no difference, nor does the
order inside them, nor whether a portion comes again. -/
theorem supplyInTurn_confluent (hb : b.Loaded) {portions : List (Dictionary Value)} {s : Session}
    (hdistinct : ∀ values ∈ portions, values.Distinct) (hagree : Agree portions)
    (hkeys : ∀ values ∈ portions, "" ∉ values.keys)
    (hfiles : ∀ values ∈ portions, ∀ entry ∈ values, entry.2.isFile = false)
    (hfonts : Font.Fixed files b.settings (b.Asks portions.flatten) s.shelf) :
    result (b.supplyInTurn files portions) s =
        result (b.supply files (Dictionary.ofEntries portions.flatten)) s ∧
      (∀ others : List (Dictionary Value),
        (∀ entry, (∃ values ∈ others, entry ∈ values) ↔ ∃ values ∈ portions, entry ∈ values) →
          result (b.supplyInTurn files others) s = result (b.supplyInTurn files portions) s) ∧
      ∀ values ∈ portions,
        result (b.supplyInTurn files [values, values]) s = result (b.supply files values) s := by
  have hmem : ∀ {portions : List (Dictionary Value)} {entry : String × Value},
      entry ∈ portions.flatten ↔ ∃ values ∈ portions, entry ∈ values := List.mem_flatten
  have htakes : b.Takes b.settings (b.Asks portions.flatten) portions.flatten := by
    refine hb.takes fun entry hentry => ?_
    obtain ⟨values, hvalues, hentry⟩ := hmem.1 hentry
    exact hfiles values hvalues entry hentry
  have hconsistent := hagree.consistent hdistinct
  have hkeys : "" ∉ Dictionary.keys portions.flatten := fun hkey => by
    obtain ⟨entry, hentry, hname⟩ := List.mem_map.1 hkey
    obtain ⟨values, hvalues, hentry⟩ := hmem.1 hentry
    exact hkeys values hvalues (hname ▸ List.mem_map_of_mem hentry)
  have hheld : Font.Held files b.settings (b.Asks portions.flatten) s.shelf s := .start
  have hself := supplyInTurn_eq hfonts htakes hconsistent hkeys (fun _ => .rfl) hheld
  refine ⟨?_, fun others hothers => ?_, fun values hvalues => ?_⟩
  · rw [hself]
    have hunion : ∀ entry, entry ∈ Dictionary.ofEntries portions.flatten ↔ entry ∈ portions.flatten :=
      fun _ => Dictionary.mem_ofEntries hconsistent
    exact (supply_congr hfonts htakes hconsistent hkeys hunion hheld).symm
  · rw [hself]
    exact supplyInTurn_eq hfonts htakes hconsistent hkeys (fun entry => by rw [hmem, hmem, hothers]) hheld
  · have hsub : ∀ entry ∈ values, entry ∈ portions.flatten :=
      fun _ hentry => hmem.2 ⟨values, hvalues, hentry⟩
    have hkeys' : "" ∉ values.keys := fun hkey => by
      obtain ⟨entry, hentry, hname⟩ := List.mem_map.1 hkey
      exact hkeys (hname ▸ List.mem_map_of_mem (hsub entry hentry))
    exact supplyInTurn_eq hfonts (htakes.mono hsub) (hdistinct values hvalues).consistent hkeys'
      (by simp) hheld

end

/-- A template of a caption, its text and its font and both its coordinates waiting. -/
def captionDocument : Json :=
  .object [("components", .array [.object [("type", .string "text"),
    ("conditional", .object [("name", .string "caption"), ("operator", .string "startswith"),
      ("value", .string "A")]),
    ("properties", .object [("content", .string "$caption$"),
      ("font", .object [("fontName", .string "$font$")]), ("startX", .string "$place$"),
      ("startY", .string "$place$"), ("maxWidth", .string "90"), ("size", .string "12"),
      ("colour", .object [("R", .string "0"), ("G", .string "0"), ("B", .string "0"),
        ("A", .string "255")])])]])]

/-- The slots of the caption. -/
def captionSlots : SlotMap :=
  [("caption", ["content"]), ("font", ["fontName"]), ("place", ["startX", "startY"])]

theorem eq_name_of_captionSlots {values : Dictionary Value} {request : Font.Request} {text : String}
    (h : captionSlots.Asks values request text) : request = .name := by
  obtain ⟨v, names, name, p, hmem, hname, hp, hrequest, -⟩ := h
  have hp' : p = .content ∨ p = .fontName ∨ p = .startX ∨ p = .startY := by
    simp only [captionSlots, List.mem_cons, Prod.mk.injEq, List.not_mem_nil, or_false] at hmem
    rcases hmem with ⟨-, rfl⟩ | ⟨-, rfl⟩ | ⟨-, rfl⟩
    · obtain rfl := List.mem_singleton.1 hname
      exact .inl (Option.some.inj (hp.symm.trans rfl))
    · obtain rfl := List.mem_singleton.1 hname
      exact .inr (.inl (Option.some.inj (hp.symm.trans rfl)))
    · rcases List.mem_pair.1 hname with rfl | rfl
      · exact .inr (.inr (.inl (Option.some.inj (hp.symm.trans rfl))))
      · exact .inr (.inr (.inr (Option.some.inj (hp.symm.trans rfl))))
  rcases hp' with rfl | rfl | rfl | rfl <;> cases hrequest
  rfl

/-- Values for the caption in two portions, one of them in both. -/
def captionPortions : List (Dictionary Value) :=
  [[("caption", .text "A page")],
    [("place", .json (.int 5)), ("font", .text "Helvetica"), ("caption", .text "A page")]]

/-- Without folders to look into, asking for fonts by name registers none. -/
theorem fixed_of_captionSlots [Platform] {b : Builder} (hsettings : b.settings = {})
    (hslots : ∀ g ∈ b.components, g.component.slots = captionSlots) {values : Dictionary Value} :
    Font.Fixed {} b.settings (b.Asks values) [] := by
  refine Font.fixed_of_unchanged fun request text found hasked hfound => ?_
  obtain ⟨g, hg, hasked⟩ := hasked
  rw [hslots g hg] at hasked
  rw [eq_name_of_captionSlots hasked, hsettings, Font.ask, Font.byName] at hfound
  split at hfound
  · cases hfound; rfl
  · cases hfound

theorem agree_captionPortions : Agree captionPortions := by
  intro values hvalues others hothers k v w hv hw
  have hflat : (k, v) ∈ captionPortions.flatten ∧ (k, w) ∈ captionPortions.flatten :=
    ⟨List.mem_flatten_of_mem hvalues (Dictionary.mem_of_get? hv),
      List.mem_flatten_of_mem hothers (Dictionary.mem_of_get? hw)⟩
  simp only [captionPortions, List.flatten_cons, List.flatten_nil, List.append_nil, List.cons_append,
    List.nil_append, List.mem_cons, Prod.mk.injEq, List.not_mem_nil, or_false] at hflat
  grind

open scoped Plain in
theorem supplyInTurn_confluent_caption :
    ∃ b b' : Builder, b.Loaded ∧ result (b.supplyInTurn {} captionPortions) {} = some b' ∧
      result (b.supply {} (Dictionary.ofEntries captionPortions.flatten)) {} = some b' ∧
      result (b.supplyInTurn {} captionPortions.reverse) {} = some b' := by
  have hrun : Act.passes (fun b =>
      b.settings = {} && b.components.map (·.component.slots) = [captionSlots] &&
        (result (b.supplyInTurn {} captionPortions) {}).isSome)
      ((loadDocument ⟨{}, default⟩ { registry := Registry.builtin, settings := {} }
        captionDocument).outcome {}) = true := by
    rw [Registry.builtin_eq]
    decide +kernel
  obtain ⟨b, t, hload, htest⟩ := Act.exists_of_passes hrun
  simp only [Bool.and_eq_true, decide_eq_true_eq] at htest
  obtain ⟨⟨hsettings, hslots⟩, hsome⟩ := htest
  obtain ⟨b', hb'⟩ := Option.isSome_iff_exists.1 hsome
  have hb : b.Loaded := ⟨_, _, _, _, _, hload⟩
  have hfonts : Font.Fixed {} b.settings (b.Asks captionPortions.flatten) [] := by
    refine fixed_of_captionSlots hsettings fun g hg => ?_
    have hmem := List.mem_map_of_mem (f := fun g : GatedComponent => g.component.slots) hg
    rw [hslots] at hmem
    exact List.mem_singleton.1 hmem
  have hdistinct : ∀ values ∈ captionPortions, values.Distinct := by
    simp [captionPortions, Dictionary.Distinct, Dictionary.keys]
  have hfiles : ∀ values ∈ captionPortions, ∀ entry ∈ values, entry.2.isFile = false := by decide
  obtain ⟨hunion, hothers, -⟩ :=
    supplyInTurn_confluent (s := {}) hb hdistinct agree_captionPortions (by decide) hfiles hfonts
  refine ⟨b, b', hb, hb', hunion ▸ hb', ?_⟩
  rw [hothers captionPortions.reverse (by simp)]
  exact hb'

end Builder

end PageTemplate
