/-
Supplying values to a component, in any order and in any portions.

While the fonts that are asked for are fixed, and no value is a file that can be
read only once, what a component becomes depends on the values alone
(`result_supply`). Supplying some values and then others is supplying all of
them (`supply_append`), and supplying the same values in another order, or some
of them again, is supplying them (`supply_congr`).
-/
import PageTemplate.Proofs.Component.Independence
import PageTemplate.Proofs.Component.Supplying
import PageTemplate.Proofs.Font.Shelf

namespace PageTemplate

/-- Whether a value is a file, which has its content only once. -/
def Value.isFile : Value → Bool
  | .file _ _ => true
  | _ => false

/-- The fonts that supplying values to slots may ask for: those that the properties of a font get. -/
def SlotMap.Asks (slots : SlotMap) (values : Dictionary Value) (request : Font.Request)
    (text : String) : Prop :=
  ∃ v names name p, (v, names) ∈ slots ∧ name ∈ names ∧ Property.ofName? name = some p ∧
    p.fontRequest? = some request ∧ (v, Value.text text) ∈ values

variable {files : FileTree} {settings : Settings} {asked : Font.Request → String → Prop} {shelf : Font.Shelf}
  {c : Component} {values others : Dictionary Value}

namespace Component

/-- Whether supplying values to a component with sound slots reads no file and asks for certain fonts
only. -/
structure Takes (settings : Settings) (asked : Font.Request → String → Prop) (c : Component)
    (values : Dictionary Value) : Prop where
  sound : ∃ kind, c.slots.Sound kind
  settings : c.settings = some settings
  files : ∀ entry ∈ values, entry.2.isFile = false
  fonts : ∀ request text, c.slots.Asks values request text → asked request text

theorem Takes.occupied (h : Takes settings asked c values) : c.slots.Occupied :=
  h.sound.elim fun _ h => h.occupied

theorem Takes.distinct (h : Takes settings asked c values) : c.slots.Distinct :=
  h.sound.elim fun _ h => h.distinct

/-- What takes some values takes any of them, also when fewer properties wait. -/
theorem Takes.mono {d : Component} (h : Takes settings asked c values)
    (hslots : d.slots.Sublist c.slots) (hsettings : d.settings = c.settings)
    (hvalues : ∀ entry ∈ others, entry ∈ values) : Takes settings asked d others := by
  refine ⟨h.sound.imp fun kind hsound => hsound.sublist hslots, hsettings.trans h.settings,
    fun entry hentry => h.files entry (hvalues entry hentry), ?_⟩
  rintro request text ⟨v, names, name, p, hmem, hname, hp, hrequest, hvalue⟩
  exact h.fonts request text ⟨v, names, name, p, hslots.subset hmem, hname, hp, hrequest, hvalues _ hvalue⟩

end Component

variable [Platform]

/-- The shape once properties have been given values, one after the other. -/
def Shape.settled (files : FileTree) (settings : Settings) (s : Session) (shape : Shape)
    (handed : List (String × Value)) : Option Shape :=
  handed.foldlM (fun shape (name, v) => (Shape.assignNamed files settings shape name v).result s) shape

namespace Component

/-- Handing a property its value is steady. -/
theorem Takes.steady_handed (hfixed : Font.Fixed files settings asked shelf)
    (h : Takes settings asked c values) {name : String} {v : Value}
    (hmem : (name, v) ∈ c.slots.handed values) (shape : Shape) :
    Act.Steady (Font.Held files settings asked shelf) (shape.assignNamed files settings name v) := by
  obtain ⟨awaited, names, hslots, hname, hvalue⟩ := SlotMap.mem_handed_imp hmem
  unfold Shape.assignNamed
  split
  · rename_i p hp
    refine shape.assign_induct (Act.sequential_steady _) ?_ ?_
    · rintro request text hrequest rfl
      exact Font.steady_font hfixed
        (h.fonts request text ⟨awaited, names, name, p, hslots, hname, hp, hrequest, hvalue⟩)
    · rintro number content rfl
      cases h.files _ hvalue
  · exact Act.steady_throw _

section Serve

variable (hfixed : Font.Fixed files settings asked shelf) (h : Takes settings asked c values)
  {entry : String × List String × Value} (hentry : entry ∈ c.slots.served values)
include hfixed h hentry

theorem steady_names : ∀ name ∈ entry.2.1, ∀ shape : Shape,
    Act.Steady (Font.Held files settings asked shelf) (shape.assignNamed files settings name entry.2.2) :=
  fun _ hname => h.steady_handed hfixed (List.mem_flatMap.2 ⟨entry, hentry, List.mem_map_of_mem hname⟩)

theorem steady_serve (shape : Shape) :
    Act.Steady (Font.Held files settings asked shelf) (serve files settings shape entry) := by
  unfold serve SlotMap.serve
  rw [SlotMap.assignAll_eq]
  refine (Act.steady_foldlM (steady_names hfixed h hentry) shape).bind fun shape => ?_
  exact (Font.steady_tell _).bind fun _ => Act.steady_pure shape

theorem result_serve (shape : Shape) {s : Session} (hs : Font.Held files settings asked shelf s) :
    (serve files settings shape entry).result s =
      shape.settled files settings s (entry.2.1.map fun name => (name, entry.2.2)) := by
  have hnames := steady_names hfixed h hentry
  have htold : ∀ shape : Shape, Act.Steady (Font.Held files settings asked shelf)
      (tellResolved entry.1 entry.2.1 >>= fun _ => pure shape) := fun shape =>
    (Font.steady_tell _).bind fun _ => Act.steady_pure shape
  unfold serve SlotMap.serve
  rw [SlotMap.assignAll_eq, Act.result_bind (Act.steady_foldlM hnames shape) htold hs,
    Act.result_foldlM hnames shape hs, Shape.settled, List.foldlM_map]
  exact Option.bind_fun_some _

end Serve

theorem supply_eq_of_takes (files : FileTree) (h : Takes settings asked c values) :
    c.supply files values = do
      let shape ← (c.slots.served values).foldlM (serve files settings) c.shape
      return { c with shape := shape, slots := c.slots.without values } := by
  rw [supply_eq files values h.occupied, h.settings]
  rfl

theorem steady_supply (hfixed : Font.Fixed files settings asked shelf) (h : Takes settings asked c values) :
    Act.Steady (Font.Held files settings asked shelf) (c.supply files values) := by
  rw [supply_eq_of_takes files h]
  refine (Act.steady_foldlM (fun entry hentry shape => steady_serve hfixed h hentry shape) c.shape).bind ?_
  exact fun shape => Act.steady_pure _

/-- What becomes of a component is up to what is handed to its properties. -/
theorem result_supply (hfixed : Font.Fixed files settings asked shelf) (h : Takes settings asked c values)
    {s : Session} (hs : Font.Held files settings asked shelf s) :
    (c.supply files values).result s =
      (c.shape.settled files settings s (c.slots.handed values)).map fun shape =>
        { c with shape := shape, slots := c.slots.without values } := by
  have hserve : ∀ entry ∈ c.slots.served values, ∀ shape,
      Act.Steady (Font.Held files settings asked shelf) (serve files settings shape entry) :=
    fun entry hentry shape => steady_serve hfixed h hentry shape
  rw [supply_eq_of_takes files h, Act.result_map, Act.result_foldlM hserve c.shape hs, SlotMap.handed,
    Shape.settled, foldlM_flatMap]
  congr 1
  exact foldlM_congr (fun entry hentry shape => result_serve hfixed h hentry shape hs) c.shape

theorem supply_nil (hfixed : Font.Fixed files settings asked shelf) (h : Takes settings asked c [])
    {s : Session} (hs : Font.Held files settings asked shelf s) : (c.supply files []).result s = some c := by
  rw [result_supply hfixed h hs, SlotMap.without_nil]
  rfl

/-- Supplying some values and then others is supplying all of them. -/
theorem supply_append (hfixed : Font.Fixed files settings asked shelf)
    (h : Takes settings asked c (values ++ others)) {s : Session}
    (hs : Font.Held files settings asked shelf s) :
    (c.supply files (values ++ others)).result s =
      ((c.supply files values).result s).bind fun d => (d.supply files others).result s := by
  have hfirst : Takes settings asked c values :=
    h.mono (.refl _) rfl fun _ => List.mem_append_left others
  have hsecond : ∀ shape,
      Takes settings asked { c with shape := shape, slots := c.slots.without values } others := fun shape =>
    h.mono (SlotMap.without_sublist _ _) rfl fun _ => List.mem_append_right values
  rw [result_supply hfixed h hs, result_supply hfixed hfirst hs, SlotMap.handed_append h.occupied,
    SlotMap.without_append, Shape.settled, List.foldlM_append]
  change Option.map _ (Option.bind (c.shape.settled files settings s (c.slots.handed values)) _) = _
  cases c.shape.settled files settings s (c.slots.handed values) with
  | none => rfl
  | some shape => exact (result_supply hfixed (hsecond shape) hs).symm

/-- Supplying the same values in another way is supplying them. -/
theorem supply_congr (hfixed : Font.Fixed files settings asked shelf) (h : Takes settings asked c values)
    (hvalues : values.Consistent) (hothers : ∀ entry, entry ∈ others ↔ entry ∈ values) {s : Session}
    (hs : Font.Held files settings asked shelf s) :
    (c.supply files others).result s = (c.supply files values).result s := by
  obtain ⟨kind, hsound⟩ := h.sound
  have hother : Takes settings asked c others := h.mono (.refl _) rfl fun entry => (hothers entry).1
  have hnodup := SlotMap.nodup_handed h.distinct h.occupied hsound.nodup others
  have hperm := SlotMap.handed_congr h.distinct h.occupied hsound.nodup hvalues hothers
  rw [result_supply hfixed hother hs, result_supply hfixed h hs, SlotMap.without_congr c.slots hothers]
  congr 1
  refine foldlM_perm hperm ?_ c.shape
  rintro ⟨name, v⟩ hv ⟨other, w⟩ hw
  by_cases hname : name = other
  · subst hname
    cases List.inj_on_of_nodup_map hnodup hv hw rfl
    exact Commute.refl _
  · -- Two properties that wait write to different parts of the shape.
    have hwaits := fun {name : String} {v : Value} (hmem : (name, v) ∈ c.slots.handed others) =>
      (SlotMap.handed_perm h.distinct h.occupied others).subset
        (List.mem_append_left _ (List.mem_map_of_mem (f := (·.1)) hmem))
    exact Shape.commute_assignNamed files settings s v w fun htarget =>
      hname (List.inj_on_of_nodup_map hsound.apart (hwaits hv) (hwaits hw) htarget)

end Component

end PageTemplate
