/-
Supplying values to a component when some of them are files. A file is of use
to the picture of an image only, and every other property refuses it
(`Shape.result_assign_file`). So an assignment spends the file that its value is
(`Shape.spends_assign`), and a component those that its properties are handed
(`Component.spends_supply`).
-/
import PageTemplate.Proofs.Component.Confluence
import PageTemplate.Proofs.Session.Spending

namespace PageTemplate

/-- The file that a value is, by its number, if it is one. -/
def Value.files : Value → List Nat
  | .file number _ => [number]
  | _ => []

namespace Component

variable {c : Component} {values : Dictionary Value}

/-- The files that the properties of a component are handed, by their numbers. -/
def filesHanded (values : Dictionary Value) (c : Component) : List Nat :=
  (c.slots.handed values).flatMap fun (_, v) => v.files

/-- The files that are handed to a component are among the values. -/
theorem mem_filesHanded {number : Nat} (h : number ∈ c.filesHanded values) :
    ∃ name content, (name, Value.file number content) ∈ values := by
  obtain ⟨⟨name, v⟩, hmem, hnumber⟩ := List.mem_flatMap.1 h
  obtain ⟨awaited, -, -, -, hvalue⟩ := SlotMap.mem_handed_imp hmem
  cases v with
  | file n content =>
    obtain rfl := List.mem_singleton.1 hnumber
    exact ⟨awaited, content, hvalue⟩
  | _ => cases hnumber

end Component

variable {files : FileTree} {settings : Settings} {asked : Font.Request → String → Prop} {shelf : Font.Shelf}

variable [Platform]

theorem Font.spends_font (hfixed : Fixed files settings asked shelf) {request : Request} {text : String}
    (hasked : asked request text) :
    Act.Spends (Reaches files settings asked shelf) [] (Act.font files settings request text) := by
  constructor
  · intro s t name hs h
    rw [Act.outcome_font] at h
    split at h
    · cases h
    · rename_i found hfound
      cases h
      exact ⟨Session.fresh_nil, hs.ask hasked hfound, Session.spent_nil rfl⟩
  · intro s t hs ht _ _
    rw [result_font, result_font, hfixed _ ht request text hasked, hfixed _ hs request text hasked]

namespace Shape

variable {p : Property}

/-- No conversion takes a file, so every property but the picture of an image refuses it. -/
theorem result_assign_file {shape : Shape} (h : ∀ i, shape = .image i → p ≠ .data) (number : Nat)
    (content : List UInt8) (s : Session) :
    (shape.assign files settings p (.file number content)).result s = none := by
  cases shape with
  | image i =>
    cases p with
    | data => exact absurd rfl (h i rfl)
    | _ => rfl
  | _ => cases p <;> rfl

/-- No bytes at all are no picture. -/
theorem result_pictureOf_nil (source : String) (s : Session) :
    (Act.ofExcept .component (pictureOf source [])).result s = none := by
  have hnil := Platform.pictureSize_nil
  unfold pictureOf
  split
  · rename_i width height hsize
    rw [hsize] at hnil
    cases hnil
  · rfl

theorem spends_assign_data {held : Font.Shelf → Prop} (i : ImageShape) (number : Nat) (content : List UInt8) :
    Act.Spends held [number] (assign files settings (.image i) .data (.file number content)) := by
  have hpicture : Act.Spends held [number] (pictureOfValue (.file number content)) :=
    Act.spends_readOnce number content (fun bytes => (Act.sequential_spends held).ofExcept _)
      (result_pictureOf_nil "data")
  have himage := Act.spends_bind hpicture fun picture => Act.spends_pure { i with picture := some picture }
  exact Act.spends_bind himage fun i => Act.spends_pure (image i)

/-- An assignment spends the file that the value is. -/
theorem spends_assign (hfixed : Font.Fixed files settings asked shelf) (shape : Shape) {v : Value}
    (hasked : ∀ request text, p.fontRequest? = some request → v = .text text → asked request text) :
    Act.Spends (Font.Reaches files settings asked shelf) v.files (shape.assign files settings p v) := by
  cases v with
  | file number content =>
    by_cases h : ∀ i, shape = .image i → p ≠ .data
    · exact Act.spends_of_none (result_assign_file h number content)
    · simp only [not_forall, not_not] at h
      obtain ⟨i, rfl, rfl⟩ := h
      exact spends_assign_data i number content
  | _ =>
    refine shape.assign_induct (Act.sequential_spends _) ?_ nofun
    exact fun request text hrequest hv => Font.spends_font hfixed (hasked request text hrequest hv)

end Shape

namespace Component

variable {c : Component} {values : Dictionary Value}

section Serve

variable (hfixed : Font.Fixed files settings asked shelf)
  (hfonts : ∀ request text, c.slots.Asks values request text → asked request text)
include hfixed hfonts

theorem spends_assignNamed {name : String} {v : Value} (hmem : (name, v) ∈ c.slots.handed values)
    (shape : Shape) :
    Act.Spends (Font.Reaches files settings asked shelf) v.files (shape.assignNamed files settings name v) := by
  obtain ⟨awaited, names, hslots, hname, hvalue⟩ := SlotMap.mem_handed_imp hmem
  unfold Shape.assignNamed
  split
  · rename_i p hp
    refine shape.spends_assign hfixed ?_
    rintro request text hrequest rfl
    exact hfonts request text ⟨awaited, names, name, p, hslots, hname, hp, hrequest, hvalue⟩
  · exact Act.spends_of_none fun _ => rfl

theorem spends_serve {entry : String × List String × Value} (hentry : entry ∈ c.slots.served values)
    (shape : Shape) :
    Act.Spends (Font.Reaches files settings asked shelf) (entry.2.1.flatMap fun _ => entry.2.2.files)
      (serve files settings shape entry) := by
  have hnames : ∀ name ∈ entry.2.1, ∀ shape : Shape, Act.Spends (Font.Reaches files settings asked shelf)
      entry.2.2.files (shape.assignNamed files settings name entry.2.2) := fun name hname =>
    spends_assignNamed hfixed hfonts (List.mem_flatMap.2 ⟨entry, hentry, List.mem_map_of_mem hname⟩)
  have htold : ∀ shape : Shape, Act.Spends (Font.Reaches files settings asked shelf) []
      (tellResolved entry.1 entry.2.1 >>= fun _ => pure shape) := fun shape =>
    Act.spends_bind (Act.spends_tell _) fun _ => Act.spends_pure shape
  unfold serve SlotMap.serve
  rw [SlotMap.assignAll_eq, ← List.append_nil (entry.2.1.flatMap _)]
  exact Act.spends_bind (Act.spends_foldlM hnames shape) htold

/-- A component spends the files that its properties are handed. -/
theorem spends_supply (hslots : c.slots.Occupied) (hsettings : c.settings = some settings) :
    Act.Spends (Font.Reaches files settings asked shelf) (c.filesHanded values) (c.supply files values) := by
  have hhanded : c.filesHanded values =
      (c.slots.served values).flatMap (fun entry => entry.2.1.flatMap fun _ => entry.2.2.files) ++ [] := by
    simp [filesHanded, SlotMap.handed, List.flatMap_assoc, List.flatMap_map]
  rw [supply_eq files values hslots, hsettings, hhanded]
  have hserve := Act.spends_foldlM (fun entry hentry shape => spends_serve hfixed hfonts hentry shape) c.shape
  exact Act.spends_bind hserve fun shape => Act.spends_pure _

end Serve

end Component

end PageTemplate
