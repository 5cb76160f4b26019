/-
What components of a template share. Each gets its value of a variable as it
would by itself, but for files: a file has its content for the first component
that reads it and none for the next. So a builder takes values just if each of
its components takes them by itself and no two of them are handed the same file
(`Builder.taken_as_alone_iff`).
-/
import PageTemplate.Platform.Plain
import PageTemplate.Proofs.Component.Sharing
import PageTemplate.Proofs.Registry.Registering
import PageTemplate.Proofs.Template.Confluence

namespace PageTemplate

section

variable [Platform] {files : FileTree} {values : Dictionary Value}

theorem GatedComponent.spends_supplyConditions {held : Font.Shelf → Prop} (c : Condition) :
    Act.Spends held [] (supplyConditions values c) := by
  refine Act.spends_nil (fun s => ?_) fun s t => ?_
  · obtain ⟨journal, houtcome⟩ := outcome_supplyConditions values c s
    rw [houtcome]
    exact ⟨rfl, rfl⟩
  · rw [result_supplyConditions, result_supplyConditions]

namespace Builder

variable {b : Builder} {s : Session}

/-- The components of a loaded builder spend the files that they are handed. -/
theorem Loaded.spends (hb : b.Loaded) (hfonts : Font.Fixed files b.settings (b.Asks values) s.shelf) :
    ∀ g ∈ b.components,
      Act.Spends (Font.Reaches files b.settings (b.Asks values) s.shelf) (g.component.filesHanded values)
        (g.component.supply files values) := by
  intro g hg
  have hloaded := hb.each g hg
  exact Component.spends_supply hfonts (fun _ _ hasked => ⟨g, hg, hasked⟩) hloaded.sound.occupied
    hloaded.settings_eq

theorem Loaded.spends_gated (hb : b.Loaded) (hfonts : Font.Fixed files b.settings (b.Asks values) s.shelf) :
    ∀ g ∈ b.components,
      Act.Spends (Font.Reaches files b.settings (b.Asks values) s.shelf) (g.component.filesHanded values)
        (g.supply files values) := by
  intro g hg
  rw [GatedComponent.supply_eq, ← List.append_nil (g.component.filesHanded values)]
  refine Act.spends_bind (hb.spends hfonts g hg) fun component => ?_
  exact Act.spends_bind (GatedComponent.spends_supplyConditions g.condition) fun condition => Act.spends_pure _

/-- A builder takes values if its components do by themselves and no file is handed out twice. -/
theorem result_supply_alone (hb : b.Loaded) (hfonts : Font.Fixed files b.settings (b.Asks values) s.shelf)
    (hfiles : ∀ name number content, (name, Value.file number content) ∈ values → number ∉ s.spent)
    {b' : Builder} :
    result (b.supply files values) s = some b' ↔
      (b.components.flatMap fun g => g.component.filesHanded values).Nodup ∧
        ∃ gs, List.Forall₂ (fun g g' => (GatedComponent.supply files values g).result s = some g') b.components gs ∧
          { b with components := gs } = b' := by
  have hunspent : ∀ n ∈ b.components.flatMap fun g => g.component.filesHanded values, n ∉ s.spent := by
    intro n hn
    obtain ⟨g, -, hn⟩ := List.mem_flatMap.1 hn
    obtain ⟨name, content, hvalue⟩ := Component.mem_filesHanded hn
    exact hfiles name n content hvalue
  rw [(supply_eq files values b s).2, Option.map_eq_some_iff]
  simp only [Act.result_mapM_of_spends (hb.spends_gated hfonts) .start hunspent .start, and_assoc,
    exists_and_left, Session.fresh_iff_nodup hunspent]

/-- A builder takes values just if each of its components takes them by itself and no two of them are handed
the same file. What becomes of each component then is what becomes of it by itself. -/
theorem taken_as_alone_iff (hb : b.Loaded)
    (hconditions : ∀ g ∈ b.components, ∃ told, g.condition.setAll values = .ok told)
    (hfonts : Font.Fixed files b.settings (b.Asks values) s.shelf)
    (hfiles : ∀ name number content, (name, Value.file number content) ∈ values → number ∉ s.spent) :
    ((∃ b', result (b.supply files values) s = some b') ↔
      (∀ g ∈ b.components, ∃ c, (g.component.supply files values).result s = some c) ∧
        b.components.Pairwise fun g h =>
          (g.component.filesHanded values).Disjoint (h.component.filesHanded values)) ∧
    ∀ b', result (b.supply files values) s = some b' →
      b' = { b with components := b'.components } ∧
        List.Forall₂ (fun g g' => (g.component.supply files values).result s = some g'.component ∧
          g.condition.setAll values = .ok g'.condition) b.components b'.components := by
  simp only [result_supply_alone hb hfonts hfiles]
  refine ⟨⟨?_, ?_⟩, ?_⟩
  · rintro ⟨b', hnodup, gs, hall, -⟩
    refine ⟨fun g hg => ?_, (List.nodup_flatMap.1 hnodup).2⟩
    obtain ⟨g', hg'⟩ := exists_forall₂_iff.1 ⟨gs, hall⟩ g hg
    exact ⟨g'.component, (GatedComponent.result_supply.1 hg').1⟩
  · rintro ⟨halone, hapart⟩
    have hnodup : ∀ g ∈ b.components, (g.component.filesHanded values).Nodup := by
      intro g hg
      obtain ⟨c, hc⟩ := halone g hg
      obtain ⟨t, hrun⟩ := Act.result_eq_some_iff.1 hc
      exact ((hb.spends hfonts g hg).ok .start hrun).1.1
    have hgated : ∀ g ∈ b.components, ∃ g', (GatedComponent.supply files values g).result s = some g' := by
      intro g hg
      obtain ⟨c, hc⟩ := halone g hg
      obtain ⟨told, htold⟩ := hconditions g hg
      exact ⟨⟨told, c⟩, GatedComponent.result_supply.2 ⟨hc, by rw [htold]; rfl⟩⟩
    obtain ⟨gs, hgs⟩ := exists_forall₂_iff.2 hgated
    exact ⟨_, List.nodup_flatMap.2 ⟨hnodup, hapart⟩, gs, hgs, rfl⟩
  · rintro _ ⟨-, gs, hall, rfl⟩
    refine ⟨rfl, hall.imp fun g g' hg' => ?_⟩
    obtain ⟨t, hrun⟩ := Act.result_eq_some_iff.1 hg'
    exact ⟨(GatedComponent.result_supply.1 hg').1, (GatedComponent.supply_ok hrun).2⟩

end Builder

end

namespace Builder

/-- A template of two images whose pictures wait, each for its variable. -/
def photosDocument (first second : String) : Json :=
  let photo := fun awaited => Json.object [("type", .string "image"),
    ("properties", .object [("data", .string ("$" ++ awaited ++ "$")), ("topLeftX", .string "0"),
      ("topLeftY", .string "0"), ("width", .string "1"), ("height", .string "1")])]
  .object [("components", .array [photo first, photo second])]

/-- The file of a picture of one black pixel. -/
def pixel : List UInt8 :=
  Plain.Pictures.signature ++ Plain.Pictures.chunk "IHDR" [0, 0, 0, 1, 0, 0, 0, 1, 8, 2, 0, 0, 0] ++
    Plain.Pictures.chunk "IDAT" [120, 156, 99, 96, 96, 96, 0, 0, 0, 4, 0, 1] ++ Plain.Pictures.chunk "IEND" []

/-- The value of a file of that picture. -/
def photo (number : Nat) : Value := .file number pixel

/-- The picture of an image is no font. -/
theorem fixed_of_data [Platform] {files : FileTree} {values : Dictionary Value} {b : Builder} (hslots : ∀ g ∈ b.components, ∀ entry ∈ g.component.slots, entry.2 = ["data"])
    (shelf : Font.Shelf) : Font.Fixed files b.settings (b.Asks values) shelf := by
  refine Font.fixed_of_unchanged fun request text found hasked _ => ?_
  obtain ⟨g, hg, v, names, name, p, hmem, hname, hp, hrequest, -⟩ := hasked
  obtain rfl := hslots g hg _ hmem
  obtain rfl := List.mem_singleton.1 hname
  cases hp
  cases hrequest

/-- Two files of pictures. -/
def twoPhotos : Dictionary Value := [("p", photo 0), ("q", photo 1)]

/-- Whether a component waits for pictures only, and takes values by itself. -/
def takesPhotos [Platform] (values : Dictionary Value) (g : GatedComponent) : Bool :=
  g.component.slots.all (fun entry => entry.2 = ["data"]) && (g.condition.setAll values).toOption.isSome &&
    ((g.component.supply {} values).result {}).isSome

theorem exists_of_takesPhotos [Platform] {values : Dictionary Value} {g : GatedComponent} (h : takesPhotos values g = true) :
    (∀ entry ∈ g.component.slots, entry.2 = ["data"]) ∧ (∃ told, g.condition.setAll values = .ok told) ∧
      ∃ c, (g.component.supply {} values).result {} = some c := by
  simp only [takesPhotos, Bool.and_eq_true, List.all_eq_true, decide_eq_true_eq] at h
  obtain ⟨⟨hslots, hcondition⟩, hcomponent⟩ := h
  refine ⟨hslots, ?_, Option.isSome_iff_exists.1 hcomponent⟩
  cases htold : g.condition.setAll values with
  | error fault => rw [htold] at hcondition; cases hcondition
  | ok told => exact ⟨told, rfl⟩

open scoped Plain in
/-- Photos in two files are taken, each by its image as by itself. -/
theorem taken_as_alone_iff_photos :
    ∃ b b' : Builder, b.Loaded ∧ result (b.supply {} twoPhotos) {} = some b' ∧
      List.Forall₂ (fun g g' => (g.component.supply {} twoPhotos).result {} = some g'.component ∧
        g.condition.setAll twoPhotos = .ok g'.condition) b.components b'.components := by
  have hrun : Act.passes (fun b => b.components.all (takesPhotos twoPhotos) &&
      b.components.map (·.component.filesHanded twoPhotos) = [[0], [1]])
      ((loadDocument ⟨{}, default⟩ { registry := Registry.builtin, settings := {} }
        (photosDocument "p" "q")).outcome {}) = true := by
    rw [Registry.builtin_eq]
    decide +kernel
  obtain ⟨b, t, hload, htest⟩ := Act.exists_of_passes hrun
  simp only [Bool.and_eq_true, List.all_eq_true, decide_eq_true_eq] at htest
  obtain ⟨htakes, hhanded⟩ := htest
  have hb : b.Loaded := ⟨_, _, _, _, _, hload⟩
  have htakes := fun g hg => exists_of_takesPhotos (htakes g hg)
  have hapart : b.components.Pairwise fun g h =>
      (g.component.filesHanded twoPhotos).Disjoint (h.component.filesHanded twoPhotos) := by
    rw [← List.pairwise_map, hhanded]
    simp
  obtain ⟨hiff, halone⟩ := taken_as_alone_iff (s := {}) hb (fun g hg => (htakes g hg).2.1)
    (fixed_of_data (fun g hg => (htakes g hg).1) []) (fun _ _ _ _ => List.not_mem_nil)
  obtain ⟨b', hb'⟩ := hiff.2 ⟨fun g hg => (htakes g hg).2.2, hapart⟩
  exact ⟨b, b', hb, hb', (halone b' hb').2⟩

open scoped Plain in
/-- Each of two images takes the photo in one file by itself, and together they do not. -/
theorem shared_photo_refused :
    ∃ b : Builder, b.Loaded ∧ Font.Fixed {} b.settings (b.Asks [("p", photo 0)]) [] ∧
      (∀ g ∈ b.components, (∃ told, g.condition.setAll [("p", photo 0)] = .ok told) ∧
        ∃ c, (g.component.supply {} [("p", photo 0)]).result {} = some c) ∧
      result (b.supply {} [("p", photo 0)]) {} = none := by
  have hrun : Act.passes (fun b => b.components.all (takesPhotos [("p", photo 0)]) &&
      (result (b.supply {} [("p", photo 0)]) {}).isNone)
      ((loadDocument ⟨{}, default⟩ { registry := Registry.builtin, settings := {} }
        (photosDocument "p" "p")).outcome {}) = true := by
    rw [Registry.builtin_eq]
    decide +kernel
  obtain ⟨b, t, hload, htest⟩ := Act.exists_of_passes hrun
  simp only [Bool.and_eq_true, List.all_eq_true, Option.isNone_iff_eq_none] at htest
  obtain ⟨htakes, hnone⟩ := htest
  have htakes := fun g hg => exists_of_takesPhotos (htakes g hg)
  exact ⟨b, ⟨_, _, _, _, _, hload⟩, fixed_of_data (fun g hg => (htakes g hg).1) [],
    fun g hg => (htakes g hg).2, hnone⟩

end Builder

end PageTemplate
