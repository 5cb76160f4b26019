/-
Values that a component does not ask for. Supplying a component with a value
for a name that nothing waits for, at any place among the other values, is the
same action as supplying it without (`supply_unasked`). No assignment reads the
journal, so supplying values comes to the same from sessions that differ in
their journals alone (`ignoresJournal_supply`).
-/
import PageTemplate.Component.Basic
import PageTemplate.Proofs.Component.Assignment
import PageTemplate.Proofs.Field.Slots
import PageTemplate.Proofs.Session.Following

namespace PageTemplate

namespace SlotMap

variable {α σ : Type}

/-- A value for a name that nothing waits for is passed over, wherever it stands. -/
theorem supply_unasked {m : Type → Type} [Monad m] (assign : σ → String → α → m σ)
    (resolved : String → List String → m Unit) {name : String} (value : α) (before after : Dictionary α)
    (state : σ) {slots : SlotMap} (h : slots.get? name = none) :
    supply assign resolved (before ++ (name, value) :: after) state slots =
      supply assign resolved (before ++ after) state slots := by
  induction before generalizing state slots with
  | nil => simp only [List.nil_append, supply, h]
  | cons first before ih =>
    simp only [List.cons_append, supply]
    split
    · -- What is served leaves the slots, so the name still has nothing that waits.
      have hrest : Dictionary.get? (slots.erase first.1) name = none := by
        by_cases hname : name = first.1
        · rw [hname, Dictionary.get?_erase_self]
        · rw [Dictionary.get?_erase_other _ hname, h]
      simp only [ih _ hrest]
    · exact ih state h

/-- Supplying values has every property of sequences that the assignments have. -/
theorem supply_induct {P : {α : Type} → Act α → Prop} (hP : Act.Sequential P)
    {assign : σ → String → α → Act σ} {resolved : String → List String → Act Unit}
    (hassign : ∀ state name value, P (assign state name value))
    (hresolved : ∀ name names, P (resolved name names)) (values : Dictionary α) (state : σ)
    (slots : SlotMap) : P (supply assign resolved values state slots) := by
  induction values generalizing state slots with
  | nil => exact hP.pure _
  | cons entry values ih =>
    rw [supply]
    split
    · rw [assignAll_eq]
      refine hP.bind (hP.foldlM (fun name _ state => hassign state name entry.2) state) fun state => ?_
      exact hP.bind (hresolved _ _) fun _ => ih state _
    · exact ih state slots

end SlotMap

variable [Platform]

theorem Shape.ignoresJournal_assign (files : FileTree) (settings : Settings) (shape : Shape) (p : Property)
    (v : Value) : IgnoresJournal (shape.assign files settings p v) :=
  shape.assign_induct Act.sequential_ignoresJournal
    (fun request text _ _ => Act.ignoresJournal_font files settings request text)
    fun number content _ => Act.ignoresJournal_readOnce number content

theorem Shape.ignoresJournal_assignNamed (files : FileTree) (settings : Settings) (shape : Shape)
    (name : String) (v : Value) : IgnoresJournal (shape.assignNamed files settings name v) := by
  unfold Shape.assignNamed
  split
  · exact shape.ignoresJournal_assign files settings _ v
  · exact .throw _

namespace Component

/-- Supplying a value for a name that nothing waits for comes to nothing. -/
theorem supply_unasked (files : FileTree) {c : Component} {name : String} (h : name ∉ c.slots.keys)
    (value : Value) (before after : Dictionary Value) :
    c.supply files (before ++ (name, value) :: after) = c.supply files (before ++ after) := by
  have hnone := Dictionary.get?_eq_none_iff.2 h
  simp only [supply, SlotMap.supply_unasked _ _ value before after c.shape hnone]

theorem ignoresJournal_supply (files : FileTree) (values : Dictionary Value) (c : Component) :
    IgnoresJournal (c.supply files values) := by
  refine .bind ?_ fun reached => .pure _
  refine SlotMap.supply_induct Act.sequential_ignoresJournal (fun shape name v => ?_)
    (fun _ _ => Act.ignoresJournal_tell _) values _ _
  exact shape.ignoresJournal_assignNamed files _ name v

end Component

end PageTemplate
