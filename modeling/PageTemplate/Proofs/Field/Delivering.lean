/-
Supplying values as the assignment of properties sees it. It is called with the
deliveries of the slots, in order: with all of them if it accepts them all, and
then just the supplied names leave the slots, or with those up to the first that
it refuses, and then its fault is all that comes back (`supply_calls`).

The assignment may be any action. It works in a world of its own, so what it
does with a call may depend on the calls before.
-/
import PageTemplate.Proofs.Field.Slots
import PageTemplate.Proofs.Result

namespace PageTemplate.SlotMap

variable {α σ τ ρ ε : Type}

/-! ## Recording calls -/

/-- The calls of an assignment so far, the world in which it works, and the journal beside it. -/
structure CallRecord (α τ ρ : Type) where
  calls : List (String × α)
  world : τ
  journal : ρ
  deriving DecidableEq

/-- The record when further calls have been made, which left the world as it is then. -/
def CallRecord.extend (record : CallRecord α τ ρ) (calls : List (String × α)) (world : τ) :
    CallRecord α τ ρ :=
  { record with calls := record.calls ++ calls, world := world }

/-- An assignment of which every call is noted, also one that it refuses. -/
def recorded (assign : σ → String → α → ExceptT ε (StateM τ) σ) (state : σ) (name : String) (value : α) :
    ExceptT ε (StateM (CallRecord α τ ρ)) σ :=
  ExceptT.mk fun record =>
    let (result, world) := (ExceptT.run (assign state name value)).run record.world
    (result, record.extend [(name, value)] world)

/-- Tells the journal which properties a variable went to. -/
def telling (tell : String → List String → ρ → ρ) (name : String) (names : List String) :
    ExceptT ε (StateM (CallRecord α τ ρ)) Unit :=
  modify fun record => { record with journal := tell name names record.journal }

theorem run_recorded (assign : σ → String → α → ExceptT ε (StateM τ) σ) (state : σ) (name : String)
    (value : α) (record : CallRecord α τ ρ) :
    (ExceptT.run (recorded assign state name value)).run record =
      let (result, world) := (ExceptT.run (assign state name value)).run record.world
      (result, record.extend [(name, value)] world) := rfl

theorem run_telling (tell : String → List String → ρ → ρ) (name : String) (names : List String)
    (record : CallRecord α τ ρ) :
    (ExceptT.run (telling tell name names : ExceptT ε (StateM (CallRecord α τ ρ)) Unit)).run record =
      (.ok (), { record with journal := tell name names record.journal }) := rfl

/-! ## Calls that are accepted or refused -/

section

variable (assign : σ → String → α → ExceptT ε (StateM τ) σ)

/-- Called for one property after the other, each with its value, the assignment accepts every call. -/
inductive Accepts : σ → τ → List (String × α) → σ → τ → Prop
  | nil (state : σ) (world : τ) : Accepts state world [] state world
  | cons {state next last : σ} {world between after : τ} {name : String} {value : α}
      {calls : List (String × α)} :
    (ExceptT.run (assign state name value)).run world = (.ok next, between) →
      Accepts next between calls last after → Accepts state world ((name, value) :: calls) last after

/-- Called for one property after the other, each with its value, the assignment refuses a call. The
calls that are made are those before the first that it refuses, and this one. -/
inductive Refuses : σ → τ → (calls made : List (String × α)) → ε → τ → Prop
  | here {state : σ} {world after : τ} {name : String} {value : α} {fault : ε} (calls : List (String × α)) :
    (ExceptT.run (assign state name value)).run world = (.error fault, after) →
      Refuses state world ((name, value) :: calls) [(name, value)] fault after
  | later {state next : σ} {world between after : τ} {name : String} {value : α} {fault : ε}
      {calls made : List (String × α)} :
    (ExceptT.run (assign state name value)).run world = (.ok next, between) →
      Refuses next between calls made fault after →
        Refuses state world ((name, value) :: calls) ((name, value) :: made) fault after

end

section

variable {assign : σ → String → α → ExceptT ε (StateM τ) σ} {state mid last last' : σ}
  {world between after after' : τ} {calls others made made' : List (String × α)} {fault fault' : ε}

theorem Accepts.append (h : Accepts assign state world calls mid between)
    (h' : Accepts assign mid between others last after) :
    Accepts assign state world (calls ++ others) last after := by
  induction h with
  | nil => exact h'
  | cons hcall _ ih => exact .cons hcall (ih h')

/-- Calls that are accepted may stand before those of which one is refused. -/
theorem Accepts.refuses (h : Accepts assign state world calls mid between)
    (h' : Refuses assign mid between others made fault after) :
    Refuses assign state world (calls ++ others) (calls ++ made) fault after := by
  induction h with
  | nil => exact h'
  | cons hcall _ ih => exact .later hcall (ih h')

/-- What stands behind a refused call is not called. -/
theorem Refuses.append (h : Refuses assign state world calls made fault after)
    (others : List (String × α)) : Refuses assign state world (calls ++ others) made fault after := by
  induction h with
  | here calls hcall => exact .here _ hcall
  | later hcall _ ih => exact .later hcall ih

/-- Either every call is accepted or there is one that is refused. -/
theorem accepts_or_refuses (assign : σ → String → α → ExceptT ε (StateM τ) σ) (state : σ) (world : τ)
    (calls : List (String × α)) :
    (∃ last after, Accepts assign state world calls last after) ∨
      ∃ made fault after, Refuses assign state world calls made fault after := by
  induction calls generalizing state world with
  | nil => exact .inl ⟨state, world, .nil _ _⟩
  | cons call calls ih =>
    obtain ⟨name, value⟩ := call
    rcases hcall : (ExceptT.run (assign state name value)).run world with ⟨fault | next, between⟩
    · exact .inr ⟨_, fault, between, .here _ hcall⟩
    · rcases ih next between with ⟨last, after, h⟩ | ⟨made, fault, after, h⟩
      · exact .inl ⟨last, after, .cons hcall h⟩
      · exact .inr ⟨_, fault, after, .later hcall h⟩

theorem Accepts.unique (h : Accepts assign state world calls last after)
    (h' : Accepts assign state world calls last' after') : last' = last ∧ after' = after := by
  induction h with
  | nil => cases h'; exact ⟨rfl, rfl⟩
  | cons hcall _ ih =>
    cases h' with
    | cons hcall' hrest =>
      cases hcall.symm.trans hcall'
      exact ih hrest

theorem Refuses.unique (h : Refuses assign state world calls made fault after)
    (h' : Refuses assign state world calls made' fault' after') :
    made' = made ∧ fault' = fault ∧ after' = after := by
  induction h generalizing made' with
  | here calls hcall =>
    cases h' with
    | here _ hcall' => cases hcall.symm.trans hcall'; exact ⟨rfl, rfl, rfl⟩
    | later hcall' _ => cases hcall.symm.trans hcall'
  | later hcall _ ih =>
    cases h' with
    | here _ hcall' => cases hcall.symm.trans hcall'
    | later hcall' hrest =>
      cases hcall.symm.trans hcall'
      obtain ⟨rfl, hfault, hafter⟩ := ih hrest
      exact ⟨rfl, hfault, hafter⟩

theorem Accepts.not_refuses (h : Accepts assign state world calls last after) :
    ¬ Refuses assign state world calls made fault after' := by
  induction h generalizing made with
  | nil => intro h'; cases h'
  | cons hcall _ ih =>
    intro h'
    cases h' with
    | here _ hcall' => cases hcall.symm.trans hcall'
    | later hcall' hrest =>
      cases hcall.symm.trans hcall'
      exact ih hrest

end

/-! ## What is delivered -/

theorem deliveries_cons (slots : SlotMap) (name : String) (value : α) (values : Dictionary α) :
    slots.deliveries ((name, value) :: values) =
      ((slots.get? name).getD []).map (fun property => (property, value)) ++ slots.deliveries values :=
  List.flatMap_cons

/-- A variable that has no value may leave the slots. -/
theorem deliveries_erase (slots : SlotMap) {name : String} {values : Dictionary α} (h : name ∉ values.keys) :
    deliveries (slots.erase name) values = slots.deliveries values := by
  refine List.flatMap_congr fun (other, value) hentry => ?_
  have hne : other ≠ name := fun he => h (he ▸ Dictionary.mem_keys_of_mem hentry)
  simp only [Dictionary.get?_erase_other _ hne]

/-! ## The calls that supplying makes -/

/-- Giving a value to several properties calls the assignment for one after the other. -/
theorem assignAll_calls (assign : σ → String → α → ExceptT ε (StateM τ) σ) (value : α) (names : List String)
    (state : σ) (record : CallRecord α τ ρ) :
    let calls := names.map fun name => (name, value)
    let run := (ExceptT.run (assignAll (recorded assign) value state names)).run record
    (∃ last after, Accepts assign state record.world calls last after ∧
      run = (.ok last, record.extend calls after)) ∨
    ∃ made fault after, Refuses assign state record.world calls made fault after ∧
      run = (.error fault, record.extend made after) := by
  induction names generalizing state record with
  | nil =>
    refine .inl ⟨state, record.world, .nil _ _, ?_⟩
    simp only [assignAll, CallRecord.extend, List.map_nil, List.append_nil]
    rfl
  | cons name names ih =>
    rw [assignAll, run_bind, run_recorded]
    rcases hcall : (ExceptT.run (assign state name value)).run record.world with ⟨fault | next, between⟩
    · exact .inr ⟨[(name, value)], fault, between, .here _ hcall, rfl⟩
    · rcases ih next (record.extend [(name, value)] between) with
        ⟨last, after, haccepts, hrest⟩ | ⟨made, fault, after, hrefuses, hrest⟩
      · refine .inl ⟨last, after, .cons hcall haccepts, ?_⟩
        simpa [CallRecord.extend] using hrest
      · refine .inr ⟨(name, value) :: made, fault, after, .later hcall hrefuses, ?_⟩
        simpa [CallRecord.extend] using hrest

/-- Supplying values calls the assignment for what is delivered, and tells the journal besides. -/
theorem supply_accepts_or_refuses (assign : σ → String → α → ExceptT ε (StateM τ) σ)
    (tell : String → List String → ρ → ρ) {slots : SlotMap} {values : Dictionary α}
    (hslots : slots.Occupied) (hvalues : values.Distinct) (state : σ) (record : CallRecord α τ ρ) :
    let run := (ExceptT.run (supply (recorded assign) (telling tell) values state slots)).run record
    (∃ last after journal, Accepts assign state record.world (slots.deliveries values) last after ∧
      run = (.ok (last, slots.without values), ⟨record.calls ++ slots.deliveries values, after, journal⟩)) ∨
    ∃ made fault after journal,
      Refuses assign state record.world (slots.deliveries values) made fault after ∧
      run = (.error fault, ⟨record.calls ++ made, after, journal⟩) := by
  induction values generalizing slots state record with
  | nil =>
    refine .inl ⟨state, record.world, record.journal, .nil _ _, ?_⟩
    simp only [supply, without_nil, deliveries, List.flatMap_nil, List.append_nil]
    rfl
  | cons entry values ih =>
    obtain ⟨name, value⟩ := entry
    obtain ⟨hname, hvalues⟩ := Dictionary.distinct_cons_iff.1 hvalues
    rw [deliveries_cons, without_cons, supply]
    cases hget : slots.get? name with
    | none =>
      have hnot : Dictionary.erase slots name = slots :=
        Dictionary.erase_of_not_mem (Dictionary.get?_eq_none_iff.1 hget)
      rw [hnot]
      exact ih hslots hvalues state record
    | some names =>
      cases names with
      | nil => exact absurd rfl (hslots _ (Dictionary.mem_of_get? hget))
      | cons property properties =>
        -- The later values deliver the same whether or not the name has left the slots.
        rw [← deliveries_erase slots hname, run_bind]
        rcases assignAll_calls assign value (property :: properties) state record with
          ⟨mid, between, haccepts, hrun⟩ | ⟨made, fault, after, hrefuses, hrun⟩
        · rw [hrun]
          simp only [run_bind, run_telling]
          rcases ih (hslots.erase name) hvalues mid _ with
            ⟨last, after, journal, hothers, hrest⟩ | ⟨made, fault, after, journal, hrefuses, hrest⟩
          · refine .inl ⟨last, after, journal, haccepts.append hothers, hrest.trans ?_⟩
            simp [CallRecord.extend]
          · refine .inr ⟨_, fault, after, journal, haccepts.refuses hrefuses, hrest.trans ?_⟩
            simp [CallRecord.extend]
        · rw [hrun]
          exact .inr ⟨made, fault, after, record.journal, hrefuses.append _, rfl⟩

/-- Supplying values calls the assignment for the deliveries of the slots, in order. If it accepts them
all, no other call is made and the slots come back without the supplied names, all else in its order. If
not, the calls end with the first that it refuses, and the fault of this one comes back and no slots. -/
theorem supply_calls {slots : SlotMap} {values : Dictionary α} (hslots : slots.Occupied)
    (hvalues : values.Distinct) (assign : σ → String → α → ExceptT ε (StateM τ) σ)
    (tell : String → List String → ρ → ρ) (state : σ) (world : τ) (journal : ρ) :
    let run := (ExceptT.run (supply (recorded assign) (telling tell) values state slots)).run
      ⟨[], world, journal⟩
    (∀ last after, Accepts assign state world (slots.deliveries values) last after →
      ∃ told, run = (.ok (last, slots.without values), ⟨slots.deliveries values, after, told⟩)) ∧
    (∀ made fault after, Refuses assign state world (slots.deliveries values) made fault after →
      ∃ told, run = (.error fault, ⟨made, after, told⟩)) ∧
    ((∃ last after, Accepts assign state world (slots.deliveries values) last after) ∨
      ∃ made fault after, Refuses assign state world (slots.deliveries values) made fault after) := by
  intro run
  have hrun := supply_accepts_or_refuses assign tell hslots hvalues state ⟨[], world, journal⟩
  refine ⟨fun last after haccepts => ?_, fun made fault after hrefuses => ?_, accepts_or_refuses ..⟩
  · rcases hrun with ⟨last', after', told, haccepts', hrun⟩ | ⟨made, fault, after', told, hrefuses, hrun⟩
    · obtain ⟨rfl, rfl⟩ := haccepts.unique haccepts'
      exact ⟨told, hrun⟩
    · exact absurd hrefuses haccepts.not_refuses
  · rcases hrun with ⟨last, after', told, haccepts, hrun⟩ | ⟨made', fault', after', told, hrefuses', hrun⟩
    · exact absurd hrefuses haccepts.not_refuses
    · obtain ⟨rfl, rfl, rfl⟩ := hrefuses.unique hrefuses'
      exact ⟨told, hrun⟩

/-- An assignment that takes as many calls as its world allows, and names the property that is one too
many. -/
def rationed (state : List String) (name : String) (_ : Nat) : ExceptT String (StateM Nat) (List String) :=
  do
    match ← get with
    | 0 => throw name
    | left + 1 => set left; return state ++ [name]

/-- Slots of which four properties get a value, where only two calls are allowed. -/
def rationedSlots : SlotMap := [("a", ["width", "height", "radius"]), ("b", ["topLeftX"]), ("c", ["topLeftY"])]

theorem supply_calls_rationed :
    rationedSlots.Occupied ∧ Dictionary.Distinct [("b", 1), ("z", 2), ("a", 3)] ∧
      ∃ told, (ExceptT.run (supply (recorded rationed) (telling fun name _ told => told ++ [name])
        [("b", 1), ("z", 2), ("a", 3)] [] rationedSlots)).run ⟨[], 2, []⟩ =
          (.error "height", ⟨[("topLeftX", 1), ("width", 3), ("height", 3)], 0, told⟩) := by
  have hslots : rationedSlots.Occupied := by simp [Occupied, rationedSlots]
  have hvalues : Dictionary.Distinct [("b", 1), ("z", 2), ("a", 3)] := by
    simp [Dictionary.Distinct, Dictionary.keys]
  have hdeliveries : rationedSlots.deliveries [("b", 1), ("z", 2), ("a", 3)] =
    [("topLeftX", 1), ("width", 3), ("height", 3), ("radius", 3)] := by decide
  obtain ⟨-, hrefused, -⟩ := supply_calls hslots hvalues rationed (fun name _ told => told ++ [name]) [] 2 []
  refine ⟨hslots, hvalues, hrefused _ _ _ ?_⟩
  rw [hdeliveries]
  exact .later rfl (.later rfl (.here _ rfl))

end PageTemplate.SlotMap
