/-
The stray faults of conditions. Reading a condition strays only where a number
or a truth value stands in place of the conditions of a group, where conditions
stand too deep inside each other, or where a value cannot be shown (`read_stray`).
Telling a condition values strays only where a node compares numbers and the
value of its variable is an integer beyond the range of binary64, or where the
value can neither be compared nor be shown (`setAll_stray`). Deciding a condition
never does (`validate_not_isStray`).
-/
import PageTemplate.Proofs.Binary64.Range
import PageTemplate.Proofs.Condition.Reading
import PageTemplate.Proofs.Condition.Values
import PageTemplate.Proofs.Session.Stray

namespace PageTemplate

/-- The name of its type, for a value that has no parts and is not null. -/
def Json.atomName? : Json → Option String
  | .bool _ => some "bool"
  | .int _ => some "int"
  | .float _ => some "float"
  | _ => none

namespace Condition

/-! ## Deciding -/

/-- The outcome of a condition is a truth value or a fault of the template. -/
theorem validate_not_isStray {c : Condition} {fault : ConditionFault} (h : c.validate = .error fault) :
    ¬ (Fault.condition fault).IsStray := by
  induction c with
  | node own group ih =>
    rw [validate] at h
    intro hstray
    split at h
    · cases h
      cases hstray
    · split at h
      · cases h
      · split at h
        · cases h
          cases hstray
        · obtain ⟨c, hc, hvalidate⟩ := validateEach_error (Except.map_error_iff.1 h)
          exact ih c hc hvalidate hstray

/-! ## Reading -/

section Reading

variable {room : Nat} {json : Json} {fields group : Dictionary Json} {fault : ConditionFault}

theorem readGroup_not_isStray (h : readGroup fields = .error fault) : ¬ (Fault.condition fault).IsStray := by
  intro hstray
  unfold readGroup at h
  split at h
  · cases h
  · split at h
    · cases h
    · split at h <;> cases h
      cases hstray

theorem readMembers_error (h : readMembers group = .error fault) :
    ∃ typeName value, fault = .conditionsNotList typeName ∧ group.get? "conditionals" = some value ∧
      value.isBlank = false ∧ value.atomName? = some typeName := by
  unfold readMembers at h
  split at h
  · cases h
  · rename_i value hvalue
    split at h
    · cases h
    · rename_i hblank
      have hblank : value.isBlank = false := by simpa using hblank
      split at h <;> cases h
      all_goals exact ⟨_, _, rfl, hvalue, hblank, rfl⟩

variable [Platform]

/-- The stray faults of reading a condition, with room for so many inside each other: the conditions of a
group stand too deep, or something without parts stands in their place, or a value that should be a text or a
truth value cannot be shown. -/
inductive ReadStrays : (room : Nat) → Json → ConditionFault → Prop
  | deep {json : Json} : ReadStrays 0 json .tooDeep
  | unlisted {room : Nat} {fields group : Dictionary Json} {value : Json} {typeName : String} :
      readGroup fields = .ok group → group.get? "conditionals" = some value → value.isBlank = false →
        value.atomName? = some typeName → ReadStrays (room + 1) (.object fields) (.conditionsNotList typeName)
  | negation {room : Nat} {fields : Dictionary Json} {value : Json} {fault : Json.ShowFault} :
      fields.get? "boolNot" = some value → value.shown = .error fault →
        ReadStrays (room + 1) (.object fields) (.unshown fault)
  | text {room : Nat} {fields : Dictionary Json} {key : String} {value : Json} {fault : Json.ShowFault} :
      key ∈ ["name", "operator", "value"] → fields.get? key = some value → value.text = .error fault →
        ReadStrays (room + 1) (.object fields) (.unshown fault)
  | groupText {room : Nat} {fields group : Dictionary Json} {value : Json} {fault : Json.ShowFault} :
      readGroup fields = .ok group → group.get? "groupOperator" = some value → value.text = .error fault →
        ReadStrays (room + 1) (.object fields) (.unshown fault)
  | member {room : Nat} {fields group : Dictionary Json} {items : List Json} {item : Json}
      {fault : ConditionFault} : readGroup fields = .ok group → readMembers group = .ok items → item ∈ items →
        ReadStrays room item fault → ReadStrays (room + 1) (.object fields) fault

theorem ReadStrays.isStray (h : ReadStrays room json fault) : (Fault.condition fault).IsStray := by
  induction h with
  | deep | unlisted => rfl
  | @negation _ _ _ failure => cases failure <;> rfl
  | @text _ _ _ _ failure => cases failure <;> rfl
  | @groupText _ _ _ _ failure => cases failure <;> rfl
  | member _ _ _ _ ih => exact ih

theorem readNegated_stray (h : readNegated fields = .error fault) (hstray : (Fault.condition fault).IsStray) :
    ∃ value failure, fault = .unshown failure ∧ fields.get? "boolNot" = some value ∧
      value.shown = .error failure := by
  unfold readNegated at h
  split at h
  · cases h
  · cases h
  · cases h
  · rename_i value _ _ hvalue
    rcases Except.bind_error_iff.1 h with hshown | ⟨shown, -, h⟩
    · obtain ⟨failure, hfailure, rfl⟩ := Except.mapError_error_iff.1 hshown
      exact ⟨value, failure, rfl, hvalue, hfailure⟩
    · cases h
      cases hstray

theorem fieldText_error {key : String} (h : fieldText fields key = .error fault) :
    ∃ value failure, fault = .unshown failure ∧ fields.get? key = some value ∧ value.text = .error failure := by
  unfold fieldText at h
  split at h
  · cases h
  · cases h
  · rename_i value _ hvalue
    obtain ⟨failure, hfailure, rfl⟩ := Except.mapError_error_iff.1 h
    exact ⟨value, failure, rfl, hvalue, hfailure⟩

/-- A node that cannot be read has a text that cannot be shown, of its own or of its group. -/
theorem readNode_stray {negated : Bool} (hgroup : readGroup fields = .ok group)
    (h : readNode fields group negated = .error fault) : ReadStrays (room + 1) (.object fields) fault := by
  have hown : ∀ key ∈ ["name", "operator", "value"], fieldText fields key = .error fault →
      ReadStrays (room + 1) (.object fields) fault := by
    intro key hkey htext
    obtain ⟨value, failure, rfl, hvalue, htext⟩ := fieldText_error htext
    exact .text hkey hvalue htext
  rcases Except.bind_error_iff.1 h with h | ⟨name, -, h⟩
  · exact hown "name" (by simp) h
  rcases Except.bind_error_iff.1 h with h | ⟨operator, -, h⟩
  · exact hown "operator" (by simp) h
  rcases Except.bind_error_iff.1 h with h | ⟨literal, -, h⟩
  · exact hown "value" (by simp) h
  rcases Except.bind_error_iff.1 h with h | ⟨groupOperator, -, h⟩
  · obtain ⟨value, failure, rfl, hvalue, htext⟩ := fieldText_error h
    exact .groupText hgroup hvalue htext
  · cases h

/-- A condition strays when it is read only in these ways. -/
theorem read_stray (h : read room json = .error fault) (hstray : (Fault.condition fault).IsStray) :
    ReadStrays room json fault := by
  induction room generalizing json with
  | zero =>
    rw [read] at h
    cases h
    exact .deep
  | succ room ih =>
    rw [read.eq_def] at h
    simp only at h
    split at h
    · cases h
    split at h
    · rename_i fields _
      rcases Except.bind_error_iff.1 h with hgroup | ⟨group, hgroup, h⟩
      · exact absurd hstray (readGroup_not_isStray hgroup)
      rcases Except.bind_error_iff.1 h with hnegated | ⟨negated, -, h⟩
      · obtain ⟨value, failure, rfl, hvalue, hshown⟩ := readNegated_stray hnegated hstray
        exact .negation hvalue hshown
      rcases Except.bind_error_iff.1 h with hmembers | ⟨items, hitems, h⟩
      · obtain ⟨typeName, value, rfl, hvalue, hblank, hatom⟩ := readMembers_error hmembers
        exact .unlisted hgroup hvalue hblank hatom
      rcases Except.bind_error_iff.1 h with heach | ⟨members, -, h⟩
      · obtain ⟨item, hitem, hread⟩ := Except.mapM_error heach
        exact .member hgroup hitems hitem (ih hread)
      rcases Except.bind_error_iff.1 h with hown | ⟨own, -, h⟩
      · exact readNode_stray hgroup hown
      · cases h
    · cases h
      cases hstray

end Reading

end Condition

/-! ## Telling -/

variable [Platform]

namespace ConditionNode

/-- How a node strays with the values: it compares numbers, its literal is one, and the value of its variable
is an integer beyond the range; or the value cannot be compared, and cannot be shown either. -/
inductive Strays (values : Dictionary Value) (n : ConditionNode) : ConditionFault → Prop
  | range {i : Int} {relation : NumberRelation} : (n.name, Value.json (.int i)) ∈ values →
    Binary64.overflowBound ≤ i.natAbs → Comparison.ofWord? n.operator = some (.numbers relation) →
      Binary64.ofLiteral? n.literal ≠ none → Strays values n (.number .integerTooLarge)
  | unshown {value : Value} {comparison : Comparison} {failure : Json.ShowFault} : (n.name, value) ∈ values →
    Comparison.ofWord? n.operator = some comparison → value.shown = .error failure →
      Strays values n (.unshown failure)

variable {n m : ConditionNode} {name : String} {value : Value} {values others : Dictionary Value}
  {fault : ConditionFault}

theorem Strays.isStray (h : n.Strays values fault) : (Fault.condition fault).IsStray := by
  cases h with
  | range => rfl
  | @unshown _ _ failure => cases failure <;> rfl

theorem Strays.mono (h : n.Strays values fault) (hmore : ∀ entry ∈ values, entry ∈ others) :
    n.Strays others fault := by
  cases h with
  | range hvalue hlarge hword hliteral => exact .range (hmore _ hvalue) hlarge hword hliteral
  | unshown hvalue hword hshown => exact .unshown (hmore _ hvalue) hword hshown

/-- What a node has seen does not count. -/
theorem Strays.congr {isSet holds : Bool} (h : { n with isSet := isSet, holds := holds }.Strays values fault) :
    n.Strays values fault := by
  cases h with
  | range hvalue hlarge hword hliteral => exact .range hvalue hlarge hword hliteral
  | unshown hvalue hword hshown => exact .unshown hvalue hword hshown

theorem refuse_stray {wrap : String → ConditionFault} (hwrap : ∀ shown, (wrap shown).kind = .condition)
    (h : Comparison.refuse wrap value = .error fault) (hstray : (Fault.condition fault).IsStray) :
    ∃ failure, value.shown = .error failure ∧ fault = .unshown failure := by
  rcases Except.bind_error_iff.1 h with h | ⟨shown, -, h⟩
  · obtain ⟨failure, hshown, rfl⟩ := Except.mapError_error_iff.1 h
    exact ⟨failure, hshown, rfl⟩
  · cases h
    simp [Fault.IsStray, Fault.kind, hwrap, FaultKind.isTemplate] at hstray

theorem compare_stray (h : n.compare value = .error fault) (hstray : (Fault.condition fault).IsStray) :
    n.Strays [(n.name, value)] fault := by
  unfold compare at h
  split at h
  · cases h
    cases hstray
  · rename_i comparison hword
    have h := Except.map_error_iff.1 h
    unfold Comparison.holds at h
    split at h
    · split at h
      · cases h
      · obtain ⟨failure, hshown, rfl⟩ := refuse_stray (fun _ => rfl) h hstray
        exact .unshown (List.mem_singleton_self _) hword hshown
    · split at h
      · obtain ⟨failure, hshown, rfl⟩ := refuse_stray (fun _ => rfl) h hstray
        exact .unshown (List.mem_singleton_self _) hword hshown
      · rename_i number hnumber
        split at h
        · cases h
          cases hstray
        · rename_i bound hliteral
          split at h
          · cases h
          · rename_i e
            cases h
            unfold Value.number? at hnumber
            split at hnumber
            · rename_i i
              obtain ⟨rfl, hlarge⟩ := Binary64.ofInt_error_iff.1 (Option.some.inj hnumber)
              exact .range (List.mem_singleton_self _) hlarge hword (by simp [hliteral])
            · cases hnumber
            · cases hnumber

theorem set_error (h : n.set name value = .error fault) : n.name = name ∧ n.compare value = .error fault := by
  unfold set at h
  split at h
  · cases h
  · split at h
    · cases h
    · rename_i hname
      exact ⟨not_not.1 hname, Except.map_error_iff.1 h⟩

/-- What a node is told leaves what it says on its own. -/
theorem eq_of_set (h : n.set name value = .ok m) : ∃ isSet holds, m = { n with isSet := isSet, holds := holds } := by
  unfold set at h
  split at h
  · cases h
    exact ⟨_, _, rfl⟩
  · split at h
    · cases h
      exact ⟨_, _, rfl⟩
    · obtain ⟨truth, -, rfl⟩ := Except.map_ok_iff.1 h
      exact ⟨_, _, rfl⟩

end ConditionNode

namespace Condition

variable {name : String} {value : Value} {fault : ConditionFault}

mutual

/-- A condition fails where one of its nodes does. -/
theorem set_error : ∀ {c : Condition}, c.set name value = .error fault →
    ∃ n ∈ c.nodes, n.set name value = .error fault
  | .node own group, h => by
    rw [set] at h
    rw [nodes_node]
    split at h
    · rename_i e heach
      cases h
      obtain ⟨n, hn, hset⟩ := setEach_error heach
      exact ⟨n, List.mem_cons_of_mem _ hn, hset⟩
    · split at h
      · rename_i e hown
        cases h
        exact ⟨own, List.mem_cons_self, hown⟩
      · cases h

theorem setEach_error : ∀ {cs : List Condition}, setEach name value cs = .error fault →
    ∃ n ∈ cs.flatMap nodes, n.set name value = .error fault
  | [], h => by cases h
  | c :: rest, h => by
    rw [setEach] at h
    rw [List.flatMap_cons]
    split at h
    · rename_i e hc
      cases h
      obtain ⟨n, hn, hset⟩ := set_error hc
      exact ⟨n, List.mem_append_left _ hn, hset⟩
    · split at h
      · rename_i e hrest
        cases h
        obtain ⟨n, hn, hset⟩ := setEach_error hrest
        exact ⟨n, List.mem_append_right _ hn, hset⟩
      · cases h

end

/-- Telling a condition values strays only at a node that strays. -/
theorem setAll_stray {c : Condition} {values : Dictionary Value} (h : c.setAll values = .error fault)
    (hstray : (Fault.condition fault).IsStray) : ∃ n ∈ c.nodes, n.Strays values fault := by
  induction values generalizing c with
  | nil => cases h
  | cons entry values ih =>
    obtain ⟨name, value⟩ := entry
    rw [setAll_cons] at h
    rcases Except.bind_error_iff.1 h with hset | ⟨told, htold, hrest⟩
    · obtain ⟨n, hn, hset⟩ := set_error hset
      obtain ⟨rfl, hcompare⟩ := ConditionNode.set_error hset
      exact ⟨n, hn, (ConditionNode.compare_stray hcompare hstray).mono (by simp)⟩
    · -- What a node says on its own is not changed by the values that it was told before.
      obtain ⟨m, hm, hstrays⟩ := ih hrest
      obtain ⟨htake, rfl⟩ := (set_ok_iff name value).1 htold
      rw [nodes_map] at hm
      obtain ⟨n, hn, rfl⟩ := List.mem_map.1 hm
      obtain ⟨m, hset⟩ := htake n hn
      rw [ConditionNode.changed_of_ok (f := (·.set name value)) hset] at hstrays
      obtain ⟨isSet, holds, rfl⟩ := ConditionNode.eq_of_set hset
      exact ⟨n, hn, hstrays.congr.mono fun entry hentry => List.mem_cons_of_mem _ hentry⟩

end Condition

end PageTemplate
