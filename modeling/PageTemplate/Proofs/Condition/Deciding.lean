/-
Which conditions cannot be decided. A node stands in the way if it compares a
variable that it has no value of, or if it has a group and its word for it is
none. However deep in the tree, and whatever the nodes before it came to, such a
node makes the whole condition fail: the fault is that of the first one, a node
being asked before its group (`validate_error_iff`).

So it does not matter for this what the nodes came to, nor in which order the
conditions of a group stand (`Alike.stuck_iff`).
-/
import PageTemplate.Fault.Basic
import PageTemplate.Proofs.Condition.Evaluation

namespace PageTemplate

theorem GroupOperator.ofWord?_eq_none_iff {word : String} : ofWord? word = none ↔ word ∉ words := by
  constructor
  · intro h hmem
    obtain ⟨operator, hword, -⟩ := combine_of_mem_words hmem
    rw [h] at hword
    cases hword
  · intro h
    simp only [words, List.mem_cons, List.not_mem_nil, or_false, not_or] at h
    simp [ofWord?, h]

namespace Condition

variable {c c' : Condition} {own : ConditionNode} {group cs : List Condition} {fault : ConditionFault}

/-! ## What stands in the way -/

/-- Whether the root itself stands in the way of an outcome: it compares a variable without a value, or
its group is to be combined by a word that says nothing. The word of a node without a group is of no
account. -/
def Blocked (c : Condition) : Prop :=
  c.own.name ≠ "" ∧ c.own.isSet = false ∨ c.group ≠ [] ∧ c.own.groupOperator ∉ GroupOperator.words

/-- What the root is blamed for. -/
def blame? (c : Condition) : Option ConditionFault :=
  if c.own.name ≠ "" ∧ c.own.isSet = false then
    some (.valueMissing c.own.name c.own.operator c.own.literal)
  else if c.group ≠ [] ∧ c.own.groupOperator ∉ GroupOperator.words then
    some (.unknownGroupOperator c.own.groupOperator)
  else none

/-- Whether some node of the tree stands in the way. -/
def Stuck (c : Condition) : Prop := ∃ part ∈ c.parts, part.Blocked

theorem blame?_node (own : ConditionNode) (group : List Condition) :
    blame? (.node own group) =
      if own.name ≠ "" ∧ own.isSet = false then some (.valueMissing own.name own.operator own.literal)
      else if group ≠ [] ∧ own.groupOperator ∉ GroupOperator.words then
        some (.unknownGroupOperator own.groupOperator)
      else none := rfl

theorem isSome_blame?_iff : c.blame?.isSome = true ↔ c.Blocked := by
  unfold blame? Blocked
  split
  · rename_i h
    simp [h]
  · rename_i h
    split
    · rename_i h'
      simp [h']
    · rename_i h'
      simp [h, h']

/-- What is blamed is the template. -/
theorem kind_of_blame? (h : c.blame? = some fault) : fault.kind = .condition := by
  unfold blame? at h
  split at h
  · cases h
    rfl
  · split at h <;> cases h
    rfl

theorem parts_node (own : ConditionNode) (group : List Condition) :
    parts (.node own group) = .node own group :: group.flatMap parts := by
  rw [parts, partsOfEach_eq]

theorem stuck_node_iff : Stuck (.node own group) ↔ Blocked (.node own group) ∨ ∃ c ∈ group, c.Stuck := by
  simp only [Stuck, parts_node, List.mem_cons, exists_eq_or_imp, List.mem_flatMap]
  refine or_congr_right ⟨?_, ?_⟩
  · rintro ⟨part, ⟨c, hc, hpart⟩, hblocked⟩
    exact ⟨c, hc, part, hpart, hblocked⟩
  · rintro ⟨c, hc, part, hpart, hblocked⟩
    exact ⟨part, ⟨c, hc, hpart⟩, hblocked⟩

/-! ## Asking for the outcome -/

/-- A node is asked first: it answers for itself, or leaves the answer to its group. -/
theorem validate_node_error_iff : validate (.node own group) = .error fault ↔
    blame? (.node own group) = some fault ∨
      blame? (.node own group) = none ∧ validateEach group = .error fault := by
  have hwaits : (!own.isWildcard && !own.isSet) = true ↔ own.name ≠ "" ∧ own.isSet = false := by
    simp [ConditionNode.isWildcard]
  rw [validate, blame?_node]
  simp only [hwaits]
  by_cases hfirst : own.name ≠ "" ∧ own.isSet = false
  · simp [hfirst]
  · rw [if_neg hfirst, if_neg hfirst]
    by_cases hgroup : group = []
    · simp [hgroup, validateEach]
    · rw [if_neg (by simpa using hgroup)]
      cases hword : GroupOperator.ofWord? own.groupOperator with
      | none => simp [hgroup, GroupOperator.ofWord?_eq_none_iff.1 hword]
      | some operator =>
        have hknown : own.groupOperator ∈ GroupOperator.words := by
          by_contra hnot
          rw [GroupOperator.ofWord?_eq_none_iff.2 hnot] at hword
          cases hword
        simp [hknown, Except.map_error_iff]

/-- Of several conditions each is asked until one fails. -/
theorem validateEach_cons_error_iff : validateEach (c :: cs) = .error fault ↔
    c.validate = .error fault ∨ (∃ truth, c.validate = .ok truth) ∧ validateEach cs = .error fault := by
  rw [validateEach]
  cases c.validate with
  | error fault' => simp
  | ok truth => cases validateEach cs <;> simp

/-- A condition fails for the first node that stands in the way, and only where there is one. -/
theorem validate_error_iff : c.validate = .error fault ↔ c.parts.findSome? blame? = some fault := by
  induction c generalizing fault with
  | node own group ih =>
    have heach : validateEach group = .error fault ↔ (group.flatMap parts).findSome? blame? = some fault := by
      clear * - ih
      induction group with
      | nil => simp [validateEach]
      | cons c cs ihs =>
        rw [List.forall_mem_cons] at ih
        have hfine : (∃ truth, c.validate = .ok truth) ↔ c.parts.findSome? blame? = none := by
          cases hc : c.validate with
          | error fault' => simp [ih.1.1 hc]
          | ok truth =>
            simp only [Except.ok.injEq, exists_eq', true_iff]
            by_contra hsome
            obtain ⟨fault', hfault⟩ := Option.ne_none_iff_exists'.1 hsome
            rw [ih.1.2 hfault] at hc
            cases hc
        rw [validateEach_cons_error_iff, ih.1, hfine, ihs ih.2, List.flatMap_cons, List.findSome?_append,
          Option.or_eq_some_iff]
    rw [validate_node_error_iff, heach, parts_node, List.findSome?_cons]
    cases blame? (.node own group) <;> simp

theorem validate_fails_iff_stuck : (∃ fault, c.validate = .error fault) ↔ c.Stuck := by
  simp only [validate_error_iff, Stuck, ← isSome_blame?_iff]
  rw [← Option.isSome_iff_exists, List.findSome?_isSome_iff]

theorem kind_of_validate (h : c.validate = .error fault) : fault.kind = .condition := by
  obtain ⟨part, -, hblame⟩ := List.exists_of_findSome?_eq_some (validate_error_iff.1 h)
  exact kind_of_blame? hblame

/-! ## What does not matter -/

/-- Two conditions that differ at most in what their nodes came to, in the order of their groups, in
what they compare with, and in the words for groups that there are not. -/
inductive Alike : Condition → Condition → Prop
  | node {own own' : ConditionNode} {group middle group' : List Condition} :
    own'.name = own.name → own'.isSet = own.isSet → (group ≠ [] → own'.groupOperator = own.groupOperator) →
      List.Forall₂ Alike group middle → middle.Perm group' → Alike (.node own group) (.node own' group')

theorem Alike.stuck_iff (h : Alike c c') : c.Stuck ↔ c'.Stuck := by
  induction c generalizing c' with
  | node own group ih =>
    obtain ⟨hname, hset, hword, hmembers, horder⟩ := h
    rename_i own' middle group'
    have hempty : group = [] ↔ group' = [] := by
      rw [← List.length_eq_zero_iff, ← List.length_eq_zero_iff, ← horder.length_eq, hmembers.length_eq]
    have hblocked : Blocked (.node own group) ↔ Blocked (.node own' group') := by
      unfold Blocked
      simp only [Condition.own, Condition.group, hname, hset, ne_eq, ← hempty]
      by_cases hgroup : group = []
      · simp [hgroup]
      · rw [hword hgroup]
    have hgroup : (∃ c ∈ group, c.Stuck) ↔ ∃ c ∈ middle, c.Stuck := by
      clear * - ih hmembers
      induction hmembers with
      | nil => simp
      | cons halike _ ihs =>
        rw [List.forall_mem_cons] at ih
        simp only [List.mem_cons, exists_eq_or_imp, ih.1 halike, ihs ih.2]
    rw [stuck_node_iff, stuck_node_iff, hblocked, hgroup]
    simp only [horder.mem_iff]

/-- Asking for the outcome fails just where some node of the tree stands in the way, with a fault of the
condition. What the nodes came to does not matter for this, nor the order of the groups, nor the word for
a group that there is not. -/
theorem validate_fails_iff (c : Condition) :
    ((∃ fault, c.validate = .error fault) ↔
      ∃ part ∈ c.parts, part.own.name ≠ "" ∧ part.own.isSet = false ∨
        part.group ≠ [] ∧ part.own.groupOperator ∉ ["and", "or", "nand", "nor", "xor"]) ∧
    (∀ fault, c.validate = .error fault → fault.kind = .condition) ∧
    ∀ c', Alike c c' → ((∃ fault, c.validate = .error fault) ↔ ∃ fault, c'.validate = .error fault) := by
  refine ⟨validate_fails_iff_stuck, fun fault h => kind_of_validate h, fun c' halike => ?_⟩
  rw [validate_fails_iff_stuck, validate_fails_iff_stuck]
  exact halike.stuck_iff

/-! A condition that is true as soon as one of its nodes is. Two of them are true; below the last one,
where a group of its own stands, a node still waits for its value. -/

def settledMember (holds : Bool) (word : String) : Condition :=
  .node ⟨"b", false, "equals", "y", word, true, holds⟩ []

def waitingLeaf (holds : Bool) : Condition := .node ⟨"c", true, ">", "1", "", false, holds⟩ []

def waitingMember (holds : Bool) : Condition :=
  .node ⟨"", false, "", "", "xor", true, holds⟩ [waitingLeaf holds]

def eitherCondition : Condition :=
  .node ⟨"a", false, "equals", "x", "or", true, true⟩ [settledMember true "", waitingMember false]

/-- The same with its group turned round, other outcomes, and a word where no group is. -/
def eitherTurned : Condition :=
  .node ⟨"a", false, "equals", "x", "or", true, false⟩ [waitingMember true, settledMember false "implies"]

theorem alike_eitherTurned : Alike eitherCondition eitherTurned := by
  have hsettled : Alike (settledMember true "") (settledMember false "implies") :=
    .node rfl rfl (absurd rfl) .nil .nil
  have hleaf : Alike (waitingLeaf false) (waitingLeaf true) := .node rfl rfl (fun _ => rfl) .nil .nil
  have hwaiting : Alike (waitingMember false) (waitingMember true) :=
    .node rfl rfl (fun _ => rfl) (.cons hleaf .nil) (.refl _)
  exact .node rfl rfl (fun _ => rfl) (.cons hsettled (.cons hwaiting .nil)) (.swap _ _ _)

theorem validate_fails_iff_either : Alike eitherCondition eitherTurned ∧
    (∃ fault, eitherCondition.validate = .error fault) ∧ ∃ fault, eitherTurned.validate = .error fault := by
  obtain ⟨hfails, -, halike⟩ := validate_fails_iff eitherCondition
  have hwaits : ∃ fault, eitherCondition.validate = .error fault :=
    hfails.2 ⟨waitingLeaf false,
      by simp [eitherCondition, settledMember, waitingMember, waitingLeaf, parts, partsOfEach],
      .inl ⟨by simp [waitingLeaf, Condition.own], rfl⟩⟩
  exact ⟨alike_eitherTurned, hwaits, (halike _ alike_eitherTurned).1 hwaits⟩

end Condition

end PageTemplate
