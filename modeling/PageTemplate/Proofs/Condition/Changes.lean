/-
What telling a condition the value of a variable changes (`set_changes_only`):
the tree keeps its shape and every node what it says. What nodes know changes
only in those that compare the variable, which are set with the truth of their
comparison, and in the wildcards that have seen no value, which become true.
All such nodes are reached, at any depth, and none that is set is unset.
-/
import PageTemplate.Platform.Plain
import PageTemplate.Proofs.Condition.Evaluation

namespace PageTemplate


namespace ConditionNode

/-- Two nodes that say the same, whatever they know. -/
structure SaysSame (before after : ConditionNode) : Prop where
  name_eq : after.name = before.name
  negated_eq : after.negated = before.negated
  operator_eq : after.operator = before.operator
  literal_eq : after.literal = before.literal
  groupOperator_eq : after.groupOperator = before.groupOperator

/-- What being told the value of a variable makes of a node. -/
structure Told [Platform] (name : String) (value : Value) (before after : ConditionNode) : Prop
    extends SaysSame before after where
  /-- Nothing new is known but to a node of the variable and to a wildcard that has seen no value. -/
  unmoved : before.name ≠ name → ¬ (before.name = "" ∧ before.isSet = false) →
    after.isSet = before.isSet ∧ after.holds = before.holds
  /-- A node of the variable can be compared, and is set with the truth of its comparison. -/
  compared : before.name = name → after.isSet = true ∧ before.compare value = .ok after.holds ∧
    after.holds = (before.negated ^^ Comparison.stands before.operator value before.literal)
  /-- A wildcard is set, and true if it was not set before. -/
  wildcard : before.name = "" → after.isSet = true ∧ (before.isSet = false → after.holds = true)
  stays_set : before.isSet = true → after.isSet = true

variable {name : String} {value : Value} {n m : ConditionNode}

theorem SaysSame.refl (n : ConditionNode) : n.SaysSame n := ⟨rfl, rfl, rfl, rfl, rfl⟩

theorem SaysSame.decided (n : ConditionNode) (truth : Bool) : n.SaysSame (n.decided truth) :=
  ⟨rfl, rfl, rfl, rfl, rfl⟩

/-- A node is what it says and what it knows. -/
theorem SaysSame.eq_of (h : n.SaysSame m) {isSet holds : Bool} (hset : m.isSet = isSet)
    (hholds : m.holds = holds) : m = { n with isSet := isSet, holds := holds } := by
  cases n
  cases m
  simp only [mk.injEq]
  exact ⟨h.name_eq, h.negated_eq, h.operator_eq, h.literal_eq, h.groupOperator_eq, hset, hholds⟩

theorem told_of_set [Platform] (hname : name ≠ "") (h : n.set name value = .ok m) : n.Told name value m := by
  by_cases hn : n.name = ""
  · have hother : n.name ≠ name := fun he => hname (he ▸ hn)
    rw [set_of_wildcard hn hname] at h
    cases hset : n.isSet with
    | false =>
      rw [hset] at h
      cases h
      exact {
        toSaysSame := .decided n true
        unmoved := fun _ hnot => absurd ⟨hn, hset⟩ hnot
        compared := fun he => absurd he hother
        wildcard := fun _ => ⟨rfl, fun _ => rfl⟩
        stays_set := fun _ => rfl }
    | true =>
      rw [hset] at h
      cases h
      exact {
        toSaysSame := .refl n
        unmoved := fun _ _ => ⟨rfl, rfl⟩
        compared := fun he => absurd he hother
        wildcard := fun _ => ⟨hset, fun hfresh => by rw [hset] at hfresh; cases hfresh⟩
        stays_set := id }
  · rw [set_of_named hn] at h
    by_cases he : n.name = name
    · rw [if_pos he] at h
      obtain ⟨truth, htruth, rfl⟩ := Except.map_ok_iff.1 h
      exact {
        toSaysSame := .decided n truth
        unmoved := fun hne => absurd he hne
        compared := fun _ => ⟨rfl, htruth, eq_stands_of_compare htruth⟩
        wildcard := fun hw => absurd hw hn
        stays_set := fun _ => rfl }
    · rw [if_neg he] at h
      cases h
      exact {
        toSaysSame := .refl n
        unmoved := fun _ _ => ⟨rfl, rfl⟩
        compared := fun h => absurd h he
        wildcard := fun hw => absurd hw hn
        stays_set := id }

theorem Told.set_eq [Platform] (h : n.Told name value m) (hname : name ≠ "") : n.set name value = .ok m := by
  by_cases hn : n.name = ""
  · have hother : n.name ≠ name := fun he => hname (he ▸ hn)
    rw [set_of_wildcard hn hname]
    cases hset : n.isSet with
    | false =>
      obtain ⟨hisSet, hholds⟩ := h.wildcard hn
      rw [h.eq_of hisSet (hholds hset)]
      rfl
    | true =>
      obtain ⟨hisSet, hholds⟩ := h.unmoved hother fun hw => by rw [hset] at hw; cases hw.2
      rw [h.eq_of hisSet hholds]
      rfl
  · rw [set_of_named hn]
    by_cases he : n.name = name
    · obtain ⟨hisSet, hcompare, -⟩ := h.compared he
      rw [if_pos he, hcompare, h.eq_of hisSet rfl]
      rfl
    · obtain ⟨hisSet, hholds⟩ := h.unmoved he fun hw => hn hw.1
      rw [if_neg he, h.eq_of hisSet hholds]

/-- A node ends up so just if it has taken the value. -/
theorem set_ok_iff_told [Platform] (hname : name ≠ "") : n.set name value = .ok m ↔ n.Told name value m :=
  ⟨told_of_set hname, fun h => h.set_eq hname⟩

end ConditionNode

namespace Condition

/-- Two conditions of one shape whose nodes are related, each to the one at its place. -/
inductive Paired (R : ConditionNode → ConditionNode → Prop) : Condition → Condition → Prop
  | node {own own' : ConditionNode} {group group' : List Condition} :
    R own own' → List.Forall₂ (Paired R) group group' → Paired R (.node own group) (.node own' group')

/-- A condition is changed where each of its nodes takes the change and is paired with what it becomes. -/
theorem changed_iff_paired {f : ConditionNode → Except ConditionFault ConditionNode}
    {R : ConditionNode → ConditionNode → Prop} (hf : ∀ n m, f n = .ok m ↔ R n m) {c c' : Condition} :
    Changed f c c' ↔ Paired R c c' := by
  constructor
  · rintro ⟨htake, rfl⟩
    induction c with
    | node own group ih =>
      rw [nodes_node, List.forall_mem_cons] at htake
      obtain ⟨⟨m, hm⟩, htake⟩ := htake
      rw [map_node, ConditionNode.changed_of_ok hm]
      refine .node ((hf own m).1 hm) ?_
      rw [List.forall₂_map_right_iff, List.forall₂_same]
      exact fun c hc => ih c hc fun n hn => htake n (List.mem_flatMap_of_mem hc hn)
  · intro h
    induction c generalizing c' with
    | node own group ih =>
      obtain ⟨hown, hgroup⟩ := h
      rename_i own' group'
      -- The group is gone through condition by condition, each with its own hypothesis.
      have heach : (∀ n ∈ group.flatMap nodes, ∃ m, f n = .ok m) ∧ group' = group.map (map (.changed f)) := by
        clear hown
        induction hgroup with
        | nil => simp
        | cons hc _ ihs =>
          rw [List.forall_mem_cons] at ih
          obtain ⟨htake, rfl⟩ := ih.1 hc
          obtain ⟨htakes, rfl⟩ := ihs ih.2
          rw [List.flatMap_cons, List.forall_mem_append]
          exact ⟨⟨htake, htakes⟩, rfl⟩
      have hm := (hf own own').2 hown
      rw [Changed, nodes_node, List.forall_mem_cons, map_node, ConditionNode.changed_of_ok hm, heach.2]
      exact ⟨⟨⟨own', hm⟩, heach.1⟩, rfl⟩

/-- A condition that takes the value of a variable becomes the one of its shape in which every node has been
told the value, and no other. It has the names that it had. -/
theorem set_changes_only [Platform] {name : String} (hname : name ≠ "") (value : Value) (c told : Condition) :
    (c.set name value = .ok told ↔ Paired (ConditionNode.Told name value) c told) ∧
      (c.set name value = .ok told → told.names = c.names) := by
  have htold : ∀ n m : ConditionNode, n.set name value = .ok m ↔ n.Told name value m := fun _ _ =>
    ConditionNode.set_ok_iff_told hname
  refine ⟨(set_ok_iff name value).trans (changed_iff_paired htold), fun h => ?_⟩
  obtain ⟨htake, rfl⟩ := (set_ok_iff name value).1 h
  refine names_map fun n hn => ?_
  obtain ⟨m, hm⟩ := htake n hn
  rw [ConditionNode.changed_of_ok (f := (·.set name value)) hm]
  exact ConditionNode.name_set hm

/-- A condition in which a variable is compared at two depths, under a wildcard that sees its first value
with it and under a set node of another variable. A wildcard below was found false. -/
def scattered (told : Bool) : Condition :=
  .node ⟨"", false, "", "", "and", told, told⟩
    [.node ⟨"x", false, "contains", "b", "", told, told⟩ [],
      .node ⟨"y", false, "==", "1", "or", true, false⟩
        [.node ⟨"x", true, "ci_equals", "ABC", "", told, false⟩ [],
          .node ⟨"", false, "", "", "", true, false⟩ []]]

open scoped Plain in
theorem set_changes_only_scattered : "x" ≠ "" ∧
    (scattered false).set "x" (.text "abc") = .ok (scattered true) ∧
      Paired (ConditionNode.Told "x" (.text "abc")) (scattered false) (scattered true) ∧
        (scattered true).names = (scattered false).names := by
  have hname : "x" ≠ "" := by decide
  have hcontains : ConditionNode.compare ⟨"x", false, "contains", "b", "", false, false⟩ (.text "abc") =
    .ok true := by decide +kernel
  have hequals : ConditionNode.compare ⟨"x", true, "ci_equals", "ABC", "", false, false⟩ (.text "abc") =
    .ok false := by decide +kernel
  have hset : (scattered false).set "x" (.text "abc") = .ok (scattered true) := by
    simp [scattered, set, setEach, ConditionNode.set, ConditionNode.isWildcard, hcontains, hequals, Except.map]
  obtain ⟨hiff, hnames⟩ := set_changes_only hname (.text "abc") (scattered false) (scattered true)
  exact ⟨hname, hset, hiff.1 hset, hnames hset⟩

end Condition

end PageTemplate
