/-
A further value among those that a condition is told, for a name that none of
its nodes compares. A node with a name passes it over. A wildcard is made true
by the first value; after that it compares what comes under the empty name. So
the condition comes to the same just if each wildcard would be true of what it
now compares (`ConditionNode.Unmoved`, `setAll_unasked_iff`).
-/
import PageTemplate.Proofs.Condition.Reading
import PageTemplate.Proofs.Condition.Values

namespace PageTemplate

theorem ConditionNode.map_decided_eq_iff {n : ConditionNode} {result : Except ConditionFault Bool} {truth : Bool} :
    result.map n.decided = .ok (n.decided truth) ↔ result = .ok truth := by
  cases result <;> simp [Except.map, decided]

variable [Platform]

namespace ConditionNode

variable {n : ConditionNode} {before after : Dictionary Value} {name : String} {value : Value}

/-- A wildcard that has seen no value is made true by the first one, and then compares what comes under
the empty name. -/
theorem setAll_of_fresh_wildcard (hn : n.name = "") (hfresh : n.Fresh) (entry : String × Value)
    {values : Dictionary Value} (hvalues : values.Consistent) :
    n.setAll (entry :: values) =
      match values.get? "" with
      | none => .ok (n.decided true)
      | some value => (n.compare value).map n.decided := by
  have hfirst : n.set entry.1 entry.2 = .ok (n.decided true) := by
    simp [set, isWildcard, hn, hfresh.1, decided]
  have hrest := setAll_of_compares (n := n.decided true) (.inr rfl) hvalues
  rw [setAll_cons, hfirst]
  rw [show (n.decided true).name = "" from hn] at hrest
  exact hrest

/-- What it takes for a node not to notice a further value among others. A wildcard must be true of the
further value, if that has the empty name and comes behind another; and of the first of the others, if
that has the empty name and the further value comes before it. -/
def Unmoved (n : ConditionNode) (before : Dictionary Value) (name : String) (value : Value)
    (after : Dictionary Value) : Prop :=
  n.name = "" → (name = "" → before ≠ [] → n.compare value = .ok true) ∧
    (before = [] → ∀ first rest, after = ("", first) :: rest → n.compare first = .ok true)

/-- Where no value has the empty name, none is noticed. -/
theorem unmoved_of_named (hname : name ≠ "") (hkeys : "" ∉ Dictionary.keys (before ++ after)) :
    n.Unmoved before name value after := by
  refine fun _ => ⟨fun h => absurd h hname, ?_⟩
  rintro rfl first rest rfl
  exact absurd List.mem_cons_self hkeys

/-- A node that names another variable passes the value over. -/
theorem setAll_of_other (hn : n.name ≠ "") (hname : n.name ≠ name)
    (hvalues : Dictionary.Distinct (before ++ (name, value) :: after)) :
    n.setAll (before ++ (name, value) :: after) = n.setAll (before ++ after) := by
  have hothers : Dictionary.Distinct (before ++ after) :=
    hvalues.sublist ((List.sublist_cons_self _ after).append_left before)
  rw [setAll_of_named hn hvalues.consistent, setAll_of_named hn hothers.consistent,
    Dictionary.get?_append_cons_other hname]

section Wildcard

variable (hn : n.name = "") (hfresh : n.Fresh)
include hn hfresh

/-- Before all others the further value is the one that makes a wildcard true. The first of the others,
which made it true without, is compared if it has the empty name. -/
theorem setAll_first_eq_iff {first : String} {given : Value} {rest : Dictionary Value}
    (hothers : Dictionary.Distinct ((first, given) :: rest)) :
    n.setAll ((name, value) :: (first, given) :: rest) = n.setAll ((first, given) :: rest) ↔
      (first = "" → n.compare given = .ok true) := by
  obtain ⟨hnew, hrest⟩ := Dictionary.distinct_cons_iff.1 hothers
  rw [setAll_of_fresh_wildcard hn hfresh _ hothers.consistent,
    setAll_of_fresh_wildcard hn hfresh _ hrest.consistent, Dictionary.get?]
  by_cases hfirst : first = ""
  · subst hfirst
    rw [if_pos rfl, Dictionary.get?_eq_none_iff.2 hnew]
    simp [map_decided_eq_iff]
  · simp [hfirst]

/-- Behind another value, which makes a wildcard true, the further value is compared if it has the empty
name. -/
theorem setAll_later_eq_iff {entry : String × Value}
    (hvalues : Dictionary.Distinct (before ++ (name, value) :: after)) :
    n.setAll (entry :: (before ++ (name, value) :: after)) = n.setAll (entry :: (before ++ after)) ↔
      (name = "" → n.compare value = .ok true) := by
  obtain ⟨hnew, hothers⟩ := Dictionary.distinct_append_cons_iff.1 hvalues
  rw [setAll_of_fresh_wildcard hn hfresh _ hvalues.consistent,
    setAll_of_fresh_wildcard hn hfresh _ hothers.consistent]
  by_cases hname : name = ""
  · subst hname
    have hbefore : "" ∉ Dictionary.keys before := fun hmem =>
      hnew (by rw [Dictionary.keys, List.map_append]; exact List.mem_append_left _ hmem)
    rw [Dictionary.get?_append_cons_self hbefore, Dictionary.get?_eq_none_iff.2 hnew]
    simp [map_decided_eq_iff]
  · rw [Dictionary.get?_append_cons_other fun he => hname he.symm]
    simp [hname]

/-- A wildcard comes to the same with a further value just if what it then compares makes it true. -/
theorem setAll_wildcard_eq_iff (hvalues : Dictionary.Distinct (before ++ (name, value) :: after))
    (hnil : before ++ after ≠ []) :
    n.setAll (before ++ (name, value) :: after) = n.setAll (before ++ after) ↔
      n.Unmoved before name value after := by
  rw [Unmoved, forall_prop_of_true hn]
  match before, after with
  | [], [] => exact absurd rfl hnil
  | [], (first, given) :: rest =>
    have hothers := (Dictionary.distinct_cons_iff.1 hvalues).2
    rw [List.nil_append, List.nil_append, setAll_first_eq_iff hn hfresh hothers]
    simp
  | entry :: before, after =>
    have hvalues' := (Dictionary.distinct_cons_iff.1 hvalues).2
    rw [List.cons_append, List.cons_append, setAll_later_eq_iff hn hfresh hvalues']
    simp

end Wildcard

end ConditionNode

namespace Condition

/-- A condition that takes some values takes others to the same effect just if each of its nodes does. -/
theorem setAll_ok_iff_of_ok {values others : Dictionary Value} {c told : Condition}
    (h : c.setAll values = .ok told) :
    c.setAll others = .ok told ↔ ∀ n ∈ c.nodes, n.setAll others = n.setAll values := by
  obtain ⟨htake, rfl⟩ := setAll_ok_iff.1 h
  rw [setAll_ok_iff]
  constructor
  · rintro ⟨hothers, hsame⟩ n hn
    have hnodes := congrArg nodes hsame
    rw [nodes_map, nodes_map] at hnodes
    have hnode := List.map_inj_left.1 hnodes n hn
    obtain ⟨m, hm⟩ := htake n hn
    obtain ⟨k, hk⟩ := hothers n hn
    rw [ConditionNode.changed_of_ok (f := (·.setAll values)) hm,
      ConditionNode.changed_of_ok (f := (·.setAll others)) hk] at hnode
    exact hk.trans (hnode ▸ hm.symm)
  · intro hsame
    refine ⟨fun n hn => ?_, map_congr fun n hn => ?_⟩
    · exact (htake n hn).imp fun m hm => (hsame n hn).trans hm
    · simp only [ConditionNode.changed, hsame n hn]

/-- A condition that takes some values takes them to the same effect with a further one, which none of its
nodes names, just if no node notices it. -/
theorem setAll_unasked_iff {before after : Dictionary Value} {name : String} {value : Value}
    {c told : Condition} (hfresh : ∀ n ∈ c.nodes, n.Fresh)
    (hname : ∀ n ∈ c.nodes, n.name ≠ "" → n.name ≠ name)
    (hvalues : Dictionary.Distinct (before ++ (name, value) :: after)) (hnil : before ++ after ≠ [])
    (h : c.setAll (before ++ after) = .ok told) :
    c.setAll (before ++ (name, value) :: after) = .ok told ↔
      ∀ n ∈ c.nodes, n.Unmoved before name value after := by
  rw [setAll_ok_iff_of_ok h]
  refine forall₂_congr fun n hn => ?_
  by_cases hwild : n.name = ""
  · exact ConditionNode.setAll_wildcard_eq_iff hwild (hfresh n hn) hvalues hnil
  · refine iff_of_true (ConditionNode.setAll_of_other hwild (hname n hn hwild) hvalues) fun h => ?_
    exact absurd h hwild

end Condition

end PageTemplate
