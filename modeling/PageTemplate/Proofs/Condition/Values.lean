/-
Telling a condition the values of variables.

Telling a condition is telling every node on its own (`set_ok_iff`,
`setAll_ok_iff`): the condition takes a value when all its nodes do, and then
its tree has the same shape with every node told. What a node knows in the end
depends on the value of its own variable alone (`setAll_of_named`), and for a
wildcard on whether there was any value (`setAll_of_wildcard`).
-/
import PageTemplate.Proofs.Condition.Nodes
import PageTemplate.Proofs.Result

namespace PageTemplate

namespace ConditionNode

/-- The node after a change; one that refuses the change stays as it is. -/
def changed (f : ConditionNode → Except ConditionFault ConditionNode) (n : ConditionNode) :
    ConditionNode :=
  (f n).toOption.getD n

theorem changed_of_ok {f : ConditionNode → Except ConditionFault ConditionNode} {n m : ConditionNode}
    (h : f n = .ok m) : changed f n = m := by simp [changed, h, Except.toOption]

end ConditionNode

namespace Condition

/-- The second tree is the first with every node changed, and no node refuses the change. -/
def Changed (f : ConditionNode → Except ConditionFault ConditionNode) (c c' : Condition) : Prop :=
  (∀ n ∈ c.nodes, ∃ m, f n = .ok m) ∧ c' = c.map (.changed f)

theorem changed_pure_iff {c c' : Condition} : Changed .ok c c' ↔ c' = c := by
  have hid : c.map (.changed .ok) = c := map_id c
  rw [Changed, hid]
  exact ⟨fun h => h.2, fun h => ⟨fun n _ => ⟨n, rfl⟩, h⟩⟩

/-- One change after the other is one change. -/
theorem changed_bind_iff {f g : ConditionNode → Except ConditionFault ConditionNode}
    {c c'' : Condition} :
    Changed (fun n => (f n).bind g) c c'' ↔ ∃ c', Changed f c c' ∧ Changed g c' c'' := by
  -- What the two changes do to a node is the same either way.
  have hnode : ∀ n, (∃ k, (f n).bind g = .ok k) ↔
      (∃ m, f n = .ok m) ∧ ∃ k, g (.changed f n) = .ok k := fun n => by
    unfold ConditionNode.changed
    cases f n with
    | error fault => simp [Except.bind]
    | ok m => simp [Except.bind, Except.toOption]
  have htree : (∀ n ∈ c.nodes, ∃ k, (f n).bind g = .ok k) →
      (c.map (.changed f)).map (.changed g) = c.map (.changed fun n => (f n).bind g) := fun h => by
    rw [map_map]
    refine map_congr fun n hn => ?_
    obtain ⟨k, hk⟩ := h n hn
    obtain ⟨m, hm⟩ := ((hnode n).1 ⟨k, hk⟩).1
    rw [ConditionNode.changed_of_ok hm, ConditionNode.changed_of_ok (f := fun n => (f n).bind g) hk]
    rw [hm] at hk
    exact ConditionNode.changed_of_ok hk
  simp only [Changed]
  constructor
  · rintro ⟨h, rfl⟩
    refine ⟨_, ⟨fun n hn => ((hnode n).1 (h n hn)).1, rfl⟩, ?_, (htree h).symm⟩
    rw [nodes_map, List.forall_mem_map]
    exact fun n hn => ((hnode n).1 (h n hn)).2
  · rintro ⟨c', ⟨hf, rfl⟩, hg, rfl⟩
    rw [nodes_map, List.forall_mem_map] at hg
    have h : ∀ n ∈ c.nodes, ∃ k, (f n).bind g = .ok k := fun n hn =>
      (hnode n).2 ⟨hf n hn, hg n hn⟩
    exact ⟨h, htree h⟩

end Condition

variable [Platform]

namespace ConditionNode

/-- Tells a node the values of several variables, one after the other. -/
def setAll (n : ConditionNode) (values : Dictionary Value) : Except ConditionFault ConditionNode :=
  values.foldlM (fun n (name, value) => n.set name value) n

theorem setAll_cons (n : ConditionNode) (name : String) (value : Value) (values : Dictionary Value) :
    n.setAll ((name, value) :: values) = (n.set name value).bind fun n => n.setAll values := rfl

end ConditionNode

namespace Condition

mutual

/-- Telling a condition a value is telling it to every node. -/
theorem set_ok_iff (name : String) (value : Value) : ∀ {c c' : Condition},
    c.set name value = .ok c' ↔ Changed (·.set name value) c c'
  | .node own group, c' => by
    have hgroup := @setEach_ok_iff name value group
    rw [Changed, set, nodes_node, map_node]
    simp only [List.mem_cons, forall_eq_or_imp]
    cases heach : setEach name value group with
    | error fault =>
      rw [heach] at hgroup
      simp only [reduceCtorEq, false_iff, not_and] at hgroup ⊢
      exact fun h => absurd rfl (hgroup h.2)
    | ok told =>
      obtain ⟨htake, rfl⟩ := hgroup.1 heach
      cases hown : own.set name value with
      | error fault =>
        simp only [reduceCtorEq, false_iff, not_and]
        rintro ⟨⟨m, hm⟩, -⟩
        cases hm
      | ok m =>
        rw [ConditionNode.changed_of_ok (f := (·.set name value)) hown]
        simp only [Except.ok.injEq]
        exact ⟨fun h => ⟨⟨⟨m, rfl⟩, htake⟩, h.symm⟩, fun h => h.2.symm⟩

theorem setEach_ok_iff (name : String) (value : Value) : ∀ {cs cs' : List Condition},
    setEach name value cs = .ok cs' ↔
      (∀ n ∈ cs.flatMap nodes, ∃ m, n.set name value = .ok m) ∧
        cs' = cs.map (map (.changed (·.set name value)))
  | [], cs' => by simp [setEach, eq_comm]
  | c :: rest, cs' => by
    have hfirst := @set_ok_iff name value c
    have hrest := @setEach_ok_iff name value rest
    rw [setEach, List.flatMap_cons, List.map_cons]
    simp only [List.mem_append, or_imp, forall_and]
    cases hc : set name value c with
    | error fault =>
      rw [hc] at hfirst
      simp only [Changed, reduceCtorEq, false_iff, not_and] at hfirst ⊢
      exact fun h => absurd rfl (hfirst h.1)
    | ok told =>
      obtain ⟨htake, rfl⟩ := hfirst.1 hc
      cases heach : setEach name value rest with
      | error fault =>
        rw [heach] at hrest
        simp only [reduceCtorEq, false_iff, not_and] at hrest ⊢
        exact fun h => absurd rfl (hrest h.2)
      | ok others =>
        obtain ⟨htakes, rfl⟩ := hrest.1 heach
        simp only [Except.ok.injEq]
        exact ⟨fun h => ⟨⟨htake, htakes⟩, h.symm⟩, fun h => h.2.symm⟩

end

theorem setAll_cons (c : Condition) (name : String) (value : Value) (values : Dictionary Value) :
    c.setAll ((name, value) :: values) = (c.set name value).bind fun told => told.setAll values := rfl

/-- Telling a condition several values is telling them to every node. -/
theorem setAll_ok_iff {values : Dictionary Value} {c c' : Condition} :
    c.setAll values = .ok c' ↔ Changed (·.setAll values) c c' := by
  induction values generalizing c with
  | nil =>
    rw [show (fun n => ConditionNode.setAll n []) = .ok from rfl, changed_pure_iff]
    simp only [setAll, List.foldlM_nil]
    exact ⟨fun h => by cases h; rfl, fun h => by rw [h]; rfl⟩
  | cons entry values ih =>
    obtain ⟨name, value⟩ := entry
    simp only [ConditionNode.setAll_cons, setAll_cons, changed_bind_iff]
    cases htold : c.set name value with
    | error fault =>
      simp only [Except.bind, reduceCtorEq, false_iff, not_exists, not_and]
      intro told h
      rw [(set_ok_iff name value).2 h] at htold
      cases htold
    | ok told =>
      simp only [Except.bind, ih]
      constructor
      · exact fun h => ⟨told, (set_ok_iff name value).1 htold, h⟩
      · rintro ⟨told', h, h'⟩
        rw [(set_ok_iff name value).2 h] at htold
        cases htold
        exact h'

/-- The nodes of a condition that has been told values are its nodes, each told the values. -/
theorem forall₂_nodes_of_setAll {values : Dictionary Value} {c told : Condition}
    (h : c.setAll values = .ok told) :
    List.Forall₂ (fun n m => n.setAll values = .ok m) c.nodes told.nodes := by
  obtain ⟨htake, rfl⟩ := setAll_ok_iff.1 h
  rw [nodes_map, List.forall₂_map_right_iff, List.forall₂_same]
  intro n hn
  obtain ⟨m, hm⟩ := htake n hn
  rw [ConditionNode.changed_of_ok (f := (·.setAll values)) hm]
  exact hm

theorem mem_nodes_of_setAll {values : Dictionary Value} {c told : Condition} (h : c.setAll values = .ok told)
    {m : ConditionNode} (hm : m ∈ told.nodes) : ∃ n ∈ c.nodes, n.setAll values = .ok m :=
  exists_of_mem_right (forall₂_nodes_of_setAll h) hm

end Condition

namespace ConditionNode

/-- The node once its comparison has been made. -/
def decided (n : ConditionNode) (truth : Bool) : ConditionNode := { n with isSet := true, holds := truth }

/-- Whether the node compares the values under its name: it names a variable, or it is a wildcard that
has seen a value. -/
def Compares (n : ConditionNode) : Prop := n.name ≠ "" ∨ n.isSet = true

theorem set_of_compares {n : ConditionNode} (hn : n.Compares) (name : String) (value : Value) :
    n.set name value = if n.name = name then (n.compare value).map n.decided else .ok n := by
  have hw : (n.isWildcard && !n.isSet) = false := by
    rcases hn with hn | hn <;> simp [isWildcard, hn]
  unfold set
  rw [hw]
  by_cases h : n.name = name
  · rw [if_pos h, if_neg Bool.false_ne_true, if_neg (not_not_intro h)]
    rfl
  · rw [if_neg h, if_neg Bool.false_ne_true, if_pos h]

theorem set_of_named {n : ConditionNode} (hn : n.name ≠ "") (name : String) (value : Value) :
    n.set name value = if n.name = name then (n.compare value).map n.decided else .ok n :=
  set_of_compares (.inl hn) name value

theorem set_of_wildcard {n : ConditionNode} (hn : n.name = "") {name : String} (hname : name ≠ "")
    (value : Value) : n.set name value = .ok (if n.isSet then n else n.decided true) := by
  have hne : n.name ≠ name := fun h => hname (h.symm.trans hn)
  cases hs : n.isSet <;> simp [set, isWildcard, hn, hs, hname.symm, decided]

theorem name_set {n m : ConditionNode} {name : String} {value : Value} (h : n.set name value = .ok m) :
    m.name = n.name := by
  unfold set at h
  split at h
  · cases h; rfl
  split at h
  · cases h; rfl
  · obtain ⟨truth, -, rfl⟩ := Except.map_ok_iff.1 h
    rfl

theorem setAll_cons_ok_iff {n m : ConditionNode} {name : String} {value : Value}
    {values : Dictionary Value} :
    n.setAll ((name, value) :: values) = .ok m ↔
      ∃ k, n.set name value = .ok k ∧ k.setAll values = .ok m :=
  Except.bind_ok_iff

theorem name_setAll {n m : ConditionNode} {values : Dictionary Value} (h : n.setAll values = .ok m) :
    m.name = n.name := by
  induction values generalizing n with
  | nil => cases h; rfl
  | cons entry values ih =>
    obtain ⟨k, hk, hrest⟩ := setAll_cons_ok_iff.1 h
    rw [ih hrest, name_set hk]

/-- A node that compares a variable is set once its variable has a value, and stays so. -/
theorem isSet_of_setAll {n m : ConditionNode} {values : Dictionary Value} (h : n.setAll values = .ok m)
    (hn : n.name ≠ "") (hset : n.isSet = true ∨ n.name ∈ values.keys) : m.isSet = true := by
  induction values generalizing n with
  | nil =>
    cases h
    exact hset.resolve_right (by simp [Dictionary.keys])
  | cons entry values ih =>
    obtain ⟨name, value⟩ := entry
    obtain ⟨k, hfirst, hrest⟩ := setAll_cons_ok_iff.1 h
    refine ih hrest (name_set hfirst ▸ hn) ?_
    rw [set_of_named hn] at hfirst
    by_cases hname : n.name = name
    · rw [if_pos hname] at hfirst
      obtain ⟨truth, -, rfl⟩ := Except.map_ok_iff.1 hfirst
      exact .inl rfl
    · rw [if_neg hname] at hfirst
      cases hfirst
      refine hset.imp_right fun hmem => ?_
      rw [Dictionary.keys, List.map_cons, List.mem_cons] at hmem
      exact hmem.resolve_left hname

/-- A node that compares a variable keeps what it knows while that variable has no value. -/
theorem setAll_of_not_mem {n : ConditionNode} (hn : n.name ≠ "") {values : Dictionary Value}
    (h : n.name ∉ values.keys) : n.setAll values = .ok n := by
  induction values with
  | nil => rfl
  | cons entry values ih =>
    rw [Dictionary.keys, List.map_cons, List.mem_cons, not_or] at h
    rw [setAll_cons, set_of_named hn, if_neg h.1]
    exact ih h.2

/-- However often its variable gets a value, a node ends up with the comparison of the last one. -/
theorem setAll_last {n m : ConditionNode} (hn : n.name ≠ "") {values : Dictionary Value}
    (h : n.setAll values = .ok m) {last : Value} (hlast : Dictionary.get? values.reverse n.name = some last) :
    ∃ truth, n.compare last = .ok truth ∧ m = n.decided truth := by
  induction values generalizing n with
  | nil => cases hlast
  | cons entry values ih =>
    obtain ⟨name, value⟩ := entry
    obtain ⟨k, hfirst, hrest⟩ := setAll_cons_ok_iff.1 h
    rw [set_of_named hn] at hfirst
    rw [List.reverse_cons, Dictionary.get?_append] at hlast
    cases hlater : Dictionary.get? values.reverse n.name with
    | some later =>
      rw [hlater, Option.some_or] at hlast
      by_cases hname : n.name = name
      · -- What the node makes of this value does not change what it makes of a later one.
        rw [if_pos hname] at hfirst
        obtain ⟨truth, -, rfl⟩ := Except.map_ok_iff.1 hfirst
        exact ih (n := n.decided truth) hn hrest (hlater.trans hlast)
      · rw [if_neg hname] at hfirst
        cases hfirst
        exact ih hn hrest (hlater.trans hlast)
    | none =>
      rw [hlater, Option.none_or, Dictionary.get?] at hlast
      by_cases hname : name = n.name
      · rw [if_pos hname] at hlast
        cases hlast
        rw [if_pos hname.symm] at hfirst
        obtain ⟨truth, htruth, rfl⟩ := Except.map_ok_iff.1 hfirst
        have hkeys : n.name ∉ Dictionary.keys values := fun hmem => by
          refine Dictionary.get?_eq_none_iff.1 hlater ?_
          rw [Dictionary.keys, List.map_reverse]
          exact List.mem_reverse.2 hmem
        rw [setAll_of_not_mem (n := n.decided truth) hn hkeys] at hrest
        cases hrest
        exact ⟨truth, htruth, rfl⟩
      · rw [if_neg hname] at hlast
        cases hlast

/-- A node that compares ends up with the comparison of the value under its name. -/
theorem setAll_of_compares {n : ConditionNode} (hn : n.Compares) {values : Dictionary Value}
    (hc : values.Consistent) :
    n.setAll values =
      match values.get? n.name with
      | none => .ok n
      | some value => (n.compare value).map n.decided := by
  induction values generalizing n with
  | nil => rfl
  | cons entry values ih =>
    obtain ⟨name, value⟩ := entry
    rw [setAll_cons, set_of_compares hn]
    by_cases h : n.name = name
    · simp only [h, if_true, Dictionary.get?]
      cases hcmp : n.compare value with
      | error fault => rfl
      | ok truth =>
        change (n.decided truth).setAll values = .ok (n.decided truth)
        rw [ih (n := n.decided truth) (.inr rfl) hc.tail]
        -- A later value of the variable is the same value again.
        cases hget : Dictionary.get? values (n.decided truth).name with
        | none => rfl
        | some again =>
          have : again = value :=
            hc name again value (List.mem_cons_of_mem _ (h ▸ Dictionary.mem_of_get? hget))
              List.mem_cons_self
          subst this
          change (n.compare again).map _ = _
          rw [hcmp]
          rfl
    · have hne : name ≠ n.name := fun e => h e.symm
      simp only [h, if_false, Dictionary.get?, hne]
      exact ih hn hc.tail

theorem setAll_of_named {n : ConditionNode} (hn : n.name ≠ "") {values : Dictionary Value}
    (hc : values.Consistent) :
    n.setAll values =
      match values.get? n.name with
      | none => .ok n
      | some value => (n.compare value).map n.decided :=
  setAll_of_compares (.inl hn) hc

/-- A wildcard is set by the first value, whatever its variable. -/
theorem setAll_of_wildcard {n : ConditionNode} (hn : n.name = "") {values : Dictionary Value}
    (hkeys : "" ∉ values.keys) :
    n.setAll values = .ok (if n.isSet = true ∨ values = [] then n else n.decided true) := by
  induction values generalizing n with
  | nil => simp [setAll]; rfl
  | cons entry values ih =>
    obtain ⟨name, value⟩ := entry
    simp only [Dictionary.keys, List.map_cons, List.mem_cons, not_or] at hkeys
    rw [setAll_cons, set_of_wildcard hn (fun h => hkeys.1 h.symm)]
    change ConditionNode.setAll _ values = _
    cases hs : n.isSet with
    | true => simpa [hs] using ih hn hkeys.2
    | false => simpa [decided] using ih (n := n.decided true) hn hkeys.2

end ConditionNode

/-! ## Values in another order -/

/-- What a node ends up with does not depend on the order of the values, nor on whether some come
twice. -/
theorem ConditionNode.setAll_congr (n : ConditionNode) {values others : Dictionary Value}
    (hvalues : values.Consistent) (hkeys : "" ∉ values.keys)
    (h : ∀ entry, entry ∈ others ↔ entry ∈ values) : n.setAll others = n.setAll values := by
  have hothers : others.Consistent := fun k v w hv hw => hvalues k v w ((h _).1 hv) ((h _).1 hw)
  by_cases hn : n.name = ""
  · have hkeys' : "" ∉ others.keys := by simpa only [Dictionary.keys, List.mem_map, h] using hkeys
    have hnil : others = [] ↔ values = [] := by
      simp only [List.eq_nil_iff_forall_not_mem, h]
    rw [setAll_of_wildcard hn hkeys', setAll_of_wildcard hn hkeys]
    simp only [hnil]
  · rw [setAll_of_named hn hothers, setAll_of_named hn hvalues, Dictionary.get?_congr hvalues h]

namespace Condition

/-- What a condition ends up with does not depend on the order of the values, nor on whether some come
twice; only which failure is met first may. -/
theorem setAll_congr (c : Condition) {values others : Dictionary Value} (hvalues : values.Consistent)
    (hkeys : "" ∉ values.keys) (h : ∀ entry, entry ∈ others ↔ entry ∈ values) :
    (c.setAll others).toOption = (c.setAll values).toOption := by
  have hnodes : (fun n : ConditionNode => n.setAll others) = fun n => n.setAll values :=
    funext fun n => n.setAll_congr hvalues hkeys h
  have hiff : ∀ told, c.setAll others = .ok told ↔ c.setAll values = .ok told := fun told => by
    rw [setAll_ok_iff, setAll_ok_iff, hnodes]
  cases hvalues : c.setAll values with
  | ok told => rw [(hiff told).2 hvalues]
  | error fault =>
    cases hothers : c.setAll others with
    | ok told => rw [(hiff told).1 hothers] at hvalues; cases hvalues
    | error fault' => rfl

theorem setAll_append (c : Condition) (values others : Dictionary Value) :
    c.setAll (values ++ others) = (c.setAll values).bind fun told => told.setAll others :=
  List.foldlM_append

end Condition

end PageTemplate
