/-
A condition seen as the nodes it is made of: its names are those of the nodes
that compare a variable (`mem_names`), and changing every node keeps the shape
of the tree.
-/
import PageTemplate.Condition.Reading
import PageTemplate.Proofs.Dictionary

namespace PageTemplate

namespace Condition

/-- Induction over a condition: it holds of a node whenever it holds of every condition in the node's
group. -/
@[elab_as_elim, induction_eliminator]
theorem induct {motive : Condition → Prop}
    (node : ∀ own group, (∀ c ∈ group, motive c) → motive (.node own group)) : ∀ c, motive c
  | .node own group => node own group fun c _ => induct node c

mutual

/-- The condition itself and every condition inside it, each before its group. -/
def parts : Condition → List Condition
  | .node own group => .node own group :: partsOfEach group

/-- The parts of several conditions. -/
def partsOfEach : List Condition → List Condition
  | [] => []
  | c :: rest => parts c ++ partsOfEach rest

end

/-- The nodes of the whole tree. -/
def nodes (c : Condition) : List ConditionNode := c.parts.map own

mutual

/-- The tree with every node changed. -/
def map (f : ConditionNode → ConditionNode) : Condition → Condition
  | .node own group => .node (f own) (mapEach f group)

/-- Several trees with every node changed. -/
def mapEach (f : ConditionNode → ConditionNode) : List Condition → List Condition
  | [] => []
  | c :: rest => map f c :: mapEach f rest

end

theorem partsOfEach_eq (cs : List Condition) : partsOfEach cs = cs.flatMap parts := by
  induction cs with
  | nil => rfl
  | cons c rest ih => simp [partsOfEach, ih]

theorem nodes_node (own : ConditionNode) (group : List Condition) :
    nodes (.node own group) = own :: group.flatMap nodes := by
  simp only [nodes, parts, partsOfEach_eq, List.map_cons, List.map_flatMap, Condition.own]
  rfl

theorem mapEach_eq (f : ConditionNode → ConditionNode) (cs : List Condition) :
    mapEach f cs = cs.map (map f) := by
  induction cs with
  | nil => rfl
  | cons c rest ih => simp [mapEach, ih]

theorem map_node (f : ConditionNode → ConditionNode) (own : ConditionNode) (group : List Condition) :
    map f (.node own group) = .node (f own) (group.map (map f)) := by
  rw [map, mapEach_eq]

theorem nodes_map (f : ConditionNode → ConditionNode) (c : Condition) :
    (c.map f).nodes = c.nodes.map f := by
  induction c with
  | node own group ih =>
    rw [map_node, nodes_node, nodes_node, List.map_cons, List.map_flatMap, List.flatMap_map]
    congr 1
    exact List.flatMap_congr ih

theorem map_map (f g : ConditionNode → ConditionNode) (c : Condition) :
    (c.map f).map g = c.map fun n => g (f n) := by
  induction c with
  | node own group ih =>
    rw [map_node, map_node, map_node, List.map_map]
    congr 1
    exact List.map_congr_left ih

/-- Two changes that agree on the nodes of a tree give the same tree. -/
theorem map_congr {f g : ConditionNode → ConditionNode} {c : Condition}
    (h : ∀ n ∈ c.nodes, f n = g n) : c.map f = c.map g := by
  induction c with
  | node own group ih =>
    rw [nodes_node] at h
    rw [map_node, map_node, h own List.mem_cons_self]
    congr 1
    refine List.map_congr_left fun c hc => ih c hc fun n hn => h n ?_
    exact List.mem_cons_of_mem _ (List.mem_flatMap_of_mem hc hn)

theorem map_id (c : Condition) : (c.map fun n => n) = c := by
  induction c with
  | node own group ih =>
    rw [map_node]
    congr 1
    exact (List.map_congr_left ih).trans (List.map_id' group)

theorem validateEach_error {cs : List Condition} {fault : ConditionFault}
    (h : validateEach cs = .error fault) : ∃ c ∈ cs, c.validate = .error fault := by
  induction cs with
  | nil => cases h
  | cons c rest ih =>
    rw [validateEach] at h
    split at h
    · rename_i hc
      cases h
      exact ⟨c, List.mem_cons_self, hc⟩
    · split at h
      · rename_i hrest
        cases h
        obtain ⟨c, hc, hfault⟩ := ih hrest
        exact ⟨c, List.mem_cons_of_mem _ hc, hfault⟩
      · cases h

/-! ## Names -/

theorem occurringNamesOfEach_eq (cs : List Condition) :
    occurringNamesOfEach cs = cs.flatMap occurringNames := by
  induction cs with
  | nil => rfl
  | cons c rest ih => simp [occurringNamesOfEach, ih]

theorem mem_occurringNames {name : String} {c : Condition} :
    name ∈ c.occurringNames ↔ name ≠ "" ∧ ∃ n ∈ c.nodes, n.name = name := by
  induction c with
  | node own group ih =>
    have hown : name ∈ (if own.isWildcard then [] else [own.name]) ↔ name ≠ "" ∧ own.name = name := by
      unfold ConditionNode.isWildcard
      by_cases h : own.name = ""
      · simp only [h, beq_self_eq_true, if_true, List.not_mem_nil, false_iff, not_and]
        exact fun hne he => hne he.symm
      · simp only [h, beq_iff_eq, if_false, List.mem_singleton]
        exact ⟨fun he => ⟨he ▸ h, he.symm⟩, fun he => he.2.symm⟩
    rw [occurringNames, occurringNamesOfEach_eq, List.mem_append, hown, nodes_node]
    simp only [List.mem_flatMap, List.mem_cons, exists_eq_or_imp]
    constructor
    · rintro (⟨hne, he⟩ | ⟨c, hc, hmem⟩)
      · exact ⟨hne, .inl he⟩
      · obtain ⟨hne, n, hn, he⟩ := (ih c hc).1 hmem
        exact ⟨hne, .inr ⟨n, ⟨c, hc, hn⟩, he⟩⟩
    · rintro ⟨hne, he | ⟨n, ⟨c, hc, hn⟩, he⟩⟩
      · exact .inl ⟨hne, he⟩
      · exact .inr ⟨c, hc, (ih c hc).2 ⟨hne, n, hn, he⟩⟩

/-- The names of a condition are those of its nodes that compare a variable. -/
theorem mem_names {name : String} {c : Condition} :
    name ∈ c.names ↔ name ≠ "" ∧ ∃ n ∈ c.nodes, n.name = name := by
  rw [names, Text.sorted, List.mem_mergeSort, List.mem_eraseDups, mem_occurringNames]

/-- A change that keeps the name of every node keeps the names of the condition. -/
theorem names_map {f : ConditionNode → ConditionNode} {c : Condition}
    (h : ∀ n ∈ c.nodes, (f n).name = n.name) : (c.map f).names = c.names := by
  have hoccur : (c.map f).occurringNames = c.occurringNames := by
    induction c with
    | node own group ih =>
      rw [nodes_node, List.forall_mem_cons] at h
      rw [map_node, occurringNames, occurringNames, occurringNamesOfEach_eq, occurringNamesOfEach_eq,
        List.flatMap_map, ConditionNode.isWildcard, h.1]
      congr 1
      exact List.flatMap_congr fun c hc => ih c hc fun n hn => h.2 n (List.mem_flatMap_of_mem hc hn)
  rw [names, names, hoccur]

end Condition

end PageTemplate
