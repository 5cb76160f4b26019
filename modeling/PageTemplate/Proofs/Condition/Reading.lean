/-
What a template's condition can be: a property of conditions that the wildcard
has, and that a node has as it is read when the members of its group have it,
is one of every condition that can be read (`read_induct`). So a condition
that has been read has seen no value yet (`fresh_of_ofJson`).
-/
import PageTemplate.Proofs.Condition.Nodes
import PageTemplate.Proofs.Result

namespace PageTemplate

variable [Platform]

/-- A node that has seen no value yet. -/
def ConditionNode.Fresh (n : ConditionNode) : Prop := n.isSet = false ∧ n.holds = false

namespace Condition

/-- A condition that can be read is the wildcard, or a node as it is read over conditions that can be read
with less room. -/
theorem read_ok {room : Nat} {json : Json} {c : Condition} (h : read room json = .ok c) :
    c = default ∨ ∃ rest fields group negated own, ∃ items : List Json, ∃ members,
      room = rest + 1 ∧ c = .node own members ∧ readNode fields group negated = .ok own ∧ items.mapM (read rest) = .ok members := by
  cases room with
  | zero => rw [read] at h; cases h
  | succ rest =>
    rw [read.eq_def] at h
    simp only at h
    split at h
    · cases h; exact .inl rfl
    split at h
    · rename_i fields _
      obtain ⟨group, -, h⟩ := Except.bind_ok_iff.1 h
      obtain ⟨negated, -, h⟩ := Except.bind_ok_iff.1 h
      obtain ⟨items, -, h⟩ := Except.bind_ok_iff.1 h
      obtain ⟨members, hmembers, h⟩ := Except.bind_ok_iff.1 h
      obtain ⟨own, hown, h⟩ := Except.bind_ok_iff.1 h
      cases h
      exact .inr ⟨rest, fields, group, negated, own, items, members, rfl, rfl, hown, hmembers⟩
    · cases h

/-- What holds of the wildcard, and of every node as it is read whenever it holds of the members of
its group, holds of every condition that can be read. -/
theorem read_induct {P : Condition → Prop} (wildcard : P default)
    (node : ∀ fields group negated own members, readNode fields group negated = .ok own →
      (∀ c ∈ members, P c) → P (.node own members))
    {room : Nat} {json : Json} {c : Condition} (h : read room json = .ok c) : P c := by
  induction room generalizing json c with
  | zero => rw [read] at h; cases h
  | succ rest ih =>
    rcases read_ok h with rfl | ⟨rest, fields, group, negated, own, items, members, heq, rfl, hown, hmembers⟩
    · exact wildcard
    · cases heq
      refine node fields group negated own members hown fun c hc => ?_
      obtain ⟨item, -, hitem⟩ := exists_of_mem_right (Except.mapM_ok_iff.1 hmembers) hc
      exact ih hitem

theorem fresh_of_readNode {fields group : Dictionary Json} {negated : Bool} {own : ConditionNode}
    (h : readNode fields group negated = .ok own) : own.Fresh := by
  obtain ⟨name, -, h⟩ := Except.bind_ok_iff.1 h
  obtain ⟨operator, -, h⟩ := Except.bind_ok_iff.1 h
  obtain ⟨literal, -, h⟩ := Except.bind_ok_iff.1 h
  obtain ⟨groupOperator, -, h⟩ := Except.bind_ok_iff.1 h
  cases h
  exact ⟨rfl, rfl⟩

theorem fresh_of_ofJson {json : Json} {c : Condition} (h : ofJson json = .ok c) :
    ∀ n ∈ c.nodes, n.Fresh := by
  refine read_induct (P := fun c => ∀ n ∈ c.nodes, n.Fresh) ?_ ?_ h
  · simp [default, nodes_node, ConditionNode.Fresh]
  · intro fields group negated own members hown hmembers
    rw [nodes_node, List.forall_mem_cons]
    refine ⟨fresh_of_readNode hown, fun n hn => ?_⟩
    obtain ⟨c, hc, hn⟩ := List.mem_flatMap.1 hn
    exact hmembers c hc n hn

end Condition

end PageTemplate
