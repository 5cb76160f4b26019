/-
What a condition says of given values, at one go, and that being told the
values one after the other comes to the same (`validate_setAll`).

A node that compares a variable is as true as its comparison, the other way
round if it is negated; a wildcard is true. A node without a group has its own
truth, and any other the truth of its group, itself included: all, some, not
all, none or exactly one of them. Negation turns the node's own comparison
round and never the group.
-/
import Mathlib.Data.List.Infix
import PageTemplate.Platform.Plain
import PageTemplate.Proofs.Condition.Reading
import PageTemplate.Proofs.Condition.Values

namespace PageTemplate

/-- The word for a relation of texts. -/
def TextRelation.word : TextRelation → String
  | .equals => "equals"
  | .contains => "contains"
  | .startsWith => "startswith"
  | .endsWith => "endswith"

/-- The word for a relation of numbers. -/
def NumberRelation.word : NumberRelation → String
  | .equal => "=="
  | .less => "<"
  | .greater => ">"
  | .lessOrEqual => "<="
  | .greaterOrEqual => ">="

theorem TextRelation.eq_word_of_ofWord? {cs : List Char} {relation : TextRelation}
    (h : TextRelation.ofWord? cs = some relation) : cs = relation.word.toList := by
  unfold TextRelation.ofWord? at h
  split at h
  · cases h; assumption
  split at h
  · cases h; assumption
  split at h
  · cases h; assumption
  split at h
  · cases h; assumption
  · cases h

theorem NumberRelation.eq_word_of_ofWord? {cs : List Char} {relation : NumberRelation}
    (h : NumberRelation.ofWord? cs = some relation) : cs = relation.word.toList := by
  unfold NumberRelation.ofWord? at h
  split at h
  · cases h; assumption
  split at h
  · cases h; assumption
  split at h
  · cases h; assumption
  split at h
  · cases h; assumption
  split at h
  · cases h; assumption
  · cases h

namespace Comparison

/-- The word for a comparison. -/
def word : Comparison → String
  | .texts relation ignoreCase => if ignoreCase then "ci_" ++ relation.word else relation.word
  | .numbers relation => relation.word

/-- Whether one text stands to another as a word says. -/
def textsStand (word : String) (subject literal : String) : Bool :=
  match word with
  | "equals" => subject = literal
  | "contains" => literal.toList <:+: subject.toList
  | "startswith" => literal.toList <+: subject.toList
  | "endswith" => literal.toList <:+ subject.toList
  | _ => false

/-- Whether one number stands to another as a word says. -/
def numbersStand (word : String) (subject literal : Binary64) : Bool :=
  match word with
  | "==" => subject.eq literal
  | "<" => subject.lt literal
  | ">" => literal.lt subject
  | "<=" => subject.le literal
  | ">=" => literal.le subject
  | _ => false

/-- Whether a value stands to a literal as a word says. Behind `ci_` both texts are lower-cased, and
a value that is no text is compared as a number. -/
def stands (word : String) (value : Value) (literal : String) : Bool :=
  match value.text? with
  | some subject =>
    match word.toList with
    | 'c' :: 'i' :: '_' :: rest =>
      textsStand (String.ofList rest) (Text.lower subject) (Text.lower literal)
    | _ => textsStand word subject literal
  | none =>
    match value.number?, Binary64.ofLiteral? literal with
    | some (.ok subject), some literal => numbersStand word subject literal
    | _, _ => false

theorem eq_word_of_ofWord? {word : String} {c : Comparison} (h : ofWord? word = some c) :
    word = c.word := by
  rw [← String.toList_inj]
  simp only [ofWord?] at h
  split at h
  · rename_i hci
    obtain ⟨relation, hr, rfl⟩ := Option.map_eq_some_iff.1 h
    have hdrop := TextRelation.eq_word_of_ofWord? hr
    obtain ⟨rest, hrest⟩ := List.isPrefixOf_iff_prefix.1 hci
    rw [← hrest] at hdrop ⊢
    simp only [Comparison.word, if_true, String.toList_append, ← hdrop]
    rfl
  · split at h
    · rename_i relation hr
      cases h
      exact TextRelation.eq_word_of_ofWord? hr
    · obtain ⟨relation, hr, rfl⟩ := Option.map_eq_some_iff.1 h
      exact NumberRelation.eq_word_of_ofWord? hr

theorem occursIn_iff {part : List Char} : ∀ {cs : List Char},
    Text.occursIn part cs = true ↔ part <:+: cs
  | [] => by simp [Text.occursIn]
  | c :: cs => by
    rw [Text.occursIn, Bool.or_eq_true, List.isPrefixOf_iff_prefix, occursIn_iff, List.infix_cons_iff]

theorem textsStand_word (relation : TextRelation) (subject literal : String) :
    textsStand relation.word subject literal = relation.holds subject literal := by
  rw [Bool.eq_iff_iff]
  cases relation <;>
    simp [textsStand, TextRelation.word, TextRelation.holds, occursIn_iff, String.toList_inj]

theorem numbersStand_word (relation : NumberRelation) (subject literal : Binary64) :
    numbersStand relation.word subject literal = relation.holds subject literal := by
  cases relation <;> rfl

theorem refuse_ne_ok [Platform] {fault : String → ConditionFault} {value : Value} {truth : Bool} :
    refuse fault value ≠ .ok truth := by
  intro h
  obtain ⟨shown, -, h⟩ := Except.bind_ok_iff.1 h
  cases h

/-- A comparison that can be made is made as its word says. -/
theorem holds_eq_stands [Platform] {c : Comparison} {value : Value} {literal : String} {truth : Bool}
    (h : c.holds value literal = .ok truth) : truth = stands c.word value literal := by
  cases c with
  | texts relation ignoreCase =>
    cases htext : value.text? with
    | none =>
      simp only [holds, htext] at h
      exact absurd h refuse_ne_ok
    | some subject =>
      simp only [holds, htext, Except.ok.injEq] at h
      subst h
      cases ignoreCase with
      | false =>
        rw [holdsForText, if_neg Bool.false_ne_true, ← textsStand_word]
        cases relation <;> simp [stands, htext, word, TextRelation.word]
      | true =>
        rw [holdsForText, if_pos rfl, ← textsStand_word]
        cases relation <;> simp [stands, htext, word, TextRelation.word]
  | numbers relation =>
    cases hnumber : value.number? with
    | none =>
      simp only [holds, hnumber] at h
      exact absurd h refuse_ne_ok
    | some number =>
      cases hliteral : Binary64.ofLiteral? literal with
      | none => simp [holds, hnumber, hliteral] at h
      | some bound =>
        cases number with
        | error e => simp [holds, hnumber, hliteral] at h
        | ok subject =>
          simp only [holds, hnumber, hliteral, Except.ok.injEq] at h
          have htext : value.text? = none := by
            unfold Value.number? at hnumber
            split at hnumber <;> first | rfl | cases hnumber
          simp only [stands, htext, hnumber, hliteral]
          rw [← h, ← numbersStand_word, word]

end Comparison

/-- Whether a group of truths has the outcome that its word asks for. -/
def groupStands (word : String) (truths : List Bool) : Bool :=
  match word with
  | "and" => ∀ truth ∈ truths, truth = true
  | "or" => ∃ truth ∈ truths, truth = true
  | "nand" => ¬ ∀ truth ∈ truths, truth = true
  | "nor" => ¬ ∃ truth ∈ truths, truth = true
  | "xor" => truths.count true = 1
  | _ => false

/-- The node's own truth for given values. -/
def ConditionNode.truth (values : Dictionary Value) (n : ConditionNode) : Bool :=
  if n.name = "" then true
  else
    match values.get? n.name with
    | some value => n.negated ^^ Comparison.stands n.operator value n.literal
    | none => false

namespace Condition

mutual

/-- The outcome of the condition for given values. -/
def eval (values : Dictionary Value) : Condition → Bool
  | .node own [] => own.truth values
  | .node own (c :: rest) => groupStands own.groupOperator (own.truth values :: evalEach values (c :: rest))

/-- The outcomes of several conditions for given values. -/
def evalEach (values : Dictionary Value) : List Condition → List Bool
  | [] => []
  | c :: rest => eval values c :: evalEach values rest

end

end Condition

namespace ConditionNode

/-- A comparison that can be made is made as the node's word says, turned round if it is negated. -/
theorem eq_stands_of_compare [Platform] {n : ConditionNode} {value : Value} {truth : Bool}
    (h : n.compare value = .ok truth) :
    truth = (n.negated ^^ Comparison.stands n.operator value n.literal) := by
  unfold compare at h
  cases hword : Comparison.ofWord? n.operator with
  | none => simp [hword] at h
  | some comparison =>
    cases hholds : comparison.holds value n.literal with
    | error fault => simp [hword, hholds, Except.map] at h
    | ok outcome =>
      simp only [hword, hholds, Except.map, Except.ok.injEq] at h
      subst h
      rw [Comparison.eq_word_of_ofWord? hword, Comparison.holds_eq_stands hholds]
      cases n.negated <;> simp

/-- A comparison that can be made gives the node its own truth. -/
theorem truth_of_compare [Platform] {values : Dictionary Value} {n : ConditionNode} {value : Value} {truth : Bool}
    (hn : n.name ≠ "") (hvalue : values.get? n.name = some value) (h : n.compare value = .ok truth) :
    n.truth values = truth := by
  rw [ConditionNode.truth, if_neg hn, hvalue]
  exact (eq_stands_of_compare h).symm

/-- A fresh node that takes values, one of them for its own variable, knows its truth. -/
theorem setAll_of_fresh [Platform] {values : Dictionary Value} {n m : ConditionNode} (hfresh : n.Fresh)
    (hvalues : values ≠ []) (hc : values.Consistent) (hkeys : "" ∉ values.keys)
    (hcover : n.name ≠ "" → n.name ∈ values.keys) (h : n.setAll values = .ok m) :
    m = n.decided (n.truth values) := by
  by_cases hn : n.name = ""
  · rw [setAll_of_wildcard hn hkeys, hfresh.1] at h
    simp only [Bool.false_eq_true, false_or, hvalues, if_false, Except.ok.injEq] at h
    rw [← h, ConditionNode.truth, if_pos hn]
  · obtain ⟨value, hvalue⟩ := Option.isSome_iff_exists.1 (Dictionary.get?_isSome_iff.2 (hcover hn))
    rw [setAll_of_named hn hc] at h
    cases hcmp : n.compare value with
    | error fault => simp [hvalue, hcmp, Except.map] at h
    | ok truth =>
      simp only [hvalue, hcmp, Except.map, Except.ok.injEq] at h
      rw [← h, truth_of_compare hn hvalue hcmp]

end ConditionNode

namespace GroupOperator

/-- The words of the group operators. -/
def words : List String := ["and", "or", "nand", "nor", "xor"]

/-- Every such word names an operator that combines truths as the word says. -/
theorem combine_of_mem_words {word : String} (h : word ∈ words) :
    ∃ operator, ofWord? word = some operator ∧
      ∀ own group, combine operator own group = groupStands word (own :: group) := by
  simp only [words, List.mem_cons, List.not_mem_nil, or_false] at h
  rcases h with rfl | rfl | rfl | rfl | rfl
  · exact ⟨.all, rfl, fun own group => by simp [combine, groupStands, List.all_eq]⟩
  · exact ⟨.any, rfl, fun own group => by simp [combine, groupStands, List.any_eq]⟩
  · exact ⟨.notAll, rfl, fun own group => by simp [combine, groupStands, List.all_eq]⟩
  · exact ⟨.notAny, rfl, fun own group => by simp [combine, groupStands, List.any_eq]⟩
  · exact ⟨.exactlyOne, rfl, fun own group => rfl⟩

end GroupOperator

namespace Condition

theorem validateEach_map {g : Condition → Condition} {f : Condition → Bool} {cs : List Condition}
    (h : ∀ c ∈ cs, (g c).validate = .ok (f c)) : validateEach (cs.map g) = .ok (cs.map f) := by
  induction cs with
  | nil => rfl
  | cons c rest ih =>
    rw [List.forall_mem_cons] at h
    simp [validateEach, h.1, ih h.2]

theorem evalEach_eq (values : Dictionary Value) (cs : List Condition) :
    evalEach values cs = cs.map (eval values) := by
  induction cs with
  | nil => rfl
  | cons c rest ih => simp [evalEach, ih]

/-- The words for groups are those of group operators wherever there is a group. -/
def GroupsKnown (c : Condition) : Prop :=
  ∀ part ∈ c.parts, part.group ≠ [] → part.own.groupOperator ∈ GroupOperator.words

theorem GroupsKnown.of_mem {own : ConditionNode} {group : List Condition}
    (h : GroupsKnown (.node own group)) {c : Condition} (hc : c ∈ group) : c.GroupsKnown :=
  fun part hpart => h part (by
    rw [parts, partsOfEach_eq]
    exact List.mem_cons_of_mem _ (List.mem_flatMap_of_mem hc hpart))

/-- A tree whose nodes all know their truth has the outcome of its evaluation. -/
theorem validate_map_decided {values : Dictionary Value} {c : Condition} (hgroups : c.GroupsKnown) :
    (c.map fun n => n.decided (n.truth values)).validate = .ok (c.eval values) := by
  induction c with
  | node own group ih =>
    have heach := validateEach_map fun c hc => ih c hc (hgroups.of_mem hc)
    rw [map_node]
    cases group with
    | nil => simp [validate, eval, ConditionNode.decided]
    | cons c rest =>
      have hmem : own.groupOperator ∈ GroupOperator.words :=
        hgroups (.node own (c :: rest)) (by simp [parts]) (by simp [Condition.group])
      obtain ⟨operator, hword, hcombine⟩ := GroupOperator.combine_of_mem_words hmem
      have hself : ∀ truth, (own.decided truth).groupOperator = own.groupOperator := fun _ => rfl
      rw [validate, heach, hself, hword]
      simp [ConditionNode.decided, Except.map, hcombine, eval, evalEach_eq]

/-- A condition that has been read and told the values of its variables, one after the other, has the
outcome of its evaluation for them. -/
theorem validate_setAll [Platform] {json : Json} {c told : Condition} {values : Dictionary Value}
    (hread : ofJson json = .ok c) (hgroups : c.GroupsKnown) (hvalues : values ≠ [])
    (hdistinct : values.Distinct) (hkeys : "" ∉ values.keys)
    (hcover : ∀ n ∈ c.nodes, n.name ≠ "" → n.name ∈ values.keys)
    (htold : c.setAll values = .ok told) : told.validate = .ok (c.eval values) := by
  obtain ⟨htake, rfl⟩ := setAll_ok_iff.1 htold
  have hdecided : c.map (.changed (·.setAll values)) = c.map fun n => n.decided (n.truth values) := by
    refine map_congr fun n hn => ?_
    obtain ⟨m, hm⟩ := htake n hn
    rw [ConditionNode.changed_of_ok (f := (·.setAll values)) hm]
    exact ConditionNode.setAll_of_fresh (fresh_of_ofJson hread n hn) hvalues hdistinct.consistent hkeys
      (hcover n hn) hm
  rw [hdecided, validate_map_decided hgroups]

/-- The document of a node that is negated and of two further ones, just one of which may be true. -/
def exclusiveDocument : Json :=
  .object [("name", .string "a"), ("boolNot", .bool true), ("operator", .string "ci_equals"),
    ("value", .string "X"),
    ("group", .object [("groupOperator", .string "xor"),
      ("conditionals", .array [
        .object [("name", .string "b"), ("operator", .string ">="), ("value", .string "2")],
        .object [("name", .string "a"), ("operator", .string "contains"), ("value", .string "z")]])])]

/-- The condition of this document, its nodes as they are before or after they have their truth. -/
def exclusiveCondition (set : Bool) : Condition :=
  .node ⟨"a", true, "ci_equals", "X", "xor", set, set⟩
    [.node ⟨"b", false, ">=", "2", "", set, set⟩ [], .node ⟨"a", false, "contains", "z", "", set, set⟩ []]

open scoped Plain in
theorem setAll_exclusiveCondition :
    (exclusiveCondition false).setAll [("b", .json (.int 3)), ("a", .text "yz")] =
      .ok (exclusiveCondition true) := by
  have hown : ConditionNode.compare ⟨"a", true, "ci_equals", "X", "xor", false, false⟩ (.text "yz") =
    .ok true := by decide +kernel
  have hnumber : ConditionNode.compare ⟨"b", false, ">=", "2", "", false, false⟩ (.json (.int 3)) =
    .ok true := by decide +kernel
  have htext : ConditionNode.compare ⟨"a", false, "contains", "z", "", false, false⟩ (.text "yz") =
    .ok true := by decide +kernel
  simp [setAll, exclusiveCondition, set, setEach, ConditionNode.set, ConditionNode.isWildcard, hown,
    hnumber, htext, Except.map, pure, Except.pure, bind, Except.bind]

open scoped Plain in
/-- All three are true, an odd number of them, and yet the condition is false. -/
theorem validate_setAll_exclusive :
    ofJson exclusiveDocument = .ok (exclusiveCondition false) ∧
      (exclusiveCondition false).setAll [("b", .json (.int 3)), ("a", .text "yz")] =
        .ok (exclusiveCondition true) ∧
      (exclusiveCondition true).validate = .ok false := by
  have hread : ofJson exclusiveDocument = .ok (exclusiveCondition false) := by cbv
  refine ⟨hread, setAll_exclusiveCondition, ?_⟩
  rw [validate_setAll hread ?_ ?_ ?_ ?_ ?_ setAll_exclusiveCondition]
  · decide +kernel
  · simp [GroupsKnown, exclusiveCondition, parts, partsOfEach, Condition.group, Condition.own,
      GroupOperator.words]
  · simp
  · simp [Dictionary.Distinct, Dictionary.keys]
  · decide
  · simp [exclusiveCondition, nodes, parts, partsOfEach, Condition.own, Dictionary.keys]

end Condition

end PageTemplate
