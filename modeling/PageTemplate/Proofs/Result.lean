/-
Results that may be faults: when a computation in several steps has a value, and
what a sequence of actions comes to that change a state and may fail.
-/
import Mathlib.Data.List.Forall2

namespace PageTemplate

variable {ε α β γ : Type}

theorem Except.map_ok_iff {f : α → β} {x : Except ε α} {b : β} :
    x.map f = .ok b ↔ ∃ a, x = .ok a ∧ f a = b := by
  cases x <;> simp [Except.map]

theorem Except.bind_ok_iff {f : α → Except ε β} {x : Except ε α} {b : β} :
    x >>= f = .ok b ↔ ∃ a, x = .ok a ∧ f a = .ok b := by
  cases x <;> simp [bind, Except.bind]

theorem Except.ok_bind (a : α) (f : α → Except ε β) : (.ok a >>= f) = f a := rfl

theorem Except.eq_ok_of_toOption {x : Except ε α} {a : α} (h : x.toOption = some a) : x = .ok a := by
  cases x <;> cases h
  rfl

theorem Except.map_error_iff {f : α → β} {x : Except ε α} {e : ε} : x.map f = .error e ↔ x = .error e := by
  cases x <;> simp [Except.map]

theorem Except.mapError_error_iff {ε' : Type} {f : ε → ε'} {x : Except ε α} {e : ε'} :
    x.mapError f = .error e ↔ ∃ e', x = .error e' ∧ f e' = e := by
  cases x <;> simp [Except.mapError]

theorem Except.bind_error_iff {f : α → Except ε β} {x : Except ε α} {e : ε} :
    x >>= f = .error e ↔ x = .error e ∨ ∃ a, x = .ok a ∧ f a = .error e := by
  cases x <;> simp [bind, Except.bind]

theorem Except.mapM_error {f : α → Except ε β} {as : List α} {e : ε} (h : as.mapM f = .error e) :
    ∃ a ∈ as, f a = .error e := by
  induction as with
  | nil => cases h
  | cons a as ih =>
    rw [List.mapM_cons] at h
    rcases Except.bind_error_iff.1 h with hfirst | ⟨b, -, h⟩
    · exact ⟨a, List.mem_cons_self, hfirst⟩
    · rcases Except.bind_error_iff.1 h with hrest | ⟨bs, -, h⟩
      · obtain ⟨a', ha', herror⟩ := ih hrest
        exact ⟨a', List.mem_cons_of_mem _ ha', herror⟩
      · cases h

theorem Except.mapM_ok_iff {f : α → Except ε β} {as : List α} {bs : List β} :
    as.mapM f = .ok bs ↔ List.Forall₂ (fun a b => f a = .ok b) as bs := by
  induction as generalizing bs with
  | nil => simp [pure, Except.pure, eq_comm]
  | cons a as ih =>
    rw [List.mapM_cons, List.forall₂_cons_left_iff]
    simp only [Except.bind_ok_iff, ih, pure, Except.pure, Except.ok.injEq]
    constructor
    · rintro ⟨b, hb, others, hothers, rfl⟩
      exact ⟨b, others, hb, hothers, rfl⟩
    · rintro ⟨b, others, hb, hothers, rfl⟩
      exact ⟨b, hb, others, hothers, rfl⟩

/-- Whether something that fails does so with certain errors. -/
def FailsOnly (errors : ε → Prop) (x : Except ε α) : Prop := ∀ e, x = .error e → errors e

namespace FailsOnly

variable {errors others : ε → Prop}

theorem ok (a : α) : FailsOnly errors (.ok a : Except ε α) := fun _ h => by cases h

theorem map {x : Except ε α} (h : FailsOnly errors x) (f : α → β) : FailsOnly errors (x.map f) :=
  fun e he => h e (Except.map_error_iff.1 he)

theorem mono {x : Except ε α} (h : FailsOnly errors x) (hmore : ∀ e, errors e → others e) : FailsOnly others x :=
  fun e he => hmore e (h e he)

theorem bind {x : Except ε α} {next : α → Except ε β} (h : FailsOnly errors x)
    (hnext : ∀ a, x = .ok a → FailsOnly errors (next a)) : FailsOnly errors (x >>= next) := by
  intro e he
  rcases Except.bind_error_iff.1 he with he | ⟨a, ha, he⟩
  · exact h e he
  · exact hnext a ha e he

end FailsOnly

/-- Running a sequence of actions: the second runs where the first ends, if that goes through. -/
theorem run_bind {σ : Type} (act : ExceptT ε (StateM σ) α) (next : α → ExceptT ε (StateM σ) β) (s : σ) :
    (ExceptT.run (act >>= next)).run s =
      match (ExceptT.run act).run s with
      | (.ok a, t) => (ExceptT.run (next a)).run t
      | (.error fault, t) => (.error fault, t) := by
  unfold ExceptT.run StateT.run
  simp only [bind, ExceptT.bind, ExceptT.mk, StateT.bind, ExceptT.bindCont]
  rcases act s with ⟨_ | a, t⟩ <;> rfl

/-- What stands on the right of a relation of lists is related to something on the left. -/
theorem exists_of_mem_right {R : α → β → Prop} {as : List α} {bs : List β} (h : List.Forall₂ R as bs) {b : β}
    (hb : b ∈ bs) : ∃ a ∈ as, R a b := by
  induction h with
  | nil => cases hb
  | cons hr _ ih =>
    rcases List.mem_cons.1 hb with rfl | hb
    · exact ⟨_, List.mem_cons_self, hr⟩
    · obtain ⟨a, ha, hr⟩ := ih hb
      exact ⟨a, List.mem_cons_of_mem _ ha, hr⟩

/-- Two relations of lists, one after the other, are one. -/
theorem forall₂_comp {R : α → β → Prop} {S : β → γ → Prop} {as : List α} {bs : List β} {cs : List γ}
    (h : List.Forall₂ R as bs) (h' : List.Forall₂ S bs cs) :
    List.Forall₂ (fun a c => ∃ b, R a b ∧ S b c) as cs := by
  induction h generalizing cs with
  | nil => cases h'; exact .nil
  | cons hr _ ih =>
    cases h' with
    | cons hs hrest => exact .cons ⟨_, hr, hs⟩ (ih hrest)

/-- A list is related to some list just if all in it are related to something. -/
theorem exists_forall₂_iff {R : α → β → Prop} {as : List α} :
    (∃ bs, List.Forall₂ R as bs) ↔ ∀ a ∈ as, ∃ b, R a b := by
  induction as with
  | nil => simp
  | cons a as ih =>
    rw [List.forall_mem_cons, ← ih]
    constructor
    · rintro ⟨bs, h⟩
      cases h with
      | cons hr hrest => exact ⟨⟨_, hr⟩, _, hrest⟩
    · rintro ⟨⟨b, hr⟩, bs, hrest⟩
      exact ⟨b :: bs, .cons hr hrest⟩

end PageTemplate
