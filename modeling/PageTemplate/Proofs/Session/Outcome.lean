/-
Outcomes of actions, part by part: an action in sequence goes through when its
first part does and the rest does from the session that the first part leaves,
and it fails with the fault of the part that failed.
-/
import PageTemplate.Proofs.Result
import PageTemplate.Session

namespace PageTemplate.Act

variable {α β ε : Type}

theorem outcome_pure (a : α) (s : Session) : outcome (pure a : Act α) s = (.ok a, s) := rfl

theorem outcome_throw (fault : Fault) (s : Session) :
    outcome (throw fault : Act α) s = (.error fault, s) := rfl

theorem outcome_bind (act : Act α) (next : α → Act β) (s : Session) :
    outcome (act >>= next) s =
      match outcome act s with
      | (.ok a, t) => outcome (next a) t
      | (.error fault, t) => (.error fault, t) := by
  refine (run_bind act next s).trans ?_
  unfold outcome
  rcases StateT.run (ExceptT.run act) s with ⟨_ | a, t⟩ <;> rfl

theorem outcome_bind_ok {act : Act α} {next : α → Act β} {b : β} {s t : Session} :
    outcome (act >>= next) s = (.ok b, t) ↔
      ∃ a u, outcome act s = (.ok a, u) ∧ outcome (next a) u = (.ok b, t) := by
  rw [outcome_bind]
  rcases outcome act s with ⟨_ | a, u⟩
  · simp
  · simp only [Prod.mk.injEq, Except.ok.injEq]
    constructor
    · intro h; exact ⟨a, u, ⟨rfl, rfl⟩, h⟩
    · rintro ⟨_, _, ⟨rfl, rfl⟩, h⟩; exact h

theorem outcome_bind_error {act : Act α} {next : α → Act β} {fault : Fault} {s t : Session} :
    outcome (act >>= next) s = (.error fault, t) ↔
      outcome act s = (.error fault, t) ∨
        ∃ a u, outcome act s = (.ok a, u) ∧ outcome (next a) u = (.error fault, t) := by
  rw [outcome_bind]
  rcases outcome act s with ⟨_ | a, u⟩
  · simp
  · simp only [Prod.mk.injEq, Except.ok.injEq, reduceCtorEq, false_and, false_or]
    constructor
    · intro h; exact ⟨a, u, ⟨rfl, rfl⟩, h⟩
    · rintro ⟨_, _, ⟨rfl, rfl⟩, h⟩; exact h

theorem outcome_ofExcept_ok {wrap : ε → Fault} {x : Except ε α} {a : α} {s t : Session} :
    outcome (ofExcept wrap x) s = (.ok a, t) ↔ x = .ok a ∧ t = s := by
  cases x with
  | ok value => simp [ofExcept, outcome_pure, eq_comm]
  | error e => simp [ofExcept, outcome_throw]

theorem outcome_ofExcept_error {wrap : ε → Fault} {x : Except ε α} {fault : Fault} {s t : Session} :
    outcome (ofExcept wrap x) s = (.error fault, t) ↔ ∃ e, x = .error e ∧ wrap e = fault ∧ t = s := by
  cases x with
  | ok value => simp [ofExcept, outcome_pure]
  | error e => simp [ofExcept, outcome_throw, eq_comm]

theorem outcome_tell (entries : List JournalEntry) (s : Session) :
    outcome (tell entries) s = (.ok (), { s with journal := s.journal ++ entries }) := rfl

/-- What the journal tells of a font that was found. -/
def fontEntries (found : Font.Found) : List JournalEntry :=
  match found.source with
  | none => []
  | some source => [.debug "fonts" ("registered font " ++ found.name ++ " from " ++ source)]

theorem outcome_font [Platform] (files : FileTree) (settings : Settings) (request : Font.Request) (text : String)
    (s : Session) :
    outcome (font files settings request text) s =
      match Font.ask files settings s.shelf request text with
      | .error fault => (.error (.component (.font fault)), s)
      | .ok found =>
        (.ok found.name, { s with shelf := found.shelf, journal := s.journal ++ fontEntries found }) := by
  have hget : outcome (get : Act Session) s = (.ok s, s) := rfl
  rw [font, outcome_bind, hget]
  simp only
  cases Font.ask files settings s.shelf request text with
  | error fault => rfl
  | ok found =>
    obtain ⟨name, shelf, source⟩ := found
    cases source with
    | none => simp only [fontEntries, List.append_nil]; rfl
    | some source => rfl

theorem outcome_readOnce (number : Nat) (content : List UInt8) (s : Session) :
    outcome (readOnce number content) s =
      if s.spent.contains number then (.ok [], s)
      else (.ok content, { s with spent := number :: s.spent }) := by
  have hget : outcome (get : Act Session) s = (.ok s, s) := rfl
  rw [readOnce, outcome_bind, hget]
  simp only
  split <;> rfl

/-! ## Properties of actions -/

/-- A property that plain values and faults have, and a sequence when its parts have it. -/
structure Sequential (P : {α : Type} → Act α → Prop) : Prop where
  pure : ∀ {α : Type} (a : α), P (Pure.pure a : Act α)
  throw : ∀ {α : Type} (fault : Fault), P (MonadExcept.throw fault : Act α)
  bind : ∀ {α β : Type} {act : Act α} {next : α → Act β}, P act → (∀ a, P (next a)) → P (act >>= next)

theorem Sequential.ofExcept {P : {α : Type} → Act α → Prop} (hP : Sequential P) {wrap : ε → Fault}
    (x : Except ε α) : P (ofExcept wrap x) := by
  cases x with
  | ok a => exact hP.pure a
  | error e => exact hP.throw (wrap e)

theorem Sequential.foldlM {P : {α : Type} → Act α → Prop} (hP : Sequential P) {σ : Type} {as : List α}
    {step : σ → α → Act σ} (h : ∀ a ∈ as, ∀ x, P (step x a)) (x : σ) : P (as.foldlM step x) := by
  induction as generalizing x with
  | nil => exact hP.pure x
  | cons a as ih =>
    rw [List.foldlM_cons]
    exact hP.bind (h a List.mem_cons_self x) (ih fun b hb => h b (List.mem_cons_of_mem _ hb))

/-! ## Faults that cannot happen -/

section Avoids

variable {bad : Fault → Prop}

/-- The action never fails with a bad fault. -/
def Avoids (bad : Fault → Prop) (act : Act α) : Prop :=
  ∀ s fault t, outcome act s = (.error fault, t) → ¬ bad fault

theorem avoids_pure (a : α) : Avoids bad (pure a : Act α) := fun _ _ _ h => by cases h

theorem avoids_tell (entries : List JournalEntry) : Avoids bad (tell entries) :=
  fun _ _ _ h => by cases h

theorem avoids_bind {act : Act α} {next : α → Act β} (hact : Avoids bad act)
    (hnext : ∀ a, Avoids bad (next a)) : Avoids bad (act >>= next) := by
  intro s fault t h
  rcases outcome_bind_error.1 h with h | ⟨a, u, -, h⟩
  · exact hact s fault t h
  · exact hnext a u fault t h

theorem avoids_ofExcept {wrap : ε → Fault} {x : Except ε α} (hx : ∀ e, x = .error e → ¬ bad (wrap e)) :
    Avoids bad (ofExcept wrap x) := by
  intro s fault t h
  obtain ⟨e, he, rfl, -⟩ := outcome_ofExcept_error.1 h
  exact hx e he

end Avoids

/-! ## Runs of actions -/

section Run

variable {σ : Type} {step : σ → α → Act σ} {P : σ → Prop} {as : List α}

/-- What every step keeps, a whole run keeps. -/
theorem foldlM_ok
    (keep : ∀ a ∈ as, ∀ x y s t, P x → outcome (step x a) s = (.ok y, t) → P y)
    {x y : σ} {s t : Session} (hx : P x) (h : outcome (as.foldlM step x) s = (.ok y, t)) : P y := by
  induction as generalizing x s with
  | nil => cases h; exact hx
  | cons a as ih =>
    rw [List.foldlM_cons, outcome_bind_ok] at h
    obtain ⟨x', u, hstep, hrest⟩ := h
    have hx' := keep a List.mem_cons_self x x' s u hx hstep
    exact ih (fun b hb => keep b (List.mem_cons_of_mem _ hb)) hx' hrest

/-- A run that fails fails in one of its steps. -/
theorem foldlM_error
    (keep : ∀ a ∈ as, ∀ x y s t, P x → outcome (step x a) s = (.ok y, t) → P y)
    {x : σ} {fault : Fault} {s t : Session} (hx : P x)
    (h : outcome (as.foldlM step x) s = (.error fault, t)) :
    ∃ a ∈ as, ∃ y u, P y ∧ outcome (step y a) u = (.error fault, t) := by
  induction as generalizing x s with
  | nil => cases h
  | cons a as ih =>
    rw [List.foldlM_cons, outcome_bind_error] at h
    rcases h with hstep | ⟨x', u, hstep, hrest⟩
    · exact ⟨a, List.mem_cons_self, x, s, hx, hstep⟩
    · have hx' := keep a List.mem_cons_self x x' s u hx hstep
      obtain ⟨b, hb, y, u, hy, hfault⟩ := ih (fun b hb => keep b (List.mem_cons_of_mem _ hb)) hx' hrest
      exact ⟨b, List.mem_cons_of_mem _ hb, y, u, hy, hfault⟩

/-- A run over a list that goes through has gone through at every item. -/
theorem mapM_ok {f : α → Act β} {bs : List β} {s t : Session} (h : outcome (as.mapM f) s = (.ok bs, t)) :
    List.Forall₂ (fun a b => ∃ u v, outcome (f a) u = (.ok b, v)) as bs := by
  induction as generalizing bs s with
  | nil => cases h; exact .nil
  | cons a as ih =>
    rw [List.mapM_cons] at h
    obtain ⟨b, u, hb, h⟩ := outcome_bind_ok.1 h
    obtain ⟨others, v, hothers, h⟩ := outcome_bind_ok.1 h
    cases h
    exact .cons ⟨s, u, hb⟩ (ih hothers)

end Run

/-! ## Runs put to a test -/

/-- Whether a run goes through with a value that passes a test. -/
def passes {σ : Type} (test : α → Bool) : Except ε α × σ → Bool
  | (.ok a, _) => test a
  | (.error _, _) => false

theorem exists_of_passes {σ : Type} {test : α → Bool} {run : Except ε α × σ}
    (h : passes test run = true) : ∃ a t, run = (.ok a, t) ∧ test a = true := by
  obtain ⟨_ | a, t⟩ := run
  · cases h
  · exact ⟨a, t, rfl, h⟩

/-- Whether a run fails with a fault that passes a test. -/
def fails {σ : Type} (test : ε → Bool) : Except ε α × σ → Bool
  | (.ok _, _) => false
  | (.error fault, _) => test fault

theorem exists_of_fails {σ : Type} {test : ε → Bool} {run : Except ε α × σ}
    (h : fails test run = true) : ∃ fault t, run = (.error fault, t) ∧ test fault = true := by
  obtain ⟨fault | _, t⟩ := run
  · exact ⟨fault, t, rfl, h⟩
  · cases h

end PageTemplate.Act
