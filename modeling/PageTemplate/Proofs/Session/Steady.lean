/-
Steady actions: over some sessions they have the same result in each, and they
leave a session only for another of these. Of actions in sequence the result is
then that of the parts, each from the session at the start (`result_bind`).
-/
import PageTemplate.Proofs.Session.Outcome

namespace PageTemplate.Act

variable {α β ε : Type}

/-- The value of an action, if it goes through. -/
def result (act : Act α) (s : Session) : Option α := (outcome act s).1.toOption

theorem result_ofExcept {wrap : ε → Fault} (x : Except ε α) (s : Session) :
    result (ofExcept wrap x) s = x.toOption := by
  cases x <;> rfl

theorem result_eq_some_iff {act : Act α} {a : α} {s : Session} :
    result act s = some a ↔ ∃ t, outcome act s = (.ok a, t) := by
  rw [result]
  rcases outcome act s with ⟨_ | a', t⟩
  · simp [Except.toOption]
  · simp [Except.toOption]

/-- What is made of a value in the end does not bear on whether there is one. -/
theorem result_map (act : Act α) (f : α → β) (s : Session) :
    result (act >>= fun a => pure (f a)) s = (result act s).map f := by
  rw [result, outcome_bind, result]
  rcases outcome act s with ⟨_ | a, t⟩ <;> rfl

/-- Where the second part comes to the same from every session, it does not matter which one it starts from. -/
theorem result_bind_of_eq {act : Act α} {next : α → Act β} {value : α → Option β}
    (h : ∀ a t, result (next a) t = value a) (s : Session) :
    result (act >>= next) s = (result act s).bind value := by
  rw [result, outcome_bind, result]
  rcases outcome act s with ⟨_ | a, t⟩
  · rfl
  · exact h a t

/-- Over some sessions an action has one result, and it leaves none of them. -/
def Steady (R : Session → Prop) (act : Act α) : Prop :=
  ∀ s, R s → R (outcome act s).2 ∧ ∀ t, R t → result act t = result act s

section Steady

variable {R : Session → Prop}

theorem steady_pure (a : α) : Steady R (pure a : Act α) := fun _ hs => ⟨hs, fun _ _ => rfl⟩

theorem steady_throw (fault : Fault) : Steady R (throw fault : Act α) := fun _ hs => ⟨hs, fun _ _ => rfl⟩

/-- The result of a sequence, if its parts are steady, does not depend on what its first part leaves. -/
theorem result_bind {act : Act α} {next : α → Act β} (hact : Steady R act) (hnext : ∀ a, Steady R (next a))
    {s : Session} (hs : R s) :
    result (act >>= next) s = (result act s).bind fun a => result (next a) s := by
  have hkept := (hact s hs).1
  rw [result, outcome_bind, result]
  rcases houtcome : outcome act s with ⟨_ | a, t⟩
  · rfl
  · rw [houtcome] at hkept
    exact (hnext a s hs).2 t hkept

theorem Steady.bind {act : Act α} {next : α → Act β} (hact : Steady R act)
    (hnext : ∀ a, Steady R (next a)) : Steady R (act >>= next) := by
  intro s hs
  refine ⟨?_, fun t ht => ?_⟩
  · have hkept := (hact s hs).1
    rw [outcome_bind]
    rcases houtcome : outcome act s with ⟨_ | a, t⟩
    · rw [houtcome] at hkept; exact hkept
    · rw [houtcome] at hkept; exact (hnext a t hkept).1
  · rw [result_bind hact hnext ht, result_bind hact hnext hs, (hact s hs).2 t ht]
    congr 1
    funext a
    exact (hnext a s hs).2 t ht

theorem sequential_steady (R : Session → Prop) : Sequential (Steady R) := ⟨steady_pure, steady_throw, .bind⟩

/-! ## Runs -/

variable {σ : Type} {as : List α}

theorem steady_foldlM {step : σ → α → Act σ} (h : ∀ a ∈ as, ∀ x, Steady R (step x a)) (x : σ) :
    Steady R (as.foldlM step x) :=
  (sequential_steady R).foldlM h x

theorem result_foldlM {step : σ → α → Act σ} (h : ∀ a ∈ as, ∀ x, Steady R (step x a)) (x : σ)
    {s : Session} (hs : R s) :
    result (as.foldlM step x) s = as.foldlM (fun x a => result (step x a) s) x := by
  induction as generalizing x with
  | nil => rfl
  | cons a as ih =>
    have hrest := fun b hb => h b (List.mem_cons_of_mem _ hb)
    rw [List.foldlM_cons, result_bind (h a List.mem_cons_self x) (steady_foldlM hrest) hs]
    exact congrArg _ (funext fun y => ih hrest y)

theorem steady_mapM {f : α → Act β} (h : ∀ a ∈ as, Steady R (f a)) : Steady R (as.mapM f) := by
  induction as with
  | nil => exact steady_pure []
  | cons a as ih =>
    rw [List.mapM_cons]
    refine (h a List.mem_cons_self).bind fun b => ?_
    exact (ih fun a ha => h a (List.mem_cons_of_mem _ ha)).bind fun bs => steady_pure (b :: bs)

theorem result_mapM {f : α → Act β} (h : ∀ a ∈ as, Steady R (f a)) {s : Session} (hs : R s) :
    result (as.mapM f) s = as.mapM fun a => result (f a) s := by
  induction as with
  | nil => rfl
  | cons a as ih =>
    have hrest := fun a ha => h a (List.mem_cons_of_mem _ ha)
    have hmap : ∀ b, Steady R (as.mapM f >>= fun bs => pure (b :: bs)) := fun b =>
      (steady_mapM hrest).bind fun bs => steady_pure (b :: bs)
    rw [List.mapM_cons, List.mapM_cons, result_bind (h a List.mem_cons_self) hmap hs]
    refine congrArg _ (funext fun b => ?_)
    rw [result_map, ih hrest]
    exact Option.map_eq_bind

end Steady

end PageTemplate.Act
