/-
Stray faults, for which no part of a template answers: failures of arithmetic,
of decoding and of the file system that are passed on as they are.

`StraysOnly` says which of them an action can fail with. Plain values fail with
none, and a sequence with those of its parts, where what follows a part need
only be looked at for the values that the part gives.
-/
import PageTemplate.Proofs.Session.Outcome

namespace PageTemplate

/-- Whether no part of a template answers for a fault. -/
def Fault.IsStray (fault : Fault) : Prop := fault.kind.isTemplate = false

instance (fault : Fault) : Decidable fault.IsStray := by
  unfold Fault.IsStray; infer_instance

namespace Act

variable {α β ε : Type} {strays strays' : Fault → Prop}

/-- Whether the action fails with no stray faults but some. -/
def StraysOnly (strays : Fault → Prop) (act : Act α) : Prop :=
  ∀ s fault t, outcome act s = (.error fault, t) → fault.IsStray → strays fault

theorem StraysOnly.mono {act : Act α} (h : StraysOnly strays act) (hmore : ∀ fault, strays fault → strays' fault) :
    StraysOnly strays' act :=
  fun s fault t hrun hstray => hmore fault (h s fault t hrun hstray)

theorem straysOnly_pure (a : α) : StraysOnly strays (pure a : Act α) := fun _ _ _ h => by cases h

theorem straysOnly_tell (entries : List JournalEntry) : StraysOnly strays (tell entries) :=
  fun _ _ _ h => by cases h

theorem straysOnly_throw {fault : Fault} (h : fault.IsStray → strays fault) :
    StraysOnly strays (throw fault : Act α) :=
  fun _ _ _ hrun => by cases hrun; exact h

theorem straysOnly_ofExcept {wrap : ε → Fault} {x : Except ε α}
    (h : ∀ e, x = .error e → (wrap e).IsStray → strays (wrap e)) : StraysOnly strays (ofExcept wrap x) := by
  intro s fault t hrun hstray
  obtain ⟨e, he, rfl, -⟩ := outcome_ofExcept_error.1 hrun
  exact h e he hstray

theorem StraysOnly.bind {act : Act α} {next : α → Act β} (hact : StraysOnly strays act)
    (hnext : ∀ a s t, outcome act s = (.ok a, t) → StraysOnly strays (next a)) :
    StraysOnly strays (act >>= next) := by
  intro s fault t hrun hstray
  rcases outcome_bind_error.1 hrun with hrun | ⟨a, u, ha, hrun⟩
  · exact hact s fault t hrun hstray
  · exact hnext a s u ha u fault t hrun hstray

/-- What is made of a value in the end does not fail. -/
theorem StraysOnly.bind_pure {act : Act α} (hact : StraysOnly strays act) (f : α → β) :
    StraysOnly strays (act >>= fun a => pure (f a)) :=
  hact.bind fun a _ _ _ => straysOnly_pure (f a)

theorem straysOnly_foldlM {σ : Type} {step : σ → α → Act σ} {as : List α}
    (h : ∀ a ∈ as, ∀ x, StraysOnly strays (step x a)) (x : σ) : StraysOnly strays (as.foldlM step x) := by
  induction as generalizing x with
  | nil => exact straysOnly_pure x
  | cons a as ih =>
    rw [List.foldlM_cons]
    obtain ⟨hfirst, hrest⟩ := List.forall_mem_cons.1 h
    exact (hfirst x).bind fun y _ _ _ => ih hrest y

end Act

end PageTemplate
