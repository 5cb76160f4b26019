/-
Steps that may fail and commute: whichever of two goes first, both come to the
same, or to a failure. A run of steps that commute two by two does not depend
on their order (`foldlM_perm`).
-/
namespace PageTemplate

variable {σ τ α β ε : Type}

/-- Two steps come to the same in either order. -/
def Commute (f g : σ → Option σ) : Prop := ∀ s, (f s).bind g = (g s).bind f

namespace Commute

variable {f g : σ → Option σ}

theorem refl (f : σ → Option σ) : Commute f f := fun _ => rfl

theorem symm (h : Commute f g) : Commute g f := fun s => (h s).symm

theorem none_left : Commute (fun _ => none) g := fun s => by
  cases g s <;> rfl

theorem none_right : Commute f (fun _ => none) := none_left.symm

/-- A step commutes with a change that the step does not see. -/
theorem of_frame {x : Option α} {write : σ → α → σ}
    (h : ∀ s a, g (write s a) = (g s).map (write · a)) : Commute (fun s => x.map (write s)) g := by
  intro s
  cases x with
  | none => cases g s <;> rfl
  | some a =>
    simp only [Option.map_some, Option.bind_some, h]
    cases g s <;> rfl

/-- Changes of different parts commute, also where a value may be missing. -/
theorem of_writes {x : Except ε α} {y : Except ε β} {write : σ → α → σ} {write' : σ → β → σ}
    (h : ∀ s a b, write' (write s a) b = write (write' s b) a) :
    Commute (fun s => (x.map (write s)).toOption) (fun s => (y.map (write' s)).toOption) := by
  intro s
  cases x <;> cases y <;> simp [Except.map, Except.toOption, h]

/-- Steps inside a part of the state commute as the steps on that part do. -/
theorem lift (h : Commute f g) (f' g' : τ → Option τ) (inside : σ → τ)
    (hf : ∀ s, f' (inside s) = (f s).map inside) (hg : ∀ s, g' (inside s) = (g s).map inside) (s : σ) :
    (f' (inside s)).bind g' = (g' (inside s)).bind f' := by
  have hleft : (f' (inside s)).bind g' = ((f s).bind g).map inside := by
    rw [hf]
    cases f s <;> simp [hg]
  have hright : (g' (inside s)).bind f' = ((g s).bind f).map inside := by
    rw [hg]
    cases g s <;> simp [hf]
  rw [hleft, hright, h s]

end Commute

theorem foldlM_flatMap {step : σ → β → Option σ} (f : α → List β) (as : List α) (s : σ) :
    (as.flatMap f).foldlM step s = as.foldlM (fun s a => (f a).foldlM step s) s := by
  induction as generalizing s with
  | nil => rfl
  | cons a as ih =>
    rw [List.flatMap_cons, List.foldlM_append, List.foldlM_cons]
    exact bind_congr fun s => ih s

theorem foldlM_congr {step step' : σ → α → Option σ} {as : List α}
    (h : ∀ a ∈ as, ∀ s, step s a = step' s a) (s : σ) : as.foldlM step s = as.foldlM step' s := by
  induction as generalizing s with
  | nil => rfl
  | cons a as ih =>
    rw [List.foldlM_cons, List.foldlM_cons, h a List.mem_cons_self]
    exact bind_congr fun s => ih (fun b hb => h b (List.mem_cons_of_mem _ hb)) s

theorem foldlM_eq_foldl {step : σ → α → Option σ} (as : List α) (s : Option σ) :
    s.bind (fun s => as.foldlM step s) = as.foldl (fun s a => s.bind (step · a)) s := by
  induction as generalizing s with
  | nil => cases s <;> rfl
  | cons a as ih =>
    rw [List.foldl_cons, ← ih]
    cases s <;> rfl

/-- A run of steps that commute does not depend on their order. -/
theorem foldlM_perm {step : σ → α → Option σ} {as bs : List α} (hperm : as.Perm bs)
    (h : ∀ a ∈ as, ∀ b ∈ as, Commute (step · a) (step · b)) (s : σ) :
    as.foldlM step s = bs.foldlM step s := by
  have hrun := hperm.foldl_eq' (f := fun s a => s.bind (step · a)) (fun a ha b hb s => by
    cases s with
    | none => rfl
    | some s => exact h a ha b hb s) (some s)
  rw [← foldlM_eq_foldl, ← foldlM_eq_foldl] at hrun
  exact hrun

/-! ## Steps on every item of a list -/

theorem mapM_congr {f g : α → Option β} {as : List α} (h : ∀ a ∈ as, f a = g a) :
    as.mapM f = as.mapM g := by
  induction as with
  | nil => rfl
  | cons a as ih =>
    rw [List.mapM_cons, List.mapM_cons, h a List.mem_cons_self,
      ih fun b hb => h b (List.mem_cons_of_mem _ hb)]

theorem mapM_some (as : List α) : as.mapM some = some as := by
  induction as with
  | nil => rfl
  | cons a as ih => rw [List.mapM_cons, ih]; rfl

theorem exists_of_mem_mapM {f : α → Option β} {as : List α} {bs : List β} (h : as.mapM f = some bs) {b : β}
    (hb : b ∈ bs) : ∃ a ∈ as, f a = some b := by
  induction as generalizing bs with
  | nil => cases h; cases hb
  | cons a as ih =>
    rw [List.mapM_cons] at h
    obtain ⟨first, hfirst, h⟩ := Option.bind_eq_some_iff.1 h
    obtain ⟨others, hothers, h⟩ := Option.bind_eq_some_iff.1 h
    cases h
    rcases List.mem_cons.1 hb with rfl | hb
    · exact ⟨a, List.mem_cons_self, hfirst⟩
    · obtain ⟨a', ha', h⟩ := ih hothers hb
      exact ⟨a', List.mem_cons_of_mem _ ha', h⟩

/-- Two steps on every item are one after the other on the whole list. -/
theorem mapM_bind {f : α → Option β} {g : β → Option τ} (as : List α) :
    ((as.mapM f).bind fun bs => bs.mapM g) = as.mapM fun a => (f a).bind g := by
  induction as with
  | nil => rfl
  | cons a as ih =>
    rw [List.mapM_cons, List.mapM_cons, ← ih]
    cases f a with
    | none => rfl
    | some b =>
      cases as.mapM f with
      | none => cases hb : g b <;> simp [hb]
      | some bs => simp [List.mapM_cons]

end PageTemplate
