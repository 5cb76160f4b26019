/-
Actions that read files, each of which has its content only once. An action
spends some files if it goes through only where these are all still to be read,
reads them then, and comes to the same wherever they are (`Spends`). What
actions in sequence spend they spend together, so no two of them may spend the
same file (`spends_bind`, `result_mapM_of_spends`).
-/
import PageTemplate.Proofs.Session.Steady

namespace PageTemplate

/-- Whether files are all still to be read, none of them twice. -/
def Session.Fresh (s : Session) (numbers : List Nat) : Prop :=
  numbers.Nodup ∧ ∀ number ∈ numbers, number ∉ s.spent

/-- A session that some files have been read in since another one. -/
def Session.Spent (s : Session) (numbers : List Nat) (t : Session) : Prop :=
  ∀ number, number ∈ t.spent ↔ number ∈ numbers ∨ number ∈ s.spent

namespace Session

variable {s t u : Session} {numbers others : List Nat}

theorem fresh_nil : s.Fresh [] := ⟨List.nodup_nil, fun _ h => by cases h⟩

theorem fresh_iff_nodup (h : ∀ number ∈ numbers, number ∉ s.spent) : s.Fresh numbers ↔ numbers.Nodup :=
  ⟨fun hfresh => hfresh.1, fun hnodup => ⟨hnodup, h⟩⟩

theorem Fresh.left (h : s.Fresh (numbers ++ others)) : s.Fresh numbers :=
  ⟨(List.nodup_append.1 h.1).1, fun n hn => h.2 n (List.mem_append_left _ hn)⟩

theorem spent_nil (h : t.spent = s.spent) : s.Spent [] t := by
  intro number
  simp [h]

theorem Spent.append (h : s.Spent numbers t) (h' : t.Spent others u) : s.Spent (numbers ++ others) u := by
  intro number
  rw [h' number, h number, List.mem_append, ← or_assoc, or_comm (a := number ∈ others)]

/-- Files are fresh together if some are, and the others are still once those have been read. -/
theorem Spent.fresh_append_iff (h : s.Spent numbers t) :
    s.Fresh (numbers ++ others) ↔ s.Fresh numbers ∧ t.Fresh others := by
  constructor
  · intro hfresh
    obtain ⟨-, hothers, hdisjoint⟩ := List.nodup_append.1 hfresh.1
    refine ⟨hfresh.left, hothers, fun n hn hspent => ?_⟩
    rcases (h n).1 hspent with hmem | hmem
    · exact hdisjoint n hmem n hn rfl
    · exact hfresh.2 n (List.mem_append_right _ hn) hmem
  · rintro ⟨⟨hnumbers, hfresh⟩, hothers, hfresh'⟩
    refine ⟨List.nodup_append.2 ⟨hnumbers, hothers, ?_⟩, fun n hn hspent => ?_⟩
    · rintro n hn _ hother rfl
      exact hfresh' n hother ((h n).2 (.inl hn))
    · rcases List.mem_append.1 hn with hn | hn
      · exact hfresh n hn hspent
      · exact hfresh' n hn ((h n).2 (.inr hspent))

end Session

namespace Act

variable {α β : Type}

/-- Over shelves of some kind an action goes through only with fresh files, which it reads; with fresh files
it has one result. -/
structure Spends (held : Font.Shelf → Prop) (numbers : List Nat) (act : Act α) : Prop where
  ok : ∀ {s t : Session} {a : α}, held s.shelf → outcome act s = (.ok a, t) →
    s.Fresh numbers ∧ held t.shelf ∧ s.Spent numbers t
  same : ∀ {s t : Session}, held s.shelf → held t.shelf → s.Fresh numbers → t.Fresh numbers →
    result act t = result act s

variable {held : Font.Shelf → Prop} {numbers others : List Nat}

/-- What leaves the shelf and the files alone spends nothing. -/
theorem spends_nil {act : Act α} (hkept : ∀ s, (outcome act s).2.shelf = s.shelf ∧ (outcome act s).2.spent = s.spent)
    (hsame : ∀ s t, result act t = result act s) : Spends held [] act := by
  refine ⟨fun {s t a} hs h => ?_, fun _ _ _ _ => hsame _ _⟩
  obtain ⟨hshelf, hspent⟩ := hkept s
  rw [h] at hshelf hspent
  exact ⟨Session.fresh_nil, hshelf ▸ hs, Session.spent_nil hspent⟩

theorem spends_pure (a : α) : Spends held [] (pure a : Act α) :=
  spends_nil (fun _ => ⟨rfl, rfl⟩) fun _ _ => rfl

theorem spends_throw (fault : Fault) : Spends held [] (throw fault : Act α) :=
  spends_nil (fun _ => ⟨rfl, rfl⟩) fun _ _ => rfl

theorem spends_tell (entries : List JournalEntry) : Spends held [] (tell entries) :=
  spends_nil (fun _ => ⟨rfl, rfl⟩) fun _ _ => rfl

/-- What never goes through may be said to spend any files. -/
theorem spends_of_none {act : Act α} (h : ∀ s, result act s = none) : Spends held numbers act := by
  refine ⟨fun {s t a} _ hrun => ?_, fun {s t} _ _ _ _ => (h t).trans (h s).symm⟩
  have hsome : result act s = some a := result_eq_some_iff.2 ⟨t, hrun⟩
  rw [h s] at hsome
  cases hsome

theorem spends_bind {act : Act α} {next : α → Act β} (hact : Spends held numbers act)
    (hnext : ∀ a, Spends held others (next a)) : Spends held (numbers ++ others) (act >>= next) := by
  constructor
  · intro s t b hs h
    obtain ⟨a, u, ha, hb⟩ := outcome_bind_ok.1 h
    obtain ⟨hfresh, hu, hspent⟩ := hact.ok hs ha
    obtain ⟨hfresh', ht, hspent'⟩ := (hnext a).ok hu hb
    exact ⟨hspent.fresh_append_iff.2 ⟨hfresh, hfresh'⟩, ht, hspent.append hspent'⟩
  · intro s t hs ht hfresh hfresh'
    have hsame := hact.same hs ht hfresh.left hfresh'.left
    rw [result, result, outcome_bind, outcome_bind]
    rw [result, result] at hsame
    rcases hrun : outcome act s with ⟨_ | a, u⟩ <;> rcases hrun' : outcome act t with ⟨_ | a', u'⟩ <;>
      rw [hrun, hrun'] at hsame
    · rfl
    · cases hsame
    · cases hsame
    · cases hsame
      -- Both have read the files of the first part, and those of the second are still fresh.
      obtain ⟨-, hu, hspent⟩ := hact.ok hs hrun
      obtain ⟨-, hu', hspent'⟩ := hact.ok ht hrun'
      exact (hnext a).same hu hu' (hspent.fresh_append_iff.1 hfresh).2 (hspent'.fresh_append_iff.1 hfresh').2

/-- Nothing is spent by a sequence whose parts spend nothing. -/
theorem sequential_spends (held : Font.Shelf → Prop) : Sequential fun act => Spends held [] act :=
  ⟨spends_pure, spends_throw, spends_bind⟩

/-- Of a file only the first reading has the content. -/
theorem spends_readOnce {next : List UInt8 → Act β} (number : Nat) (content : List UInt8)
    (hnext : ∀ bytes, Spends held [] (next bytes)) (hempty : ∀ s, result (next []) s = none) :
    Spends held [number] (readOnce number content >>= next) := by
  have hfresh : ∀ {s : Session}, s.Fresh [number] ↔ s.spent.contains number ≠ true := by
    intro s
    simp [Session.Fresh]
  constructor
  · intro s t b hs h
    rw [outcome_bind, outcome_readOnce] at h
    by_cases hspent : s.spent.contains number = true
    · rw [if_pos hspent] at h
      have hsome : result (next []) s = some b := result_eq_some_iff.2 ⟨t, h⟩
      rw [hempty s] at hsome
      cases hsome
    · rw [if_neg hspent] at h
      have hread : s.Spent [number] { s with spent := number :: s.spent } := fun n => by simp
      obtain ⟨-, ht, hkept⟩ := (hnext content).ok (s := { s with spent := number :: s.spent }) hs h
      exact ⟨hfresh.2 hspent, ht, hread.append hkept⟩
  · intro s t hs ht hs' ht'
    rw [result, result, outcome_bind, outcome_bind, outcome_readOnce, outcome_readOnce,
      if_neg (hfresh.1 hs'), if_neg (hfresh.1 ht')]
    exact (hnext content).same hs ht Session.fresh_nil Session.fresh_nil

/-! ## Runs -/

variable {σ : Type} {as : List α} {spent : α → List Nat}

theorem spends_foldlM {step : σ → α → Act σ} (h : ∀ a ∈ as, ∀ x, Spends held (spent a) (step x a)) (x : σ) :
    Spends held (as.flatMap spent) (as.foldlM step x) := by
  induction as generalizing x with
  | nil => exact spends_pure x
  | cons a as ih =>
    rw [List.foldlM_cons, List.flatMap_cons]
    exact spends_bind (h a List.mem_cons_self x) (ih fun b hb => h b (List.mem_cons_of_mem _ hb))

/-- A run over a list goes through if every item does by itself and the files that they spend are fresh
together. Then it gives what each gives by itself, from another session in which its files are fresh. -/
theorem result_mapM_of_spends {f : α → Act β} (h : ∀ a ∈ as, Spends held (spent a) (f a)) {s t : Session}
    (hs : held s.shelf) (hunspent : ∀ n ∈ as.flatMap spent, n ∉ s.spent) (ht : held t.shelf) {bs : List β} :
    result (as.mapM f) t = some bs ↔
      t.Fresh (as.flatMap spent) ∧ List.Forall₂ (fun a b => result (f a) s = some b) as bs := by
  induction as generalizing t bs with
  | nil => simp [result, outcome_pure, Session.fresh_nil, Except.toOption, eq_comm]
  | cons a as ih =>
    have hspends := h a List.mem_cons_self
    have hfirst : s.Fresh (spent a) ↔ (spent a).Nodup :=
      Session.fresh_iff_nodup fun n hn => hunspent n (List.mem_append_left _ hn)
    have hrest := fun b hb => h b (List.mem_cons_of_mem _ hb)
    have hkept : ∀ n ∈ as.flatMap spent, n ∉ s.spent := fun n hn => hunspent n (List.mem_append_right _ hn)
    rw [List.flatMap_cons, List.mapM_cons, result_eq_some_iff]
    constructor
    · rintro ⟨v, hrun⟩
      obtain ⟨b, u, hb, hrun⟩ := outcome_bind_ok.1 hrun
      obtain ⟨others, w, hothers, hrun⟩ := outcome_bind_ok.1 hrun
      cases hrun
      obtain ⟨hnew, hu, hspent⟩ := hspends.ok ht hb
      obtain ⟨hnew', hothers⟩ := (ih hrest hkept hu).1 (result_eq_some_iff.2 ⟨_, hothers⟩)
      refine ⟨hspent.fresh_append_iff.2 ⟨hnew, hnew'⟩, .cons ?_ hothers⟩
      rw [hspends.same ht hs hnew (hfirst.2 hnew.1)]
      exact result_eq_some_iff.2 ⟨u, hb⟩
    · rintro ⟨hnew, hall⟩
      cases hall with | cons hb hothers =>
      rw [hspends.same ht hs hnew.left (hfirst.2 hnew.left.1)] at hb
      obtain ⟨u, hb⟩ := result_eq_some_iff.1 hb
      obtain ⟨-, hu, hspent⟩ := hspends.ok ht hb
      obtain ⟨-, hnew'⟩ := hspent.fresh_append_iff.1 hnew
      obtain ⟨w, hothers⟩ := result_eq_some_iff.1 ((ih hrest hkept hu).2 ⟨hnew', hothers⟩)
      exact ⟨w, outcome_bind_ok.2 ⟨_, u, hb, outcome_bind_ok.2 ⟨_, w, hothers, rfl⟩⟩⟩

end Act

end PageTemplate
