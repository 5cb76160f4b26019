/-
Actions and the journal. Sessions are alike when they differ in their journals
at most. An action that does not read the journal comes to the same from
sessions that are alike, be it a value or a fault, and leaves sessions that are
alike (`IgnoresJournal`). This goes for actions that fail with anything, those
on builders too.

One action follows another when, wherever the other goes through, it goes
through from every session alike, with the same value (`Follows`). An action
that ignores the journal follows itself, and a sequence or a run follows another
when its parts follow the parts of the other.
-/
import PageTemplate.Proofs.Session.Outcome

namespace PageTemplate

/-- Sessions that differ in their journals at most. -/
def Session.Alike (s t : Session) : Prop := s.shelf = t.shelf ∧ s.spent = t.spent

/-- What the action comes to does not depend on the journal, and neither does what it leaves. -/
def IgnoresJournal {ε α : Type} (act : ExceptT ε (StateM Session) α) : Prop :=
  ∀ s t, s.Alike t → ((ExceptT.run act).run s).1 = ((ExceptT.run act).run t).1 ∧
    ((ExceptT.run act).run s).2.Alike ((ExceptT.run act).run t).2

namespace IgnoresJournal

variable {ε α β : Type}

theorem pure (a : α) : IgnoresJournal (Pure.pure a : ExceptT ε (StateM Session) α) :=
  fun _ _ hst => ⟨rfl, hst⟩

theorem throw (fault : ε) : IgnoresJournal (MonadExcept.throw fault : ExceptT ε (StateM Session) α) :=
  fun _ _ hst => ⟨rfl, hst⟩

theorem bind {act : ExceptT ε (StateM Session) α} {next : α → ExceptT ε (StateM Session) β}
    (hact : IgnoresJournal act) (hnext : ∀ a, IgnoresJournal (next a)) : IgnoresJournal (act >>= next) := by
  intro s t hst
  obtain ⟨hsame, hafter⟩ := hact s t hst
  rw [run_bind, run_bind]
  rcases hs : (ExceptT.run act).run s with ⟨result, s'⟩
  rcases ht : (ExceptT.run act).run t with ⟨result', t'⟩
  rw [hs, ht] at hsame hafter
  obtain rfl : result = result' := hsame
  cases result with
  | error fault => exact ⟨rfl, hafter⟩
  | ok a => exact hnext a s' t' hafter

end IgnoresJournal

namespace Act

variable {α β : Type}

theorem sequential_ignoresJournal : Sequential IgnoresJournal := ⟨.pure, .throw, .bind⟩

theorem ignoresJournal_tell (entries : List JournalEntry) : IgnoresJournal (tell entries) :=
  fun _ _ hst => ⟨rfl, hst⟩

theorem ignoresJournal_font [Platform] (files : FileTree) (settings : Settings) (request : Font.Request)
    (text : String) : IgnoresJournal (font files settings request text) := by
  rintro ⟨shelf, spent, journal⟩ ⟨_, _, others⟩ ⟨rfl, rfl⟩
  change (outcome _ _).1 = (outcome _ _).1 ∧ (outcome _ _).2.Alike (outcome _ _).2
  rw [outcome_font, outcome_font]
  simp only
  cases Font.ask files settings shelf request text with
  | error fault => exact ⟨rfl, rfl, rfl⟩
  | ok found => exact ⟨rfl, rfl, rfl⟩

theorem ignoresJournal_readOnce (number : Nat) (content : List UInt8) :
    IgnoresJournal (readOnce number content) := by
  rintro ⟨shelf, spent, journal⟩ ⟨_, _, others⟩ ⟨rfl, rfl⟩
  change (outcome _ _).1 = (outcome _ _).1 ∧ (outcome _ _).2.Alike (outcome _ _).2
  rw [outcome_readOnce, outcome_readOnce]
  simp only
  split <;> exact ⟨rfl, rfl, rfl⟩

/-! ## One action after the other -/

/-- Wherever the first action goes through, the second does, with the same value. -/
def Follows (x y : Act α) : Prop :=
  ∀ s t a s', s.Alike t → outcome x s = (.ok a, s') → ∃ t', outcome y t = (.ok a, t') ∧ s'.Alike t'

/-- An action that ignores the journal follows itself. -/
theorem Follows.of_ignoresJournal {x : Act α} (h : IgnoresJournal x) : Follows x x := by
  intro s t a s' hst hrun
  obtain ⟨hsame, hafter⟩ : (outcome x s).1 = (outcome x t).1 ∧ (outcome x s).2.Alike (outcome x t).2 :=
    h s t hst
  rw [hrun] at hsame hafter
  exact ⟨(outcome x t).2, Prod.ext hsame.symm rfl, hafter⟩

theorem Follows.bind {x y : Act α} {next next' : α → Act β} (h : Follows x y)
    (hnext : ∀ a, Follows (next a) (next' a)) : Follows (x >>= next) (y >>= next') := by
  intro s t b s' hst hrun
  obtain ⟨a, u, hx, hrest⟩ := outcome_bind_ok.1 hrun
  obtain ⟨u', hy, hu⟩ := h s t a u hst hx
  obtain ⟨t', hrest', hs'⟩ := hnext a u u' b s' hu hrest
  exact ⟨t', outcome_bind_ok.2 ⟨a, u', hy, hrest'⟩, hs'⟩

theorem follows_mapM {f f' : α → Act β} {as : List α} (h : ∀ a ∈ as, Follows (f a) (f' a)) :
    Follows (as.mapM f) (as.mapM f') := by
  induction as with
  | nil => exact .of_ignoresJournal (.pure [])
  | cons a as ih =>
    rw [List.mapM_cons, List.mapM_cons]
    refine (h a List.mem_cons_self).bind fun b => ?_
    exact (ih fun a ha => h a (List.mem_cons_of_mem _ ha)).bind fun bs =>
      .of_ignoresJournal (.pure (b :: bs))

end Act

end PageTemplate
