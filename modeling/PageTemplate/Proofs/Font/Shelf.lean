/-
Shelves while fonts are asked for. Asking may put a font on the shelf, and a
later question may find it there. `Fixed` says that this makes no difference to
the questions in hand: each has one answer, however many of them have been
asked before.
-/
import PageTemplate.Proofs.Session.Steady

namespace PageTemplate.Font

variable [Platform]

/-- The shelves that are reached from one by asking for fonts, and only such as are asked for. -/
inductive Reaches (files : FileTree) (settings : Settings) (asked : Request → String → Prop)
    (shelf : Shelf) : Shelf → Prop
  | start : Reaches files settings asked shelf shelf
  | ask {reached : Shelf} {request : Request} {text : String} {found : Found} :
    Reaches files settings asked shelf reached → asked request text →
      Font.ask files settings reached request text = .ok found →
        Reaches files settings asked shelf found.shelf

/-- The name of the font that is found, if one is. -/
def answer (files : FileTree) (settings : Settings) (shelf : Shelf) (request : Request) (text : String) :
    Option String :=
  (Font.ask files settings shelf request text).toOption.map (·.name)

/-- Whether every font that is asked for is found or not found, however many have been asked for. -/
def Fixed (files : FileTree) (settings : Settings) (asked : Request → String → Prop)
    (shelf : Shelf) : Prop :=
  ∀ reached, Reaches files settings asked shelf reached → ∀ request text, asked request text →
    answer files settings reached request text = answer files settings shelf request text

variable {files : FileTree} {settings : Settings} {asked : Request → String → Prop} {shelf : Shelf}

/-- Fonts are fixed if asking for them puts none on the shelf. -/
theorem fixed_of_unchanged
    (h : ∀ request text found, asked request text → Font.ask files settings shelf request text = .ok found →
      found.shelf = shelf) : Fixed files settings asked shelf := by
  have hsame : ∀ reached, Reaches files settings asked shelf reached → reached = shelf := by
    intro reached hreached
    induction hreached with
    | start => rfl
    | ask _ hasked hfound ih =>
      subst ih
      exact h _ _ _ hasked hfound
  intro reached hreached request text _
  rw [hsame reached hreached]

/-- Whether a session's shelf is reached from a shelf by asking for fonts. -/
def Held (files : FileTree) (settings : Settings) (asked : Request → String → Prop) (shelf : Shelf)
    (s : Session) : Prop :=
  Reaches files settings asked shelf s.shelf

theorem result_font (request : Request) (text : String) (s : Session) :
    (Act.font files settings request text).result s = answer files settings s.shelf request text := by
  rw [Act.result, Act.outcome_font, answer]
  cases Font.ask files settings s.shelf request text <;> rfl

/-- Asking for a font is steady while the fonts are fixed. -/
theorem steady_font (hfixed : Fixed files settings asked shelf) {request : Request} {text : String}
    (hasked : asked request text) :
    Act.Steady (Held files settings asked shelf) (Act.font files settings request text) := by
  intro s hs
  refine ⟨?_, fun t ht => ?_⟩
  · rw [Act.outcome_font]
    split
    · exact hs
    · rename_i found hfound
      exact hs.ask hasked hfound
  · rw [result_font, result_font, hfixed _ ht request text hasked, hfixed _ hs request text hasked]

theorem steady_tell (entries : List JournalEntry) :
    Act.Steady (Held files settings asked shelf) (Act.tell entries) :=
  fun _ hs => ⟨hs, fun _ _ => rfl⟩

end PageTemplate.Font
