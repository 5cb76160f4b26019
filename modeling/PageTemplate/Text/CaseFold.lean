/-
Comparing characters without regard to case: two are alike when their
lower-case forms are, or when those forms are variants of one letter.
-/
import PageTemplate.Text.Lowercase

namespace PageTemplate.Text

/-- Lower-case variants of a letter beside the form that stands for all of them. -/
def letterVariants : List (Nat × Nat) := [
  (0x131, 0x69), (0x17F, 0x73), (0xB5, 0x3BC), (0x345, 0x3B9), (0x1FBE, 0x3B9), (0x1FD3, 0x390),
  (0x1FE3, 0x3B0), (0x3D0, 0x3B2), (0x3F5, 0x3B5), (0x3D1, 0x3B8), (0x3F0, 0x3BA),
  (0x3D6, 0x3C0), (0x3F1, 0x3C1), (0x3C2, 0x3C3), (0x3D5, 0x3C6), (0x1C80, 0x432),
  (0x1C81, 0x434), (0x1C82, 0x43E), (0x1C83, 0x441), (0x1C84, 0x442), (0x1C85, 0x442),
  (0x1C86, 0x44A), (0x1C87, 0x463), (0x1C88, 0xA64B), (0x1E9B, 0x1E61), (0xFB06, 0xFB05)]

/-- The form that stands for a letter in every case and variant. -/
def foldChar (c : Char) : Char :=
  let lowered := if c = '\u0130' then 'i' else lowerChar c
  match letterVariants.find? fun (form, _) => form == lowered.toNat with
  | some (_, common) => Char.ofNat common
  | none => lowered

/-- Whether two characters are one letter but for case. -/
def sameLetter (a b : Char) : Bool := foldChar a == foldChar b

end PageTemplate.Text
