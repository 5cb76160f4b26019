/-
Order and search of texts, by code point.
-/
namespace PageTemplate.Text

/-- Whether the first text is not behind the second: at the first difference the smaller code point
comes first, and a text comes before its continuations. -/
def codePointLe : List Char → List Char → Bool
  | [], _ => true
  | _ :: _, [] => false
  | a :: as, b :: bs => a.toNat < b.toNat || (a == b && codePointLe as bs)

/-- The texts in code point order. -/
def sorted (texts : List String) : List String :=
  texts.mergeSort fun a b => codePointLe a.toList b.toList

/-- Whether the first text occurs somewhere in the second. -/
def occursIn (part : List Char) : List Char → Bool
  | [] => part.isEmpty
  | c :: rest => part.isPrefixOf (c :: rest) || occursIn part rest

/-- The texts with a comma and a blank between them. -/
def commaSeparated (texts : List String) : String := String.intercalate ", " texts

end PageTemplate.Text
