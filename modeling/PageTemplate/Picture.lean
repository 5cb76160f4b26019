/-
Pictures: the bytes of a file and the size in pixels that the library for
pictures finds in them.
-/
namespace PageTemplate

/-- A picture: its file and its size. -/
structure Picture where
  bytes : List UInt8
  width : Nat
  height : Nat
  deriving DecidableEq, Inhabited

end PageTemplate
