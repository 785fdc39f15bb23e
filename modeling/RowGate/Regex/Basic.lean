set_option autoImplicit false

namespace RowGate.Regex

structure Flags where
  ignoreCase : Bool := false
  dotMatchesNewline : Bool := false

abbrev Matcher := List Char → Bool

/-- An engine spells a text as a literal, and compiles an expression or says why it refuses it. -/
structure Engine where
  escape : List Char → List Char
  compile : Flags → List Char → Except String Matcher

inductive Atom where
  | dot
  | literal (c : Char)
  deriving DecidableEq

inductive Item where
  | start
  | finish
  | one (atom : Atom)
  | many (atom : Atom)
  deriving DecidableEq

abbrev Expression := List Item

end RowGate.Regex
