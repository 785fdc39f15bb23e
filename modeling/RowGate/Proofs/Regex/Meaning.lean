import RowGate.Regex.Basic
import RowGate.Text.Fold

set_option autoImplicit false

namespace RowGate.Regex

section

variable (engine : Engine)

def Atom.spelling : Atom → List Char
  | .dot => ['.']
  | .literal c => engine.escape [c]

def Item.spelling : Item → List Char
  | .start => ['^']
  | .finish => ['$']
  | .one atom => atom.spelling engine
  | .many atom => atom.spelling engine ++ ['*']

def Expression.spelling (expression : Expression) : List Char :=
  expression.flatMap (Item.spelling engine)

end

variable (flags : Flags)

def Atom.Admits : Atom → Char → Prop
  | .dot, c => flags.dotMatchesNewline = true ∨ c ≠ '\n'
  | .literal d, c => d = c ∨ flags.ignoreCase = true ∧ Text.fold d = Text.fold c

section

variable {flags} {atom : Atom} {items : Expression} {before rest : List Char}

end

end RowGate.Regex
