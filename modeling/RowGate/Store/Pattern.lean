import RowGate.Regex.Basic

set_option autoImplicit false

namespace RowGate.Pattern

variable (engine : Regex.Engine)

def part (c : Char) : List Char :=
  if c = '%' then ['.', '*'] else if c = '_' then ['.'] else engine.escape [c]

/-- The expression of a pattern, which has to match a text from its start to its end. -/
def expression (pattern : List Char) : List Char :=
  '^' :: pattern.flatMap (part engine) ++ ['$']

def compile (ignoreCase : Bool) (pattern : List Char) : Except String Regex.Matcher :=
  engine.compile { ignoreCase, dotMatchesNewline := true } (expression engine pattern)

end RowGate.Pattern
