import RowGate.Proofs.Regex.Tabular
import RowGate.Proofs.Store.Comparing
import RowGate.Proofs.Store.Loading
import RowGate.Proofs.Store.Sorting

set_option autoImplicit false

namespace RowGate

namespace Pattern

-- A character of a pattern stands for a piece of text.
inductive StandsFor (ignoreCase : Bool) : Char → List Char → Prop
  | run (piece : List Char) : StandsFor ignoreCase '%' piece
  | any (c : Char) : StandsFor ignoreCase '_' [c]
  | itself (c : Char) (plain : c ≠ '%' ∧ c ≠ '_') : StandsFor ignoreCase c [c]
  | folded (c d : Char) (plain : c ≠ '%' ∧ c ≠ '_') (folds : ignoreCase = true)
      (same : Text.fold c = Text.fold d) : StandsFor ignoreCase c [d]

/-- The text is cut into pieces for which the characters of the pattern stand in order. -/
def Spells (ignoreCase : Bool) (pattern text : List Char) : Prop :=
  ∃ pieces : List (List Char), pieces.flatten = text ∧
    List.Forall₂ (StandsFor ignoreCase) pattern pieces

def item (c : Char) : Regex.Item :=
  if c = '%' then .many .dot else if c = '_' then .one .dot else .one (.literal c)

def items (pattern : List Char) : Regex.Expression :=
  .start :: (pattern.map item ++ [.finish])

section

variable (engine : Regex.Engine)

end

section

variable (ignoreCase : Bool)

-- Wildcards take line ends as well.
def flags : Regex.Flags :=
  { ignoreCase, dotMatchesNewline := true }

end

end Pattern

def Predicate.pattern (ignoreCase : Bool) (text : String) : Predicate :=
  .compare (if ignoreCase then .ilike else .like) text

section

variable (engine : Regex.Engine)

namespace Predicate

end Predicate

namespace Store

end Store

end

end RowGate
