import RowGate.Regex.Basic
import RowGate.Text.Fold

set_option autoImplicit false

namespace RowGate.Regex

-- The characters that mean something in an expression.
def isMeta (c : Char) : Bool :=
  "\\.+*?()|[]{}^$#&-~".toList.contains c

def escape (text : List Char) : List Char :=
  text.flatMap fun c => if isMeta c then ['\\', c] else [c]

inductive Symbol where
  | start
  | finish
  | star
  | atom (atom : Atom)

def symbol? (c : Char) : Option Symbol :=
  if c = '^' then some .start
  else if c = '$' then some .finish
  else if c = '*' then some .star
  else if c = '.' then some (.atom .dot)
  else if isMeta c then none
  else some (.atom (.literal c))

def symbols? : List Char → Option (List Symbol)
  | [] => some []
  | '\\' :: c :: rest =>
    if isMeta c then (symbols? rest).map (.atom (.literal c) :: ·) else none
  | c :: rest => do
    let symbol ← symbol? c
    (symbols? rest).map (symbol :: ·)

def items? : List Symbol → Option Expression
  | [] => some []
  | .start :: rest => (items? rest).map (.start :: ·)
  | .finish :: rest => (items? rest).map (.finish :: ·)
  | .atom atom :: .star :: rest => (items? rest).map (.many atom :: ·)
  | .atom atom :: rest => (items? rest).map (.one atom :: ·)
  | .star :: _ => none

def Expression.ofText? (text : List Char) : Option Expression :=
  (symbols? text).bind items?

def Atom.admits (flags : Flags) : Atom → Char → Bool
  | .dot, c => flags.dotMatchesNewline || c != '\n'
  | .literal d, c => if flags.ignoreCase then Text.fold d = Text.fold c else d = c

section

variable (flags : Flags)

-- The answers of one more item in front, at each place of a text from the first on.
def front (item : Item) : Bool → List Char → List Bool → List Bool
  | atStart, c :: text, here :: after =>
    let later := front item false text after
    let answer :=
      match item with
      | .start => atStart && here
      | .finish => false
      | .one atom => atom.admits flags c && after.headD false
      | .many atom => here || atom.admits flags c && later.headD false
    answer :: later
  | atStart, _, answers =>
    match item with
    | .start => answers.map (atStart && ·)
    | .finish | .many _ => answers
    | .one _ => answers.map fun _ => false

-- For each place of a text, its end included, whether the items match from there on.
def places (expression : Expression) (atStart : Bool) (text : List Char) : List Bool :=
  expression.foldr (fun item answers => front flags item atStart text answers)
    (true :: text.map fun _ => true)

def isMatch (expression : Expression) : Matcher :=
  fun text => (places flags expression true text).any id

end

def tabular (accepts : Flags → Expression → Bool) (refusal : String) : Engine where
  escape := escape
  compile flags text :=
    match Expression.ofText? text with
    | none => .error "regex parse error"
    | some expression =>
      if accepts flags expression then .ok (isMatch flags expression) else .error refusal

def unlimited : Engine :=
  tabular (fun _ _ => true) ""

end RowGate.Regex
