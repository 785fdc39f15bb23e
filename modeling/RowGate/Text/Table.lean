import RowGate.Text.Hex
import RowGate.Text.Pieces

set_option autoImplicit false

namespace RowGate.Text

def isAscii (c : Char) : Bool :=
  c.toNat < 0x80

def words (text : String) : List (List Char) :=
  tokens ' ' (text.toList.map fun c => if isBlank c then ' ' else c)

-- First and last code points.
abbrev Ranges := List (Nat × Nat)

namespace Ranges

def ofWord (word : List Char) : Nat × Nat :=
  match cut? '-' word with
  | some (first, last) => (Hex.number first, Hex.number last)
  | none => (Hex.number word, Hex.number word)

def ofText (text : String) : Ranges :=
  (words text).map ofWord

def has (ranges : Ranges) (c : Char) : Bool :=
  ranges.any fun (first, last) => first ≤ c.toNat && c.toNat ≤ last

end Ranges

structure Run where
  first : Nat
  last : Nat
  step : Nat
  target : Nat

namespace Run

def covers (run : Run) (n : Nat) : Bool :=
  run.first ≤ n && n ≤ run.last && (n - run.first) % run.step == 0

def move (run : Run) (c : Char) : Char :=
  .ofNat (run.target + (c.toNat - run.first))

-- A step other than one stands behind a slash.
def ofWord (word : List Char) : Run :=
  let (source, target) := (cut? '>' word).getD (word, [])
  let (range, step) := (cut? '/' source).getD (source, ['1'])
  let (first, last) := Ranges.ofWord range
  { first, last, step := Hex.number step, target := Hex.number target }

def ofText (text : String) : List Run :=
  (words text).map ofWord

end Run

def moved? (runs : List Run) (c : Char) : Option Char :=
  (runs.find? (·.covers c.toNat)).map (·.move c)

end RowGate.Text
