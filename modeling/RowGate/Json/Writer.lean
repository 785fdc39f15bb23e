import RowGate.Json.Basic
import RowGate.Text.Hex

set_option autoImplicit false

namespace RowGate.Json

-- A double keeps its point, exponents from -5 to 15 are not written, and a tie goes to the even
-- digit.
def doubleLayout : Double.Layout where
  positional exponent := -5 ≤ exponent && exponent ≤ 15
  keepsPoint := true
  tie := .even

def escape (c : Char) : List Char :=
  if c = '"' then ['\\', '"']
  else if c = '\\' then ['\\', '\\']
  else if c = '\x08' then ['\\', 'b']
  else if c = '\t' then ['\\', 't']
  else if c = '\n' then ['\\', 'n']
  else if c = '\x0c' then ['\\', 'f']
  else if c = '\r' then ['\\', 'r']
  else if c.toNat < 0x20 then
    ['\\', 'u', '0', '0', Text.Hex.lower (c.toNat / 16), Text.Hex.lower (c.toNat % 16)]
  else [c]

def quote (text : List Char) : List Char :=
  '"' :: text.flatMap escape ++ ['"']

def writeNumber : Number → List Char
  | .integer n => if n < 0 then '-' :: Decimal.write n.natAbs else Decimal.write n.natAbs
  | .double x => doubleLayout.text x

mutual

def write : Json → List Char
  | .null => "null".toList
  | .bool true => "true".toList
  | .bool false => "false".toList
  | .number n => writeNumber n
  | .string s => quote s.toList
  | .array [] => ['[', ']']
  | .array (item :: rest) => '[' :: (write item ++ writeItems rest)
  | .object [] => ['{', '}']
  | .object ((key, value) :: rest) =>
    '{' :: (quote key.toList ++ ':' :: (write value ++ writeFields rest))

def writeItems : List Json → List Char
  | [] => [']']
  | item :: rest => ',' :: (write item ++ writeItems rest)

def writeFields : List (String × Json) → List Char
  | [] => ['}']
  | (key, value) :: rest => ',' :: (quote key.toList ++ ':' :: (write value ++ writeFields rest))

end

def text (value : Json) : String :=
  .ofList value.write

end RowGate.Json
