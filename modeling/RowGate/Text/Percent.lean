import RowGate.Text.Hex
import RowGate.Text.Pieces
import RowGate.Text.Utf8

set_option autoImplicit false

namespace RowGate.Text.Percent

def encodeByte (byte : UInt8) : List Char :=
  ['%', Hex.upper (byte.toNat / 16), Hex.upper (byte.toNat % 16)]

def encode (plain : Char → Bool) (text : List Char) : List Char :=
  text.flatMap fun c => if plain c then [c] else (Utf8.encodeChar c).flatMap encodeByte

def bytes : List Char → List UInt8
  | '%' :: high :: low :: rest =>
    match Hex.value? high, Hex.value? low with
    | some h, some l => .ofNat (16 * h + l) :: bytes rest
    | _, _ => Utf8.encodeChar '%' ++ bytes (high :: low :: rest)
  | c :: rest => Utf8.encodeChar c ++ bytes rest
  | [] => []

def decode (text : List Char) : List Char :=
  Utf8.decodeLossy (bytes text)

def isFormPlain (c : Char) : Bool :=
  c.isAlphanum || c = '*' || c = '-' || c = '.' || c = '_'

def formEncode (text : List Char) : List Char :=
  text.flatMap fun c =>
    if c = ' ' then ['+']
    else if isFormPlain c then [c]
    else (Utf8.encodeChar c).flatMap encodeByte

def formDecode (text : List Char) : List Char :=
  decode (text.map fun c => if c = '+' then ' ' else c)

def formPair (text : List Char) : String × String :=
  match cut? '=' text with
  | some (key, value) => (.ofList (formDecode key), .ofList (formDecode value))
  | none => (.ofList (formDecode text), "")

def formPairs (text : List Char) : List (String × String) :=
  ((pieces '&' text).filter (· ≠ [])).map formPair

def formText (pairs : List (String × String)) : List Char :=
  join '&' (pairs.map fun (key, value) =>
    formEncode key.toList ++ '=' :: formEncode value.toList)

end RowGate.Text.Percent
