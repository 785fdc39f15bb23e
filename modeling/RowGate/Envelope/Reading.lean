import RowGate.Envelope.Basic
import RowGate.Envelope.Status
import RowGate.Json.Reader
import RowGate.Json.Record

set_option autoImplicit false

namespace RowGate.Envelope

open Json

def names : List String := ["data", "count", "error"]

-- The members of a shape that an envelope names; `none` if one is repeated or missing its key.
def members? : Draft → Option (List (String × Draft))
  | .object entries => do
    let entries ← entries.mapM fun (key, value) => key.map fun key => (key, value)
    let known := entries.filter fun entry => names.contains entry.1
    if (known.map (·.1)).Nodup then some known else none
  | .array items => if items.length = names.length then some (names.zip items) else none
  | .scalar _ => none

def member? (members : List (String × Draft)) (name : String) : Option Json :=
  match members.lookup name with
  | some value => value.meaning? (maxDepth - 1)
  | none => some .null

-- The envelope a text holds: members that are missing are null, and unknown ones are ignored.
def decode? (text : List Char) : Option Envelope := do
  let members ← (Draft.ofText? text).bind members?
  let data ← member? members "data"
  let count ← (← member? members "count") |> Json.nullable asNat?
  let error ← (← member? members "error") |> Json.nullable asString?
  some { data := if data.isNull then none else some data, count, error }

def isBlankByte (byte : UInt8) : Bool :=
  byte = 0x20 || byte = 0x09 || byte = 0x0A || byte = 0x0C || byte = 0x0D

def ofObject? (status : Nat) (fields : Row) : Option Envelope :=
  if names.any fields.has then
    some
      { data := (fields.get? "data").filter (!·.isNull)
        count := (fields.get? "count").bind asNat?
        error := (fields.get? "error").bind asString?
        status }
  else none

def invalidJson (fault : String) : String := "Invalid JSON response: " ++ fault

section

variable (jsonFault : List UInt8 → String) (status : Nat)

def ofBody (body : List UInt8) : Envelope :=
  if status = 204 ∨ body.all isBlankByte then empty status
  else
    match readBytes? body with
    | some (.object fields) => (ofObject? status fields).getD (ok (.object fields) status)
    | some value => ok value status
    | none => if Status.isSuccess status then failure (invalidJson (jsonFault body)) status else empty status

def reasonText (reason : Option String) : String :=
  reason.getD "Unknown Status" ++ " (" ++ Decimal.text status ++ ")"

-- A failing status without an error in its body gets one from the status line.
def ofResponse (reason : Option String) (body : List UInt8) : Envelope :=
  let envelope := ofBody jsonFault status body
  if Status.isSuccess status || envelope.error.isSome then envelope
  else { envelope with data := none, error := some (reasonText status reason) }

end

-- Requires one row; the data stay when there is another number of rows.
def single (envelope : Envelope) : Envelope :=
  if envelope.error.isSome then envelope
  else
    match envelope.data with
    | some (.array [row]) => { envelope with data := some row }
    | some (.array rows) =>
      { envelope with error := some ("Single record expected, got " ++ Decimal.text rows.length) }
    | some _ => envelope
    | none => { envelope with error := some "Single record expected, got 0" }

def maybeSingle (envelope : Envelope) : Envelope :=
  if envelope.error.isSome then envelope
  else
    match envelope.data with
    | some (.array []) => { envelope with data := none }
    | some (.array [row]) => { envelope with data := some row }
    | some (.array rows) =>
      { envelope with
        error := some ("MaybeSingle expected 0 or 1 row, got " ++ Decimal.text rows.length) }
    | _ => envelope

end RowGate.Envelope
