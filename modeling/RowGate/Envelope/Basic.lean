import RowGate.Error
import RowGate.Json.Writer

set_option autoImplicit false

namespace RowGate

structure Envelope where
  data : Option Json := none
  count : Option Nat := none
  error : Option String := none
  status : Nat := 0

namespace Envelope

def ok (data : Json) (status : Nat) : Envelope := { data := some data, status }

def empty (status : Nat) : Envelope := { status }

def failure (error : String) (status : Nat) : Envelope := { error := some error, status }

def transportFailure (error : String) : Envelope :=
  failure error ErrorClass.transport.status

def withCount (envelope : Envelope) (count : Option Nat) : Envelope := { envelope with count }

def isOk (envelope : Envelope) : Bool := envelope.error.isNone

/-- The envelope as a JSON object whose fields stand in this order. -/
def write (envelope : Envelope) : List Char :=
  '\x7b' :: Json.quote "data".toList ++ ':' :: (Json.ofOption id envelope.data).write ++
    ',' :: Json.quote "count".toList ++ ':' :: (Json.ofOption Json.nat envelope.count).write ++
    ',' :: Json.quote "error".toList ++ ':' :: (Json.ofOption .string envelope.error).write ++
    ['\x7d']

def text (envelope : Envelope) : String :=
  .ofList envelope.write

end Envelope

end RowGate
