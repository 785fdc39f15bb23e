import RowGate.Envelope.Basic
import RowGate.Text.Pieces

set_option autoImplicit false

namespace RowGate

inductive Method where
  | get
  | post
  | put
  | patch
  | delete
  | other (name : String)
  deriving DecidableEq

def Method.ofName (name : String) : Method :=
  match name with
  | "GET" => .get
  | "POST" => .post
  | "PUT" => .put
  | "PATCH" => .patch
  | "DELETE" => .delete
  | _ => .other name

structure Request where
  method : Method
  path : List Char
  query : String
  body : List UInt8 := []

def afterScheme? : List Char → Option (List Char)
  | ':' :: '/' :: '/' :: rest => some rest
  | c :: rest => if c = '/' then none else afterScheme? rest
  | [] => none

def pathOnward (target : List Char) : List Char :=
  match afterScheme? target with
  | none => target
  | some rest =>
    match rest.dropWhile fun c => c ≠ '/' ∧ c ≠ '?' with
    | '/' :: path => '/' :: path
    | query => '/' :: query

def Request.ofTarget (method : Method) (target : String) (body : List UInt8) : Request :=
  let text := pathOnward (target.toList.takeWhile (· ≠ '#'))
  match Text.cut? '?' text with
  | some (path, query) => { method, path, query := .ofList query, body }
  | none => { method, path := text, query := "", body }

structure Response where
  status : Nat
  contentType : Option String := none
  body : List Char := []

namespace Response

def json (status : Nat) (body : List Char) : Response :=
  { status, contentType := some "application/json", body }

def ofEnvelope (envelope : Envelope) : Response :=
  json envelope.status envelope.write

-- The one place where an error becomes an answer.
def ofError (error : Error) (debug : Bool) : Response :=
  ofEnvelope (.failure (error.publicMessage debug) error.status)

def noContent : Response := { status := 204 }

def notFound : Response := { status := 404 }

def tooLarge : Response where
  status := 413
  contentType := some "text/plain; charset=utf-8"
  body := "payload reached size limit".toList

end Response

end RowGate
