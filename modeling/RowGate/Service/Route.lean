import RowGate.Http
import RowGate.OpenApi.Document
import RowGate.Text.Percent

set_option autoImplicit false

namespace RowGate.Service

inductive Route where
  | health
  | document
  | list (slug : String)
  | create (slug : String)
  | fetch (slug id : String)
  | update (slug id : String)
  | delete (slug id : String)
  deriving DecidableEq

def Route.readsBody : Route → Bool
  | .create _ | .update _ _ => true
  | _ => false

def keepsEncoded (byte : Nat) : Bool :=
  byte = '%'.toNat || byte = '/'.toNat || byte = '+'.toNat

-- The bytes of a path with every escape decoded but those that `keepsEncoded` names.
def matchedBytes : List Char → List UInt8
  | '%' :: high :: low :: rest =>
    match Text.Hex.value? high, Text.Hex.value? low with
    | some h, some l =>
      if keepsEncoded (16 * h + l) then
        Text.Utf8.encodeChar '%' ++ matchedBytes (high :: low :: rest)
      else .ofNat (16 * h + l) :: matchedBytes rest
    | _, _ => Text.Utf8.encodeChar '%' ++ matchedBytes (high :: low :: rest)
  | c :: rest => Text.Utf8.encodeChar c ++ matchedBytes rest
  | [] => []

def matchedPath (path : List Char) : List Char :=
  Text.Utf8.decodeLossy (matchedBytes path)

def routeBase (basePath : String) : List Char :=
  match OpenApi.trimSlashes basePath.toList with
  | [] => []
  | '/' :: rest => '/' :: rest
  | base => '/' :: base

def afterBase? : List Char → List Char → Option (List Char)
  | [], path => some path
  | _ :: _, [] => none
  | b :: base, c :: path => if b = c then afterBase? base path else none

def decodeSegment (segment : List Char) : String :=
  .ofList (Text.Percent.decode segment)

inductive Target where
  | rows (slug : String)
  | record (slug id : String)

def target? (path : List Char) : Option Target :=
  match path with
  | '/' :: rest =>
    match Text.pieces '/' rest with
    | [slug] => if slug = [] then none else some (.rows (decodeSegment slug))
    | [slug, id] =>
      if slug = [] ∨ id = [] then none else some (.record (decodeSegment slug) (decodeSegment id))
    | _ => none
  | _ => none

def Target.route? : Target → Method → Option Route
  | .rows slug, .get => some (.list slug)
  | .rows slug, .post => some (.create slug)
  | .record slug id, .get => some (.fetch slug id)
  | .record slug id, .put => some (.update slug id)
  | .record slug id, .patch => some (.update slug id)
  | .record slug id, .delete => some (.delete slug id)
  | _, _ => none

def healthPath : List Char := "/health".toList

def documentPath : List Char := "/openapi.json".toList

-- The first route that takes the method and the path.
def route? (basePath : String) (openApiEnabled : Bool) (method : Method) (path : List Char) :
    Option Route := do
  let path := matchedPath path
  if method = .get ∧ path = healthPath then some .health
  else
    let rest ← afterBase? (routeBase basePath) path
    if method = .get ∧ openApiEnabled = true ∧ rest = documentPath then some .document
    else (← target? rest).route? method

end RowGate.Service
