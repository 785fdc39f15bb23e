import RowGate.Config.Json
import RowGate.Service.Standalone

set_option autoImplicit false

namespace RowGate.CommandLine

def configFile : List String → String
  | "--config" :: file :: _ => file
  | "-c" :: file :: _ => file
  | _ :: rest => configFile rest
  | [] => "rowgate.json"

def nextWord (text : List Char) : List Char × List Char :=
  (Text.cut? ' ' text).getD (text, [])

def requestOfLine (line : String) : Request :=
  let (method, rest) := nextWord (line.toList.filter fun c => c ≠ '\n' ∧ c ≠ '\r')
  let (target, body) := nextWord rest
  .ofTarget (.ofName (.ofList method)) (.ofList target) (Text.Utf8.encode body)

def responseLine (response : Response) : String :=
  .ofList (Decimal.write response.status ++ ' ' :: response.body)

-- An absent file stands for the configuration of defaults.
def config? (text : Option String) : Option Config :=
  match text with
  | none => some {}
  | some text => (Json.read? text.toList).bind Config.ofJson?

def readFile? (file : String) : IO (Option String) := do
  try
    return some (← IO.FS.readFile file)
  catch _ => return none

partial def serve (service : Service) (store : Store) : IO Unit := do
  let line ← (← IO.getStdin).getLine
  if line.isEmpty then return
  let (response, store) := service.respond store (requestOfLine line)
  IO.println (responseLine response)
  (← IO.getStdout).flush
  serve service store

def run (arguments : List String) : IO UInt32 := do
  match config? (← readFile? (configFile arguments)) with
  | none =>
    IO.eprintln "the configuration cannot be read"
    return 1
  | some config =>
    match Service.start .standalone config with
    | .error error =>
      IO.eprintln error.message
      return 1
    | .ok (service, store) =>
      serve service store
      return 0

end RowGate.CommandLine

def main (arguments : List String) : IO UInt32 :=
  RowGate.CommandLine.run arguments
