import RowGate.Client.Builder
import RowGate.Config.Basic
import RowGate.Url.Reader

set_option autoImplicit false

namespace RowGate

structure Client where
  base : Url
  deriving DecidableEq

namespace Client

inductive Fault where
  | invalidUrl (fault : Url.Fault)
  -- The path of the URL takes no segments.
  | rootless (baseUrl : String)
  deriving DecidableEq

def Fault.message : Fault → String
  | .invalidUrl fault => "Invalid base URL: " ++ fault.message
  | .rootless baseUrl => "Base URL cannot carry a path: " ++ baseUrl

def basePathSegments (basePath : String) : List String :=
  ((Text.pieces '/' basePath.toList).filter (· ≠ [])).map .ofList

def ofConfig (config : ClientConfig) : Except Fault Client :=
  match Url.read config.baseUrl.toList with
  | .error fault => .error (.invalidUrl fault)
  | .ok none => .error (.rootless config.baseUrl)
  | .ok (some url) =>
    .ok { base := (basePathSegments config.basePath).foldl Url.push url.popBlank }

def connect (baseUrl : String) : Except Fault Client :=
  ofConfig { baseUrl }

def resourceUrl (client : Client) (resource : String) (id : Option String) : Url :=
  id.toList.foldl Url.push (client.base.push resource)

def queryUrl (client : Client) (resource : String) (builder : Builder) : Url :=
  let url := client.resourceUrl resource none
  if builder.pairs = [] then url else url.appendPairs builder.pairs

end Client

end RowGate
