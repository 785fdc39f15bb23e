import RowGate.Client.Basic
import RowGate.Service.Basic

set_option autoImplicit false

namespace RowGate

inductive Shape where
  | rows
  | single
  | maybeSingle
  deriving DecidableEq

def Shape.apply : Shape → Envelope → Envelope
  | .rows, envelope => envelope
  | .single, envelope => envelope.single
  | .maybeSingle, envelope => envelope.maybeSingle

inductive Call where
  | list (builder : Builder) (shape : Shape)
  | find (id : String)
  | create (body : Json)
  | update (id : String) (body : Json)
  | delete (id : String)

namespace Call

def request (client : Client) (resource : String) (call : Call) : Request :=
  let send (method : Method) (url : Url) (body : List UInt8) : Request :=
    { method, path := url.path, query := .ofList (url.query.getD []), body }
  match call with
  | .list builder _ => send .get (client.queryUrl resource builder) []
  | .find id => send .get (client.resourceUrl resource (some id)) []
  | .create body =>
    send .post (client.resourceUrl resource none) (Text.Utf8.encode body.write)
  | .update id body =>
    send .patch (client.resourceUrl resource (some id)) (Text.Utf8.encode body.write)
  | .delete id => send .delete (client.resourceUrl resource (some id)) []

def shape : Call → Shape
  | .list _ shape => shape
  | _ => .rows

end Call

inductive Link where
  | running (service : Service) (store : Store)
  | closed

namespace Link

-- The words for a request that got no response.
def transportFault : String := "<transport>"

def received (jsonFault : List UInt8 → String) (response : Response) : Envelope :=
  .ofResponse jsonFault response.status (Status.reason? response.status)
    (Text.Utf8.encode response.body)

def send (link : Link) (request : Request) : Envelope × Link :=
  match link with
  | .closed => (.transportFailure transportFault, .closed)
  | .running service store =>
    let (response, store) := service.respond store request
    (received service.host.jsonFault response, .running service store)

def call (link : Link) (client : Client) (resource : String) (call : Call) : Envelope × Link :=
  let (envelope, link) := link.send (call.request client resource)
  (call.shape.apply envelope, link)

def shutdown (_ : Link) : Link := .closed

def isRunning : Link → Bool
  | .running _ _ => true
  | .closed => false

end Link

end RowGate
