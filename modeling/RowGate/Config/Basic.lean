import RowGate.Query.Parse
import RowGate.Schema

set_option autoImplicit false

namespace RowGate

structure GrammarConfig where
  groups : Bool := true
  joins : Bool := true
  strict : Bool := false
  deriving DecidableEq

structure ServiceConfig where
  host : String := "0.0.0.0"
  port : Nat := 3000
  basePath : String := "/api"
  -- The most rows of one answer, and the size of a page when none is asked for.
  maxRows : Nat := 1000
  -- Whether clients see the text of internal errors.
  debug : Bool := false
  openApiEnabled : Bool := true
  corsOrigins : List String := ["*"]
  grammar : GrammarConfig := {}
  deriving DecidableEq

structure ResourceConfig where
  slug : String
  -- The slug names the table unless this does.
  table : Option String := none
  primaryKey : String := "id"
  -- The columns a client may write; none means all.
  fillable : List String := []
  columns : List Column := []
  relations : List Relation := []
  deriving DecidableEq

structure ClientConfig where
  baseUrl : String := "http://localhost:3000"
  basePath : String := "/api"
  timeoutSeconds : Nat := 30
  deriving DecidableEq

structure Config where
  service : ServiceConfig := {}
  resources : List ResourceConfig := []
  client : ClientConfig := {}
  deriving DecidableEq

def GrammarConfig.options (config : GrammarConfig) : GrammarOptions where
  groups := config.groups
  joins := config.joins
  mode := if config.strict then .strict else .lenient

end RowGate
