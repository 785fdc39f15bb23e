set_option autoImplicit false

namespace RowGate

inductive Error where
  | invalidIdentifier (name : String)
  | invalidParameter (detail : String)
  | invalidFilter (detail : String)
  | malformedBody (detail : String)
  | emptyBody
  | resourceNotFound (slug : String)
  | recordNotFound (id : String)
  | columnNotFound (column : String)
  | duplicateKey (detail : String)
  | foreignKeyViolation (detail : String)
  | database (detail : String)
  | configuration (detail : String)
  | inputOutput (detail : String)
  deriving DecidableEq, Inhabited

inductive ErrorClass where
  | clientInput
  | notFound
  | integrityConflict
  | unknownColumn
  -- No response was received; only a client sees this class.
  | transport
  | internal
  deriving DecidableEq

-- The HTTP status of the class, zero when nothing came back.
def ErrorClass.status : ErrorClass → Nat
  | .clientInput | .unknownColumn => 400
  | .notFound => 404
  | .integrityConflict => 409
  | .transport => 0
  | .internal => 500

namespace Error

def errorClass : Error → ErrorClass
  | .invalidIdentifier _ | .invalidParameter _ | .invalidFilter _ | .malformedBody _ | .emptyBody =>
    .clientInput
  | .resourceNotFound _ | .recordNotFound _ => .notFound
  | .duplicateKey _ | .foreignKeyViolation _ => .integrityConflict
  | .columnNotFound _ => .unknownColumn
  | .database _ | .configuration _ | .inputOutput _ => .internal

def status (error : Error) : Nat :=
  error.errorClass.status

def code : Error → String
  | .invalidIdentifier _ => "invalid_identifier"
  | .invalidParameter _ => "invalid_param"
  | .invalidFilter _ => "invalid_filter"
  | .malformedBody _ => "malformed_body"
  | .emptyBody => "empty_body"
  | .resourceNotFound _ => "resource_not_found"
  | .recordNotFound _ => "not_found"
  | .columnNotFound _ => "unknown_column"
  | .duplicateKey _ => "duplicate_key"
  | .foreignKeyViolation _ => "fk_violation"
  | .database _ => "database_error"
  | .configuration _ => "config_error"
  | .inputOutput _ => "io_error"

def message : Error → String
  | .invalidIdentifier name => "Invalid identifier: " ++ name
  | .invalidParameter detail => "Invalid query parameter: " ++ detail
  | .invalidFilter detail => "Invalid filter: " ++ detail
  | .malformedBody detail => "Malformed JSON body: " ++ detail
  | .emptyBody => "Empty request body"
  | .resourceNotFound slug => "Resource not found: " ++ slug
  | .recordNotFound id => "Record not found: " ++ id
  | .columnNotFound column => "Unknown column: " ++ column
  | .duplicateKey detail => "Duplicate key: " ++ detail
  | .foreignKeyViolation detail => "Foreign key violation: " ++ detail
  | .database detail => "Database error: " ++ detail
  | .configuration detail => "Configuration error: " ++ detail
  | .inputOutput detail => "IO error: " ++ detail

-- The message for a client, which learns of internal errors only while debugging.
def publicMessage (error : Error) (debug : Bool) : String :=
  if error.errorClass = .internal ∧ debug = false then "Internal server error" else error.message

end Error

end RowGate
