import RowGate.Predicate
import RowGate.Query.Fragment
import RowGate.Query.Group
import RowGate.Text.Percent

set_option autoImplicit false

/-!
# Parsing query strings

Each pair of a query string is cut into fragments, and the mode settles what a malformed fragment
does. Columns and keys are checked to be identifiers here, so no other name gets into a query
through its string, names of columns and relations to return apart.
-/

namespace RowGate

structure GrammarOptions where
  groups : Bool := true
  joins : Bool := true
  mode : Mode := .lenient
  deriving DecidableEq

namespace Query

def orderFragment (token : List Char) : Fragment Order :=
  let (column, direction) :=
    match Text.cut? '.' token with
    | some (column, direction) => (column, some direction)
    | none => (token, none)
  if isIdentifierText column then
    match direction.map Direction.ofText? with
    | none => .wellFormed ⟨.ofList column, .asc⟩
    | some (some direction) => .wellFormed ⟨.ofList column, direction⟩
    | some none =>
      .repaired ⟨.ofList column, .asc⟩ (.invalidParameter ("order=" ++ .ofList token))
  else .broken (.invalidIdentifier (.ofList column))

def orderFragments (value : List Char) : List (Fragment Order) :=
  (Text.tokens ',' value).map orderFragment

def clauseValue (operator : Operator) (value : List Char) : List Char :=
  match operator with
  | .like | .ilike => likePattern value
  | .isIn | .notIn => unwrapList value
  | _ => value

def clauseFragment (column : List Char) (operator : Operator) (value : List Char) :
    Fragment Clause :=
  if isIdentifierText column then
    let kept : String := .ofList (clauseValue operator value)
    let clause : Clause := ⟨.ofList column, operator, some kept⟩
    if (Predicate.ofClause? clause).isSome then .wellFormed clause
    else
      .repaired clause (.invalidFilter
        ("'" ++ kept ++ "' is not a valid value for " ++ clause.column ++ "." ++ operator.token))
  else .broken (.invalidIdentifier (.ofList column))

def filterFragment (key value : List Char) : Fragment Clause :=
  match Text.cut? '.' key with
  | none => clauseFragment key .eq value
  | some (column, raw) =>
    match Operator.ofText? raw with
    | some operator => clauseFragment column operator value
    | none =>
      .broken (.invalidFilter ("unknown operator '" ++ .ofList raw ++ "' in '" ++ .ofList key ++ "'"))

def groupFragment (token : List Char) : Fragment Clause :=
  match Group.parts? token with
  | none =>
    .broken (.invalidFilter
      ("group condition '" ++ .ofList token ++ "' is not column.operator.value"))
  | some parts =>
    match Operator.ofText? parts.operator with
    | some operator => clauseFragment parts.column operator parts.value
    | none =>
      .broken (.invalidFilter
        ("unknown operator '" ++ .ofList parts.operator ++ "' in '" ++ .ofList token ++ "'"))

-- The conditions of a group; one parenthesis on either side is optional.
def groupTokens (value : List Char) : List (List Char) :=
  let inner := dropClosing (dropOpening (Text.trim value))
  ((Group.pieces ',' inner).map Text.trim).filter (· ≠ [])

def groupFragments (value : List Char) : List (Fragment Clause) :=
  (groupTokens value).map groupFragment

def joinNames? (token : List Char) : Option (List Char × List Char × List Char) := do
  let (table, keys) ← Text.cut? ':' token
  let (left, right) ← Text.cut? '=' keys
  some (Text.trim table, Text.trim left, Text.trim right)

def joinFragment (kind : JoinKind) (token : List Char) : Fragment Join :=
  match joinNames? token with
  | none => .broken (.invalidParameter (kind.key ++ "=" ++ .ofList token))
  | some (table, left, right) =>
    match [table, left, right].find? fun name => !isIdentifierText name with
    | some name => .broken (.invalidIdentifier (.ofList name))
    | none => .wellFormed ⟨kind, .ofList table, .ofList left, .ofList right⟩

def joinFragments (kind : JoinKind) (value : List Char) : List (Fragment Join) :=
  (Text.tokens ',' value).map (joinFragment kind)

def readInteger (mode : Mode) (key value : String) : Except Error Nat :=
  match mode with
  | .strict =>
    match integer? value.toList with
    | some n => .ok n
    | none => .error (.invalidParameter (key ++ "=" ++ value))
  | .lenient => .ok (coerceInteger value.toList)

def names (value : String) : List String :=
  (Text.tokens ',' value.toList).map .ofList

def addPair (options : GrammarOptions) (query : Query) (pair : String × String) :
    Except Error Query := do
  let (text, value) := pair
  match Key.ofText text with
  | .select => .ok { query with select := query.select ++ names value }
  | .load => .ok { query with load := query.load ++ names value }
  | .order =>
    let order ← Fragment.settle options.mode (orderFragments value.toList)
    .ok { query with order := query.order ++ order }
  | .limit =>
    let limit ← readInteger options.mode text value
    .ok { query with limit := some limit }
  | .offset =>
    let offset ← readInteger options.mode text value
    .ok { query with offset := some offset }
  | .count => .ok { query with count := true }
  | .group connective =>
    if options.groups then
      let clauses ← Fragment.settle options.mode (groupFragments value.toList)
      match connective with
      | .and => .ok { query with andGroup := query.andGroup ++ clauses }
      | .or => .ok { query with orGroup := query.orGroup ++ clauses }
    else .ok query
  | .join kind =>
    if options.joins then
      let joins ← Fragment.settle options.mode (joinFragments kind value.toList)
      .ok { query with joins := query.joins ++ joins }
    else .ok query
  | .filter key =>
    let clauses ← Fragment.settle options.mode [filterFragment key.toList value.toList]
    .ok { query with filters := query.filters ++ clauses }

-- An empty column list selects everything.
def withDefaultSelect (query : Query) : Query :=
  if query.select.isEmpty then { query with select := ["*"] } else query

def ofPairs (options : GrammarOptions) (pairs : List (String × String)) : Except Error Query :=
  (pairs.foldlM (addPair options) {}).map withDefaultSelect

def ofText (options : GrammarOptions) (text : String) : Except Error Query :=
  ofPairs options (Text.Percent.formPairs text.toList)

end Query

end RowGate
