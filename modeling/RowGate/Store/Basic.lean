import RowGate.Store.Joining

set_option autoImplicit false

/-!
# The memory store

A store holds tables by name. Every row that is written passes the checks of its table first, so a
write that fails changes nothing.
-/

namespace RowGate

structure Table where
  schema : Schema
  rows : List Row := []

/-- The tables, and where the keys come from that no body gives: the next one has the number `issued`. -/
structure Store where
  newKey : Nat → String
  tables : Keyed Table := []
  issued : Nat := 0

namespace Schema

def declared (schema : Schema) : Option (List String) :=
  if schema.columns.isEmpty then none
  else some (schema.primaryKey :: schema.columns.map (·.name))

def uniqueColumns (schema : Schema) : List String :=
  schema.primaryKey :: (schema.columns.filter (·.unique)).map (·.name)

end Schema

def checkKnown (known : Option (List String)) (column : String) : Except Error Unit :=
  match known with
  | some columns => if columns.contains column then .ok () else .error (.columnNotFound column)
  | none => .ok ()

namespace Table

def keyMatches (table : Table) (id : String) (row : Row) : Bool :=
  ((row.get? table.schema.primaryKey).map (·.equalsText id)).getD false

def position? (table : Table) (id : String) : Option Nat :=
  table.rows.findIdx? (table.keyMatches id)

def otherRows (table : Table) : Option Nat → List Row
  | some index => table.rows.eraseIdx index
  | none => table.rows

def checkColumns (table : Table) (row : Row) : Except Error Unit :=
  row.keys.forM (checkKnown table.schema.declared)

def checkUnique (others : List Row) (row : Row) (column : String) : Except Error Unit :=
  match row.get? column with
  | none => .ok ()
  | some value =>
    if others.any fun other => sameValue (other.value column) value then
      .error (.duplicateKey (column ++ "=" ++ value.plainText))
    else .ok ()

end Table

namespace Store

def empty (newKey : Nat → String) : Store := { newKey }

def lookup (store : Store) (name : String) : Except Error Table :=
  match store.tables.get? name with
  | some table => .ok table
  | none => .error (.database ("relation \"" ++ name ++ "\" does not exist"))

-- Adds an empty table; a table that is there stays as it is.
def define (store : Store) (schema : Schema) : Store :=
  if store.tables.has schema.name then store
  else { store with tables := store.tables.insert schema.name { schema } }

def setRows (store : Store) (name : String) (table : Table) (rows : List Row) : Store :=
  { store with tables := store.tables.insert name { table with rows } }

-- A row that belongs to a row of another table needs it to be there.
def checkBelonging (store : Store) (name : String) (row : Row) (relation : Relation) :
    Except Error Unit :=
  match row.get? relation.localKey, store.tables.get? relation.table with
  | some value, some parent =>
    if value.isNull || parent.rows.any fun other => sameValue (other.value relation.foreignKey) value
    then .ok ()
    else
      .error (.foreignKeyViolation
        (name ++ "." ++ relation.localKey ++ "=" ++ value.plainText ++ " has no match in " ++
          relation.table))
  | _, _ => .ok ()

/-- The checks of a row that is written to a table, in the place of the row at `replaced` if any. -/
def checkRow (store : Store) (name : String) (table : Table) (row : Row) (replaced : Option Nat) :
    Except Error Unit := do
  table.checkColumns row
  table.schema.uniqueColumns.forM (Table.checkUnique (table.otherRows replaced) row)
  (table.schema.relations.filter (!·.many)).forM (store.checkBelonging name row)

def keyText (number : Nat) : String :=
  let digits := Decimal.write number
  "00000000-0000-4000-8000-" ++ .ofList (List.replicate (12 - digits.length) '0' ++ digits)

-- The row with a key: a key that is null or missing is generated.
def withKey (store : Store) (table : Table) (row : Row) : Row × Store :=
  let key := table.schema.primaryKey
  if (row.value key).isNull then
    (row.insert key (.string (store.newKey store.issued)), { store with issued := store.issued + 1 })
  else (row, store)

def find (store : Store) (name id : String) : Except Error (Option Row) := do
  let table ← store.lookup name
  .ok (table.rows.find? (table.keyMatches id))

def insert (store : Store) (name : String) (values : Row) : Except Error (Row × Store) := do
  let table ← store.lookup name
  let (row, keyed) := store.withKey table values
  store.checkRow name table row none
  .ok (row, keyed.setRows name table (table.rows ++ [row]))

def overwrite (row values : Row) : Row :=
  values.foldl (fun row field => row.insert field.1 field.2) row

def update (store : Store) (name id : String) (values : Row) : Except Error (Option Row × Store) := do
  let table ← store.lookup name
  match table.position? id with
  | none => .ok (none, store)
  | some index =>
    let row := overwrite (table.rows.getD index []) values
    store.checkRow name table row (some index)
    .ok (some row, store.setRows name table (table.rows.set index row))

def delete (store : Store) (name id : String) : Except Error (Bool × Store) := do
  let table ← store.lookup name
  match table.position? id with
  | none => .ok (false, store)
  | some index => .ok (true, store.setRows name table (table.rows.eraseIdx index))

/-- The result of a change with the store after it. One that fails leaves every table as it is, and the
next key is not issued again, since the fault may have shown it. -/
def attempt {α : Type} (store : Store) (change : Except Error (α × Store)) : Except Error α × Store :=
  match change with
  | .ok (value, changed) => (.ok value, changed)
  | .error error => (.error error, { store with issued := store.issued + 1 })

-- Inserts rows up to the first that fails.
def seed (store : Store) (name : String) : List Json → Except Error Unit × Store
  | [] => (.ok (), store)
  | .object values :: rest =>
    match store.attempt (store.insert name values) with
    | (.ok _, store) => store.seed name rest
    | (.error error, store) => (.error error, store)
  | other :: _ =>
    (.error (.malformedBody ("seed rows must be objects, got " ++ other.text)), store)

def seedTables (store : Store) (tables : List (String × List Json)) : Except Error Store :=
  tables.foldlM (fun store (name, rows) => let (done, seeded) := store.seed name rows
    done.map fun _ => seeded) store

end Store

end RowGate
