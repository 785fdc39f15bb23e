import Mathlib.Data.List.Perm.Basic
import RowGate.Proofs.Keyed
import RowGate.Proofs.Store.Values
import RowGate.Store.Joining

set_option autoImplicit false

namespace RowGate

section

variable (row : Row)

theorem get?_mergeRows (right : Row) (key : String) :
    (mergeRows row right).get? key = (row.get? key).or (right.get? key) :=
  Keyed.get?_foldl_missing row right key

theorem padRow_eq (columns : List String) :
    padRow row columns = mergeRows row (columns.map fun column => (column, .null)) := by
  rw [padRow, mergeRows, List.foldl_map]

theorem get?_padRow (columns : List String) (key : String) :
    (padRow row columns).get? key =
      (row.get? key).or (if key ∈ columns then some .null else none) := by
  rw [padRow_eq, get?_mergeRows]
  congr 1
  induction columns with
  | nil => simp [Keyed.get?]
  | cons column rest ih =>
    by_cases same : column = key
    next => simp [Keyed.get?, same]
    next => simp [Keyed.get?, same, Ne.symm same, ih]

theorem mem_rowKeys_iff (rows : List Row) (column : String) :
    column ∈ rowKeys rows ↔ ∃ row ∈ rows, row.has column = true := by
  simp only [rowKeys, List.mem_flatMap, Keyed.mem_keys_iff_has]

end

namespace JoinKeys

variable (keys : JoinKeys)

def pairs (lefts rights : List Row) : List (Row × Row) :=
  (lefts.product rights).filter fun pair => keys.agree pair.1 pair.2

def leftAlone (rights : List Row) (left : Row) : Bool :=
  !rights.any (keys.agree left)

def rightAlone (lefts : List Row) (right : Row) : Bool :=
  !lefts.any (keys.agree · right)

-- The rows without match that an outer join keeps.
def unmatched (kind : JoinKind) (lefts rights : List Row) : List Row :=
  match kind with
  | .inner => []
  | .left => lefts.filter (keys.leftAlone rights)
  | .right => rights.filter (keys.rightAlone lefts)

theorem agree_null (left right : Row)
    (null : (left.value keys.left).isNull = true ∨ (right.value keys.right).isNull = true) :
    keys.agree left right = false := by
  rcases null with null | null <;> simp [agree, sameValue, null]

end JoinKeys

-- The columns with which an outer join pads: those that the other table declares, for a left join
-- only, and those of its rows.
def paddingOf (kind : JoinKind) (columns : List Column) (lefts rights : List Row) : List String :=
  match kind with
  | .inner => []
  | .left => columns.map (·.name) ++ rowKeys rights
  | .right => rowKeys lefts

section

variable {α β γ : Type}

theorem map_filter_eq_flatMap (keep : α → Bool) (change : α → β) (items : List α) :
    (items.filter keep).map change =
      items.flatMap fun item => if keep item then [change item] else [] := by
  induction items with
  | nil => rfl
  | cons item rest ih => cases kept : keep item <;> simp [kept, ih]

-- One loop inside the other, either way round.
theorem flatMap_flatMap_perm (outer : List α) (inner : List β) (make : α → β → List γ) :
    (inner.flatMap fun second => outer.flatMap fun first => make first second).Perm
      (outer.flatMap fun first => inner.flatMap (make first)) := by
  induction outer with
  | nil => simp
  | cons first rest ih =>
    simp only [List.flatMap_cons]
    exact (List.flatMap_append_perm inner _ _).symm.trans (ih.append_left _)

end

theorem flatMap_orPadded (found : Row → List Row) (padding : List String) (rows : List Row) :
    (rows.flatMap fun row => orPadded row padding (found row)).Perm
      (rows.flatMap found ++ (rows.filter fun row => (found row).isEmpty).map (padRow · padding)) := by
  have parts (row : Row) : orPadded row padding (found row) =
      found row ++ if (found row).isEmpty then [padRow row padding] else [] := by
    cases found row <;> simp [orPadded]
  simp only [parts, map_filter_eq_flatMap]
  exact (List.flatMap_append_perm rows _ _).symm

section

variable (keys : JoinKeys) (lefts : List Row) (columns : List Column) (rights : List Row)

theorem flatMap_matchesOfLeft :
    lefts.flatMap (matchesOfLeft keys rights) =
      (keys.pairs lefts rights).map fun pair => mergeRows pair.1 pair.2 := by
  unfold matchesOfLeft
  simp only [JoinKeys.pairs, List.product, map_filter_eq_flatMap, List.flatMap_assoc, List.flatMap_map]

theorem flatMap_matchesOfRight :
    (rights.flatMap (matchesOfRight keys lefts)).Perm
      ((keys.pairs lefts rights).map fun pair => mergeRows pair.1 pair.2) := by
  rw [← flatMap_matchesOfLeft]
  unfold matchesOfLeft matchesOfRight
  simp only [map_filter_eq_flatMap]
  exact flatMap_flatMap_perm lefts rights _

theorem joinRows_perm (kind : JoinKind) :
    (joinRows kind keys lefts columns rights).Perm
      ((keys.pairs lefts rights).map (fun pair => mergeRows pair.1 pair.2) ++
        (keys.unmatched kind lefts rights).map (padRow · (paddingOf kind columns lefts rights))) := by
  cases kind with
  | inner =>
    rw [joinRows, flatMap_matchesOfLeft]
    simp [JoinKeys.unmatched]
  | left =>
    have alone (left : Row) : (matchesOfLeft keys rights left).isEmpty = keys.leftAlone rights left := by
      rw [Bool.eq_iff_iff]
      simp [matchesOfLeft, JoinKeys.leftAlone]
    have parts := flatMap_orPadded (matchesOfLeft keys rights) (columns.map (·.name) ++ rowKeys rights) lefts
    simp only [alone, flatMap_matchesOfLeft] at parts
    exact parts
  | right =>
    have alone (right : Row) : (matchesOfRight keys lefts right).isEmpty = keys.rightAlone lefts right := by
      rw [Bool.eq_iff_iff]
      simp [matchesOfRight, JoinKeys.rightAlone]
    have parts := flatMap_orPadded (matchesOfRight keys lefts) (rowKeys lefts) rights
    simp only [alone] at parts
    exact parts.trans ((flatMap_matchesOfRight keys lefts rights).append_right _)

/-- How the three joins of the same rows hang together, and what matching, merging and padding are. -/
structure JoinLaws : Prop where
  inner : joinRows .inner keys lefts columns rights =
    (keys.pairs lefts rights).map fun pair => mergeRows pair.1 pair.2
  left : (joinRows .left keys lefts columns rights).Perm
    (joinRows .inner keys lefts columns rights ++
      (lefts.filter (keys.leftAlone rights)).map (padRow · (columns.map (·.name) ++ rowKeys rights)))
  right : (joinRows .right keys lefts columns rights).Perm
    (joinRows .inner keys lefts columns rights ++
      (rights.filter (keys.rightAlone lefts)).map (padRow · (rowKeys lefts)))
  agrees : ∀ left right : Row,
    keys.agree left right = sameValue (left.value keys.left) (right.value keys.right)
  keyless : ∀ left right : Row,
    (left.value keys.left).isNull = true ∨ (right.value keys.right).isNull = true →
      keys.agree left right = false
  merged : ∀ pair ∈ keys.pairs lefts rights, ∀ key,
    (mergeRows pair.1 pair.2).get? key = (pair.1.get? key).or (pair.2.get? key)
  padded : ∀ (row : Row) (padding : List String) (key : String) (value : Json),
    row.get? key = some value → (padRow row padding).get? key = some value
  filled : ∀ (row : Row) (padding : List String) (key : String), row.get? key = none →
    (padRow row padding).get? key = if key ∈ padding then some .null else none
  spanned : ∀ (rows : List Row) (key : String),
    key ∈ rowKeys rows ↔ ∃ row ∈ rows, row.has key = true

/-- The joins of any rows by any keys: the outer ones are the inner one and a padded copy of each row
without match, a pair keeps the fields of its left row and takes the others from its right row, and
padding adds nulls and changes no field. -/
theorem joinRows_laws : JoinLaws keys lefts columns rights := by
  have inner : joinRows .inner keys lefts columns rights =
      (keys.pairs lefts rights).map fun pair => mergeRows pair.1 pair.2 :=
    flatMap_matchesOfLeft keys lefts rights
  refine ⟨inner, ?_, ?_, fun _ _ => rfl, keys.agree_null,
    fun pair _ key => get?_mergeRows pair.1 pair.2 key, ?_, ?_, mem_rowKeys_iff⟩
  next =>
    rw [inner]
    exact joinRows_perm keys lefts columns rights .left
  next =>
    rw [inner]
    exact joinRows_perm keys lefts columns rights .right
  next =>
    intro row padding key value held
    rw [get?_padRow, held, Option.some_or]
  next =>
    intro row padding key missing
    rw [get?_padRow, missing, Option.none_or]

end

def worker (name : String) (office : Json) : Row :=
  [("name", .string name), ("office", office)]

def office (id city : String) : Row :=
  [("city", .string city), ("id", .string id)]

def workers : List Row :=
  [worker "Ann" (.string "o1"), worker "Bea" (.string "o3"), worker "Cid" .null]

def offices : List Row :=
  [office "o1" "Bonn", office "o2" "Rome"]

def officeColumns : List Column :=
  [{ name := "id" }, { name := "city" }, { name := "floor" }]

def officeKeys : JoinKeys := ⟨"office", "id"⟩

-- Ann has an office, that of Bea is not there, Cid has none, and nobody has the one in Rome.
def annInBonn : Row :=
  [("city", .string "Bonn"), ("id", .string "o1"), ("name", .string "Ann"), ("office", .string "o1")]

def withoutOffice (name : String) (office : Json) : Row :=
  [("city", .null), ("floor", .null), ("id", .null), ("name", .string name), ("office", office)]

def emptyInRome : Row :=
  [("city", .string "Rome"), ("id", .string "o2"), ("name", .null), ("office", .null)]

theorem joinRows_laws_offices :
    joinRows .inner officeKeys workers officeColumns offices = [annInBonn] ∧
      (joinRows .left officeKeys workers officeColumns offices).Perm
        [annInBonn, withoutOffice "Bea" (.string "o3"), withoutOffice "Cid" .null] ∧
      (joinRows .right officeKeys workers officeColumns offices).Perm [annInBonn, emptyInRome] ∧
      officeKeys.agree (worker "Cid" .null) (office "o1" "Bonn") = false := by
  have laws := joinRows_laws officeKeys workers officeColumns offices
  exact ⟨laws.inner, laws.left, laws.right, laws.keyless _ _ (.inl rfl)⟩

end RowGate
