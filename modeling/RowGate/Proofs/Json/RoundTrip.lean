import RowGate.Json.Reader
import RowGate.Proofs.Json.Tokens
import RowGate.Proofs.Text.Utf8

set_option autoImplicit false

namespace RowGate.Json

mutual

def draft : Json → Draft
  | .number n => .scalar ((rereadNumber n).map .number)
  | .array items => .array (drafts items)
  | .object fields => .object (entryDrafts fields)
  | value => .scalar (some value)

def drafts : List Json → List Draft
  | [] => []
  | item :: rest => draft item :: drafts rest

def entryDrafts : List (String × Json) → List (Option String × Draft)
  | [] => []
  | (key, value) :: rest => (some key, draft value) :: entryDrafts rest

end

namespace Draft

-- No value begins with the bracket that ends an array.
theorem ofTokens?_firstItem (value : Json) (stack : List Frame) (rest : List Token) :
    ofTokens? .firstItem (.array [] :: stack) (value.tokens ++ rest) =
      ofTokens? .value (.array [] :: stack) (value.tokens ++ rest) := by
  cases value with
  | null | bool | number | string => simp [tokens, ofTokens?, step?]
  | array items => cases items <;> simp [tokens, ofTokens?, step?]
  | object fields => cases fields <;> simp [tokens, ofTokens?, step?]

mutual

theorem ofTokens?_tokens : (value : Json) → (stack : List Frame) → (rest : List Token) →
    ofTokens? .value stack (value.tokens ++ rest) = ofTokens? (.after value.draft) stack rest
  | .null, stack, rest => by simp [tokens, draft, ofTokens?, step?, startValue?]
  | .bool _, stack, rest => by simp [tokens, draft, ofTokens?, step?, startValue?]
  | .number n, stack, rest => by simp [tokens, draft, ofTokens?, step?, startValue?]
  | .string text, stack, rest => by simp [tokens, draft, ofTokens?, step?, startValue?]
  | .array [], stack, rest => by
    simp [tokens, draft, drafts, ofTokens?, step?, startValue?]
  | .array (item :: items), stack, rest => by
    have first := ofTokens?_tokens item (.array [] :: stack) (itemTokens items ++ rest)
    have others := ofTokens?_itemTokens items item.draft [] stack rest
    simp [tokens, draft, drafts, ofTokens?, step?, startValue?, ofTokens?_firstItem, first, others]
  | .object [], stack, rest => by
    simp [tokens, draft, entryDrafts, ofTokens?, step?, startValue?]
  | .object ((key, value) :: fields), stack, rest => by
    have first := ofTokens?_tokens value (.member [] (some key) :: stack) (fieldTokens fields ++ rest)
    have others := ofTokens?_fieldTokens fields value.draft (some key) [] stack rest
    simp [tokens, draft, entryDrafts, ofTokens?, step?, startValue?, first, others]

theorem ofTokens?_itemTokens : (items : List Json) → (last : Draft) → (done : List Draft) →
    (stack : List Frame) → (rest : List Token) →
    ofTokens? (.after last) (.array done :: stack) (itemTokens items ++ rest) =
      ofTokens? (.after (.array (done.reverse ++ last :: drafts items))) stack rest
  | [], last, done, stack, rest => by simp [itemTokens, drafts, ofTokens?, step?]
  | item :: items, last, done, stack, rest => by
    have first := ofTokens?_tokens item (.array (last :: done) :: stack) (itemTokens items ++ rest)
    have others := ofTokens?_itemTokens items item.draft (last :: done) stack rest
    simp [itemTokens, drafts, ofTokens?, step?, first, others]

theorem ofTokens?_fieldTokens : (fields : List (String × Json)) → (last : Draft) →
    (key : Option String) → (done : List (Option String × Draft)) → (stack : List Frame) →
    (rest : List Token) →
    ofTokens? (.after last) (.member done key :: stack) (fieldTokens fields ++ rest) =
      ofTokens? (.after (.object (done.reverse ++ (key, last) :: entryDrafts fields))) stack rest
  | [], last, key, done, stack, rest => by simp [fieldTokens, entryDrafts, ofTokens?, step?]
  | (name, value) :: fields, last, key, done, stack, rest => by
    have first := ofTokens?_tokens value (.member ((key, last) :: done) (some name) :: stack)
      (fieldTokens fields ++ rest)
    have others := ofTokens?_fieldTokens fields value.draft (some name) ((key, last) :: done) stack rest
    simp [fieldTokens, entryDrafts, ofTokens?, step?, first, others]

end

theorem ofText?_write (value : Json) : ofText? value.write = some value.draft := by
  have read := ofTokens?_tokens value [] []
  rw [List.append_nil] at read
  rw [ofText?, (lexes_write value).tokens?, Option.bind_some, read, ofTokens?]

end Draft

mutual

def depth : Json → Nat
  | .array items => itemsDepth items + 1
  | .object fields => fieldsDepth fields + 1
  | _ => 0

def itemsDepth : List Json → Nat
  | [] => 0
  | item :: rest => max (depth item) (itemsDepth rest)

def fieldsDepth : List (String × Json) → Nat
  | [] => 0
  | (_, value) :: rest => max (depth value) (fieldsDepth rest)

end

mutual

def reread : Json → Option Json
  | .number n => (rereadNumber n).map .number
  | .array items => (rereadItems items).map .array
  | .object fields => (rereadFields fields).map ofFields
  | value => some value

def rereadItems : List Json → Option (List Json)
  | [] => some []
  | item :: rest => do
    let value ← reread item
    let values ← rereadItems rest
    some (value :: values)

def rereadFields : List (String × Json) → Option (List (String × Json))
  | [] => some []
  | (key, item) :: rest => do
    let value ← reread item
    let values ← rereadFields rest
    some ((key, value) :: values)

end

namespace Draft

mutual

theorem meaning?_draft : (value : Json) → (levels : Nat) →
    meaning? levels value.draft = if value.depth ≤ levels then value.reread else none
  | .null, levels => by cases levels <;> simp [draft, meaning?, depth, reread]
  | .bool _, levels => by cases levels <;> simp [draft, meaning?, depth, reread]
  | .number n, levels => by cases levels <;> simp [draft, meaning?, depth, reread]
  | .string text, levels => by cases levels <;> simp [draft, meaning?, depth, reread]
  | .array items, 0 => by simp [draft, meaning?, depth]
  | .array items, levels + 1 => by
    simp only [draft, meaning?, depth, reread, items?_drafts items levels, Nat.add_le_add_iff_right]
    split <;> rfl
  | .object fields, 0 => by simp [draft, meaning?, depth]
  | .object fields, levels + 1 => by
    simp only [draft, meaning?, depth, reread, entries?_entryDrafts fields levels,
      Nat.add_le_add_iff_right]
    split <;> rfl

theorem items?_drafts : (items : List Json) → (levels : Nat) →
    items? levels (drafts items) = if itemsDepth items ≤ levels then rereadItems items else none
  | [], levels => by simp [drafts, items?, itemsDepth, rereadItems]
  | item :: rest, levels => by
    simp only [drafts, items?, itemsDepth, rereadItems, meaning?_draft item levels,
      items?_drafts rest levels, max_le_iff]
    by_cases first : item.depth ≤ levels <;> by_cases others : itemsDepth rest ≤ levels <;>
      simp [first, others]

theorem entries?_entryDrafts : (fields : List (String × Json)) → (levels : Nat) →
    entries? levels (entryDrafts fields) =
      if fieldsDepth fields ≤ levels then rereadFields fields else none
  | [], levels => by simp [entryDrafts, entries?, fieldsDepth, rereadFields]
  | (key, value) :: rest, levels => by
    simp only [entryDrafts, entries?, fieldsDepth, rereadFields, meaning?_draft value levels,
      entries?_entryDrafts rest levels, max_le_iff]
    by_cases first : value.depth ≤ levels <;> by_cases others : fieldsDepth rest ≤ levels <;>
      simp [first, others]

end

end Draft

theorem readBytes?_write (value : Json) :
    readBytes? (Text.Utf8.encode value.write) =
      if value.depth ≤ maxDepth then value.reread else none := by
  rw [readBytes?, Text.Utf8.decode_encode, Option.bind_some, read?, Draft.ofText?_write,
    Option.bind_some, Draft.meaning?_draft]

def Rereads (value : Json) : Prop :=
  readBytes? (Text.Utf8.encode value.write) = some value

theorem rereads_iff (value : Json) :
    value.Rereads ↔ value.depth ≤ maxDepth ∧ value.reread = some value := by
  rw [Rereads, readBytes?_write]
  split <;> simp_all

end RowGate.Json
