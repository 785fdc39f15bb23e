import RowGate.Envelope.Reading
import RowGate.Proofs.Json.RoundTrip
import RowGate.Proofs.Keyed

set_option autoImplicit false

namespace RowGate.Envelope

open Json

def toJson (envelope : Envelope) : Json :=
  .object
    [("data", ofOption id envelope.data), ("count", ofOption Json.nat envelope.count),
      ("error", ofOption .string envelope.error)]

theorem write_eq (envelope : Envelope) : envelope.write = envelope.toJson.write := by
  simp [write, toJson, Json.write, writeFields]

-- The values that the data hold: the items of an array, or else the data.
def rows (envelope : Envelope) : List Json :=
  match envelope.data with
  | some (.array rows) => rows
  | some row => [row]
  | none => []

-- The rows are read back as they are, and the count has 64 bits.
structure Plain (envelope : Envelope) : Prop where
  rows : ∀ row ∈ envelope.rows, row.Rereads
  count : ∀ n ∈ envelope.count, n ≤ 0xFFFFFFFFFFFFFFFF

theorem rereadItems_of_rereads (items : List Json) (rereads : ∀ item ∈ items, item.Rereads) :
    rereadItems items = some items := by
  induction items with
  | nil => rfl
  | cons item rest ih =>
    obtain ⟨first, others⟩ := List.forall_mem_cons.mp rereads
    simp [rereadItems, ((rereads_iff item).mp first).2, ih others]

theorem Plain.reread_data {envelope : Envelope} (plain : envelope.Plain) :
    (ofOption id envelope.data).reread = some (ofOption id envelope.data) := by
  obtain ⟨data, count, error, status⟩ := envelope
  have rows := plain.rows
  cases data with
  | none => rfl
  | some data =>
    cases data with
    | array items => simp [ofOption, reread, rereadItems_of_rereads items rows]
    | null | bool | number | string | object =>
      exact ((rereads_iff _).mp (rows _ (List.mem_singleton.mpr rfl))).2

theorem Plain.reread_count {envelope : Envelope} (plain : envelope.Plain) :
    (ofOption Json.nat envelope.count).reread = some (ofOption Json.nat envelope.count) := by
  cases counted : envelope.count with
  | none => rfl
  | some n =>
    have fits := plain.count n counted
    have exact : IsExact n := ⟨by omega, by omega⟩
    simp [ofOption, Json.nat, reread, rereadNumber_integer n exact]

theorem reread_error (error : Option String) :
    (ofOption .string error).reread = some (ofOption .string error) := by
  cases error <;> rfl

def fields (envelope : Envelope) : Row :=
  [("count", ofOption Json.nat envelope.count), ("data", ofOption id envelope.data),
    ("error", ofOption .string envelope.error)]

theorem Plain.reread_toJson {envelope : Envelope} (plain : envelope.Plain) :
    envelope.toJson.reread = some (.object envelope.fields) := by
  have sorted (data count error : Json) :
      Json.ofFields [("data", data), ("count", count), ("error", error)] =
        .object [("count", count), ("data", data), ("error", error)] := by
    refine congrArg Json.object (Keyed.ofEntries_eq_of_perm _ _ ?_ (.swap _ _ _))
    simp only [Keyed.Sorted, Keyed.keys, List.map]
    decide
  simp [toJson, reread, rereadFields, plain.reread_data, plain.reread_count, reread_error, sorted,
    fields]

theorem ofObject?_fields (envelope : Envelope) (status : Nat) :
    ofObject? status envelope.fields =
      some { envelope with data := envelope.data.filter (!·.isNull), status } := by
  obtain ⟨data, count, error, old⟩ := envelope
  cases data <;> cases count <;> cases error <;>
    simp [ofObject?, fields, names, Keyed.has, Keyed.get?, ofOption, asNat?, asString?, Json.nat,
      Json.isNull]

theorem notBlank_write (fields : Row) :
    (Text.Utf8.encode (Json.object fields).write).all isBlankByte = false := by
  have opened : ∃ rest, Text.Utf8.encode (Json.object fields).write = 0x7B :: rest := by
    cases fields <;> exact ⟨_, rfl⟩
  obtain ⟨rest, opened⟩ := opened
  simp [opened, isBlankByte]

variable (jsonFault : List UInt8 → String)

theorem ofBody_write (envelope : Envelope) (plain : envelope.Plain) (status : Nat)
    (filled : status ≠ 204) :
    ofBody jsonFault status (Text.Utf8.encode envelope.write) =
      if envelope.toJson.depth ≤ maxDepth then
        { envelope with data := envelope.data.filter (!·.isNull), status }
      else if Status.isSuccess status then
        failure (invalidJson (jsonFault (Text.Utf8.encode envelope.write))) status
      else empty status := by
  have read : readBytes? (Text.Utf8.encode envelope.write) =
      if envelope.toJson.depth ≤ maxDepth then some (.object envelope.fields) else none := by
    rw [write_eq, readBytes?_write, plain.reread_toJson]
  rw [ofBody, read, write_eq, toJson, notBlank_write, ← toJson]
  split
  next blank => simp [filled] at blank
  next =>
    by_cases fits : envelope.toJson.depth ≤ maxDepth
    next => simp [fits, ofObject?_fields]
    next => simp [fits]

theorem ofResponse_write (envelope : Envelope) (plain : envelope.Plain) (reason : Option String)
    (filled : envelope.status ≠ 204) (present : ∀ data ∈ envelope.data, data.isNull = false)
    (stated : Status.isSuccess envelope.status = true ∨ envelope.error.isSome = true) :
    ofResponse jsonFault envelope.status reason (Text.Utf8.encode envelope.write) =
      if envelope.toJson.depth ≤ maxDepth then envelope
      else if Status.isSuccess envelope.status then
        failure (invalidJson (jsonFault (Text.Utf8.encode envelope.write))) envelope.status
      else failure (reasonText envelope.status reason) envelope.status := by
  have kept : envelope.data.filter (!·.isNull) = envelope.data := by
    cases held : envelope.data with
    | none => rfl
    | some data => simp [Option.filter, present data held]
  rw [ofResponse, ofBody_write jsonFault envelope plain _ filled, kept]
  by_cases fits : envelope.toJson.depth ≤ maxDepth
  next => simp [fits, stated]
  next => cases success : Status.isSuccess envelope.status <;> simp [fits, failure, empty]

def statedError? (body : List UInt8) : Option String :=
  if body.all isBlankByte then none
  else
    match readBytes? body with
    | some (.object fields) => (Keyed.get? fields "error").bind asString?
    | _ => none

theorem status_ofBody (status : Nat) (body : List UInt8) : (ofBody jsonFault status body).status = status := by
  unfold ofBody
  split
  next => rfl
  next =>
    split
    next fields _ =>
      unfold ofObject?
      split <;> rfl
    next => rfl
    next => split <;> rfl

theorem error_ofBody (status : Nat) (body : List UInt8) (failing : Status.isSuccess status = false) :
    (ofBody jsonFault status body).error = statedError? body := by
  have filled : status ≠ 204 := by
    rintro rfl
    cases failing
  unfold ofBody statedError?
  simp only [filled, false_or]
  split
  next => rfl
  next =>
    cases readBytes? body with
    | none => simp [failing, empty]
    | some value =>
      cases value with
      | object fields =>
        dsimp only [ofObject?]
        split
        next => rfl
        next unnamed =>
          have absent : Keyed.get? fields "error" = none := by
            simp [names, Keyed.has] at unnamed
            exact unnamed.2.2
          simp [ok, absent]
      | null | bool | number | string | array => rfl

theorem status_ofResponse (status : Nat) (reason : Option String) (body : List UInt8) :
    (ofResponse jsonFault status reason body).status = status := by
  unfold ofResponse
  dsimp only
  split <;> exact status_ofBody jsonFault status body

theorem ofResponse_failing (status : Nat) (reason : Option String) (body : List UInt8)
    (failing : Status.isSuccess status = false) :
    (ofResponse jsonFault status reason body).error =
        some ((statedError? body).getD (reasonText status reason)) ∧
      (statedError? body = none → (ofResponse jsonFault status reason body).data = none) := by
  unfold ofResponse
  dsimp only
  rw [failing, error_ofBody jsonFault status body failing]
  cases stated : statedError? body with
  | none => simp
  | some text => simp [error_ofBody jsonFault status body failing, stated]

end RowGate.Envelope
