import RowGate.Http
import RowGate.Proofs.Envelope.Reading
import RowGate.Proofs.Outcome

set_option autoImplicit false

namespace RowGate

def Response.heard (jsonFault : List UInt8 → String) (response : Response) : Envelope :=
  .ofResponse jsonFault response.status (Status.reason? response.status)
    (Text.Utf8.encode response.body)

/-- A response brings data and a count: the words of its body are these, and a client gets them. -/
structure Response.Delivers (response : Response) (status : Nat) (data : Json) (count : Option Nat) :
    Prop where
  answered : response.status = status
  typed : response.contentType = some "application/json"
  written : response.body =
    "\x7b\"data\":".toList ++ data.write ++ ",\"count\":".toList ++
      count.elim "null".toList Decimal.write ++ ",\"error\":null\x7d".toList
  heard : ∀ jsonFault, let envelope : Envelope := { data := some data, count, status }
    envelope.Plain → envelope.toJson.depth ≤ Json.maxDepth → response.heard jsonFault = envelope

section

variable (jsonFault : List UInt8 → String)

theorem heard_ofEnvelope (envelope : Envelope) (plain : envelope.Plain)
    (success : Status.isSuccess envelope.status = true) (filled : envelope.status ≠ 204)
    (present : ∀ data ∈ envelope.data, data.isNull = false) :
    (Response.ofEnvelope envelope).heard jsonFault =
      if envelope.toJson.depth ≤ Json.maxDepth then envelope
      else .failure (Envelope.invalidJson (jsonFault (Text.Utf8.encode envelope.write)))
        envelope.status := by
  have read := envelope.ofResponse_write jsonFault plain (Status.reason? envelope.status) filled present
    (.inl success)
  rw [if_pos success] at read
  exact read

theorem heard_ofError (error : Error) (debug : Bool) :
    (Response.ofError error debug).heard jsonFault =
      .failure (error.publicMessage debug) error.status := by
  let envelope : Envelope := .failure (error.publicMessage debug) error.status
  have plain : envelope.Plain := ⟨fun _ member => (by cases member), fun _ counted => (by cases counted)⟩
  have filled : envelope.status ≠ 204 := by
    rcases error.status_cases with ⟨internal, _⟩ | ⟨refused, _⟩
    next => simp [envelope, Envelope.failure, internal]
    next =>
      show error.status ≠ 204
      omega
  have read := envelope.ofResponse_write jsonFault plain (Status.reason? envelope.status) filled
    (fun _ held => by cases held) (.inr rfl)
  exact read

end

theorem write_ofOption_nat (count : Option Nat) :
    (Json.ofOption Json.nat count).write = count.elim "null".toList Decimal.write := by
  cases count with
  | none => rfl
  | some n => simp [Json.ofOption, Json.nat, Json.write, Json.writeNumber]

theorem delivers_ofEnvelope (status : Nat) (data : Json) (count : Option Nat)
    (success : Status.isSuccess status = true) (filled : status ≠ 204) (present : data.isNull = false) :
    (Response.ofEnvelope { data := some data, count, status }).Delivers status data count where
  answered := rfl
  typed := rfl
  written := by
    have counted := write_ofOption_nat count
    have parts : (Response.ofEnvelope { data := some data, count, status }).body =
        "\x7b\"data\":".toList ++ data.write ++ ",\"count\":".toList ++
          (Json.ofOption Json.nat count).write ++ ",\"error\":null\x7d".toList := by
      simp [Response.ofEnvelope, Response.json, Envelope.write, Json.quote, Json.escape, Json.ofOption,
        Json.write]
    rw [parts, counted]
  heard := by
    intro jsonFault envelope plain shallow
    have read := heard_ofEnvelope jsonFault envelope plain success filled
      (fun value held => by cases held; exact present)
    rwa [if_pos shallow] at read

end RowGate
