set_option autoImplicit false

/-!
# UTF-8

`encode` writes a text as bytes. `scan` reads bytes: a well-formed sequence is a character, and each
longest part of a sequence that cannot go on is one fault. `decode` refuses faults and `decodeLossy`
puts U+FFFD in their place.
-/

namespace RowGate.Text.Utf8

def encodeChar (c : Char) : List UInt8 :=
  let n := c.toNat
  if n < 0x80 then [.ofNat n]
  else if n < 0x800 then [.ofNat (0xC0 + n / 0x40), .ofNat (0x80 + n % 0x40)]
  else if n < 0x10000 then
    [.ofNat (0xE0 + n / 0x1000), .ofNat (0x80 + n / 0x40 % 0x40), .ofNat (0x80 + n % 0x40)]
  else
    [.ofNat (0xF0 + n / 0x40000), .ofNat (0x80 + n / 0x1000 % 0x40),
      .ofNat (0x80 + n / 0x40 % 0x40), .ofNat (0x80 + n % 0x40)]

def encode (text : List Char) : List UInt8 :=
  text.flatMap encodeChar

-- The bits read so far, the bytes still owed after the next one, and the range of the next one.
structure Pending where
  bits : Nat
  owed : Nat
  low : Nat
  high : Nat

inductive Lead where
  | whole (c : Char)
  | opens (pending : Pending)
  | stray

def lead (b : Nat) : Lead :=
  if b < 0x80 then .whole (.ofNat b)
  else if b < 0xC2 then .stray
  else if b < 0xE0 then .opens ⟨b - 0xC0, 0, 0x80, 0xBF⟩
  else if b = 0xE0 then .opens ⟨0, 1, 0xA0, 0xBF⟩
  else if b = 0xED then .opens ⟨0xD, 1, 0x80, 0x9F⟩
  else if b < 0xF0 then .opens ⟨b - 0xE0, 1, 0x80, 0xBF⟩
  else if b = 0xF0 then .opens ⟨0, 2, 0x90, 0xBF⟩
  else if b < 0xF4 then .opens ⟨b - 0xF0, 2, 0x80, 0xBF⟩
  else if b = 0xF4 then .opens ⟨4, 2, 0x80, 0x8F⟩
  else .stray

-- What one byte completes, and the sequence it leaves open.
def step : Option Pending → Nat → List (Option Char) × Option Pending
  | none, b =>
    match lead b with
    | .whole c => ([some c], none)
    | .opens pending => ([], some pending)
    | .stray => ([none], none)
  | some pending, b =>
    if pending.low ≤ b ∧ b ≤ pending.high then
      let bits := pending.bits * 0x40 + (b - 0x80)
      match pending.owed with
      | 0 => ([some (.ofNat bits)], none)
      | owed + 1 => ([], some ⟨bits, owed, 0x80, 0xBF⟩)
    else
      match lead b with
      | .whole c => ([none, some c], none)
      | .opens next => ([none], some next)
      | .stray => ([none, none], none)

def scanFrom : Option Pending → List UInt8 → List (Option Char)
  | none, [] => []
  | some _, [] => [none]
  | state, b :: rest =>
    let (done, next) := step state b.toNat
    done ++ scanFrom next rest

def scan (bytes : List UInt8) : List (Option Char) :=
  scanFrom none bytes

def decode (bytes : List UInt8) : Option (List Char) :=
  (scan bytes).mapM id

def decodeLossy (bytes : List UInt8) : List Char :=
  (scan bytes).map (·.getD '\uFFFD')

end RowGate.Text.Utf8
