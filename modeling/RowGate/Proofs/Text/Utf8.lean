import Mathlib.Tactic.SplitIfs
import RowGate.Text.Utf8

set_option autoImplicit false

namespace RowGate.Text.Utf8

theorem scanFrom_cons (state : Option Pending) (n : Nat) (byte : n < 256) (rest : List UInt8) :
    scanFrom state (UInt8.ofNat n :: rest) = (step state n).1 ++ scanFrom (step state n).2 rest := by
  have same : (UInt8.ofNat n).toNat = n := by
    rw [UInt8.toNat_ofNat']
    omega
  rw [scanFrom, same]

theorem scanFrom_opens (n : Nat) (byte : n < 256) (pending : Pending)
    (opens : lead n = .opens pending) (rest : List UInt8) :
    scanFrom none (UInt8.ofNat n :: rest) = scanFrom (some pending) rest := by
  rw [scanFrom_cons none n byte]
  simp [step, opens]

theorem scanFrom_more (pending : Pending) (owed n : Nat) (byte : n < 256)
    (inside : pending.low ≤ n ∧ n ≤ pending.high) (owes : pending.owed = owed + 1)
    (rest : List UInt8) :
    scanFrom (some pending) (UInt8.ofNat n :: rest) =
      scanFrom (some ⟨pending.bits * 0x40 + (n - 0x80), owed, 0x80, 0xBF⟩) rest := by
  rw [scanFrom_cons (some pending) n byte]
  simp [step, inside, owes]

theorem scanFrom_last (pending : Pending) (n : Nat) (byte : n < 256)
    (inside : pending.low ≤ n ∧ n ≤ pending.high) (owes : pending.owed = 0) (rest : List UInt8) :
    scanFrom (some pending) (UInt8.ofNat n :: rest) =
      some (.ofNat (pending.bits * 0x40 + (n - 0x80))) :: scanFrom none rest := by
  rw [scanFrom_cons (some pending) n byte]
  simp [step, inside, owes]

theorem lead_two (n : Nat) (low : 0x80 ≤ n) (high : n < 0x800) :
    lead (0xC0 + n / 0x40) = .opens ⟨n / 0x40, 0, 0x80, 0xBF⟩ := by
  unfold lead
  rw [if_neg (by omega), if_neg (by omega), if_pos (by omega)]
  simp

-- The first byte narrows the second one to leave out long forms and surrogates.
theorem lead_three (n : Nat) (low : 0x800 ≤ n) (high : n < 0x10000)
    (scalar : n < 0xD800 ∨ 0xDFFF < n) :
    ∃ least most, lead (0xE0 + n / 0x1000) = .opens ⟨n / 0x1000, 1, least, most⟩ ∧
      least ≤ 0x80 + n / 0x40 % 0x40 ∧ 0x80 + n / 0x40 % 0x40 ≤ most := by
  by_cases first : n / 0x1000 = 0
  · refine ⟨0xA0, 0xBF, ?_, ?_, ?_⟩
    · simp [lead, first]
    · omega
    · omega
  by_cases surrogate : n / 0x1000 = 0xD
  · refine ⟨0x80, 0x9F, ?_, ?_, ?_⟩
    · simp [lead, surrogate]
    · omega
    · omega
  refine ⟨0x80, 0xBF, ?_, ?_, ?_⟩
  · unfold lead
    rw [if_neg (by omega), if_neg (by omega), if_neg (by omega), if_neg (by omega),
      if_neg (by omega), if_pos (by omega)]
    simp
  · omega
  · omega

theorem lead_four (n : Nat) (low : 0x10000 ≤ n) (high : n < 0x110000) :
    ∃ least most, lead (0xF0 + n / 0x40000) = .opens ⟨n / 0x40000, 2, least, most⟩ ∧
      least ≤ 0x80 + n / 0x1000 % 0x40 ∧ 0x80 + n / 0x1000 % 0x40 ≤ most := by
  by_cases first : n / 0x40000 = 0
  · refine ⟨0x90, 0xBF, ?_, ?_, ?_⟩
    · simp [lead, first]
    · omega
    · omega
  by_cases last : n / 0x40000 = 4
  · refine ⟨0x80, 0x8F, ?_, ?_, ?_⟩
    · simp [lead, last]
    · omega
    · omega
  refine ⟨0x80, 0xBF, ?_, ?_, ?_⟩
  · unfold lead
    rw [if_neg (by omega), if_neg (by omega), if_neg (by omega), if_neg (by omega),
      if_neg (by omega), if_neg (by omega), if_neg (by omega), if_pos (by omega)]
    simp
  · omega
  · omega

theorem scanFrom_encodeChar (c : Char) (rest : List UInt8) :
    scanFrom none (encodeChar c ++ rest) = some c :: scanFrom none rest := by
  have back : Char.ofNat c.toNat = c := Char.ofNat_toNat c
  have scalar : c.toNat < 0xD800 ∨ 0xDFFF < c.toNat ∧ c.toNat < 0x110000 := c.valid
  unfold encodeChar
  generalize c.toNat = n at back scalar
  by_cases one : n < 0x80
  · simp only [if_pos one, List.cons_append, List.nil_append]
    rw [scanFrom_cons none n (by omega)]
    simp [step, lead, one, back]
  by_cases two : n < 0x800
  · simp only [if_neg one, if_pos two, List.cons_append, List.nil_append]
    rw [scanFrom_opens _ (by omega) _ (lead_two n (by omega) two),
      scanFrom_last _ _ (by omega) (by dsimp only; omega) rfl]
    have bits : n / 0x40 * 0x40 + (0x80 + n % 0x40 - 0x80) = n := by omega
    rw [bits, back]
  by_cases three : n < 0x10000
  · simp only [if_neg one, if_neg two, if_pos three, List.cons_append, List.nil_append]
    obtain ⟨least, most, opens, inside⟩ := lead_three n (by omega) three (by omega)
    rw [scanFrom_opens _ (by omega) _ opens, scanFrom_more _ 0 _ (by omega) inside rfl,
      scanFrom_last _ _ (by omega) (by dsimp only; omega) rfl]
    have bits : (n / 0x1000 * 0x40 + (0x80 + n / 0x40 % 0x40 - 0x80)) * 0x40 +
        (0x80 + n % 0x40 - 0x80) = n := by omega
    rw [bits, back]
  · simp only [if_neg one, if_neg two, if_neg three, List.cons_append, List.nil_append]
    obtain ⟨least, most, opens, inside⟩ := lead_four n (by omega) (by omega)
    rw [scanFrom_opens _ (by omega) _ opens, scanFrom_more _ 1 _ (by omega) inside rfl,
      scanFrom_more _ 0 _ (by omega) (by dsimp only; omega) rfl,
      scanFrom_last _ _ (by omega) (by dsimp only; omega) rfl]
    have bits : ((n / 0x40000 * 0x40 + (0x80 + n / 0x1000 % 0x40 - 0x80)) * 0x40 +
        (0x80 + n / 0x40 % 0x40 - 0x80)) * 0x40 + (0x80 + n % 0x40 - 0x80) = n := by omega
    rw [bits, back]

theorem scan_encode (text : List Char) : scan (encode text) = text.map some := by
  unfold scan encode
  induction text with
  | nil => rfl
  | cons c rest ih => rw [List.flatMap_cons, scanFrom_encodeChar, ih, List.map_cons]

theorem decode_encode (text : List Char) : decode (encode text) = some text := by
  rw [decode, scan_encode]
  induction text with
  | nil => rfl
  | cons c rest ih => simp [ih]

theorem decodeLossy_encode (text : List Char) : decodeLossy (encode text) = text := by
  rw [decodeLossy, scan_encode, List.map_map]
  exact List.map_id text

-- The bytes of a character beyond ASCII are beyond ASCII too.
theorem toNat_of_mem_encodeChar (c : Char) (byte : UInt8) (member : byte ∈ encodeChar c) :
    byte.toNat = c.toNat ∨ 0x80 ≤ byte.toNat := by
  simp only [encodeChar] at member
  have scalar : c.toNat < 0xD800 ∨ 0xDFFF < c.toNat ∧ c.toNat < 0x110000 := c.valid
  split at member
  · rw [List.mem_singleton.1 member, UInt8.toNat_ofNat']
    omega
  split at member
  · simp only [List.mem_cons, List.not_mem_nil, or_false] at member
    rcases member with rfl | rfl <;> rw [UInt8.toNat_ofNat'] <;> omega
  split at member
  · simp only [List.mem_cons, List.not_mem_nil, or_false] at member
    rcases member with rfl | rfl | rfl <;> rw [UInt8.toNat_ofNat'] <;> omega
  · simp only [List.mem_cons, List.not_mem_nil, or_false] at member
    rcases member with rfl | rfl | rfl | rfl <;> rw [UInt8.toNat_ofNat'] <;> omega

-- No byte of ASCII goes on here, and what is completed lies beyond ASCII.
structure Pending.Wide (pending : Pending) : Prop where
  low : 0x80 ≤ pending.low
  last : pending.owed = 0 → 2 ≤ pending.bits
  more : 0 < pending.owed → 2 ≤ pending.bits * 0x40 + (pending.low - 0x80)

theorem wide_of_lead (b : Nat) (pending : Pending) (opens : lead b = .opens pending) :
    pending.Wide := by
  unfold lead at opens
  split_ifs at opens <;> simp only [Lead.opens.injEq] at opens <;> subst opens <;>
    constructor <;> dsimp only <;> omega

theorem wide_of_step (state : Option Pending) (b : Nat) (wide : ∀ pending ∈ state, pending.Wide) :
    ∀ pending ∈ (step state b).2, pending.Wide := by
  have opened : ∀ pending, lead b = .opens pending → pending.Wide := wide_of_lead b
  cases state with
  | none =>
    unfold step
    cases read : lead b <;> simp_all
  | some pending =>
    obtain ⟨low, last, more⟩ := wide pending rfl
    unfold step
    dsimp only
    split
    next inside =>
      split
      next => simp
      next owed owes =>
        have least := more (by omega)
        intro next made
        obtain rfl := Option.mem_some_iff.mp made
        constructor <;> dsimp only <;> omega
    next => cases read : lead b <;> simp_all

theorem scanFrom_step (state : Option Pending) (byte : UInt8) (rest : List UInt8) :
    scanFrom state (byte :: rest) =
      (step state byte.toNat).1 ++ scanFrom (step state byte.toNat).2 rest := by
  rw [scanFrom]

theorem step_ascii (state : Option Pending) (b : Nat) (ascii : b < 0x80)
    (wide : ∀ pending ∈ state, pending.Wide) :
    step state b = (scanFrom state [] ++ [some (.ofNat b)], none) := by
  have whole : lead b = .whole (.ofNat b) := by rw [lead, if_pos ascii]
  cases state with
  | none => simp [step, whole, scanFrom]
  | some pending =>
    have low := (wide pending rfl).low
    have outside : ¬(pending.low ≤ b ∧ b ≤ pending.high) := by omega
    simp [step, whole, outside, scanFrom]

theorem scanFrom_append (state : Option Pending) (front rest : List UInt8) (b : Nat) (ascii : b < 0x80)
    (wide : ∀ pending ∈ state, pending.Wide) :
    scanFrom state (front ++ .ofNat b :: rest) =
      scanFrom state front ++ some (.ofNat b) :: scanFrom none rest := by
  induction front generalizing state with
  | nil =>
    rw [List.nil_append, scanFrom_cons state b (by omega), step_ascii state b ascii wide]
    simp
  | cons byte front ih =>
    rw [List.cons_append, scanFrom_step, scanFrom_step, ih _ (wide_of_step state byte.toNat wide),
      List.append_assoc]

theorem decodeLossy_append (front rest : List UInt8) (b : Nat) (ascii : b < 0x80) :
    decodeLossy (front ++ .ofNat b :: rest) = decodeLossy front ++ .ofNat b :: decodeLossy rest := by
  simp [decodeLossy, scan, scanFrom_append none front rest b ascii (by simp)]

theorem toNat_ofNat_cases (n : Nat) : (Char.ofNat n).toNat = n ∨ (Char.ofNat n).toNat = 0 := by
  by_cases valid : n.isValidChar
  next =>
    left
    rw [Char.ofNat, dif_pos valid]
    rfl
  next =>
    right
    rw [Char.ofNat, dif_neg valid]
    rfl

-- What is completed by more than one byte lies beyond ASCII.
theorem toNat_of_mem_step (state : Option Pending) (b : Nat) (c : Char) (solid : c.toNat ≠ 0)
    (ascii : c.toNat < 0x80) (wide : ∀ pending ∈ state, pending.Wide)
    (member : some c ∈ (step state b).1) : c.toNat = b := by
  have whole (other : Char) (read : lead b = .whole other) (same : c = other) : c.toNat = b := by
    unfold lead at read
    split_ifs at read
    have made := Lead.whole.inj read
    rw [same, ← made] at solid ⊢
    exact (toNat_ofNat_cases b).resolve_right solid
  cases state with
  | none =>
    unfold step at member
    cases read : lead b with
    | whole other => exact whole other read (by simpa [read] using member)
    | opens | stray => simp [read] at member
  | some pending =>
    unfold step at member
    dsimp only at member
    split at member
    next inside =>
      split at member
      next owes =>
        have least := (wide pending rfl).last owes
        have made : c = .ofNat (pending.bits * 0x40 + (b - 0x80)) :=
          Option.some.inj (List.mem_singleton.mp member)
        rw [made] at solid ascii
        have beyond := (toNat_ofNat_cases _).resolve_right solid
        omega
      next => simp at member
    next =>
      cases read : lead b with
      | whole other => exact whole other read (by simpa [read] using member)
      | opens | stray => simp [read] at member

theorem mem_of_mem_scanFrom (state : Option Pending) (bytes : List UInt8) (c : Char)
    (solid : c.toNat ≠ 0) (ascii : c.toNat < 0x80) (wide : ∀ pending ∈ state, pending.Wide)
    (member : some c ∈ scanFrom state bytes) : ∃ byte ∈ bytes, byte.toNat = c.toNat := by
  induction bytes generalizing state with
  | nil => cases state <;> simp [scanFrom] at member
  | cons byte rest ih =>
    rw [scanFrom_step] at member
    rcases List.mem_append.mp member with here | later
    next =>
      have same := toNat_of_mem_step state byte.toNat c solid ascii wide here
      exact ⟨byte, List.mem_cons_self, same.symm⟩
    next =>
      obtain ⟨other, there, same⟩ := ih _ (wide_of_step state byte.toNat wide) later
      exact ⟨other, List.mem_cons_of_mem byte there, same⟩

theorem mem_of_mem_decodeLossy (bytes : List UInt8) (c : Char) (solid : c.toNat ≠ 0)
    (ascii : c.toNat < 0x80) (member : c ∈ decodeLossy bytes) :
    ∃ byte ∈ bytes, byte.toNat = c.toNat := by
  obtain ⟨read, scanned, made⟩ := List.mem_map.mp member
  cases read with
  | none =>
    obtain rfl : '\uFFFD' = c := made
    cases (by decide : ¬('\uFFFD'.toNat < 0x80)) ascii
  | some other =>
    obtain rfl : other = c := made
    exact mem_of_mem_scanFrom none bytes other solid ascii (by simp) scanned

theorem step_ne_idle (state : Option Pending) (b : Nat) :
    (step state b).1 ≠ [] ∨ (step state b).2 ≠ none := by
  unfold step
  cases state with
  | none => cases read : lead b <;> simp [read]
  | some pending =>
    dsimp only
    split
    next => split <;> simp
    next => cases read : lead b <;> simp

theorem scanFrom_ne_nil (state : Option Pending) (bytes : List UInt8)
    (some : bytes ≠ [] ∨ state ≠ none) : scanFrom state bytes ≠ [] := by
  induction bytes generalizing state with
  | nil =>
    cases state with
    | none => simp at some
    | some pending => simp [scanFrom]
  | cons byte rest ih =>
    rw [scanFrom_step]
    intro empty
    obtain ⟨here, later⟩ := List.append_eq_nil_iff.mp empty
    rcases step_ne_idle state byte.toNat with done | going
    next => exact done here
    next => exact ih _ (.inr going) later

theorem decodeLossy_ne_nil (bytes : List UInt8) (some : bytes ≠ []) : decodeLossy bytes ≠ [] := by
  rw [decodeLossy, ne_eq, List.map_eq_nil_iff]
  exact scanFrom_ne_nil none bytes (.inl some)

end RowGate.Text.Utf8
