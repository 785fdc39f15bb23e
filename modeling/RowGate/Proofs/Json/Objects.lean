import RowGate.Json.Reader
import RowGate.Proofs.Keyed

set_option autoImplicit false

namespace RowGate.Json

def Token.IsPlain (token : Token) : Prop :=
  ∀ fields, token ≠ .scalar (some (.object fields))

theorem isPlain_of_word? (word : List Char) (token : Token) (read : word? word = some token) :
    token.IsPlain := by
  rintro fields rfl
  rw [word?] at read
  split at read
  next => cases read
  next =>
    split at read
    next => cases read
    next =>
      split at read
      next => cases read
      next =>
        obtain ⟨parts, -, made⟩ := Option.map_eq_some_iff.mp read
        cases number : parts.number? <;> simp [number] at made

theorem isPlain_of_start? (c : Char) (tokens : List Token) (mode : Mode)
    (read : start? c = some (tokens, mode)) : ∀ token ∈ tokens, token.IsPlain := by
  unfold start? at read
  split at read
  case h_12 =>
    split at read
    next => cases read; simp
    next => cases read
  all_goals cases read; simp [Token.IsPlain]

theorem isPlain_of_advance? (mode next : Mode) (c : Char) (tokens : List Token)
    (read : advance? mode c = some (tokens, next)) : ∀ token ∈ tokens, token.IsPlain := by
  cases mode with
  | between => exact isPlain_of_start? c tokens next read
  | word letters =>
    simp only [advance?] at read
    split at read
    next => cases read; simp
    next =>
      simp only [Option.bind_eq_bind, Option.bind_eq_some_iff, Prod.exists] at read
      obtain ⟨token, spelled, more, after, started, made⟩ := read
      cases made
      rw [List.forall_mem_append]
      exact ⟨isPlain_of_start? c more _ started, by simpa using isPlain_of_word? _ token spelled⟩
  | string units =>
    simp only [advance?] at read
    split at read
    next => cases read; simp [Token.IsPlain]
    next =>
      split at read
      next => cases read; simp
      next =>
        split at read
        next => cases read
        next => cases read; simp
  | escape units =>
    simp only [advance?] at read
    split at read
    next => cases read; simp
    next =>
      obtain ⟨plain, -, made⟩ := Option.map_eq_some_iff.mp read
      cases made
      simp
  | hex units owed value =>
    obtain ⟨digit, -, made⟩ := Option.map_eq_some_iff.mp read
    cases owed <;> cases made <;> simp

theorem isPlain_of_tokensFrom? (done tokens : List Token) (mode : Mode) (text : List Char)
    (plain : ∀ token ∈ done, token.IsPlain) (read : tokensFrom? done mode text = some tokens) :
    ∀ token ∈ tokens, token.IsPlain := by
  induction text generalizing done mode with
  | nil =>
    cases mode with
    | between => cases read; exact plain
    | word letters =>
      obtain ⟨token, spelled, made⟩ := Option.map_eq_some_iff.mp read
      cases made
      exact List.forall_mem_cons.mpr ⟨isPlain_of_word? _ token spelled, plain⟩
    | string | escape | hex => cases read
  | cons c rest ih =>
    cases moved : advance? mode c with
    | none => simp [tokensFrom?, moved] at read
    | some result =>
      obtain ⟨more, next⟩ := result
      simp only [tokensFrom?, moved] at read
      refine ih (more ++ done) next ?_ read
      exact List.forall_mem_append.mpr ⟨isPlain_of_advance? mode next c more moved, plain⟩

namespace Draft

def IsPlain (draft : Draft) : Prop :=
  ∀ fields, draft ≠ .scalar (some (.object fields))

def Awaiting.IsPlain : Awaiting → Prop
  | .after draft => draft.IsPlain
  | _ => True

theorem isPlain_of_startValue? (stack later : List Frame) (token : Token) (next : Awaiting)
    (plain : token.IsPlain) (stepped : startValue? stack token = some (later, next)) :
    next.IsPlain := by
  cases token with
  | scalar value =>
    cases stepped
    rintro fields made
    cases made
    exact plain fields rfl
  | string text =>
    cases stepped
    cases text <;> simp [Awaiting.IsPlain, IsPlain]
  | arrayStart | objectStart => cases stepped; trivial
  | arrayEnd | objectEnd | comma | colon => cases stepped

theorem isPlain_of_step? (awaiting next : Awaiting) (stack later : List Frame) (token : Token)
    (plain : token.IsPlain) (stepped : step? awaiting stack token = some (later, next)) :
    next.IsPlain := by
  unfold step? at stepped
  split at stepped
  case h_1 | h_3 => exact isPlain_of_startValue? _ later token next plain stepped
  case h_2 | h_4 | h_9 | h_11 =>
    cases stepped
    rintro fields made
    cases made
  case h_12 => cases stepped
  all_goals cases stepped; trivial

theorem isPlain_of_ofTokens? (awaiting : Awaiting) (stack : List Frame) (tokens : List Token)
    (draft : Draft) (start : awaiting.IsPlain) (plain : ∀ token ∈ tokens, token.IsPlain)
    (read : ofTokens? awaiting stack tokens = some draft) : draft.IsPlain := by
  induction tokens generalizing awaiting stack with
  | nil =>
    cases awaiting <;> cases stack <;> cases read
    exact start
  | cons token rest ih =>
    obtain ⟨first, others⟩ := List.forall_mem_cons.mp plain
    cases stepped : step? awaiting stack token with
    | none => simp [ofTokens?, stepped] at read
    | some result =>
      obtain ⟨later, next⟩ := result
      simp only [ofTokens?, stepped] at read
      exact ih next later (isPlain_of_step? awaiting next stack later token first stepped) others read

theorem isPlain_of_ofText? (text : List Char) (draft : Draft) (read : ofText? text = some draft) :
    draft.IsPlain := by
  obtain ⟨tokens, lexed, drafted⟩ := Option.bind_eq_some_iff.mp read
  obtain ⟨reversed, gathered, rfl⟩ := Option.map_eq_some_iff.mp lexed
  refine isPlain_of_ofTokens? .value [] _ draft trivial ?_ drafted
  intro token member
  exact isPlain_of_tokensFrom? [] reversed .between text (by simp) gathered token
    (List.mem_reverse.mp member)

theorem sorted_of_meaning? (levels : Nat) (draft : Draft) (fields : Row) (plain : draft.IsPlain)
    (read : draft.meaning? levels = some (.object fields)) : Keyed.Sorted fields := by
  cases draft with
  | scalar value =>
    cases levels <;> simp only [meaning?] at read <;> exact absurd (congrArg scalar read) (plain fields)
  | array items => cases levels <;> simp [meaning?] at read
  | object entries =>
    cases levels with
    | zero => simp [meaning?] at read
    | succ levels =>
      simp only [meaning?] at read
      obtain ⟨entries, -, made⟩ := Option.map_eq_some_iff.mp read
      cases made
      exact Keyed.sorted_ofEntries entries

end Draft

theorem sorted_of_readBytes? (bytes : List UInt8) (fields : Row)
    (read : readBytes? bytes = some (.object fields)) : Keyed.Sorted fields := by
  obtain ⟨text, -, read⟩ := Option.bind_eq_some_iff.mp read
  obtain ⟨draft, drafted, meant⟩ := Option.bind_eq_some_iff.mp read
  exact draft.sorted_of_meaning? maxDepth fields (Draft.isPlain_of_ofText? text draft drafted) meant

end RowGate.Json
