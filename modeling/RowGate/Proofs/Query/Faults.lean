import RowGate.Proofs.Outcome
import RowGate.Query.Parse

set_option autoImplicit false

namespace RowGate

namespace Fragment

variable {α : Type}

def fault? : Fragment α → Option Error
  | .wellFormed _ => none
  | .repaired _ fault | .broken fault => some fault

def Blames (fragment : Fragment α) : Prop :=
  ∀ fault, fragment.fault? = some fault → fault.errorClass = .clientInput

theorem blames_wellFormed (value : α) : (wellFormed value).Blames := by
  intro fault found
  cases found

theorem blames_repaired (value : α) (fault : Error) (client : fault.errorClass = .clientInput) :
    (repaired value fault).Blames := by
  intro other found
  cases found
  exact client

theorem blames_broken (fault : Error) (client : fault.errorClass = .clientInput) :
    (broken fault : Fragment α).Blames := by
  intro other found
  cases found
  exact client

theorem not_isInternal_settle (mode : Mode) (fragments : List (Fragment α))
    (blames : ∀ fragment ∈ fragments, fragment.Blames) : ¬IsInternal (settle mode fragments) := by
  induction fragments with
  | nil => exact not_isInternal_ok []
  | cons fragment rest ih =>
    obtain ⟨first, others⟩ := List.forall_mem_cons.mp blames
    have later := ih others
    cases fragment with
    | wellFormed value => exact not_isInternal_map _ _ later
    | repaired value fault =>
      cases mode with
      | lenient => exact not_isInternal_map _ _ later
      | strict => simp [settle, first fault rfl]
    | broken fault =>
      cases mode with
      | lenient => exact later
      | strict => simp [settle, first fault rfl]

end Fragment

namespace Query

theorem blames_orderFragment (token : List Char) : (orderFragment token).Blames := by
  unfold orderFragment
  split
  split
  next =>
    split
    next => exact Fragment.blames_wellFormed _
    next => exact Fragment.blames_wellFormed _
    next => exact Fragment.blames_repaired _ _ rfl
  next => exact Fragment.blames_broken _ rfl

theorem blames_clauseFragment (column : List Char) (operator : Operator) (value : List Char) :
    (clauseFragment column operator value).Blames := by
  unfold clauseFragment
  split
  next =>
    dsimp only
    split
    next => exact Fragment.blames_wellFormed _
    next => exact Fragment.blames_repaired _ _ rfl
  next => exact Fragment.blames_broken _ rfl

theorem blames_filterFragment (key value : List Char) : (filterFragment key value).Blames := by
  unfold filterFragment
  split
  next => exact blames_clauseFragment key .eq value
  next column raw _ =>
    split
    next operator _ => exact blames_clauseFragment column operator value
    next => exact Fragment.blames_broken _ rfl

theorem blames_groupFragment (token : List Char) : (groupFragment token).Blames := by
  unfold groupFragment
  split
  next => exact Fragment.blames_broken _ rfl
  next parts _ =>
    split
    next operator _ => exact blames_clauseFragment parts.column operator parts.value
    next => exact Fragment.blames_broken _ rfl

theorem blames_joinFragment (kind : JoinKind) (token : List Char) :
    (joinFragment kind token).Blames := by
  unfold joinFragment
  split
  next => exact Fragment.blames_broken _ rfl
  next =>
    split
    next => exact Fragment.blames_broken _ rfl
    next => exact Fragment.blames_wellFormed _

theorem not_isInternal_readInteger (mode : Mode) (key value : String) :
    ¬IsInternal (readInteger mode key value) := by
  unfold readInteger
  split
  next =>
    split
    next => exact not_isInternal_ok _
    next => simp [Error.errorClass]
  next => exact not_isInternal_ok _

theorem not_isInternal_addPair (options : GrammarOptions) (query : Query) (pair : String × String) :
    ¬IsInternal (addPair options query pair) := by
  obtain ⟨text, value⟩ := pair
  have settled {τ α : Type} (read : τ → Fragment α) (tokens : List τ)
      (blames : ∀ token, (read token).Blames) :
      ¬IsInternal (Fragment.settle options.mode (tokens.map read)) := by
    refine Fragment.not_isInternal_settle options.mode _ fun fragment member => ?_
    obtain ⟨token, -, rfl⟩ := List.mem_map.mp member
    exact blames token
  simp only [addPair]
  cases Key.ofText text with
  | select | load | count => exact not_isInternal_ok _
  | order =>
    exact not_isInternal_bind _ _ (settled orderFragment _ blames_orderFragment) fun _ _ =>
      not_isInternal_ok _
  | limit | offset =>
    exact not_isInternal_bind _ _ (not_isInternal_readInteger options.mode text value) fun _ _ =>
      not_isInternal_ok _
  | group connective =>
    dsimp only
    split
    next =>
      refine not_isInternal_bind _ _ (settled groupFragment _ blames_groupFragment) fun _ _ => ?_
      cases connective <;> exact not_isInternal_ok _
    next => exact not_isInternal_ok _
  | join kind =>
    dsimp only
    split
    next =>
      exact not_isInternal_bind _ _ (settled (joinFragment kind) _ (blames_joinFragment kind))
        fun _ _ => not_isInternal_ok _
    next => exact not_isInternal_ok _
  | filter key =>
    exact not_isInternal_bind _ _
      (settled (filterFragment key.toList) [value.toList] (blames_filterFragment key.toList))
      fun _ _ => not_isInternal_ok _

theorem not_isInternal_ofText (options : GrammarOptions) (text : String) :
    ¬IsInternal (ofText options text) :=
  not_isInternal_map _ _ (not_isInternal_foldlM _ _ _ (not_isInternal_addPair options))

end Query

end RowGate
