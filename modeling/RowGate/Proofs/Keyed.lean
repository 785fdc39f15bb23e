import Mathlib.Data.List.Induction
import Mathlib.Data.List.Nodup
import Mathlib.Data.String.Basic
import RowGate.Keyed

set_option autoImplicit false

namespace RowGate.Keyed

variable {Value : Type}

def Sorted (entries : Keyed Value) : Prop :=
  entries.keys.Pairwise (· < ·)

theorem Sorted.nodup {entries : Keyed Value} (sorted : entries.Sorted) : entries.keys.Nodup :=
  sorted.imp fun before => ne_of_lt before

theorem get?_eq_none_iff (entries : Keyed Value) (key : String) :
    entries.get? key = none ↔ key ∉ entries.keys := by
  induction entries with
  | nil => simp [get?, keys]
  | cons entry rest ih =>
    by_cases same : entry.1 = key
    next => simp [get?, keys, same]
    next =>
      have other : key ≠ entry.1 := fun equal => same equal.symm
      simp only [get?, if_neg same, ih]
      simp [keys, other]

theorem mem_keys_iff_has (entries : Keyed Value) (key : String) :
    key ∈ entries.keys ↔ entries.has key = true := by
  rw [has, Option.isSome_iff_ne_none, ne_eq, get?_eq_none_iff, not_not]

theorem get?_insert_eq_none_iff (entries : Keyed Value) (key other : String) (value : Value) :
    (entries.insert key value).get? other = none ↔ key ≠ other ∧ entries.get? other = none := by
  rw [get?_insert]
  split <;> simp_all

theorem mem_keys_insert (entries : Keyed Value) (key other : String) (value : Value) :
    other ∈ (entries.insert key value).keys ↔ other = key ∨ other ∈ entries.keys := by
  rw [← not_iff_not, not_or, ← get?_eq_none_iff, ← get?_eq_none_iff, get?_insert_eq_none_iff, ne_comm]

theorem mem_insert (entries : Keyed Value) (key : String) (value : Value) (entry : String × Value)
    (member : entry ∈ entries.insert key value) : entry = (key, value) ∨ entry ∈ entries := by
  induction entries with
  | nil => exact .inl (List.mem_singleton.mp member)
  | cons first rest ih =>
    obtain ⟨k, old⟩ := first
    rw [insert] at member
    split at member
    next => exact (List.mem_cons.mp member).imp_right (List.mem_cons_of_mem _)
    next =>
      split at member
      next => exact List.mem_cons.mp member
      next =>
        rcases List.mem_cons.mp member with rfl | later
        next => exact .inr List.mem_cons_self
        next => exact (ih later).imp_right (List.mem_cons_of_mem _)

theorem mem_insert_self (entries : Keyed Value) (key : String) (value : Value) :
    (key, value) ∈ entries.insert key value :=
  mem_keys_of_get? _ key value (by simp)

theorem mem_insert_of_mem (entries : Keyed Value) (key : String) (value : Value)
    (entry : String × Value) (other : entry.1 ≠ key) (member : entry ∈ entries) :
    entry ∈ entries.insert key value := by
  induction entries with
  | nil => cases member
  | cons first rest ih =>
    obtain ⟨k, old⟩ := first
    rw [insert]
    split
    next same =>
      rcases List.mem_cons.mp member with rfl | later
      next => exact absurd same.symm other
      next => exact List.mem_cons_of_mem _ later
    next =>
      split
      next => exact List.mem_cons_of_mem _ member
      next =>
        rcases List.mem_cons.mp member with rfl | later
        next => exact List.mem_cons_self
        next => exact List.mem_cons_of_mem _ (ih later)

theorem Sorted.get?_of_mem {entries : Keyed Value} (sorted : entries.Sorted) (key : String)
    (value : Value) (member : (key, value) ∈ entries) : entries.get? key = some value := by
  induction entries with
  | nil => cases member
  | cons entry rest ih =>
    obtain ⟨first, others⟩ := List.pairwise_cons.mp sorted
    rcases List.mem_cons.mp member with rfl | later
    next => simp [get?]
    next =>
      have other : entry.1 ≠ key := ne_of_lt (first key (List.mem_map_of_mem later))
      rw [get?, if_neg other]
      exact ih others later

theorem Sorted.insert {entries : Keyed Value} (sorted : entries.Sorted) (key : String)
    (value : Value) : (entries.insert key value).Sorted := by
  induction entries with
  | nil => exact List.pairwise_singleton _ _
  | cons entry rest ih =>
    obtain ⟨k, old⟩ := entry
    obtain ⟨first, others⟩ := List.pairwise_cons.mp sorted
    rcases lt_trichotomy key k with before | rfl | behind
    next =>
      rw [Keyed.insert, if_neg (ne_of_lt before), if_pos before]
      refine List.pairwise_cons.mpr ⟨?_, sorted⟩
      intro later member
      rcases List.mem_cons.mp member with rfl | member
      next => exact before
      next => exact before.trans (first later member)
    next =>
      rw [Keyed.insert, if_pos rfl]
      exact List.pairwise_cons.mpr ⟨first, others⟩
    next =>
      rw [Keyed.insert, if_neg (ne_of_gt behind), if_neg behind.not_gt]
      refine List.pairwise_cons.mpr ⟨?_, ih others⟩
      intro later member
      rcases (mem_keys_insert rest key later value).mp member with rfl | member
      next => exact behind
      next => exact first later member

theorem sorted_ofEntries (entries : List (String × Value)) : (ofEntries entries).Sorted :=
  List.foldlRecOn entries _ .nil fun _ sorted entry _ => sorted.insert entry.1 entry.2

theorem ofEntries_append (front : List (String × Value)) (last : String × Value) :
    ofEntries (front ++ [last]) = (ofEntries front).insert last.1 last.2 := by
  simp [ofEntries]

theorem get?_append (front back : Keyed Value) (key : String) :
    get? (front ++ back) key = (get? front key).or (get? back key) := by
  induction front with
  | nil => rfl
  | cons entry rest ih =>
    by_cases same : entry.1 = key
    next => simp [get?, same]
    next => simp [get?, same, ih]

-- The last value of a repeated key stays, hence the reversal.
theorem get?_ofEntries (entries : List (String × Value)) (key : String) :
    (ofEntries entries).get? key = get? entries.reverse key := by
  induction entries using List.reverseRecOn with
  | nil => rfl
  | append_singleton front last ih =>
    rw [ofEntries_append, get?_insert, ih, List.reverse_append]
    rfl

theorem mem_of_mem_ofEntries (entries : List (String × Value)) (entry : String × Value)
    (member : entry ∈ ofEntries entries) : entry ∈ entries := by
  induction entries using List.reverseRecOn with
  | nil => cases member
  | append_singleton front last ih =>
    rw [ofEntries_append] at member
    rcases mem_insert _ _ _ entry member with rfl | old
    next => exact List.mem_append_right _ List.mem_cons_self
    next => exact List.mem_append_left _ (ih old)

theorem mem_ofEntries_iff (entries : List (String × Value)) (distinct : (keys entries).Nodup)
    (entry : String × Value) : entry ∈ ofEntries entries ↔ entry ∈ entries := by
  refine ⟨mem_of_mem_ofEntries entries entry, ?_⟩
  induction entries using List.reverseRecOn with
  | nil => exact id
  | append_singleton front last ih =>
    have parted : (keys front ++ [last.1]).Nodup := by simpa [keys] using distinct
    obtain ⟨before, -, apart⟩ := List.nodup_append.mp parted
    intro member
    rw [ofEntries_append]
    rcases List.mem_append.mp member with early | late
    next =>
      have other : entry.1 ≠ last.1 := apart _ (List.mem_map_of_mem early) _ (List.mem_singleton.mpr rfl)
      exact mem_insert_of_mem _ _ _ entry other (ih before early)
    next =>
      obtain rfl := List.mem_singleton.mp late
      exact mem_insert_self _ _ _

theorem perm_ofEntries (entries : List (String × Value)) (distinct : (keys entries).Nodup) :
    (ofEntries entries).Perm entries :=
  (List.perm_ext_iff_of_nodup (List.Nodup.of_map _ (sorted_ofEntries entries).nodup)
    (List.Nodup.of_map _ distinct)).mpr (mem_ofEntries_iff entries distinct)

theorem Sorted.eq_of_perm {first second : Keyed Value} (sorted : first.Sorted)
    (ordered : second.Sorted) (perm : List.Perm first second) : first = second := by
  refine perm.eq_of_pairwise (fun left right _ _ before after => ?_) (List.pairwise_map.mp sorted)
    (List.pairwise_map.mp ordered)
  exact absurd (before.trans after) (lt_irrefl left.1)

theorem ofEntries_eq_of_perm (entries sorted : List (String × Value)) (ordered : Sorted sorted)
    (perm : sorted.Perm entries) : ofEntries entries = sorted := by
  have distinct : (keys entries).Nodup := (perm.map _).nodup_iff.mp ordered.nodup
  exact (sorted_ofEntries entries).eq_of_perm ordered ((perm_ofEntries entries distinct).trans perm.symm)

theorem ofEntries_perm (entries others : List (String × Value)) (distinct : (keys entries).Nodup)
    (perm : entries.Perm others) : ofEntries others = ofEntries entries :=
  ofEntries_eq_of_perm others _ (sorted_ofEntries entries) ((perm_ofEntries entries distinct).trans perm)

theorem get?_filter (entries : Keyed Value) (keep : String → Bool) (key : String) :
    get? (entries.filter fun entry => keep entry.1) key =
      if keep key then entries.get? key else none := by
  induction entries with
  | nil => simp [get?]
  | cons entry rest ih =>
    obtain ⟨k, value⟩ := entry
    by_cases same : k = key
    next =>
      subst same
      cases kept : keep k <;> simp_all [get?]
    next => cases kept : keep k <;> simp [get?, same, kept, ih]

theorem Sorted.filter {entries : Keyed Value} (sorted : entries.Sorted)
    (keep : String × Value → Bool) : Sorted (entries.filter keep) :=
  sorted.sublist (List.filter_sublist.map _)

-- The induction is on the entries that go in, whose keys are apart from each other.
theorem get?_foldl_insert (entries added : Keyed Value) (distinct : added.keys.Nodup)
    (key : String) :
    get? (added.foldl (fun built entry => built.insert entry.1 entry.2) entries) key =
      (added.get? key).or (entries.get? key) := by
  induction added generalizing entries with
  | nil => simp [get?]
  | cons entry rest ih =>
    obtain ⟨k, value⟩ := entry
    obtain ⟨fresh, others⟩ := List.nodup_cons.mp distinct
    rw [List.foldl_cons, ih (entries.insert k value) others, get?_insert]
    by_cases same : k = key
    next =>
      subst same
      have absent : get? rest k = none := (get?_eq_none_iff rest k).mpr fresh
      simp [get?, absent]
    next => simp [get?, same]

theorem get?_insert_missing (entries : Keyed Value) (entry : String × Value) (key : String) :
    get? (if entries.has entry.1 then entries else entries.insert entry.1 entry.2) key =
      (entries.get? key).or (get? [entry] key) := by
  obtain ⟨name, value⟩ := entry
  by_cases same : name = key
  next =>
    subst same
    cases found : entries.get? name <;> simp [has, get?, found]
  next => split <;> simp [get?, same]

theorem get?_foldl_missing (entries added : Keyed Value) (key : String) :
    get? (added.foldl (fun built entry =>
      if built.has entry.1 then built else built.insert entry.1 entry.2) entries) key =
        (entries.get? key).or (added.get? key) := by
  induction added generalizing entries with
  | nil => simp [get?]
  | cons entry rest ih =>
    rw [List.foldl_cons, ih, get?_insert_missing, Option.or_assoc, ← get?_append]
    rfl

theorem insert_insert_self (entries : Keyed Value) (key : String) (value : Value) :
    (entries.insert key value).insert key value = entries.insert key value := by
  induction entries with
  | nil => simp [insert]
  | cons entry rest ih =>
    obtain ⟨k, old⟩ := entry
    by_cases same : key = k
    next => simp [insert, same]
    next =>
      by_cases before : key < k
      next => simp [insert, same, before]
      next => simp [insert, same, before, ih]

-- What is in place for one key stays in place when another one is written.
theorem insert_insert_of_ne (entries : Keyed Value) (key other : String) (value next : Value)
    (differs : key ≠ other) (placed : entries.insert key value = entries) :
    (entries.insert other next).insert key value = entries.insert other next := by
  induction entries with
  | nil => cases placed
  | cons entry rest ih =>
    obtain ⟨k, old⟩ := entry
    rcases lt_trichotomy key k with before | rfl | behind
    next => simp [insert, ne_of_lt before, before] at placed
    next =>
      rcases lt_trichotomy other key with earlier | rfl | later
      next => simp_all [insert, ne_of_lt earlier, earlier.not_gt]
      next => exact absurd rfl differs
      next => simp_all [insert, ne_of_gt later, later.not_gt]
    next =>
      have kept : insert rest key value = rest := by
        simpa [insert, ne_of_gt behind, behind.not_gt] using placed
      rcases lt_trichotomy other k with earlier | rfl | later
      next =>
        have last := earlier.trans behind
        simp [insert, ne_of_lt earlier, earlier, ne_of_gt last, last.not_gt, ne_of_gt behind,
          behind.not_gt, kept]
      next => simp [insert, ne_of_gt behind, behind.not_gt, kept]
      next =>
        simp [insert, ne_of_gt later, later.not_gt, ne_of_gt behind, behind.not_gt, ih kept]

theorem insert_foldl_insert (entries added : Keyed Value) (key : String) (value : Value)
    (fresh : key ∉ added.keys) (placed : entries.insert key value = entries) :
    insert (added.foldl (fun built entry => built.insert entry.1 entry.2) entries) key value =
      added.foldl (fun built entry => built.insert entry.1 entry.2) entries := by
  induction added generalizing entries with
  | nil => exact placed
  | cons entry rest ih =>
    obtain ⟨differs, fresh⟩ := List.ne_and_not_mem_of_not_mem_cons fresh
    exact ih _ fresh (insert_insert_of_ne entries key entry.1 value entry.2 differs placed)

theorem foldl_insert_again (entries added : Keyed Value) (distinct : added.keys.Nodup) :
    added.foldl (fun built entry => built.insert entry.1 entry.2)
        (added.foldl (fun built entry => built.insert entry.1 entry.2) entries) =
      added.foldl (fun built entry => built.insert entry.1 entry.2) entries := by
  induction added generalizing entries with
  | nil => rfl
  | cons entry rest ih =>
    obtain ⟨fresh, others⟩ := List.nodup_cons.mp distinct
    have placed := insert_foldl_insert (entries.insert entry.1 entry.2) rest entry.1 entry.2 fresh
      (insert_insert_self entries entry.1 entry.2)
    rw [List.foldl_cons, List.foldl_cons, placed]
    exact ih _ others

end RowGate.Keyed
