import ScopedBinding.Proofs.Declarations

/-!
# The registry of watches

The watches of a variable are in a table by their keys. What the table must be follows from the
registrations and removals so far alone: which watch a key has (`Registration.current`), and since
when the key has been there (`Registration.since`). A key that is registered again stays where it is,
with another watch; one that was removed comes back at the end.

`Table.Registers` says that a table is what its registrations say. Adding and removing keep it.
-/

set_option autoImplicit false

namespace ScopedBinding

/-! ## Keys of a table -/

namespace Table

variable {κ α : Type} [DecidableEq κ] {t : Table κ α} {key : κ}

/-- The keys of a table are those that have something in it. -/
theorem mem_keys : key ∈ t.keys ↔ (t.get? key).isSome = true := by
  constructor
  · intro hkey
    obtain ⟨⟨k, value⟩, hentry, rfl⟩ := List.mem_map.1 hkey
    obtain ⟨found, hfound⟩ := get?_isSome hentry
    rw [hfound]
    rfl
  · intro hsome
    obtain ⟨value, hvalue⟩ := Option.isSome_iff_exists.1 hsome
    exact List.mem_map.2 ⟨(key, value), mem_of_get? hvalue, rfl⟩

/-- A table contains a key that has something in it. -/
theorem contains_eq (t : Table κ α) (key : κ) : t.contains key = (t.get? key).isSome := by
  unfold contains get?
  rw [Option.isSome_map, Bool.eq_iff_iff, List.any_eq_true, List.find?_isSome]

/-- A new key is the last one. -/
theorem keys_insert_new (h : t.get? key = none) (value : α) :
    (t.insert key value).keys = t.keys ++ [key] := by
  unfold keys
  rw [entries_insert t h, List.map_append]
  rfl

/-- A key that is present stays in its place. -/
theorem keys_insert_present (h : (t.get? key).isSome = true) (value : α) :
    (t.insert key value).keys = t.keys := by
  obtain ⟨entries⟩ := t
  have hmem : key ∈ entries.map Prod.fst := mem_keys.2 h
  clear h
  show (insertIn key value entries).map Prod.fst = entries.map Prod.fst
  induction entries with
  | nil => cases hmem
  | cons e rest ih =>
    obtain ⟨k, v⟩ := e
    unfold insertIn
    by_cases hk : k = key
    · rw [if_pos hk, ← hk]
      rfl
    · rw [if_neg hk, List.map_cons, List.map_cons]
      rw [ih ((List.mem_cons.1 hmem).resolve_left fun heq => hk heq.symm)]

/-- The other keys stay in their order. -/
theorem keys_erase (t : Table κ α) (key : κ) : (t.erase key).keys = t.keys.filter (· ≠ key) := by
  unfold keys erase
  rw [List.filter_map]
  simp only [Function.comp_def, ne_eq, decide_not]

end Table

/-! ## Registrations -/

/-- A watch that was registered under a key, or the removal of the one that a key had. -/
inductive Registration where
  | added (key : String) (watch : WatchId)
  | removed (key : String)
  deriving DecidableEq

namespace Registration

/-- The watch that a key has after registrations, of which the newest comes first. -/
def current : List Registration → String → Option WatchId
  | [], _ => none
  | .added k w :: H, key => if key = k then some w else current H key
  | .removed k :: H, key => if key = k then none else current H key

/-- When a key that is present was last newly added, by the number of registrations before that. -/
def since : List Registration → String → Option Nat
  | [], _ => none
  | .added k _ :: H, key => if key = k then (since H key).or (some H.length) else since H key
  | .removed k :: H, key => if key = k then none else since H key

variable {H : List Registration} {key : String}

/-- A key that is present was added at some time. -/
theorem since_isSome (H : List Registration) (key : String) :
    (since H key).isSome = (current H key).isSome := by
  induction H with
  | nil => rfl
  | cons r H ih =>
    cases r with
    | added k w =>
      unfold since current
      split
      · simp
      · exact ih
    | removed k =>
      unfold since current
      split
      · rfl
      · exact ih

/-- A key was added before now. -/
theorem since_lt {n : Nat} (h : since H key = some n) : n < H.length := by
  induction H with
  | nil => cases h
  | cons r H ih =>
    rw [List.length_cons]
    cases r with
    | added k w =>
      unfold since at h
      split at h
      · cases hbefore : since H key with
        | none =>
          rw [hbefore] at h
          cases h
          omega
        | some m =>
          rw [hbefore] at h
          cases h
          have := ih hbefore
          omega
      · have := ih h
        omega
    | removed k =>
      unfold since at h
      split at h
      · cases h
      · have := ih h
        omega

/-- A key that is present keeps its place when any watch is registered. -/
theorem since_added_present (h : (current H key).isSome = true) (k : String) (w : WatchId) :
    since (.added k w :: H) key = since H key := by
  obtain ⟨n, hn⟩ := Option.isSome_iff_exists.1 ((since_isSome H key).trans h)
  show (if key = k then (since H key).or (some H.length) else since H key) = _
  rw [hn]
  split <;> rfl

/-- A key that is absent comes after all that have been there. -/
theorem since_added_new (h : current H key = none) (w : WatchId) :
    since (.added key w :: H) key = some H.length := by
  have hnone : since H key = none := by
    have hsome := since_isSome H key
    rw [h] at hsome
    exact Option.isSome_eq_false_iff.1 hsome |> Option.isNone_iff_eq_none.1
  show (if key = key then (since H key).or (some H.length) else since H key) = _
  rw [if_pos rfl, hnone]
  rfl

/-- Removing another key changes nothing of when a key was added. -/
theorem since_removed_ne {k : String} (h : key ≠ k) : since (.removed k :: H) key = since H key :=
  if_neg h

/-- One key was last newly added before another. -/
def Before (H : List Registration) (k k' : String) : Prop :=
  ∃ n n', since H k = some n ∧ since H k' = some n' ∧ n < n'

end Registration

open Registration (current since Before)

/-- A table has the watches that registrations have left, each key once and in the order in which the
keys were last newly added. -/
structure Table.Registers (t : Table String WatchId) (H : List Registration) : Prop where
  watch : ∀ key, t.get? key = current H key
  distinct : t.keys.Nodup
  ordered : t.keys.Pairwise (Before H)

namespace Table.Registers

variable {t : Table String WatchId} {H : List Registration} {key : String}

/-- Without registrations a table is empty. -/
theorem empty : (∅ : Table String WatchId).Registers [] where
  watch _ := rfl
  distinct := List.nodup_nil
  ordered := .nil

/-- A table contains the keys that its registrations have left present. -/
theorem contains (h : t.Registers H) (key : String) : t.contains key = (current H key).isSome := by
  rw [t.contains_eq, h.watch]

/-- The keys of a table are those that its registrations have left present. -/
theorem mem_keys (h : t.Registers H) : key ∈ t.keys ↔ (current H key).isSome = true := by
  rw [Table.mem_keys, h.watch]

/-- Keys stay in order while nothing changes of when they were added. -/
theorem ordered_congr (h : t.Registers H) {H' : List Registration} {keys : List String}
    (hkeys : keys.Sublist t.keys) (hsince : ∀ k ∈ keys, since H' k = since H k) :
    keys.Pairwise (Before H') := by
  refine (h.ordered.sublist hkeys).imp_of_mem fun {k k'} hk hk' hbefore => ?_
  obtain ⟨n, n', hn, hn', hlt⟩ := hbefore
  exact ⟨n, n', (hsince k hk).trans hn, (hsince k' hk').trans hn', hlt⟩

/-- Registering a watch under a key that is present puts it in place of the other. -/
theorem added_present (h : t.Registers H) (hkey : (current H key).isSome = true) (w : WatchId) :
    (t.insert key w).Registers (.added key w :: H) := by
  have hkeys : (t.insert key w).keys = t.keys :=
    t.keys_insert_present ((congrArg Option.isSome (h.watch key)).trans hkey) w
  refine ⟨fun k => ?_, ?_, ?_⟩
  · rw [t.get?_insert, h.watch]
    rfl
  · rw [hkeys]
    exact h.distinct
  · rw [hkeys]
    exact h.ordered_congr (.refl _) fun k hk =>
      Registration.since_added_present (h.mem_keys.1 hk) key w

/-- Registering a watch under a new key puts it at the end. -/
theorem added_new (h : t.Registers H) (hkey : current H key = none) (w : WatchId) :
    (t.insert key w).Registers (.added key w :: H) := by
  have hkeys : (t.insert key w).keys = t.keys ++ [key] :=
    t.keys_insert_new ((h.watch key).trans hkey) w
  have hnot : key ∉ t.keys := by
    rw [h.mem_keys, hkey]
    exact Bool.false_ne_true
  have hsame : ∀ k ∈ t.keys, since (.added key w :: H) k = since H k := fun k hk =>
    Registration.since_added_present (h.mem_keys.1 hk) key w
  refine ⟨fun k => ?_, ?_, ?_⟩
  · rw [t.get?_insert, h.watch]
    rfl
  · rw [hkeys]
    exact h.distinct.append (List.nodup_singleton key) (by simpa using hnot)
  · rw [hkeys, List.pairwise_append]
    refine ⟨h.ordered_congr (.refl _) hsame, List.pairwise_singleton _ _, fun k hk k' hk' => ?_⟩
    -- Every key that has been there was added before this registration.
    obtain rfl := List.mem_singleton.1 hk'
    have hsome := (Registration.since_isSome H k).trans (h.mem_keys.1 hk)
    obtain ⟨n, hn⟩ := Option.isSome_iff_exists.1 hsome
    exact ⟨n, H.length, (hsame k hk).trans hn, Registration.since_added_new hkey w,
      Registration.since_lt hn⟩

/-- Registering a watch keeps the table what its registrations say. -/
theorem added (h : t.Registers H) (key : String) (w : WatchId) :
    (t.insert key w).Registers (.added key w :: H) := by
  cases hkey : current H key with
  | none => exact h.added_new hkey w
  | some found => exact h.added_present (by rw [hkey]; rfl) w

/-- Removing a key keeps the table what its registrations say. -/
theorem removed (h : t.Registers H) (key : String) :
    (t.erase key).Registers (.removed key :: H) := by
  refine ⟨fun k => ?_, ?_, ?_⟩
  · rw [t.get?_erase, h.watch]
    rfl
  · rw [t.keys_erase]
    exact h.distinct.filter _
  · rw [t.keys_erase]
    refine h.ordered_congr List.filter_sublist fun k hk => ?_
    exact Registration.since_removed_ne (by simpa using (List.mem_filter.1 hk).2)

end Table.Registers

end ScopedBinding
