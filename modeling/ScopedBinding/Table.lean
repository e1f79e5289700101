/-!
# Tables in order of insertion

A `Table` maps keys to values and lists its entries in the order in which their keys were last
newly added: `insert` replaces the value of a key that is present in its place and puts a new key
at the end.
-/

set_option autoImplicit false

namespace ScopedBinding

/-- A finite map that remembers the order in which its keys were added. -/
structure Table (κ α : Type) where
  entries : List (κ × α)
  deriving Repr

namespace Table

variable {κ α : Type} [DecidableEq κ]

instance : EmptyCollection (Table κ α) := ⟨⟨[]⟩⟩

instance : Inhabited (Table κ α) := ⟨⟨[]⟩⟩

/-- Replaces the value of the key in its place, or adds the key at the end. -/
def insertIn (key : κ) (value : α) : List (κ × α) → List (κ × α)
  | [] => [(key, value)]
  | (k, v) :: rest => if k = key then (key, value) :: rest else (k, v) :: insertIn key value rest

/-- The value of a key. -/
def get? (t : Table κ α) (key : κ) : Option α :=
  (t.entries.find? fun e => e.1 = key).map Prod.snd

/-- Whether a key is present. -/
def contains (t : Table κ α) (key : κ) : Bool :=
  t.entries.any fun e => e.1 = key

/-- The table with a value for a key. -/
def insert (t : Table κ α) (key : κ) (value : α) : Table κ α :=
  ⟨insertIn key value t.entries⟩

/-- The table without a key. -/
def erase (t : Table κ α) (key : κ) : Table κ α :=
  ⟨t.entries.filter fun e => !decide (e.1 = key)⟩

/-- The table with the value of a key changed, if the key is present. -/
def modify (t : Table κ α) (key : κ) (change : α → α) : Table κ α :=
  match t.get? key with
  | some v => t.insert key (change v)
  | none => t

/-- The entries whose keys satisfy a test, in their order. -/
def filterKeys (t : Table κ α) (keep : κ → Bool) : Table κ α :=
  ⟨t.entries.filter fun e => keep e.1⟩

/-- The keys in their order. -/
def keys (t : Table κ α) : List κ :=
  t.entries.map Prod.fst

/-- The values in the order of their keys. -/
def values (t : Table κ α) : List α :=
  t.entries.map Prod.snd

/-- Looking up the key that was inserted gives its value, and every other key is as before. -/
theorem get?_insert (t : Table κ α) (key k : κ) (value : α) :
    (t.insert key value).get? k = if k = key then some value else t.get? k := by
  obtain ⟨entries⟩ := t
  simp only [get?, insert]
  induction entries with
  | nil =>
    by_cases h : k = key
    · simp [insertIn, h]
    · simp [insertIn, h, Ne.symm h]
  | cons e rest ih =>
    obtain ⟨k', v'⟩ := e
    simp only [insertIn]
    by_cases h' : k' = key
    · subst h'
      by_cases h : k = k'
      · simp [h]
      · simp [h, Ne.symm h]
    · by_cases hk : k' = k
      · subst hk
        simp [h']
      · simpa [h', hk] using ih

/-- An erased key is absent, and every other key is as before. -/
theorem get?_erase (t : Table κ α) (key k : κ) :
    (t.erase key).get? k = if k = key then none else t.get? k := by
  obtain ⟨entries⟩ := t
  simp only [get?, erase]
  induction entries with
  | nil => simp
  | cons e rest ih =>
    obtain ⟨k', v'⟩ := e
    by_cases h' : k' = key
    · subst h'
      by_cases h : k = k'
      · simp [h]
      · simpa [h, Ne.symm h] using ih
    · by_cases hk : k' = k
      · subst hk
        simp [h']
      · simpa [h', hk] using ih

/-- A changed key has its changed value, and every other key is as before. -/
theorem get?_modify (t : Table κ α) (key k : κ) (change : α → α) :
    (t.modify key change).get? k = if k = key then (t.get? key).map change else t.get? k := by
  unfold modify
  cases h : t.get? key with
  | none =>
    by_cases hk : k = key
    · simp [hk, h]
    · simp [hk]
  | some v => simp [get?_insert]

/-- Of two values for one key the last one stays. -/
theorem insert_insert (t : Table κ α) (key : κ) (first last : α) :
    (t.insert key first).insert key last = t.insert key last := by
  obtain ⟨entries⟩ := t
  simp only [insert, mk.injEq]
  induction entries with
  | nil => simp [insertIn]
  | cons e rest ih =>
    obtain ⟨k, v⟩ := e
    by_cases h : k = key
    · simp [insertIn, h]
    · simp [insertIn, h, ih]

/-- Two changes of one value are one change. -/
theorem modify_modify (t : Table κ α) (key : κ) (first last : α → α) :
    (t.modify key first).modify key last = t.modify key fun v => last (first v) := by
  cases h : t.get? key with
  | none =>
    have hfirst : t.modify key first = t := by
      unfold modify
      rw [h]
    unfold modify at hfirst ⊢
    rw [hfirst, h]
  | some v =>
    have hfirst : t.modify key first = t.insert key (first v) := by
      unfold modify
      rw [h]
    have hget : (t.insert key (first v)).get? key = some (first v) := by
      rw [get?_insert, if_pos rfl]
    rw [hfirst]
    unfold modify
    rw [hget, h]
    exact t.insert_insert key (first v) (last (first v))

/-- A table keeps the keys that satisfy the test and no others. -/
theorem get?_filterKeys (t : Table κ α) (keep : κ → Bool) (k : κ) :
    (t.filterKeys keep).get? k = if keep k then t.get? k else none := by
  obtain ⟨entries⟩ := t
  simp only [get?, filterKeys]
  induction entries with
  | nil => simp
  | cons e rest ih =>
    obtain ⟨k', v'⟩ := e
    by_cases hk : k' = k
    · subst hk
      by_cases h : keep k'
      · simp [h]
      · simpa [h] using ih
    · by_cases h : keep k'
      · simpa [h, hk] using ih
      · simpa [h, hk] using ih

/-- The empty table has no key. -/
theorem get?_empty (k : κ) : (∅ : Table κ α).get? k = none := rfl

end Table

end ScopedBinding
