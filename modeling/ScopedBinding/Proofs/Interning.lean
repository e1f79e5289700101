import Mathlib.Algebra.Group.Nat.Defs
import Mathlib.Data.List.Nodup
import ScopedBinding.Symbol

/-!
# Names and their numbers

A symbol table that was given at most `2 ^ 32` names numbers them by their positions, and finds the
number of each name again (`SymbolTable.Numbers`). A name that the table has is interned without a
change; a new one gets the next number.
-/

set_option autoImplicit false

namespace ScopedBinding

/-- One element more is one distinct element more, unless it is there already. -/
theorem eraseDups_concat {α : Type} [DecidableEq α] (l : List α) (a : α) :
    (l ++ [a]).eraseDups = if a ∈ l then l.eraseDups else l.eraseDups ++ [a] := by
  rw [List.eraseDups_append]
  by_cases ha : a ∈ l
  · simp [List.removeAll, ha]
  · simp [List.removeAll, ha, List.eraseDups_cons]

namespace SymbolTable

/-- The table has these names in their order, and finds the position of each of them. -/
structure Numbers (t : SymbolTable) (names : List String) : Prop where
  listed : t.names.toList = names
  /-- The numbers have 32 bits. -/
  room : names.length ≤ 2 ^ 32
  ids : ∀ name id, t.get? name = some id ↔ names[id.toNat]? = some name

namespace Numbers

variable {t : SymbolTable} {names : List String} {name : String} {id : UInt32}

/-- A new table numbers no name. -/
theorem new (space : Option String) : (SymbolTable.new space).Numbers [] where
  listed := rfl
  room := by decide
  ids name id := by simp [SymbolTable.get?, SymbolTable.new]

/-- The positions of names fit into a word. -/
theorem toNat_ofNat (h : t.Numbers names) {i : Nat} (hi : i < names.length) :
    (UInt32.ofNat i).toNat = i := by
  have := h.room
  simp only [UInt32.toNat_ofNat']
  omega

/-- The position of a name is its number. -/
theorem get?_of_getElem? (h : t.Numbers names) {i : Nat} (hi : names[i]? = some name) :
    t.get? name = some (.ofNat i) := by
  obtain ⟨hlt, -⟩ := List.getElem?_eq_some_iff.1 hi
  rw [h.ids, h.toNat_ofNat hlt]
  exact hi

/-- No name has two numbers. -/
theorem nodup (h : t.Numbers names) : names.Nodup := by
  rw [List.nodup_iff_injective_get]
  intro i j hij
  have hi : names[i.val]? = some (names.get j) := by
    rw [List.getElem?_eq_getElem i.isLt]
    exact congrArg some hij
  have hj : names[j.val]? = some (names.get j) := List.getElem?_eq_getElem j.isLt
  -- One name has one number, and the numbers are the positions.
  have hsame := Option.some.inj ((h.get?_of_getElem? hi).symm.trans (h.get?_of_getElem? hj))
  have hnat := congrArg UInt32.toNat hsame
  rw [h.toNat_ofNat i.isLt, h.toNat_ofNat j.isLt] at hnat
  exact Fin.ext hnat

/-- A name without a number is not in the list. -/
theorem get?_eq_none (h : t.Numbers names) : t.get? name = none ↔ name ∉ names := by
  rw [List.mem_iff_getElem?]
  constructor
  · rintro hnone ⟨i, hi⟩
    rw [h.get?_of_getElem? hi] at hnone
    cases hnone
  · intro hnot
    cases hid : t.get? name with
    | none => rfl
    | some id => exact absurd ⟨_, (h.ids name id).1 hid⟩ hnot

/-- The name that has a number is the one at that position. -/
theorem name?_eq (h : t.Numbers names) : t.name? id = names[id.toNat]? := by
  unfold SymbolTable.name?
  rw [← h.listed, Array.getElem?_toList]

/-- Interning a known name gives its number and leaves the table as it is. -/
theorem intern_known (h : t.Numbers names) (hid : names[id.toNat]? = some name) :
    t.intern name = (id, t) := by
  unfold SymbolTable.intern
  rw [(h.ids name id).2 hid]

/-- The symbol of a known name has its number. -/
theorem symbol_known (h : t.Numbers names) (hid : names[id.toNat]? = some name) :
    t.symbol name = (⟨id, name, t.space⟩, t) := by
  unfold SymbolTable.symbol
  rw [h.intern_known hid]
  dsimp only
  rw [h.name?_eq, hid]
  rfl

/-- The table after a new name. -/
theorem intern_new (h : t.Numbers names) (hnew : name ∉ names) :
    t.intern name = (.ofNat names.length,
      { t with names := t.names.push name, ids := t.ids.insert name (.ofNat names.length) }) := by
  unfold SymbolTable.intern
  rw [h.get?_eq_none.2 hnew, ← h.listed, Array.length_toList]

/-- A new name is numbered after all others, and these keep their numbers. -/
theorem numbers_intern (h : t.Numbers names) (hnew : name ∉ names) (hroom : names.length < 2 ^ 32) :
    (t.intern name).2.Numbers (names ++ [name]) := by
  rw [h.intern_new hnew]
  have hsize : (UInt32.ofNat names.length).toNat = names.length := by
    simp only [UInt32.toNat_ofNat']
    omega
  constructor
  · rw [Array.toList_push, h.listed]
  · rw [List.length_append, List.length_singleton]
    omega
  · intro other id
    unfold SymbolTable.get?
    dsimp only
    rw [Std.HashMap.getElem?_insert]
    by_cases hother : name = other
    · subst hother
      rw [if_pos (beq_self_eq_true name), List.getElem?_append]
      have hold : names[id.toNat]? ≠ some name := fun hid => hnew (List.mem_of_getElem? hid)
      constructor
      · intro hid
        obtain rfl := Option.some.inj hid
        simp [hsize]
      · intro hid
        split at hid
        · exact absurd hid hold
        · have hlast : id.toNat = names.length := by
            have hlt := (List.getElem?_eq_some_iff.1 hid).1
            simp only [List.length_singleton] at hlt
            omega
          rw [← UInt32.toNat_inj.1 (hsize.trans hlast.symm)]
    · rw [if_neg (by simpa using hother)]
      have hids := h.ids other id
      unfold SymbolTable.get? at hids
      rw [hids, List.getElem?_append]
      split
      · rfl
      · next hge =>
        rw [List.getElem?_eq_none (by omega)]
        simp only [reduceCtorEq, false_iff]
        intro hid
        exact hother (List.mem_singleton.1 (List.mem_of_getElem? hid)).symm

/-- The symbol of a new name has the next number. -/
theorem symbol_new (h : t.Numbers names) (hnew : name ∉ names) (hroom : names.length < 2 ^ 32) :
    t.symbol name = (⟨.ofNat names.length, name, t.space⟩, (t.intern name).2) := by
  have hnumbers := h.numbers_intern hnew hroom
  have hlast : names.length < (names ++ [name]).length := by simp
  unfold SymbolTable.symbol
  rw [h.intern_new hnew] at hnumbers ⊢
  dsimp only at hnumbers ⊢
  rw [hnumbers.name?_eq, hnumbers.toNat_ofNat hlast]
  simp

end Numbers

end SymbolTable

end ScopedBinding
