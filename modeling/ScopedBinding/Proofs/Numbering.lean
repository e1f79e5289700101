import Mathlib.Data.List.Induction
import ScopedBinding.Proofs.Interning

/-!
# The numbers that a table gives out

A symbol table is asked for numbers and for symbols of names, again and again. The names it has are
those it was asked for, in the order of their first use, and the number of a name is its position. So
names and numbers are in bijection, which grows and never changes (`interning_is_growing_bijection`):
a name that was asked for before is found and the table stays as it is.

Numbers have 32 bits, so this is said of at most `2 ^ 32` different names. A table that has as many
gives the number of its first name to the next one.
-/

set_option autoImplicit false

namespace ScopedBinding

namespace SymbolTable

/-- A call that asks for a name, which is numbered if it is new. -/
inductive Request where
  | number (name : String)
  | symbol (name : String)

namespace Request

/-- The name that is asked for. -/
def name : Request → String
  | number name => name
  | symbol name => name

/-- The number that is given for the name, and the table after that. -/
def answer (t : SymbolTable) : Request → UInt32 × SymbolTable
  | number name => t.intern name
  | symbol name => ((t.symbol name).1.id, (t.symbol name).2)

end Request

/-- The table after some calls, from the first to the last. -/
def asked (t : SymbolTable) (requests : List Request) : SymbolTable :=
  requests.foldl (fun t request => (request.answer t).2) t

/-- The different names that were asked for, in the order of their first use. -/
def namesOf (requests : List Request) : List String :=
  (requests.map Request.name).eraseDups

/-- Requests that follow on one another. -/
theorem asked_append (t : SymbolTable) (requests more : List Request) :
    t.asked (requests ++ more) = (t.asked requests).asked more :=
  List.foldl_append

/-- The names asked for are those of the requests. -/
theorem mem_namesOf {requests : List Request} {name : String} :
    name ∈ namesOf requests ↔ ∃ request ∈ requests, request.name = name := by
  unfold namesOf
  rw [List.mem_eraseDups, List.mem_map]

/-- One more request adds its name if it was not asked for before. -/
theorem namesOf_concat (requests : List Request) (request : Request) :
    namesOf (requests ++ [request]) =
      if request.name ∈ namesOf requests then namesOf requests
      else namesOf requests ++ [request.name] := by
  unfold namesOf
  rw [List.map_append, List.map_singleton, eraseDups_concat]
  simp only [List.mem_eraseDups]

/-- Names that are known keep their places when more are asked for. -/
theorem namesOf_grows (requests more : List Request) :
    namesOf requests <+: namesOf (requests ++ more) := by
  unfold namesOf
  rw [List.map_append, List.eraseDups_append]
  exact List.prefix_append _ _

/-- Names that are all different are the names that were asked for. -/
theorem namesOf_eq_of_nodup {requests : List Request}
    (h : (requests.map Request.name).Nodup) : namesOf requests = requests.map Request.name := by
  induction requests using List.reverseRecOn with
  | nil => rfl
  | append_singleton requests request ih =>
    rw [List.map_append, List.map_singleton, List.nodup_append] at h
    obtain ⟨hbefore, -, hnew⟩ := h
    have hmem : request.name ∉ namesOf requests := by
      rw [ih hbefore]
      exact fun hmem => hnew _ hmem _ (List.mem_singleton_self _) rfl
    rw [namesOf_concat, if_neg hmem, ih hbefore, List.map_append, List.map_singleton]

namespace Numbers

variable {t : SymbolTable} {names : List String}

/-- A name that is known keeps its number, and the table stays as it is. -/
theorem answer_known (h : t.Numbers names) {request : Request} {id : UInt32}
    (hid : names[id.toNat]? = some request.name) : request.answer t = (id, t) := by
  cases request with
  | number name => exact h.intern_known hid
  | symbol name =>
    have hsymbol : t.symbol name = _ := h.symbol_known hid
    simp only [Request.answer, hsymbol]

/-- A new name gets the next number. -/
theorem answer_new (h : t.Numbers names) {request : Request} (hnew : request.name ∉ names)
    (hroom : names.length < 2 ^ 32) :
    request.answer t = (.ofNat names.length, (t.intern request.name).2) := by
  cases request with
  | number name =>
    have hintern : t.intern name = _ := h.intern_new hnew
    simp only [Request.answer, Request.name, hintern]
  | symbol name =>
    have hsymbol : t.symbol name = _ := h.symbol_new hnew hroom
    simp only [Request.answer, Request.name, hsymbol]

/-- A known name has a number. -/
theorem exists_number (h : t.Numbers names) {name : String} (hmem : name ∈ names) :
    ∃ id : UInt32, names[id.toNat]? = some name := by
  obtain ⟨i, hi⟩ := List.mem_iff_getElem?.1 hmem
  obtain ⟨hlt, -⟩ := List.getElem?_eq_some_iff.1 hi
  exact ⟨.ofNat i, by rw [h.toNat_ofNat hlt]; exact hi⟩

/-- One call more: the name is found, or it is numbered after all others. -/
theorem answered (h : t.Numbers names) (request : Request)
    (hroom : request.name ∉ names → names.length < 2 ^ 32) :
    (request.answer t).2.Numbers
      (if request.name ∈ names then names else names ++ [request.name]) := by
  by_cases hmem : request.name ∈ names
  · obtain ⟨id, hid⟩ := h.exists_number hmem
    rw [if_pos hmem, h.answer_known hid]
    exact h
  · rw [if_neg hmem, h.answer_new hmem (hroom hmem)]
    exact h.numbers_intern hmem (hroom hmem)

/-- Requests leave the name space of the table as it is. -/
theorem space_answer (h : t.Numbers names) (request : Request)
    (hroom : request.name ∉ names → names.length < 2 ^ 32) :
    (request.answer t).2.space = t.space := by
  by_cases hmem : request.name ∈ names
  · obtain ⟨id, hid⟩ := h.exists_number hmem
    rw [h.answer_known hid]
  · rw [h.answer_new hmem (hroom hmem), h.intern_new hmem]

end Numbers

/-- A table numbers the names that it was asked for. -/
theorem asked_numbers (space : Option String) (requests : List Request)
    (hroom : (namesOf requests).length ≤ 2 ^ 32) :
    ((new space).asked requests).Numbers (namesOf requests) ∧
      ((new space).asked requests).space = space := by
  induction requests using List.reverseRecOn with
  | nil => exact ⟨.new space, rfl⟩
  | append_singleton requests request ih =>
    have hlength := (namesOf_grows requests [request]).length_le
    obtain ⟨hbefore, hspace⟩ := ih (by omega)
    have hnext : request.name ∉ namesOf requests → (namesOf requests).length < 2 ^ 32 := by
      intro hnew
      rw [namesOf_concat, if_neg hnew, List.length_append, List.length_singleton] at hroom
      omega
    rw [asked_append, namesOf_concat]
    exact ⟨hbefore.answered request hnext, (hbefore.space_answer request hnext).trans hspace⟩

/-- The symbols that come from one table: those it gave when it was asked for them, and those of the
numbers it had at some time. -/
inductive GivesSymbol (space : Option String) (requests : List Request) : Symbol → Prop where
  | symbol {earlier later : List Request} {name : String}
      (h : requests = earlier ++ .symbol name :: later) :
      GivesSymbol space requests (((new space).asked earlier).symbol name).1
  | resolved {earlier later : List Request} {id : UInt32} {s : Symbol}
      (h : requests = earlier ++ later) (hs : ((new space).asked earlier).resolve? id = some s) :
      GivesSymbol space requests s

/-- A name was asked for and this number was given for it. -/
def Gave (space : Option String) (requests : List Request) (name : String) (id : UInt32) : Prop :=
  ∃ earlier request later, requests = earlier ++ request :: later ∧ request.name = name ∧
    (request.answer ((new space).asked earlier)).1 = id

section Runs

variable {space : Option String} {requests earlier later : List Request} {request : Request}
  {name : String} {id : UInt32}

/-- A name keeps its position when more names follow. -/
theorem getElem?_grows {l l' : List String} (h : l <+: l') {i : Nat} (hi : l[i]? = some name) :
    l'[i]? = some name := by
  obtain ⟨more, rfl⟩ := h
  obtain ⟨hlt, -⟩ := List.getElem?_eq_some_iff.1 hi
  rw [List.getElem?_append_left hlt]
  exact hi

/-- There was room for the earlier requests if there is for all. -/
theorem room_of_append (hroom : (namesOf (earlier ++ later)).length ≤ 2 ^ 32) :
    (namesOf earlier).length ≤ 2 ^ 32 := by
  have := (namesOf_grows earlier later).length_le
  omega

/-- The number that is given for a name is its position, then and ever after. -/
theorem answer_position (hroom : (namesOf (earlier ++ request :: later)).length ≤ 2 ^ 32) :
    (namesOf (earlier ++ request :: later))[
      (request.answer ((new space).asked earlier)).1.toNat]? = some request.name := by
  have hsplit : earlier ++ request :: later = (earlier ++ [request]) ++ later := by simp
  rw [hsplit] at hroom ⊢
  refine getElem?_grows (namesOf_grows _ later) ?_
  obtain ⟨hbefore, -⟩ := asked_numbers space earlier (room_of_append (room_of_append hroom))
  rw [namesOf_concat]
  by_cases hmem : request.name ∈ namesOf earlier
  · obtain ⟨id, hid⟩ := hbefore.exists_number hmem
    rw [if_pos hmem, hbefore.answer_known hid]
    exact hid
  · have hlast := room_of_append hroom
    rw [namesOf_concat, if_neg hmem, List.length_append, List.length_singleton] at hlast
    have hnumber : (UInt32.ofNat (namesOf earlier).length).toNat = (namesOf earlier).length := by
      simp only [UInt32.toNat_ofNat']
      omega
    rw [if_neg hmem, hbefore.answer_new hmem (by omega), hnumber]
    simp

/-- The names with their numbers are those that were given. -/
theorem gave_iff (hroom : (namesOf requests).length ≤ 2 ^ 32) :
    Gave space requests name id ↔ (namesOf requests)[id.toNat]? = some name := by
  constructor
  · rintro ⟨earlier, request, later, rfl, rfl, rfl⟩
    exact answer_position hroom
  · intro hid
    obtain ⟨request, hmem, hname⟩ := mem_namesOf.1 (List.mem_of_getElem? hid)
    obtain ⟨earlier, later, rfl⟩ := List.append_of_mem hmem
    refine ⟨earlier, request, later, rfl, hname, ?_⟩
    -- Both numbers are the position of the name, and a name has one position.
    obtain ⟨hnumbers, -⟩ := asked_numbers space _ hroom
    have hfound := (hnumbers.ids name id).2 hid
    have hgiven := (hnumbers.ids _ (request.answer ((new space).asked earlier)).1).2
      (answer_position hroom)
    rw [hname, hfound] at hgiven
    exact (Option.some.inj hgiven).symm

/-- A symbol of the table has the name that has its number, and the name space of the table. -/
theorem GivesSymbol.eq (hroom : (namesOf requests).length ≤ 2 ^ 32) {s : Symbol}
    (h : GivesSymbol space requests s) :
    (namesOf requests)[s.id.toNat]? = some s.name ∧ s.space = space := by
  cases h with
  | @symbol earlier later name h =>
    subst h
    have hposition := @answer_position space _ _ _ hroom
    have hsplit : earlier ++ .symbol name :: later = (earlier ++ [.symbol name]) ++ later := by simp
    rw [hsplit] at hroom
    obtain ⟨hbefore, hspace⟩ := asked_numbers space earlier (room_of_append (room_of_append hroom))
    simp only [Request.answer, Request.name] at hposition
    by_cases hmem : name ∈ namesOf earlier
    · obtain ⟨id, hid⟩ := hbefore.exists_number hmem
      rw [hbefore.symbol_known hid] at hposition ⊢
      exact ⟨hposition, hspace⟩
    · have hlast := room_of_append hroom
      rw [namesOf_concat, Request.name, if_neg hmem, List.length_append, List.length_singleton]
        at hlast
      rw [hbefore.symbol_new hmem (by omega)] at hposition ⊢
      exact ⟨hposition, hspace⟩
  | @resolved earlier later id s h hs =>
    subst h
    obtain ⟨hbefore, hspace⟩ := asked_numbers space earlier (room_of_append hroom)
    obtain ⟨name, hname, rfl⟩ := Option.map_eq_some_iff.1 hs
    rw [hbefore.name?_eq] at hname
    exact ⟨getElem?_grows (namesOf_grows earlier later) hname, hspace⟩

/-- Symbols of one table are the same exactly if their names are equal. -/
theorem GivesSymbol.same_iff (hroom : (namesOf requests).length ≤ 2 ^ 32) {a b : Symbol}
    (ha : GivesSymbol space requests a) (hb : GivesSymbol space requests b) :
    a.same b = true ↔ a.name = b.name := by
  obtain ⟨hposition, hspace⟩ := ha.eq hroom
  obtain ⟨hposition', hspace'⟩ := hb.eq hroom
  obtain ⟨hnumbers, -⟩ := asked_numbers space requests hroom
  simp only [Symbol.same, Bool.and_eq_true, beq_iff_eq, hspace, hspace', and_true]
  constructor
  · intro hid
    rw [hid, hposition'] at hposition
    exact (Option.some.inj hposition).symm
  · intro hname
    have hfound := (hnumbers.ids _ _).2 hposition
    rw [hname, (hnumbers.ids _ _).2 hposition'] at hfound
    exact (Option.some.inj hfound).symm

/-- A table that has as many names as there are numbers starts again at 0, which still belongs to its
first name. -/
theorem Numbers.intern_full {t : SymbolTable} {names : List String} (h : t.Numbers names)
    (hfull : names.length = 2 ^ 32) (hnew : name ∉ names) :
    (t.intern name).1 = 0 ∧ ∃ first, names.head? = some first ∧
      (t.intern name).2.name? 0 = some first ∧ (t.intern name).2.get? first = some 0 ∧
      (t.symbol name).1 = ⟨0, first, t.space⟩ := by
  cases names with
  | nil => simp at hfull
  | cons first rest =>
    have hzero : UInt32.ofNat (first :: rest).length = 0 := by
      rw [hfull]
      rfl
    have hintern := h.intern_new hnew
    rw [hzero] at hintern
    have hget : t.get? first = some 0 := (h.ids first 0).2 rfl
    have hname : (t.intern name).2.name? 0 = some first := by
      have hold : t.name? 0 = some first := h.name?_eq
      unfold name? at hold ⊢
      obtain ⟨hlt, heq⟩ := Array.getElem?_eq_some_iff.1 hold
      rw [hintern]
      dsimp only
      rw [Array.getElem?_push_lt hlt, heq]
    refine ⟨by rw [hintern], first, rfl, hname, ?_, ?_⟩
    · rw [hintern]
      unfold get?
      dsimp only
      have hother : name ≠ first := fun heq => hnew (heq ▸ List.mem_cons_self)
      rw [Std.HashMap.getElem?_insert, if_neg (by simpa using hother)]
      exact hget
    · unfold SymbolTable.symbol
      dsimp only
      rw [hintern] at hname ⊢
      dsimp only at hname ⊢
      rw [hname]
      rfl

end Runs

/-- Names and numbers are a bijection that grows. A new table is asked for numbers and for symbols, as
often as one likes and in any order, of at most `2 ^ 32` different names. Then

* the table has the names it was asked for in the order of their first use;
* the number that was given for a name is its position; asked for the name again, the table gives the
  same number and stays as it is; and whatever name a number belonged to at any time, it belongs to now;
* a name has a number, the number has the name, and the number was given for the name: each of these
  means the others;
* the symbol of a number is the symbol of its name, and has that name and the name space of the table;
* a symbol that the table ever gave is the symbol of its number still, and two of them are the same
  exactly if their names are equal.

The bound is sharp: a table of `2 ^ 32` names gives the number 0 to one name more, and 0 still belongs
to the first name. -/
theorem interning_is_growing_bijection (space : Option String) (requests : List Request)
    (hroom : (namesOf requests).length ≤ 2 ^ 32) :
    let t := (new space).asked requests
    (t.names.toList = namesOf requests ∧ (namesOf requests).Nodup ∧ t.space = space) ∧
    (∀ earlier request later, requests = earlier ++ request :: later →
      let id := (request.answer ((new space).asked earlier)).1
      t.names[id.toNat]? = some request.name ∧
      ∀ again : Request, again.name = request.name → again.answer t = (id, t)) ∧
    (∀ earlier later id name, requests = earlier ++ later →
      ((new space).asked earlier).name? id = some name → t.name? id = some name) ∧
    (∀ name id, (t.get? name = some id ↔ t.name? id = some name) ∧
      (t.name? id = some name ↔ Gave space requests name id)) ∧
    (∀ id, t.resolve? id = (t.name? id).map fun name => (t.symbol name).1) ∧
    (∀ id name, t.name? id = some name → t.symbol name = (⟨id, name, space⟩, t)) ∧
    (∀ a, GivesSymbol space requests a → t.resolve? a.id = some a ∧
      ∀ b, GivesSymbol space requests b → (a.same b = true ↔ a.name = b.name)) ∧
    ((namesOf requests).length = 2 ^ 32 → ∀ name ∉ namesOf requests,
      (t.intern name).1 = 0 ∧ ∃ first, (namesOf requests).head? = some first ∧
        (t.intern name).2.name? 0 = some first ∧ (t.intern name).2.get? first = some 0 ∧
        (t.symbol name).1 = ⟨0, first, space⟩) := by
  intro t
  obtain ⟨hnumbers, hspace⟩ : t.Numbers (namesOf requests) ∧ t.space = space :=
    asked_numbers space requests hroom
  have hsymbol : ∀ id name, t.name? id = some name → t.symbol name = (⟨id, name, space⟩, t) := by
    intro id name hid
    rw [hnumbers.name?_eq] at hid
    rw [hnumbers.symbol_known hid, hspace]
  refine ⟨⟨hnumbers.listed, hnumbers.nodup, hspace⟩, ?_, ?_, ?_, ?_, hsymbol, ?_, ?_⟩
  · rintro earlier request later rfl id
    have hposition : (namesOf _)[id.toNat]? = some request.name := answer_position hroom
    refine ⟨hnumbers.name?_eq.trans hposition, fun again hagain => ?_⟩
    rw [← hagain] at hposition
    exact hnumbers.answer_known hposition
  · rintro earlier later id name rfl hid
    obtain ⟨hbefore, -⟩ := asked_numbers space earlier (room_of_append hroom)
    rw [hbefore.name?_eq] at hid
    rw [hnumbers.name?_eq]
    exact getElem?_grows (namesOf_grows earlier later) hid
  · intro name id
    rw [hnumbers.name?_eq, gave_iff hroom]
    exact ⟨hnumbers.ids name id, Iff.rfl⟩
  · intro id
    unfold resolve?
    cases hname : t.name? id with
    | none => rfl
    | some name =>
      have hfound := hsymbol id name hname
      simp [hfound, hspace]
  · intro a ha
    obtain ⟨hposition, haspace⟩ := ha.eq hroom
    refine ⟨?_, fun b hb => ha.same_iff hroom hb⟩
    unfold resolve?
    rw [hnumbers.name?_eq, hposition, hspace, ← haspace]
    rfl
  · intro hfull name hnew
    obtain ⟨hzero, first, hfirst, hname, hget, hsame⟩ := hnumbers.intern_full hfull hnew
    rw [hspace] at hsame
    exact ⟨hzero, first, hfirst, hname, hget, hsame⟩

/-- Requests for as many names, each longer than those before. -/
def longer (n : Nat) : List Request :=
  (List.range n).map fun i => .number (String.ofList (List.replicate i 'a'))

/-- The names of these requests are all different. -/
theorem namesOf_longer (n : Nat) :
    namesOf (longer n) = (List.range n).map fun i => String.ofList (List.replicate i 'a') := by
  have hnames : (longer n).map Request.name =
      (List.range n).map fun i => String.ofList (List.replicate i 'a') := by
    unfold longer
    rw [List.map_map]
    rfl
  rw [namesOf_eq_of_nodup, hnames]
  rw [hnames]
  refine List.nodup_range.map fun i j hij => ?_
  have hlength := congrArg String.length hij
  simpa using hlength

/-- The next longer name is not among them. -/
theorem not_mem_namesOf_longer (n : Nat) :
    String.ofList (List.replicate n 'a') ∉ namesOf (longer n) := by
  rw [namesOf_longer, List.mem_map]
  rintro ⟨i, hi, heq⟩
  have hlength := congrArg String.length heq
  simp only [String.length_ofList, List.length_replicate] at hlength
  rw [List.mem_range, hlength] at hi
  exact Nat.lt_irrefl n hi

/-- Of two names, one asked for twice, the second has the number 1. In a table of `2 ^ 32` names, the
first of them empty, one name more gets the number of the empty one. -/
theorem twoNames_numbered :
    (namesOf [.number "x", .symbol "y", .number "x"]).length ≤ 2 ^ 32 ∧
    (let t := (new none).asked [.number "x", .symbol "y", .number "x"]
    t.names.toList = ["x", "y"] ∧ t.get? "y" = some 1 ∧ t.symbol "y" = (⟨1, "y", none⟩, t)) ∧
    (namesOf (longer (2 ^ 32))).length ≤ 2 ^ 32 ∧
    let t := (new none).asked (longer (2 ^ 32))
    (t.intern (String.ofList (List.replicate (2 ^ 32) 'a'))).1 = 0 ∧ t.name? 0 = some "" := by
  have hnames : namesOf [.number "x", .symbol "y", .number "x"] = ["x", "y"] := by decide
  have hsmall : (namesOf [.number "x", .symbol "y", .number "x"]).length ≤ 2 ^ 32 := by
    rw [hnames]
    decide
  have hlength : (namesOf (longer (2 ^ 32))).length = 2 ^ 32 := by
    rw [namesOf_longer, List.length_map, List.length_range]
  refine ⟨hsmall, ?_, Nat.le_of_eq hlength, ?_⟩
  · obtain ⟨⟨hlist, -, -⟩, -, -, hiff, -, hsymbol, -, -⟩ :=
      interning_is_growing_bijection none [.number "x", .symbol "y", .number "x"] hsmall
    rw [hnames] at hlist
    have hname : ((new none).asked [.number "x", .symbol "y", .number "x"]).name? 1 = some "y" := by
      unfold name?
      rw [← Array.getElem?_toList, hlist]
      rfl
    exact ⟨hlist, (hiff "y" 1).1.2 hname, hsymbol 1 "y" hname⟩
  · obtain ⟨⟨hlist, -, -⟩, -, -, -, -, -, -, hfull⟩ :=
      interning_is_growing_bijection none (longer (2 ^ 32)) (Nat.le_of_eq hlength)
    obtain ⟨hzero, -⟩ := hfull hlength _ (not_mem_namesOf_longer _)
    refine ⟨hzero, ?_⟩
    unfold name?
    rw [← Array.getElem?_toList, hlist, namesOf_longer, List.getElem?_map,
      List.getElem?_range (by decide)]
    rfl

end SymbolTable

end ScopedBinding
