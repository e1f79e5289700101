import ScopedBinding.Namespace
import ScopedBinding.Proofs.Interning
import ScopedBinding.Proofs.Reachable

/-!
# Declared variables

A name space numbers the names that are declared in it, and keeps one variable for each of them
(`Namespace.Declares`). The first declaration of a name creates a variable, whose symbol has the
name with its number; any other finds the variable there. What happens meanwhile does not matter, as
long as the variables of the name space keep their symbols and kinds (`Store.Keeps`), and no program
can give a variable another symbol or kind (`Rules.deliver_keeps`).
-/

set_option autoImplicit false

namespace ScopedBinding

open Act (Leads)

/-! ## Tables with keys of their own -/

namespace Table

variable {κ α : Type} [DecidableEq κ]

/-- A new key is put at the end. -/
theorem entries_insert (t : Table κ α) {key : κ} (h : t.get? key = none) (value : α) :
    (t.insert key value).entries = t.entries ++ [(key, value)] := by
  obtain ⟨entries⟩ := t
  simp only [get?, Option.map_eq_none_iff] at h
  simp only [insert]
  induction entries with
  | nil => rfl
  | cons e rest ih =>
    obtain ⟨k, v⟩ := e
    by_cases hk : k = key
    · simp [hk] at h
    · simp only [List.find?_cons, hk, decide_false] at h
      simp only [insertIn, if_neg hk, ih h, List.cons_append]

/-- A value that is found is an entry. -/
theorem mem_of_get? {t : Table κ α} {key : κ} {value : α} (h : t.get? key = some value) :
    (key, value) ∈ t.entries := by
  obtain ⟨e, hfind, rfl⟩ := Option.map_eq_some_iff.1 h
  have hkey : e.1 = key := by simpa using List.find?_some hfind
  rw [← hkey]
  exact List.mem_of_find?_eq_some hfind

/-- Something is found under the key of an entry. -/
theorem get?_isSome {t : Table κ α} {key : κ} {value : α} (h : (key, value) ∈ t.entries) :
    ∃ found, t.get? key = some found := by
  cases hget : t.get? key with
  | some found => exact ⟨found, rfl⟩
  | none =>
    simp only [get?, Option.map_eq_none_iff, List.find?_eq_none] at hget
    exact absurd (hget (key, value) h) (by simp)

end Table

/-! ## Variables that are kept -/

/-- A variable is there or not as before, with the same symbol and of the same kind. -/
structure Store.SameVariable (s s' : Store) (c : CellId) : Prop where
  isSome : (s'.cell? c).isSome = (s.cell? c).isSome
  symbol : s'.symbol c = s.symbol c
  kind : s'.kind c = s.kind c

/-- Numbers of variables are not given out again, and the kept ones among those that were given out
stay the variables that they are. -/
structure Store.Keeps (kept : CellId → Prop) (s s' : Store) : Prop where
  issued : s.cellsIssued ≤ s'.cellsIssued
  same : ∀ c, kept c → c.index < s.cellsIssued → s.SameVariable s' c

namespace Store

variable {kept : CellId → Prop} {s s' s'' : Store}

/-- A variable whose cell is as before stays the variable that it is. -/
theorem SameVariable.of_cell? {c : CellId} (h : s'.cell? c = s.cell? c) : s.SameVariable s' c := by
  constructor
  · rw [h]
  · unfold Store.symbol
    rw [h]
  · unfold Store.kind
    rw [h]

/-- Opening a frame changes no symbol. -/
theorem symbol_push (s : Store) (t : ThreadId) (c d : CellId) :
    (s.push t c).2.symbol d = s.symbol d := by
  cases hk : s.kind c with
  | root =>
    rw [push_of_root hk t]
    exact s.issueFrame.2.symbol_updateCell c d fun _ => rfl
  | dynamic =>
    rw [push_of_dynamic hk]
    rfl

/-- A change that opens and closes no frame changes no symbol. -/
theorem Revises.symbol (h : s.Revises s') (d : CellId) : s'.symbol d = s.symbol d := by
  cases h with
  | write t c v =>
    unfold Store.write
    split
    · rfl
    · exact s.symbol_updateCell c d fun _ => rfl
  | setRoot c v => exact s.symbol_updateCell c d fun _ => rfl
  | watch c key w => exact s.symbol_updateCell c d fun _ => rfl
  | unwatch c key => exact s.symbol_updateCell c d fun _ => rfl
  | issueFrame => rfl
  | lock c => exact s.symbol_updateCell c d fun _ => rfl
  | unlock c => exact s.symbol_updateCell c d fun _ => rfl

/-- A new variable is there. -/
theorem isSome_create (s : Store) (symbol : Symbol) (kind : CellKind) (init : Value) :
    ((s.create symbol kind init).2.cell? ⟨s.cellsIssued⟩).isSome = true := by
  rw [cell?_create, if_pos rfl]
  rfl

/-- A new variable has the symbol that it was created with. -/
theorem symbol_create (s : Store) (symbol : Symbol) (kind : CellKind) (init : Value) :
    (s.create symbol kind init).2.symbol ⟨s.cellsIssued⟩ = symbol := by
  unfold Store.symbol
  rw [cell?_create, if_pos rfl]
  rfl

/-- A new variable is of the kind that it was created with. -/
theorem kind_create (s : Store) (symbol : Symbol) (kind : CellKind) (init : Value) :
    (s.create symbol kind init).2.kind ⟨s.cellsIssued⟩ = kind := by
  unfold Store.kind
  rw [cell?_create, if_pos rfl]
  cases kind <;> rfl

namespace Keeps

/-- Nothing is lost where nothing is done. -/
theorem refl (s : Store) : s.Keeps kept s where
  issued := Nat.le_refl _
  same _ _ _ := ⟨rfl, rfl, rfl⟩

/-- What was kept twice was kept. -/
theorem trans (h : s.Keeps kept s') (h' : s'.Keeps kept s'') : s.Keeps kept s'' where
  issued := Nat.le_trans h.issued h'.issued
  same c hc hlt := by
    have hfirst := h.same c hc hlt
    have hsecond := h'.same c hc (Nat.lt_of_lt_of_le hlt h.issued)
    constructor
    · rw [hsecond.isSome, hfirst.isSome]
    · rw [hsecond.symbol, hfirst.symbol]
    · rw [hsecond.kind, hfirst.kind]

/-- Changes that open and close no frame keep all variables. -/
theorem revised (h : s.Revises s') : s.Keeps kept s' where
  issued := Nat.le_of_eq h.cellsIssued.symm
  same c _ _ := ⟨h.isSome c, h.symbol c, h.keepsStacks.kind c⟩

/-- Opening a frame keeps all variables. -/
theorem pushed (s : Store) (t : ThreadId) (c : CellId) : s.Keeps kept (s.push t c).2 where
  issued := Nat.le_of_eq (s.cellsIssued_push t c).symm
  same d _ _ := ⟨s.isSome_push t c d, s.symbol_push t c d, s.kind_push t c d⟩

/-- Closing a frame keeps all variables. -/
theorem popped {t : ThreadId} {c : CellId} {f : FrameId} {r : Replaced}
    (h : s.pop t c f = .ok (r, s')) : s.Keeps kept s' where
  issued := Nat.le_of_eq (cellsIssued_pop h).symm
  same d _ _ := ⟨isSome_pop h d, symbol_pop h d, kind_pop h d⟩

/-- A new variable takes the number of no other one. -/
theorem created (s : Store) (symbol : Symbol) (kind : CellKind) (init : Value) :
    s.Keeps kept (s.create symbol kind init).2 where
  issued := Nat.le_succ _
  same c _ hlt := by
    apply SameVariable.of_cell?
    rw [cell?_create, if_neg]
    rintro rfl
    exact absurd hlt (Nat.lt_irrefl _)

/-- A variable that is not among the kept ones may go. -/
theorem destroyed (s : Store) (t : ThreadId) {c : CellId} (hc : ¬kept c) :
    s.Keeps kept (s.destroy t c) where
  issued := Nat.le_refl _
  same d hd _ := by
    apply SameVariable.of_cell?
    rw [cell?_destroy, if_neg]
    rintro rfl
    exact hc hd

/-- The end of a thread keeps all variables. -/
theorem ended (s : Store) (t : ThreadId) : s.Keeps kept (s.endThread t) where
  issued := Nat.le_refl _
  same _ _ _ := .of_cell? rfl

end Keeps

end Store

/-- The kept variables of a world stay the variables that they are. -/
def World.Keeps {η ε : Type} (kept : CellId → Prop) (w w' : World η ε) : Prop :=
  w.store.Keeps kept w'.store

/-- Keeping variables is a relation for which it does not matter what notes say. -/
theorem World.Keeps.revising {η ε : Type} (kept : CellId → Prop) :
    Revising (World.Keeps kept : World η ε → World η ε → Prop) where
  refl w := .refl w.store
  trans h h' := Store.Keeps.trans h h'
  settings w _ := .refl w.store
  note w _ _ := .refl w.store
  store _ _ hs := .revised hs

/-- Programs keep every variable, and so do watches that are programs. -/
theorem Rules.deliver_keeps {υ ε : Type} (kept : CellId → Prop) (rules : Rules υ ε) (depth : Nat)
    (w : WatchId) (e : Event) : Leads (World.Keeps kept) (rules.deliver depth w e) := by
  have hR : Revising (World.Keeps kept : World (Hands υ) ε → World (Hands υ) ε → Prop) :=
    World.Keeps.revising kept
  refine rules.deliver_leads_to hR.toPlain (fun deliver hd => ?_) depth w e
  apply hR.stepwise _ _ _ hd
  · exact fun w _ => .refl w.store
  · exact fun w t c => .pushed w.store t c
  · exact fun _ _ _ _ _ _ hpop => .popped hpop

/-! ## What a call does -/

namespace Namespace

variable {η ε : Type} {deliver : Delivery η ε} {ns : Namespace} {name : String} {c : CellId}

/-- A name space with a name that is numbered if it is new. -/
def interned (ns : Namespace) (name : String) : Namespace :=
  { ns with symbols := (ns.symbols.symbol name).2 }

/-- A name space with a variable for a name. -/
def adding (ns : Namespace) (name : String) (c : CellId) : Namespace :=
  { ns.interned name with vars := ns.vars.insert (ns.symbols.symbol name).1.id c }

/-- A declaration of a name that has a variable sets its root if the kind is right, and is a
conflict otherwise. -/
theorem declare_of_some (h : ns.vars.get? (ns.symbols.symbol name).1.id = some c)
    (deliver : Delivery η ε) (kind : CellKind) (init : Value) (ctx : Context) (w : World η ε) :
    ns.declare deliver kind name init ctx w =
      if w.store.kind c = kind then
        (do redeclare deliver kind c init; pure (.ok c, ns.interned name) :
          Act η ε (Except Fault CellId × Namespace)) ctx w
      else
        (.done (.error (.conflict (ns.symbols.symbol name).1.display (w.store.kind c) kind),
          ns.interned name), w) := by
  unfold declare
  dsimp only
  rw [h]
  show (if w.store.kind c = kind then _ else _ :
    Act η ε (Except Fault CellId × Namespace)) ctx w = _
  split <;> rfl

/-- A declaration of a name that has no variable creates one. -/
theorem declare_of_none (h : ns.vars.get? (ns.symbols.symbol name).1.id = none)
    (deliver : Delivery η ε) (kind : CellKind) (init : Value) (ctx : Context) (w : World η ε) :
    ns.declare deliver kind name init ctx w =
      (.done (.ok ⟨w.store.cellsIssued⟩, ns.adding name ⟨w.store.cellsIssued⟩),
        { w with
          store := (w.store.create (ns.symbols.symbol name).1 kind init).2
          journal := .logged ⟨.debug, source, kind.declarator,
            [("symbol", (ns.symbols.symbol name).1.display)]⟩ :: w.journal }) := by
  unfold declare
  dsimp only
  rw [h]
  rfl

/-- The root of a variable that nobody can have bound is what a write sets. -/
theorem redeclare_of_wellFormed {w : World η ε} (hw : w.store.WellFormed) (c : CellId)
    (init : Value) (ctx : Context) :
    redeclare deliver (w.store.kind c) c init ctx w = c.setRoot deliver init ctx w := by
  unfold redeclare
  cases hk : w.store.kind c with
  | dynamic => rfl
  | root =>
    have hwrite : w.store.write ctx.thread c init = w.store.setRoot c init := by
      unfold Store.write
      rw [(hw c).unbound ctx.thread hk]
    show c.announce deliver .write (w.store.write ctx.thread c init).1 ctx
      { w with store := (w.store.write ctx.thread c init).2 } = _
    rw [hwrite]
    rfl

section Leads

variable {R : World η ε → World η ε → Prop}

/-- Declaring a name again leads where setting variables leads. -/
theorem redeclare_leads (h : Altering deliver R) (kind : CellKind) (c : CellId) (init : Value) :
    Leads R (redeclare deliver kind c init) := by
  cases kind with
  | dynamic => exact h.setRoot c init
  | root => exact h.write c init

/-- Setting a variable by its name leads where setting variables leads. -/
theorem write_leads (h : Altering deliver R) (ns : Namespace) (name : String) (v : Value) :
    Leads R (ns.write deliver name v) := by
  unfold write
  split
  · exact .bind h.toCalm (h.write _ v) fun _ => .pure h.toCalm _
  · exact .pure h.toCalm _

/-- A read changes nothing. -/
theorem read_world (ns : Namespace) (name : String) (ctx : Context) (w : World η ε) :
    (ns.read name ctx w).2 = w := by
  unfold read
  cases ns.resolve? name <;> rfl

end Leads

/-! ## The names and variables of a name space -/

/-- The symbols of names by their positions. -/
def symbolsOf (space : String) (names : List String) : List Symbol :=
  names.zipIdx.map fun e => ⟨.ofNat e.2, e.1, some space⟩

variable {space : String} {names : List String} {s s' : Store}

/-- One more name has one more symbol, by its position. -/
theorem symbolsOf_concat (space : String) (names : List String) (name : String) :
    symbolsOf space (names ++ [name]) =
      symbolsOf space names ++ [⟨.ofNat names.length, name, some space⟩] := by
  simp [symbolsOf, List.zipIdx_append]

/-- The symbols of names have these names. -/
theorem map_name_symbolsOf (space : String) (names : List String) :
    (symbolsOf space names).map Symbol.name = names := by
  simp only [symbolsOf, List.map_map]
  exact List.zipIdx_map_fst 0 names

/-- A symbol of some names is that of a name at some position. -/
theorem exists_of_mem_symbolsOf {symbol : Symbol} (h : symbol ∈ symbolsOf space names) :
    ∃ i, names[i]? = some symbol.name ∧ symbol = ⟨.ofNat i, symbol.name, some space⟩ := by
  obtain ⟨⟨name, i⟩, he, rfl⟩ := List.mem_map.1 h
  exact ⟨i, by simpa using List.mem_zipIdx_iff_getElem?.1 he, rfl⟩

/-- The name space numbers these names and has a variable for each of them, in their order. -/
structure Declares (ns : Namespace) (space : String) (names : List String) (s : Store) : Prop where
  numbers : ns.symbols.Numbers names
  named : ns.symbols.space = some space
  /-- Every variable is found by the number of its symbol. -/
  keyed : ∀ e ∈ ns.vars.entries, e.1 = (s.symbol e.2).id
  symbols : ns.cells.map s.symbol = symbolsOf space names
  /-- Every variable is there. -/
  present : ∀ c ∈ ns.cells, c.index < s.cellsIssued ∧ (s.cell? c).isSome = true

/-- The variables of a name space are the ones that its numbers lead to. -/
theorem mem_cells : c ∈ ns.cells ↔ ∃ id, (id, c) ∈ ns.vars.entries := by
  simp [cells, Table.values]

namespace Declares

/-- A new name space has no name. -/
theorem new (space : String) (s : Store) : (Namespace.new space).Declares space [] s where
  numbers := .new _
  named := rfl
  keyed _ := nofun
  symbols := rfl
  present _ := nofun

/-- No two variables of a name space have the same symbol. -/
theorem symbols_nodup (h : ns.Declares space names s) : (ns.cells.map s.symbol).Nodup := by
  rw [h.symbols]
  apply List.Nodup.of_map Symbol.name
  rw [map_name_symbolsOf]
  exact h.numbers.nodup

/-- No variable is listed twice. -/
theorem cells_nodup (h : ns.Declares space names s) : ns.cells.Nodup :=
  h.symbols_nodup.of_map

/-- A variable is known by its symbol. -/
theorem symbol_inj (h : ns.Declares space names s) {d : CellId} (hc : c ∈ ns.cells)
    (hd : d ∈ ns.cells) (hsame : s.symbol c = s.symbol d) : c = d :=
  List.inj_on_of_nodup_map h.symbols_nodup hc hd hsame

/-- The symbol of a variable is the one that its name has in the name space. -/
theorem symbol_eq (h : ns.Declares space names s) (hc : c ∈ ns.cells) :
    ∃ i, names[i]? = some (s.symbol c).name ∧
      s.symbol c = ⟨.ofNat i, (s.symbol c).name, some space⟩ := by
  apply exists_of_mem_symbolsOf
  rw [← h.symbols]
  exact List.mem_map_of_mem hc

/-- The names of the variables are the names that were declared. -/
theorem names_eq (h : ns.Declares space names s) :
    ns.cells.map (fun c => (s.symbol c).name) = names := by
  have hnames := congrArg (List.map Symbol.name) h.symbols
  rwa [map_name_symbolsOf, List.map_map] at hnames

/-- A variable is found by the number of its symbol, and nothing else is found by it. -/
theorem get?_iff (h : ns.Declares space names s) {id : UInt32} :
    ns.vars.get? id = some c ↔ c ∈ ns.cells ∧ (s.symbol c).id = id := by
  constructor
  · intro hget
    have hmem := Table.mem_of_get? hget
    exact ⟨mem_cells.2 ⟨id, hmem⟩, (h.keyed _ hmem).symm⟩
  · rintro ⟨hc, rfl⟩
    obtain ⟨id, hmem⟩ := mem_cells.1 hc
    have hid : id = (s.symbol c).id := h.keyed _ hmem
    subst hid
    obtain ⟨d, hget⟩ := Table.get?_isSome hmem
    have hmem' := Table.mem_of_get? hget
    have hd : d ∈ ns.cells := mem_cells.2 ⟨_, hmem'⟩
    -- Two symbols with one number are the symbol at one position.
    obtain ⟨i, hi, hci⟩ := h.symbol_eq hc
    obtain ⟨j, hj, hdj⟩ := h.symbol_eq hd
    have hids : (s.symbol c).id = (s.symbol d).id := h.keyed _ hmem'
    have hij : i = j := by
      rw [hci, hdj] at hids
      have hnat := congrArg UInt32.toNat hids
      rwa [h.numbers.toNat_ofNat (List.getElem?_eq_some_iff.1 hi).1,
        h.numbers.toNat_ofNat (List.getElem?_eq_some_iff.1 hj).1] at hnat
    subst hij
    have hnames := Option.some.inj (hi.symm.trans hj)
    have hsymbols : s.symbol c = s.symbol d := by
      rw [hci, hdj, hnames]
    rw [hget, h.symbol_inj hc hd hsymbols]

/-- The variable of a name is the one whose symbol has the name. -/
theorem resolve?_iff (h : ns.Declares space names s) :
    ns.resolve? name = some c ↔ c ∈ ns.cells ∧ (s.symbol c).name = name := by
  unfold resolve?
  simp only [bind, Option.bind_eq_some_iff]
  constructor
  · rintro ⟨id, hid, hget⟩
    obtain ⟨hc, rfl⟩ := h.get?_iff.1 hget
    obtain ⟨i, hi, hci⟩ := h.symbol_eq hc
    have hname := (h.numbers.ids name _).1 hid
    rw [hci, h.numbers.toNat_ofNat (List.getElem?_eq_some_iff.1 hi).1, hi] at hname
    exact ⟨hc, Option.some.inj hname⟩
  · rintro ⟨hc, rfl⟩
    obtain ⟨i, hi, hci⟩ := h.symbol_eq hc
    refine ⟨(s.symbol c).id, ?_, h.get?_iff.2 ⟨hc, rfl⟩⟩
    rw [h.numbers.get?_of_getElem? hi, hci]

/-- Exactly the names that were declared have a variable. -/
theorem resolve?_isSome (h : ns.Declares space names s) :
    (ns.resolve? name).isSome = true ↔ name ∈ names := by
  rw [Option.isSome_iff_exists, ← h.names_eq, List.mem_map]
  simp only [h.resolve?_iff]

/-- The name space stays as it is while its variables are kept. -/
theorem keeps (h : ns.Declares space names s) {kept : CellId → Prop} (hs : s.Keeps kept s')
    (hkept : ∀ c ∈ ns.cells, kept c) : ns.Declares space names s' := by
  have hsame : ∀ c ∈ ns.cells, s.SameVariable s' c := fun c hc =>
    hs.same c (hkept c hc) (h.present c hc).1
  refine ⟨h.numbers, h.named, ?_, ?_, ?_⟩
  · intro e he
    rw [(hsame e.2 (mem_cells.2 ⟨e.1, he⟩)).symbol]
    exact h.keyed e he
  · rw [← h.symbols]
    exact List.map_congr_left fun c hc => (hsame c hc).symbol
  · intro c hc
    obtain ⟨hlt, hsome⟩ := h.present c hc
    rw [(hsame c hc).isSome]
    exact ⟨Nat.lt_of_lt_of_le hlt hs.issued, hsome⟩

/-- A name that has a variable is interned already. -/
theorem symbol_of_resolve? (h : ns.Declares space names s) (hc : ns.resolve? name = some c) :
    ns.symbols.symbol name = (s.symbol c, ns.symbols) := by
  obtain ⟨hmem, rfl⟩ := h.resolve?_iff.1 hc
  obtain ⟨i, hi, hci⟩ := h.symbol_eq hmem
  have hid : names[(UInt32.ofNat i).toNat]? = some (s.symbol c).name := by
    rw [h.numbers.toNat_ofNat (List.getElem?_eq_some_iff.1 hi).1]
    exact hi
  rw [h.numbers.symbol_known hid, h.named, ← hci]

/-- Interning a name that has a variable changes nothing. -/
theorem interned_of_resolve? (h : ns.Declares space names s) (hc : ns.resolve? name = some c) :
    ns.interned name = ns := by
  unfold interned
  rw [h.symbol_of_resolve? hc]

/-- A further declaration of a name sets the root of its variable if the kind is that of the
variable, and is a conflict otherwise; the name space stays as it is. -/
theorem declare_known {w : World η ε} (h : ns.Declares space names w.store)
    (hc : ns.resolve? name = some c) (kind : CellKind) (init : Value) (ctx : Context) :
    ns.declare deliver kind name init ctx w =
      if w.store.kind c = kind then
        (do redeclare deliver kind c init; pure (.ok c, ns) :
          Act η ε (Except Fault CellId × Namespace)) ctx w
      else
        (.done (.error (.conflict (w.store.symbol c).display (w.store.kind c) kind), ns), w) := by
  have hsymbol := h.symbol_of_resolve? hc
  have hget : ns.vars.get? (ns.symbols.symbol name).1.id = some c := by
    rw [hsymbol]
    exact h.get?_iff.2 ⟨(h.resolve?_iff.1 hc).1, rfl⟩
  rw [declare_of_some hget, h.interned_of_resolve? hc, hsymbol]

/-- The symbol of a new name. -/
theorem symbol_of_new (h : ns.Declares space names s) (hnew : name ∉ names)
    (hroom : names.length < 2 ^ 32) :
    ns.symbols.symbol name =
      (⟨.ofNat names.length, name, some space⟩, (ns.symbols.intern name).2) := by
  rw [h.numbers.symbol_new hnew hroom, h.named]

/-- No variable has the number of a new name. -/
theorem get?_of_new (h : ns.Declares space names s) (hnew : name ∉ names)
    (hroom : names.length < 2 ^ 32) : ns.vars.get? (ns.symbols.symbol name).1.id = none := by
  rw [h.symbol_of_new hnew hroom]
  cases hget : ns.vars.get? (.ofNat names.length) with
  | none => rfl
  | some c =>
    obtain ⟨hc, hid⟩ := h.get?_iff.1 hget
    obtain ⟨i, hi, hci⟩ := h.symbol_eq hc
    have hlt := (List.getElem?_eq_some_iff.1 hi).1
    rw [hci] at hid
    have hnat := congrArg UInt32.toNat hid
    rw [h.numbers.toNat_ofNat hlt] at hnat
    simp only [UInt32.toNat_ofNat'] at hnat
    omega

/-- With the variable of a new name the name space has one name more. -/
theorem insert_new (h : ns.Declares space names s) (hnew : name ∉ names)
    (hroom : names.length < 2 ^ 32) (kind : CellKind) (init : Value) :
    (ns.adding name ⟨s.cellsIssued⟩).Declares space (names ++ [name])
      (s.create (ns.symbols.symbol name).1 kind init).2 := by
  have hsymbol := h.symbol_of_new hnew hroom
  have hentries := ns.vars.entries_insert (h.get?_of_new hnew hroom) ⟨s.cellsIssued⟩
  have hkeeps := h.keeps (Store.Keeps.created s (ns.symbols.symbol name).1 kind init)
    fun _ _ => (trivial : (fun _ => True) _)
  have hat := s.symbol_create (ns.symbols.symbol name).1 kind init
  have hcells : (ns.adding name ⟨s.cellsIssued⟩).cells = ns.cells ++ [⟨s.cellsIssued⟩] := by
    unfold cells adding Table.values
    rw [hentries, List.map_append]
    rfl
  constructor
  · show (ns.symbols.symbol name).2.Numbers (names ++ [name])
    rw [hsymbol]
    exact h.numbers.numbers_intern hnew hroom
  · show (ns.symbols.symbol name).2.space = some space
    rw [hsymbol, h.numbers.intern_new hnew]
    exact h.named
  · intro e he
    unfold adding at he
    rw [hentries] at he
    rcases List.mem_append.1 he with he | he
    · exact hkeeps.keyed e he
    · rw [List.mem_singleton.1 he, hat]
  · rw [hcells, List.map_append, symbolsOf_concat, ← hkeeps.symbols, List.map_singleton, hat,
      hsymbol]
  · intro c hc
    rw [hcells] at hc
    rcases List.mem_append.1 hc with hc | hc
    · exact hkeeps.present c hc
    · rw [List.mem_singleton.1 hc, Store.isSome_create]
      exact ⟨Nat.lt_succ_self _, rfl⟩

end Declares

end Namespace

end ScopedBinding
