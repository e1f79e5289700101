import ScopedBinding.Proofs.Declarations

/-!
# Declarations are permanent

A sequence of calls on a name space (`Namespace.Reaches`) declares names, writes and reads variables
by their names, and leaves room for whatever else happens to the variables meanwhile. Calls that are
rejected, and calls that a watch unwinds, are among them. At every moment the name space has one
variable for each name that was declared, and every call so far has told the truth about it
(`Namespace.Records`).
-/

set_option autoImplicit false

namespace ScopedBinding

open Act (Leads)

namespace Namespace

/-! ## Sequences of calls -/

/-- A call that declares a variable, with its answer. There is none if a watch unwound the call. -/
structure Declaration where
  kind : CellKind
  name : String
  answer : Option (Except Fault CellId)

/-- Whether a call was not rejected. -/
def Declaration.accepted (d : Declaration) : Bool :=
  match d.answer with
  | some (.error _) => false
  | _ => true

/-- The declared names in the order of their first declarations. -/
def declaredNames (calls : List Declaration) : List String :=
  ((calls.filter Declaration.accepted).map Declaration.name).eraseDups

/-- A sequence of calls leads from one name space and world to another. The kept variables are those
that somebody holds; a name space holds its own. A declaration that is unwound has interned its
name. The calls that only look at the name space, and at the store, lead nowhere. -/
inductive Reaches {η ε : Type} (deliver : Delivery η ε) (kept : CellId → Prop) (ns₀ : Namespace)
    (w₀ : World η ε) : List Declaration → Namespace → World η ε → Prop
  | start : Reaches deliver kept ns₀ w₀ [] ns₀ w₀
  | declared {calls ns w ns' w'} (h : Reaches deliver kept ns₀ w₀ calls ns w) {kind : CellKind}
      {name : String} {init : Value} {ctx : Context} {answer : Except Fault CellId}
      (hcall : ns.declare deliver kind name init ctx w = (.done (answer, ns'), w'))
      (hkept : ∀ c, answer = .ok c → kept c) :
      Reaches deliver kept ns₀ w₀ (calls ++ [⟨kind, name, some answer⟩]) ns' w'
  | unwound {calls ns w w'} (h : Reaches deliver kept ns₀ w₀ calls ns w) {kind : CellKind}
      {name : String} {init : Value} {ctx : Context} {message : String}
      (hcall : ns.declare deliver kind name init ctx w = (.panicked message, w')) :
      Reaches deliver kept ns₀ w₀ (calls ++ [⟨kind, name, none⟩]) (ns.interned name) w'
  | written {calls ns w} (h : Reaches deliver kept ns₀ w₀ calls ns w) (name : String) (v : Value)
      (ctx : Context) : Reaches deliver kept ns₀ w₀ calls ns (ns.write deliver name v ctx w).2
  | read {calls ns w} (h : Reaches deliver kept ns₀ w₀ calls ns w) (name : String) (ctx : Context) :
      Reaches deliver kept ns₀ w₀ calls ns (ns.read name ctx w).2
  | meanwhile {calls ns w w'} (h : Reaches deliver kept ns₀ w₀ calls ns w)
      (hs : World.Keeps kept w w') : Reaches deliver kept ns₀ w₀ calls ns w'

/-- The declared names are those of the calls that were accepted. -/
theorem mem_declaredNames {calls : List Declaration} {name : String} :
    name ∈ declaredNames calls ↔ ∃ d ∈ calls, d.accepted = true ∧ d.name = name := by
  simp [declaredNames, List.mem_eraseDups, and_assoc]

/-- A call that was not rejected adds its name if it is new. -/
theorem declaredNames_concat (calls : List Declaration) (d : Declaration) :
    declaredNames (calls ++ [d]) =
      if d.accepted = true ∧ d.name ∉ declaredNames calls then declaredNames calls ++ [d.name]
      else declaredNames calls := by
  have hmem : d.name ∈ declaredNames calls ↔ d.name ∈ (calls.filter Declaration.accepted).map
      Declaration.name := List.mem_eraseDups
  simp only [hmem]
  unfold declaredNames
  rw [List.filter_append]
  by_cases ha : d.accepted = true
  · rw [List.filter_cons_of_pos ha, List.filter_nil, List.map_append, List.map_singleton,
      eraseDups_concat]
    by_cases hname : d.name ∈ (calls.filter Declaration.accepted).map Declaration.name
    · rw [if_pos hname, if_neg fun h => h.2 hname]
    · rw [if_neg hname, if_pos ⟨ha, hname⟩]
  · rw [List.filter_cons_of_neg ha, List.filter_nil, List.append_nil, if_neg fun h => ha h.1]

/-- Later calls take no declared name away. -/
theorem length_declaredNames_le (calls later : List Declaration) :
    (declaredNames calls).length ≤ (declaredNames (calls ++ later)).length := by
  unfold declaredNames
  rw [List.filter_append, List.map_append, List.eraseDups_append, List.length_append]
  omega

section Reaches

variable {η ε : Type} {deliver : Delivery η ε} {kept : CellId → Prop} {ns₀ ns ns' : Namespace}
  {w₀ w w' : World η ε} {calls later : List Declaration}

/-- A declaration keeps the variables that are kept, whatever it does and however it ends. -/
theorem declare_keeps (hd : ∀ w e, Leads (World.Keeps kept) (deliver w e)) (ns : Namespace)
    (kind : CellKind) (name : String) (init : Value) :
    Leads (World.Keeps kept) (ns.declare deliver kind name init) := by
  intro ctx w
  have hR : Revising (World.Keeps kept : World η ε → World η ε → Prop) := World.Keeps.revising kept
  cases hc : ns.vars.get? (ns.symbols.symbol name).1.id with
  | none =>
    rw [declare_of_none hc]
    exact Store.Keeps.created w.store _ kind init
  | some c =>
    rw [declare_of_some hc]
    split
    · exact Leads.bind hR.toPlain (redeclare_leads (hR.altering hd) kind c init)
        (fun _ => .pure hR.toPlain _) ctx w
    · exact hR.refl w

/-- A declaration takes no variable out of the name space. -/
theorem cells_subset_declare {kind : CellKind} {name : String} {init : Value} {ctx : Context}
    {answer : Except Fault CellId}
    (hcall : ns.declare deliver kind name init ctx w = (.done (answer, ns'), w')) :
    ns.cells ⊆ ns'.cells := by
  cases hc : ns.vars.get? (ns.symbols.symbol name).1.id with
  | none =>
    rw [declare_of_none hc] at hcall
    cases hcall
    unfold cells adding Table.values
    rw [ns.vars.entries_insert hc, List.map_append]
    exact List.subset_append_left _ _
  | some c =>
    rw [declare_of_some hc] at hcall
    split at hcall
    · obtain ⟨-, v, -, hpure⟩ := Act.done_of_bind hcall
      cases hpure
      exact List.Subset.refl _
    · cases hcall
      exact List.Subset.refl _

namespace Reaches

/-- One sequence of calls after another. -/
theorem trans (h : Reaches deliver kept ns₀ w₀ calls ns w)
    (h' : Reaches deliver kept ns w later ns' w') :
    Reaches deliver kept ns₀ w₀ (calls ++ later) ns' w' := by
  induction h' with
  | start =>
    rw [List.append_nil]
    exact h
  | declared _ hcall hkept ih =>
    rw [← List.append_assoc]
    exact ih.declared hcall hkept
  | unwound _ hcall ih =>
    rw [← List.append_assoc]
    exact ih.unwound hcall
  | written _ name v ctx ih => exact ih.written name v ctx
  | read _ name ctx ih => exact ih.read name ctx
  | meanwhile _ hs ih => exact ih.meanwhile hs

/-- Calls to a name space keep the variables that are to be kept. -/
theorem keeps (hd : ∀ w e, Leads (World.Keeps kept) (deliver w e))
    (h : Reaches deliver kept ns₀ w₀ calls ns w) : World.Keeps kept w₀ w := by
  have hR : Revising (World.Keeps kept : World η ε → World η ε → Prop) := World.Keeps.revising kept
  induction h with
  | start => exact hR.refl w₀
  | @declared _ ns w _ _ _ kind name init ctx _ hcall _ ih =>
    have hstep := declare_keeps hd ns kind name init ctx w
    rw [hcall] at hstep
    exact hR.trans ih hstep
  | @unwound _ ns w _ _ kind name init ctx _ hcall ih =>
    have hstep := declare_keeps hd ns kind name init ctx w
    rw [hcall] at hstep
    exact hR.trans ih hstep
  | @written _ ns w _ name v ctx ih =>
    exact hR.trans ih (write_leads (hR.altering hd) ns name v ctx w)
  | read _ name ctx ih =>
    rw [read_world]
    exact ih
  | meanwhile _ hs ih => exact hR.trans ih hs

/-- Calls to a name space take no variable out of it. -/
theorem cells_subset (h : Reaches deliver kept ns₀ w₀ calls ns w) : ns₀.cells ⊆ ns.cells := by
  induction h with
  | start => exact List.Subset.refl _
  | declared _ hcall _ ih => exact List.Subset.trans ih (cells_subset_declare hcall)
  | unwound _ _ ih => exact ih
  | written _ _ _ _ ih => exact ih
  | read _ _ _ ih => exact ih
  | meanwhile _ _ ih => exact ih

end Reaches

end Reaches

/-! ## What the calls so far tell -/

/-- The call told the truth of the variable of its name: that it is of the declared kind, or that it
is not. -/
def Declaration.Answered (d : Declaration) (s : Store) (c : CellId) : Prop :=
  match d.answer with
  | none => s.kind c = d.kind
  | some (.ok found) => found = c ∧ s.kind c = d.kind
  | some (.error fault) =>
    s.kind c ≠ d.kind ∧ fault = .conflict (s.symbol c).display (s.kind c) d.kind

/-- A call is accepted if the variable of its name is of the declared kind. -/
theorem Declaration.Answered.accepted_iff {d : Declaration} {s : Store} {c : CellId}
    (h : d.Answered s c) : d.accepted = true ↔ s.kind c = d.kind := by
  obtain ⟨kind, name, _ | fault | found⟩ := d
  · exact ⟨fun _ => h, fun _ => rfl⟩
  · exact ⟨nofun, fun hkind => absurd hkind h.1⟩
  · exact ⟨fun _ => h.2, fun _ => rfl⟩

/-- What a call told stays true while the variable keeps its kind and its symbol. -/
theorem Declaration.Answered.same {d : Declaration} {s s' : Store} {c : CellId}
    (h : d.Answered s c) (hs : s.SameVariable s' c) : d.Answered s' c := by
  unfold Answered at h ⊢
  rw [hs.kind, hs.symbol]
  exact h

/-- The name space declares the names of the calls so far, all its variables are kept, and every
call told the truth of the variable of its name. -/
structure Records (ns : Namespace) (space : String) (kept : CellId → Prop)
    (calls : List Declaration) (s : Store) : Prop extends
    ns.Declares space (declaredNames calls) s where
  kept : ∀ c ∈ ns.cells, kept c
  answered : ∀ d ∈ calls, ∃ c, ns.resolve? d.name = some c ∧ d.Answered s c

namespace Records

variable {ns : Namespace} {space : String} {kept : CellId → Prop} {calls : List Declaration}
  {s s' : Store}

/-- Before the first call there is nothing on record. -/
theorem new (space : String) (kept : CellId → Prop) (s : Store) :
    (Namespace.new space).Records space kept [] s where
  toDeclares := .new space s
  kept _ := nofun
  answered _ := nofun

/-- The variables of the name space are kept. -/
theorem same (h : ns.Records space kept calls s) (hs : s.Keeps kept s') {c : CellId}
    (hc : c ∈ ns.cells) : s.SameVariable s' c :=
  hs.same c (h.kept c hc) (h.present c hc).1

/-- The records stay right while the variables are kept. -/
theorem keeps (h : ns.Records space kept calls s) (hs : s.Keeps kept s') :
    ns.Records space kept calls s' where
  toDeclares := h.toDeclares.keeps hs h.kept
  kept := h.kept
  answered d hd := by
    obtain ⟨c, hc, hanswer⟩ := h.answered d hd
    exact ⟨c, hc, hanswer.same (h.same hs (h.resolve?_iff.1 hc).1)⟩

/-- A further call for a name that has a variable. -/
theorem again (h : ns.Records space kept calls s) {d : Declaration} {c : CellId}
    (hc : ns.resolve? d.name = some c) (hanswer : d.Answered s c) :
    ns.Records space kept (calls ++ [d]) s where
  toDeclares := by
    have hmem : d.name ∈ declaredNames calls := by
      rw [← h.resolve?_isSome, hc]
      rfl
    rw [declaredNames_concat, if_neg fun hnew => hnew.2 hmem]
    exact h.toDeclares
  kept := h.kept
  answered e he := by
    rcases List.mem_append.1 he with he | he
    · exact h.answered e he
    · rw [List.mem_singleton.1 he]
      exact ⟨c, hc, hanswer⟩

/-- The first call for a name. -/
theorem first (h : ns.Records space kept calls s) {name : String}
    (hnew : name ∉ declaredNames calls) (hroom : (declaredNames calls).length < 2 ^ 32)
    (kind : CellKind) (init : Value)
    (hkept : kept ⟨s.cellsIssued⟩) :
    (ns.adding name ⟨s.cellsIssued⟩).Records space kept
      (calls ++ [⟨kind, name, some (.ok ⟨s.cellsIssued⟩)⟩])
      (s.create (ns.symbols.symbol name).1 kind init).2 := by
  have hdeclares := h.insert_new hnew hroom kind init
  have hkeeps := h.keeps (.created s (ns.symbols.symbol name).1 kind init)
  have hcells : (ns.adding name ⟨s.cellsIssued⟩).cells = ns.cells ++ [⟨s.cellsIssued⟩] := by
    unfold cells adding Table.values
    rw [ns.vars.entries_insert (h.get?_of_new hnew hroom), List.map_append]
    rfl
  constructor
  · rw [declaredNames_concat, if_pos ⟨rfl, hnew⟩]
    exact hdeclares
  · intro c hc
    rw [hcells] at hc
    rcases List.mem_append.1 hc with hc | hc
    · exact h.kept c hc
    · rw [List.mem_singleton.1 hc]
      exact hkept
  · intro d hd
    rcases List.mem_append.1 hd with hd | hd
    · obtain ⟨c, hc, hanswer⟩ := hkeeps.answered d hd
      refine ⟨c, ?_, hanswer⟩
      obtain ⟨hmem, hname⟩ := hkeeps.resolve?_iff.1 hc
      rw [hdeclares.resolve?_iff, hcells]
      exact ⟨List.mem_append_left _ hmem, hname⟩
    · rw [List.mem_singleton.1 hd]
      refine ⟨⟨s.cellsIssued⟩, ?_, rfl, s.kind_create _ kind init⟩
      rw [hdeclares.resolve?_iff, hcells, s.symbol_create, h.symbol_of_new hnew hroom]
      exact ⟨List.mem_append_right _ List.mem_cons_self, rfl⟩

/-- The variables are those of the declared names, in their order. -/
theorem map_some_cells (h : ns.Records space kept calls s) :
    ns.cells.map some = (declaredNames calls).map ns.resolve? := by
  rw [← h.names_eq, List.map_map]
  apply List.map_congr_left
  intro c hc
  exact (h.resolve?_iff.2 ⟨hc, rfl⟩).symm

/-- The position of a variable is the number of its symbol. -/
theorem symbol_of_getElem? (h : ns.Records space kept calls s) {i : Nat} {c : CellId}
    (hi : ns.cells[i]? = some c) : (s.symbol c).id.toNat = i := by
  have hlt : i < ns.cells.length := (List.getElem?_eq_some_iff.1 hi).1
  have hsymbol : (symbolsOf space (declaredNames calls))[i]? = some (s.symbol c) := by
    rw [← h.symbols, List.getElem?_map, hi]
    rfl
  have hlength : ns.cells.length = (declaredNames calls).length := by
    have hmap := congrArg List.length h.map_some_cells
    rwa [List.length_map, List.length_map] at hmap
  unfold symbolsOf at hsymbol
  rw [List.getElem?_map, List.getElem?_zipIdx, Option.map_map] at hsymbol
  obtain ⟨name, -, hname⟩ := Option.map_eq_some_iff.1 hsymbol
  rw [← hname]
  show (UInt32.ofNat (0 + i)).toNat = i
  rw [Nat.zero_add, h.numbers.toNat_ofNat (hlength ▸ hlt)]

/-- The dynamic variables are those that were first declared to be dynamic. -/
theorem mem_dynamicCells (h : ns.Records space kept calls s) {c : CellId} :
    c ∈ ns.dynamicCells s ↔
      ∃ d ∈ calls, d.accepted = true ∧ d.kind = .dynamic ∧ ns.resolve? d.name = some c := by
  unfold dynamicCells
  rw [List.mem_filter]
  constructor
  · rintro ⟨hc, hkind⟩
    have hmem : (s.symbol c).name ∈ declaredNames calls := by
      rw [← h.names_eq]
      exact List.mem_map_of_mem hc
    obtain ⟨d, hd, haccepted, hname⟩ := mem_declaredNames.1 hmem
    obtain ⟨c', hc', hanswer⟩ := h.answered d hd
    have hresolve := h.resolve?_iff.2 ⟨hc, hname.symm⟩
    obtain rfl := Option.some.inj (hc'.symm.trans hresolve)
    refine ⟨d, hd, haccepted, ?_, hc'⟩
    rw [← hanswer.accepted_iff.1 haccepted]
    exact of_decide_eq_true hkind
  · rintro ⟨d, hd, haccepted, hkind, hc⟩
    obtain ⟨c', hc', hanswer⟩ := h.answered d hd
    obtain rfl := Option.some.inj (hc'.symm.trans hc)
    refine ⟨(h.resolve?_iff.1 hc).1, decide_eq_true ?_⟩
    rw [hanswer.accepted_iff.1 haccepted, hkind]

end Records

section Reaches

variable {η ε : Type} {deliver : Delivery η ε} {kept : CellId → Prop} {ns : Namespace}
  {w : World η ε} {calls : List Declaration} {space : String}

/-- A declaration that ends with an answer has told the truth of its name. -/
theorem Records.declare (hd : ∀ w e, Leads (World.Keeps kept) (deliver w e)) {ns' : Namespace}
    {w' : World η ε} (h : ns.Records space kept calls w.store)
    (hroom : (declaredNames calls).length < 2 ^ 32) {kind : CellKind} {name : String} {init : Value}
    {ctx : Context} {answer : Except Fault CellId}
    (hcall : ns.declare deliver kind name init ctx w = (.done (answer, ns'), w'))
    (hkept : ∀ c, answer = .ok c → kept c) :
    ns'.Records space kept (calls ++ [⟨kind, name, some answer⟩]) w'.store := by
  have hkeeps : World.Keeps kept w w' := by
    have hstep := declare_keeps hd ns kind name init ctx w
    rwa [hcall] at hstep
  by_cases hname : name ∈ declaredNames calls
  · obtain ⟨c, hc⟩ := Option.isSome_iff_exists.1 (h.resolve?_isSome.2 hname)
    rw [h.declare_known hc] at hcall
    split at hcall
    · next hkind =>
      obtain ⟨-, v, -, hpure⟩ := Act.done_of_bind hcall
      cases hpure
      have hsame := h.same hkeeps (h.resolve?_iff.1 hc).1
      exact (h.keeps hkeeps).again hc ⟨rfl, hsame.kind.trans hkind⟩
    · next hkind =>
      cases hcall
      exact h.again hc ⟨hkind, rfl⟩
  · rw [declare_of_none (h.get?_of_new hname hroom)] at hcall
    cases hcall
    exact h.first hname hroom kind init (hkept _ rfl)

/-- A declaration that a watch unwinds is one of a variable of the right kind, which stays. -/
theorem Records.unwound (hd : ∀ w e, Leads (World.Keeps kept) (deliver w e)) {w' : World η ε}
    (h : ns.Records space kept calls w.store) (hroom : (declaredNames calls).length < 2 ^ 32)
    {kind : CellKind} {name : String} {init : Value} {ctx : Context} {message : String}
    (hcall : ns.declare deliver kind name init ctx w = (.panicked message, w')) :
    (ns.interned name).Records space kept (calls ++ [⟨kind, name, none⟩]) w'.store := by
  have hkeeps : World.Keeps kept w w' := by
    have hstep := declare_keeps hd ns kind name init ctx w
    rwa [hcall] at hstep
  by_cases hname : name ∈ declaredNames calls
  · obtain ⟨c, hc⟩ := Option.isSome_iff_exists.1 (h.resolve?_isSome.2 hname)
    rw [h.interned_of_resolve? hc]
    rw [h.declare_known hc] at hcall
    split at hcall
    · next hkind =>
      have hsame := h.same hkeeps (h.resolve?_iff.1 hc).1
      have hanswer : (⟨kind, name, none⟩ : Declaration).Answered w'.store c :=
        hsame.kind.trans hkind
      exact (h.keeps hkeeps).again hc hanswer
    · cases hcall
  · rw [declare_of_none (h.get?_of_new hname hroom)] at hcall
    cases hcall

/-- At every moment of a sequence of calls, all of them so far have told the truth. -/
theorem Reaches.records (hd : ∀ w e, Leads (World.Keeps kept) (deliver w e)) {w₀ : World η ε}
    (h : Reaches deliver kept (.new space) w₀ calls ns w)
    (hfew : (declaredNames calls).length < 2 ^ 32) : ns.Records space kept calls w.store := by
  have hR : Revising (World.Keeps kept : World η ε → World η ε → Prop) := World.Keeps.revising kept
  induction h with
  | start => exact .new space kept w₀.store
  | declared _ hcall hkept ih =>
    have hroom := Nat.lt_of_le_of_lt (length_declaredNames_le _ _) hfew
    exact (ih hroom).declare hd hroom hcall hkept
  | unwound _ hcall ih =>
    have hroom := Nat.lt_of_le_of_lt (length_declaredNames_le _ _) hfew
    exact (ih hroom).unwound hd hroom hcall
  | @written _ ns w _ name v ctx ih =>
    exact (ih hfew).keeps (write_leads (hR.altering hd) ns name v ctx w)
  | read _ name ctx ih =>
    rw [read_world]
    exact ih hfew
  | meanwhile _ hs ih => exact (ih hfew).keeps hs

end Reaches

/-- A name has a variable of one kind, or of none. -/
theorem resolveKind?_cases (ns : Namespace) (s : Store) (name : String) :
    (ns.resolve? name = none ∧ ∀ kind, ns.resolveKind? s kind name = none) ∨
      ∃ c, ns.resolve? name = some c ∧
        ∀ kind, ns.resolveKind? s kind name = if kind = s.kind c then some c else none := by
  unfold resolveKind?
  cases hc : ns.resolve? name with
  | none => exact .inl ⟨rfl, fun _ => rfl⟩
  | some c =>
    refine .inr ⟨c, rfl, fun kind => ?_⟩
    by_cases hkind : kind = s.kind c
    · simp [hkind]
    · simp [hkind, Ne.symm hkind]

end Namespace

/-- The second store has another root of a variable, and no other difference. -/
structure Store.RootSet (s : Store) (c : CellId) (v : Value) (s' : Store) : Prop where
  cell : ∃ cell, s.cell? c = some cell ∧ s'.cell? c = some { cell with root := v }
  others : ∀ d, d ≠ c → s'.cell? d = s.cell? d
  bindings : ∀ t d, s'.binding? t d = s.binding? t d
  issued : s'.cellsIssued = s.cellsIssued ∧ s'.framesIssued = s.framesIssued

/-- What setting the root of a variable that exists comes to. -/
theorem Store.rootSet {s : Store} {c : CellId} (hc : (s.cell? c).isSome = true) (v : Value) :
    s.RootSet c v (s.setRoot c v).2 := by
  have hcell : ∀ d, (s.setRoot c v).2.cell? d =
      if d = c then (s.cell? c).map (fun cell => { cell with root := v }) else s.cell? d :=
    fun d => s.cell?_updateCell c d _
  obtain ⟨cell, hc⟩ := Option.isSome_iff_exists.1 hc
  refine ⟨⟨cell, hc, ?_⟩, fun d hd => ?_, fun _ _ => rfl, rfl, rfl⟩
  · rw [hcell, if_pos rfl, hc]
    rfl
  · rw [hcell, if_neg hd]

/-- A thread that has bound a variable does not see that its root was set. -/
theorem Store.RootSet.read_eq {s s' : Store} {c : CellId} {v : Value} (h : s.RootSet c v s')
    {t : ThreadId} (hbound : s.isBound t c = true) : s'.read t c = s.read t c := by
  obtain ⟨b, hb⟩ := Option.isSome_iff_exists.1 hbound
  unfold Store.read
  rw [h.bindings, hb]

namespace Namespace

/-- Setting the root of a variable that is declared again, and nothing else, is what the watches are
told. -/
theorem Declares.declare_same {η ε : Type} {deliver : Delivery η ε} {ns : Namespace}
    {space name : String} {names : List String} {w : World η ε} {c : CellId}
    (h : ns.Declares space names w.store) (hw : w.store.WellFormed)
    (hc : ns.resolve? name = some c) (init : Value) (ctx : Context) :
    ns.declare deliver (w.store.kind c) name init ctx w =
      (do Event.deliver deliver ⟨c, w.store.symbol c, w.store.root c, init, .write⟩
          pure (.ok c, ns) : Act η ε (Except Fault CellId × Namespace)) ctx
        (w.changed ctx.thread c .write ⟨w.store.root c, init⟩ (w.store.setRoot c init).2) := by
  rw [h.declare_known hc, if_pos rfl]
  have hset : redeclare deliver (w.store.kind c) c init ctx w =
      Event.deliver deliver ⟨c, w.store.symbol c, w.store.root c, init, .write⟩ ctx
        (w.changed ctx.thread c .write ⟨w.store.root c, init⟩ (w.store.setRoot c init).2) := by
    rw [redeclare_of_wellFormed hw]
    show c.announce deliver .write ⟨w.store.root c, init⟩ ctx
      { w with store := (w.store.setRoot c init).2 } = _
    rw [CellId.announce_run, Store.Revises.symbol (.setRoot c init) c]
    rfl
  show Act.bind _ _ ctx w = Act.bind _ _ ctx _
  unfold Act.bind
  rw [hset]

/-- Declarations in a name space are permanent. At every moment of every sequence of calls, whatever
else happens meanwhile:

* a name has a variable exactly if a call that declares it was not rejected, and every call told the
  truth of that variable, whose symbol has the name within the name space;
* the variable that a name has had once it has for good, and no other name has it;
* a name has a variable of one kind or of none;
* the variables are listed once each in the order of their first declarations, with the positions as
  the numbers of their symbols, and the dynamic ones in the same order;
* declaring a name again in the same way sets the root of its variable and tells its watches, and
  declaring it in the other way is a conflict and does nothing at all.

The store at that moment is well formed, as every store is that programs reach. -/
theorem declarations_permanent {η ε : Type} {deliver : Delivery η ε} {kept : CellId → Prop}
    {space : String} {w₀ w w' : World η ε} {ns ns' : Namespace} {calls later : List Declaration}
    (hd : ∀ w e, Leads (World.Keeps kept) (deliver w e))
    (hcalls : Reaches deliver kept (.new space) w₀ calls ns w)
    (hlater : Reaches deliver kept ns w later ns' w')
    (hfew : (declaredNames (calls ++ later)).length < 2 ^ 32) (hw : w'.store.WellFormed) :
    (∀ name, (ns'.resolve? name).isSome = true ↔
        ∃ d ∈ calls ++ later, d.accepted = true ∧ d.name = name) ∧
      (∀ d ∈ calls ++ later, ∃ c, ns'.resolve? d.name = some c ∧ d.Answered w'.store c) ∧
      (∀ name c, ns'.resolve? name = some c → (w'.store.cell? c).isSome = true ∧
        ∃ id, w'.store.symbol c = ⟨id, name, some space⟩) ∧
      ns'.name = space ∧
      (∀ name c, ns.resolve? name = some c →
        ns'.resolve? name = some c ∧ w.store.SameVariable w'.store c) ∧
      (∀ name other c, ns'.resolve? name = some c → ns'.resolve? other = some c → name = other) ∧
      (∀ name, (ns'.resolve? name = none ∧ ∀ kind, ns'.resolveKind? w'.store kind name = none) ∨
        ∃ c, ns'.resolve? name = some c ∧ ∀ kind,
          ns'.resolveKind? w'.store kind name = if kind = w'.store.kind c then some c else none) ∧
      (ns'.cells.Nodup ∧ ns'.cells.map some = (declaredNames (calls ++ later)).map ns'.resolve? ∧
        ∀ i c, ns'.cells[i]? = some c → (w'.store.symbol c).id.toNat = i) ∧
      ((ns'.dynamicCells w'.store).Sublist ns'.cells ∧ ∀ c, c ∈ ns'.dynamicCells w'.store ↔
        ∃ d ∈ calls ++ later, d.accepted = true ∧ d.kind = .dynamic ∧
          ns'.resolve? d.name = some c) ∧
      ∀ name c init ctx, ns'.resolve? name = some c →
        ns'.declare deliver (w'.store.kind c) name init ctx w' =
            (do Event.deliver deliver ⟨c, w'.store.symbol c, w'.store.root c, init, .write⟩
                pure (.ok c, ns') : Act η ε (Except Fault CellId × Namespace)) ctx
              (w'.changed ctx.thread c .write ⟨w'.store.root c, init⟩
                (w'.store.setRoot c init).2) ∧
          w'.store.RootSet c init (w'.store.setRoot c init).2 ∧
          (∀ t, w'.store.isBound t c = true →
            (w'.store.setRoot c init).2.read t c = w'.store.read t c) ∧
          ∀ kind, kind ≠ w'.store.kind c →
            ns'.declare deliver kind name init ctx w' =
              (.done (.error (.conflict (space ++ "/" ++ name) (w'.store.kind c) kind), ns'),
                w') := by
  have h := (hcalls.trans hlater).records hd hfew
  have hsymbol : ∀ name c, ns'.resolve? name = some c →
      ∃ id, w'.store.symbol c = ⟨id, name, some space⟩ := by
    intro name c hc
    obtain ⟨hmem, rfl⟩ := h.resolve?_iff.1 hc
    obtain ⟨i, -, hci⟩ := h.symbol_eq hmem
    exact ⟨_, hci⟩
  have hsome : ∀ name c, ns'.resolve? name = some c → (w'.store.cell? c).isSome = true :=
    fun name c hc => (h.present c (h.resolve?_iff.1 hc).1).2
  refine ⟨?_, h.answered, fun name c hc => ⟨hsome name c hc, hsymbol name c hc⟩, ?_, ?_, ?_,
    ns'.resolveKind?_cases w'.store,
    ⟨h.cells_nodup, h.map_some_cells, fun i c => h.symbol_of_getElem?⟩,
    ⟨List.filter_sublist, fun c => h.mem_dynamicCells⟩, ?_⟩
  · intro name
    rw [h.resolve?_isSome, mem_declaredNames]
  · unfold Namespace.name
    rw [h.named]
    rfl
  · -- The symbol of the variable still has the name, and the name space still has the variable.
    intro name c hc
    have hearlier := hcalls.records hd
      (Nat.lt_of_le_of_lt (length_declaredNames_le calls later) hfew)
    obtain ⟨hmem, rfl⟩ := hearlier.resolve?_iff.1 hc
    have hsame := hearlier.same (hlater.keeps hd) hmem
    exact ⟨h.resolve?_iff.2 ⟨hlater.cells_subset hmem, by rw [hsame.symbol]⟩, hsame⟩
  · intro name other c hname hother
    rw [← (h.resolve?_iff.1 hname).2, ← (h.resolve?_iff.1 hother).2]
  · intro name c init ctx hc
    have hset := Store.rootSet (hsome name c hc) init
    refine ⟨h.declare_same hw hc init ctx, hset, fun t => hset.read_eq, ?_⟩
    intro kind hkind
    obtain ⟨id, hid⟩ := hsymbol name c hc
    rw [h.declare_known hc, if_neg (Ne.symm hkind), hid]
    rfl

/-- A world without variables. -/
def vacant : World Unit Unit :=
  ⟨∅, ⟨none, none⟩, [], ()⟩

/-- Watches that panic. -/
def refusing : Delivery Unit Unit :=
  fun _ _ => Act.panic "refused"

/-- A name space with one declared variable. -/
def single : Namespace :=
  (Namespace.new "app").adding "x" ⟨0⟩

/-- The world after that declaration. -/
def singleWorld : World Unit Unit :=
  ((Namespace.new "app").declare refusing .dynamic "x" (.int 1) ⟨⟨0⟩, false⟩ vacant).2

/-- The world with a watch of the variable. -/
def watchedWorld : World Unit Unit :=
  { singleWorld with store := singleWorld.store.watch ⟨0⟩ "key" ⟨0⟩ }

/-- The world after a declaration of the same variable that the watch unwinds. -/
def refusedWorld : World Unit Unit :=
  (single.declare refusing .dynamic "x" (.int 2) ⟨⟨0⟩, false⟩ watchedWorld).2

/-- Watches that only panic keep everything. -/
theorem refusing_keeps (kept : CellId → Prop) (w : WatchId) (e : Event) :
    Leads (World.Keeps kept) (refusing w e) := by
  have hplain := (World.Keeps.revising (η := Unit) (ε := Unit) kept).toPlain
  exact .still hplain fun _ _ => rfl

/-- The first declaration makes the first variable. -/
theorem declare_single :
    (Namespace.new "app").declare refusing .dynamic "x" (.int 1) ⟨⟨0⟩, false⟩ vacant =
      (.done (.ok ⟨0⟩, single), singleWorld) := by
  have hnew : (Namespace.new "app").Declares "app" [] vacant.store := .new "app" vacant.store
  unfold singleWorld
  rw [declare_of_none (hnew.get?_of_new (by decide) (by decide))]
  rfl

/-- The frames of that world are in order. -/
theorem watchedWorld_wellFormed : watchedWorld.store.WellFormed := by
  have hnew : (Namespace.new "app").Declares "app" [] vacant.store := .new "app" vacant.store
  have hempty : vacant.store.Fresh := ⟨fun _ _ => rfl, fun _ _ => rfl⟩
  have hfresh : singleWorld.store.Fresh := by
    unfold singleWorld
    rw [declare_of_none (hnew.get?_of_new (by decide) (by decide))]
    exact hempty.create ((new "app").symbols.symbol "x").1 .dynamic (.int 1)
  exact Store.Revises.wellFormed (.watch ⟨0⟩ "key" ⟨0⟩) hfresh.wellFormed

/-- A name is declared, then rejected as a name of a shared variable, then declared again in the same
way with a watch that panics. It has its variable all the time, and no other name has one. -/
theorem refused_stays :
    (single.interned "x").resolve? "x" = some ⟨0⟩ ∧ (single.interned "x").resolve? "y" = none ∧
      (single.interned "x").cells = [⟨0⟩] := by
  have hcalls : Reaches refusing (fun _ => True) (.new "app") vacant
      [⟨.dynamic, "x", some (.ok ⟨0⟩)⟩] single watchedWorld :=
    (Reaches.start.declared declare_single fun _ _ => trivial).meanwhile
      (.revised (.watch ⟨0⟩ "key" ⟨0⟩))
  have h := hcalls.records (refusing_keeps _) (by decide)
  obtain ⟨c, hc, hsame, hkind⟩ := h.answered _ List.mem_cons_self
  obtain rfl : ⟨0⟩ = c := hsame
  have hconflict : single.declare refusing .root "x" (.int 3) ⟨⟨0⟩, false⟩ watchedWorld = _ :=
    h.declare_known hc .root (.int 3) ⟨⟨0⟩, false⟩
  rw [if_neg (by rw [hkind]; decide)] at hconflict
  have hpanic : single.declare refusing .dynamic "x" (.int 2) ⟨⟨0⟩, false⟩ watchedWorld =
      (.panicked "refused", refusedWorld) := by
    refine Prod.ext ?_ rfl
    rw [h.declare_known hc, if_pos hkind]
    rfl
  have hlater := (Reaches.start.declared hconflict fun _ _ => trivial).unwound hpanic
  have hwf : refusedWorld.store.WellFormed := by
    unfold refusedWorld
    rw [h.declare_known hc, if_pos hkind]
    exact Store.Revises.wellFormed (.setRoot ⟨0⟩ (.int 2)) watchedWorld_wellFormed
  obtain ⟨hresolves, -, -, -, hstays, -, -, ⟨-, hcells, -⟩, -⟩ :=
    declarations_permanent (refusing_keeps _) hcalls hlater (by decide) hwf
  have hx := (hstays "x" ⟨0⟩ hc).1
  refine ⟨hx, ?_, ?_⟩
  · rw [← Option.not_isSome_iff_eq_none, hresolves "y"]
    decide
  · have hlist : (single.interned "x").cells.map some = [some ⟨0⟩] := by
      rw [hcells, ← hx]
      rfl
    simpa using hlist

end Namespace

end ScopedBinding
