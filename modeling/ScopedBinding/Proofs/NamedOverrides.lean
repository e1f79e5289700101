import ScopedBinding.Proofs.Permanence
import ScopedBinding.Proofs.UnnoticedScopes
import ScopedBinding.Script.Cells

/-!
# Overrides that are built from names

`Namespace.overrides` finds the variable of each name of a list of pairs, and
`Namespace.dynamicOverrides` finds those that are dynamic. Both answer with one override for each
pair, or with the fault of the first name that they do not find (`overrides_from_names`).

Overrides that the second one built do not get into the way of other threads. Whatever relation
between stores holds where only bindings of one thread differ, and is led by the body and by the
watches on that thread, is led by the whole run (`Overrides.around_leadsOn`).
-/

set_option autoImplicit false

namespace ScopedBinding

open Act (Leads LeadsOn)

/-! ## Finding the targets -/

namespace Namespace

/-- A pair of a list for which some names are not good, the first one, by its name. -/
def FirstWithout (good : String → Prop) (pairs : List (String × Value)) (name : String) : Prop :=
  ¬ good name ∧ ∃ front v back, pairs = front ++ (name, v) :: back ∧ ∀ p ∈ front, good p.1

section Targets

variable {target : String → Except Fault CellId} {pairs : List (String × Value)} {set : Overrides}
  {fault : Fault}

/-- A first name without a target is the fault. -/
theorem overridesBy_cons_of_error {name : String} (h : target name = .error fault) (v : Value)
    (rest : List (String × Value)) :
    overridesBy target ((name, v) :: rest) = .error fault := by
  unfold overridesBy
  rw [h]
  rfl

/-- The target of the first name comes first. -/
theorem overridesBy_cons_of_ok {name : String} {c : CellId} (h : target name = .ok c) (v : Value)
    (rest : List (String × Value)) :
    overridesBy target ((name, v) :: rest) =
      (overridesBy target rest).map fun set => (c, v) :: set := by
  rw [overridesBy, h]
  show (overridesBy target rest >>= fun set => .ok ((c, v) :: set)) = _
  cases overridesBy target rest <;> rfl

/-- The overrides are those of the targets of the names with their values, pair by pair. -/
theorem overridesBy_eq_ok : overridesBy target pairs = .ok set ↔
    List.Forall₂ (fun p q => target p.1 = .ok q.1 ∧ q.2 = p.2) pairs set := by
  induction pairs generalizing set with
  | nil =>
    rw [List.forall₂_nil_left_iff]
    exact ⟨fun h => (Except.ok.inj h).symm, fun h => by rw [h]; rfl⟩
  | cons pair rest ih =>
    obtain ⟨name, v⟩ := pair
    rw [List.forall₂_cons_left_iff]
    cases hname : target name with
    | error fault =>
      rw [overridesBy_cons_of_error hname]
      exact ⟨nofun, fun ⟨_, _, ⟨h, _⟩, _⟩ => nomatch h⟩
    | ok c =>
      rw [overridesBy_cons_of_ok hname]
      constructor
      · intro h
        cases hrest : overridesBy target rest with
        | error fault =>
          rw [hrest] at h
          cases h
        | ok set' =>
          rw [hrest] at h
          cases h
          exact ⟨(c, v), set', ⟨rfl, rfl⟩, ih.1 hrest, rfl⟩
      · rintro ⟨⟨d, x⟩, set', ⟨hd, hx⟩, hset, rfl⟩
        cases hd
        cases hx
        rw [ih.2 hset]
        rfl

/-- The fault is that of the first name without a target. -/
theorem overridesBy_eq_error : overridesBy target pairs = .error fault ↔
    ∃ name, FirstWithout (fun name => ∃ c, target name = .ok c) pairs name ∧
      target name = .error fault := by
  induction pairs with
  | nil =>
    refine ⟨nofun, ?_⟩
    rintro ⟨name, ⟨-, front, v, back, hsplit, -⟩, -⟩
    cases front <;> cases hsplit
  | cons pair rest ih =>
    obtain ⟨first, v⟩ := pair
    cases hfirst : target first with
    | error other =>
      rw [overridesBy_cons_of_error hfirst]
      constructor
      · intro h
        cases h
        have hnone : ¬ ∃ c, target first = .ok c := fun ⟨c, hc⟩ => nomatch hc.symm.trans hfirst
        exact ⟨first, ⟨hnone, [], v, rest, rfl, nofun⟩, hfirst⟩
      · rintro ⟨name, ⟨-, front, x, back, hsplit, hfront⟩, hname⟩
        cases front with
        | nil =>
          cases hsplit
          rw [hfirst] at hname
          cases hname
          rfl
        | cons p front =>
          obtain ⟨rfl, -⟩ := List.cons.inj hsplit
          obtain ⟨c, hc⟩ := hfront (first, v) List.mem_cons_self
          exact nomatch hc.symm.trans hfirst
    | ok c =>
      rw [overridesBy_cons_of_ok hfirst]
      have hmap : (overridesBy target rest).map (fun set => (c, v) :: set) = .error fault ↔
          overridesBy target rest = .error fault := by
        cases overridesBy target rest <;> simp [Except.map]
      rw [hmap, ih]
      constructor
      · rintro ⟨name, ⟨hbad, front, x, back, rfl, hfront⟩, hname⟩
        refine ⟨name, ⟨hbad, (first, v) :: front, x, back, rfl, ?_⟩, hname⟩
        exact List.forall_mem_cons.2 ⟨⟨c, hfirst⟩, hfront⟩
      · rintro ⟨name, ⟨hbad, front, x, back, hsplit, hfront⟩, hname⟩
        cases front with
        | nil =>
          cases hsplit
          exact absurd ⟨c, hfirst⟩ hbad
        | cons p front =>
          obtain ⟨-, rfl⟩ := List.cons.inj hsplit
          exact ⟨name, ⟨hbad, front, x, back, rfl, (List.forall_mem_cons.1 hfront).2⟩, hname⟩

/-- There are overrides exactly if every name has a target. -/
theorem exists_overridesBy : (∃ set, overridesBy target pairs = .ok set) ↔
    ∀ p ∈ pairs, ∃ c, target p.1 = .ok c := by
  constructor
  · rintro ⟨set, hset⟩
    have hpairs := overridesBy_eq_ok.1 hset
    clear hset
    induction hpairs with
    | nil => exact fun _ hp => nomatch hp
    | cons hpair _ ih => exact List.forall_mem_cons.2 ⟨⟨_, hpair.1⟩, ih⟩
  · intro hall
    cases hset : overridesBy target pairs with
    | ok set => exact ⟨set, rfl⟩
    | error fault =>
      obtain ⟨name, ⟨hbad, front, v, back, rfl, -⟩, -⟩ := overridesBy_eq_error.1 hset
      exact absurd (hall (name, v) (List.mem_append_right _ List.mem_cons_self)) hbad

end Targets

variable {ns ns' : Namespace} {s : Store} {name : String} {c : CellId} {fault : Fault}

/-- The target of a name is its variable. -/
theorem target_eq_ok : ns.target name = .ok c ↔ ns.resolve? name = some c := by
  unfold target
  cases ns.resolve? name <;> simp

/-- A name without a variable is undefined. -/
theorem target_eq_error : ns.target name = .error fault ↔
    ns.resolve? name = none ∧ fault = ns.undefined name := by
  unfold target
  cases ns.resolve? name <;> simp [eq_comm]

/-- The dynamic target of a name is its variable if that is dynamic. -/
theorem dynamicTarget_eq_ok :
    ns.dynamicTarget s name = .ok c ↔ ns.resolveKind? s .dynamic name = some c := by
  unfold dynamicTarget target
  rcases ns.resolveKind?_cases s name with ⟨hnone, hkind⟩ | ⟨d, hd, hkind⟩
  · rw [hnone, hkind]
    exact ⟨nofun, nofun⟩
  · rw [hd, hkind]
    cases hk : s.kind d <;> simp [bind, Except.bind, hk]

/-- A name without a dynamic variable is undefined, or is that of a shared one. -/
theorem dynamicTarget_eq_error : ns.dynamicTarget s name = .error fault ↔
    (ns.resolve? name = none ∧ fault = ns.undefined name) ∨
      ∃ c, ns.resolveKind? s .root name = some c ∧ fault = .notDynamic (s.symbol c).display := by
  unfold dynamicTarget target
  rcases ns.resolveKind?_cases s name with ⟨hnone, hkind⟩ | ⟨d, hd, hkind⟩
  · rw [hnone, hkind]
    simp [bind, Except.bind, eq_comm]
  · rw [hd, hkind]
    cases hk : s.kind d <;> simp [bind, Except.bind, hk, eq_comm]

/-! ## What a name space holds -/

/-- The variable of a name is one of the name space. -/
theorem mem_cells_of_resolve? (h : ns.resolve? name = some c) : c ∈ ns.cells := by
  unfold resolve? at h
  obtain ⟨id, -, hget⟩ := Option.bind_eq_some_iff.1 h
  exact mem_cells.2 ⟨id, Table.mem_of_get? hget⟩

/-- Numbering a name does not rename the name space. -/
theorem interned_name (ns : Namespace) (name : String) : (ns.interned name).name = ns.name := by
  unfold Namespace.name interned SymbolTable.symbol SymbolTable.intern
  cases ns.symbols.get? name <;> rfl

section Calls

variable {η ε : Type} {deliver : Delivery η ε} {kept : CellId → Prop} {ns₀ : Namespace}
  {w₀ w w' : World η ε} {calls : List Declaration}

/-- A declaration interns its name, and adds no variable but a new one. -/
theorem declare_cases {kind : CellKind} {init : Value} {ctx : Context}
    {answer : Except Fault CellId}
    (hcall : ns.declare deliver kind name init ctx w = (.done (answer, ns'), w')) :
    ns' = ns.interned name ∨
      ∃ c, answer = .ok c ∧ c.index < w'.store.cellsIssued ∧ ns'.name = ns.name ∧
        ns'.cells = ns.cells ++ [c] := by
  cases hc : ns.vars.get? (ns.symbols.symbol name).1.id with
  | none =>
    rw [declare_of_none hc] at hcall
    cases hcall
    refine .inr ⟨_, rfl, Nat.lt_succ_self _, ns.interned_name name, ?_⟩
    unfold cells adding Table.values
    rw [ns.vars.entries_insert hc, List.map_append]
    rfl
  | some c =>
    rw [declare_of_some hc] at hcall
    split at hcall
    · obtain ⟨-, v, -, hpure⟩ := Act.done_of_bind hcall
      cases hpure
      exact .inl rfl
    · cases hcall
      exact .inl rfl

/-- No call renames the name space. -/
theorem Reaches.name_eq (h : Reaches deliver kept ns₀ w₀ calls ns w) : ns.name = ns₀.name := by
  induction h with
  | start => rfl
  | declared _ hcall _ ih =>
    rcases declare_cases hcall with rfl | ⟨-, -, -, hname, -⟩
    · exact (interned_name _ _).trans ih
    · exact hname.trans ih
  | unwound _ _ ih => exact (interned_name _ _).trans ih
  | written _ _ _ _ ih => exact ih
  | read _ _ _ ih => exact ih
  | meanwhile _ _ ih => exact ih

/-- Every variable of a name space that was new at the start is kept. -/
theorem Reaches.holds (hd : ∀ w e, Leads (World.Keeps kept) (deliver w e)) {space : String}
    (h : Reaches deliver kept (.new space) w₀ calls ns w) :
    ∀ c ∈ ns.cells, kept c ∧ c.index < w.store.cellsIssued := by
  have hR : Revising (World.Keeps kept : World η ε → World η ε → Prop) := World.Keeps.revising kept
  have hlater : ∀ {ns : Namespace} {w w' : World η ε}, World.Keeps kept w w' →
      (∀ c ∈ ns.cells, kept c ∧ c.index < w.store.cellsIssued) →
      ∀ c ∈ ns.cells, kept c ∧ c.index < w'.store.cellsIssued := by
    intro ns w w' hkeeps ih c hc
    exact ⟨(ih c hc).1, Nat.lt_of_lt_of_le (ih c hc).2 hkeeps.issued⟩
  induction h with
  | start => exact fun _ hc => nomatch hc
  | @declared _ ns w ns' w' _ kind name init ctx answer hcall hkept ih =>
    have hstep := declare_keeps hd ns kind name init ctx w
    rw [hcall] at hstep
    rcases declare_cases hcall with rfl | ⟨c, hanswer, hissued, -, hcells⟩
    · exact hlater hstep ih
    · rw [hcells]
      intro d hmem
      rcases List.mem_append.1 hmem with hold | hnew
      · exact hlater hstep ih d hold
      · rw [List.mem_singleton.1 hnew]
        exact ⟨hkept c hanswer, hissued⟩
  | @unwound _ ns w w' _ kind name init ctx message hcall ih =>
    have hstep := declare_keeps hd ns kind name init ctx w
    rw [hcall] at hstep
    exact hlater hstep ih
  | @written _ ns w _ name v ctx ih => exact hlater (write_leads (hR.altering hd) ns name v ctx w) ih
  | read _ name ctx ih =>
    rw [read_world]
    exact ih
  | meanwhile _ hs ih => exact hlater hs ih

end Calls

end Namespace

/-! ## Scripts that build overrides -/

namespace Script

/-- Between the worlds nothing was done but to name values and sets of overrides. -/
structure Names (w w' : World Session Entry) : Prop where
  store : w'.store = w.store
  session : w'.host = { w.host with labels := w'.host.labels, sets := w'.host.sets }

/-- Naming can be put together. -/
theorem Names.calm : Calm Names where
  refl _ := ⟨rfl, rfl⟩
  trans h h' := by
    refine ⟨h'.store.trans h.store, ?_⟩
    rw [h'.session, h.session]
  settings _ _ := ⟨rfl, rfl⟩
  logged _ _ := ⟨rfl, rfl⟩

/-- An operation of a script leads where its action does, whatever is in progress around it. -/
def Step.Leads {α : Type} (R : World Session Entry → World Session Entry → Prop) (m : Step α) :
    Prop :=
  ∀ x, Act.Leads R (m.run.run x)

namespace Step.Leads

variable {α β : Type} {R : World Session Entry → World Session Entry → Prop}

/-- A value. -/
theorem pure (hR : Calm R) (a : α) : Step.Leads R (Pure.pure a) :=
  fun _ => .pure hR _

/-- A mistake ends the operation where it is found. -/
theorem throw (hR : Calm R) (mistake : Mistake) : Step.Leads R (throw mistake : Step α) :=
  fun _ => .pure hR _

/-- An action of the library. -/
theorem lift (hR : Calm R) {m : Doing α} (hm : Act.Leads R m) :
    Step.Leads R (liftM m : Step α) :=
  fun _ => .bind hR hm fun _ => .pure hR _

/-- One part after another. -/
theorem bind (hR : Calm R) {m : Step α} {next : α → Step β} (hm : Step.Leads R m)
    (hnext : ∀ a, Step.Leads R (next a)) : Step.Leads R (m >>= next) := by
  intro x
  refine Act.Leads.bind hR (hm x) fun result => ?_
  cases result with
  | ok a => exact hnext a x
  | error mistake => exact .pure hR _

/-- A part for each element of a list. -/
theorem mapM (hR : Calm R) {f : α → Step β} (hf : ∀ a, Step.Leads R (f a)) (l : List α) :
    Step.Leads R (l.mapM f) := by
  induction l with
  | nil => exact pure hR _
  | cons a l ih =>
    rw [List.mapM_cons]
    exact bind hR (hf a) fun _ => bind hR ih fun _ => pure hR _

end Step.Leads

/-- Asking for an argument. -/
theorem need_names {α : Type} (a : Arg α) : Step.Leads Names (need a) := by
  unfold need
  split
  · exact .pure Names.calm _
  · exact .throw Names.calm _

/-- Looking up a handle. -/
theorem lookUp_names {α : Type} (noun : Noun) (table : Session → Table String α)
    (handle : Arg String) : Step.Leads Names (lookUp noun table handle) := by
  unfold lookUp
  refine .bind Names.calm (need_names handle) fun handle => ?_
  refine .bind Names.calm (.lift Names.calm (.still Names.calm fun _ _ => rfl)) fun s => ?_
  split
  · exact .pure Names.calm _
  · exact .throw Names.calm _

/-- Looking up a name space. -/
theorem space_names (handle : Arg String) : Step.Leads Names (space handle) := by
  unfold space
  refine .bind Names.calm (lookUp_names _ _ handle) fun ns => ?_
  refine .bind Names.calm (fun _ => .pure Names.calm _) fun x => ?_
  split
  · exact .bind Names.calm (need_names handle) fun _ => .throw Names.calm _
  · exact .pure Names.calm _

/-- A label gets its object. -/
theorem sealedOf_names (label : String) : Act.Leads Names (sealedOf label) := by
  unfold sealedOf
  refine .bind Names.calm (.still Names.calm fun _ _ => rfl) fun s => ?_
  split
  · exact .pure Names.calm _
  · exact .bind Names.calm (fun _ _ => ⟨rfl, rfl⟩) fun _ => .pure Names.calm _

/-- A literal names a value at most. -/
theorem value_names (v : Arg Literal) : Step.Leads Names (value v) := by
  unfold value
  refine .bind Names.calm (need_names v) fun l => .lift Names.calm ?_
  cases l with
  | object label => exact .bind Names.calm (sealedOf_names label) fun _ => .pure Names.calm _
  | nil | bool | int | float | text => exact .pure Names.calm _

/-- Literals with names. -/
theorem namedValues_names (pairs : Pairs) : Step.Leads Names (namedValues pairs) := by
  unfold namedValues
  refine .bind Names.calm (need_names pairs) fun l => .mapM Names.calm (fun pair => ?_) l
  refine .bind Names.calm (need_names pair) fun (name, v) => ?_
  exact .bind Names.calm (value_names v) fun _ => .pure Names.calm _

/-- Building overrides from names names them if it succeeds, and does nothing else to the name space
or to any variable. -/
theorem overrides_names (deliver : Deliverer) (handle : Arg String) (mode : Arg SetMode)
    (pairs : Pairs) (as : Arg String) (propagate : Bool) :
    Step.Leads Names (performSpace deliver (.overrides handle mode pairs as propagate)) := by
  unfold performSpace
  refine .bind Names.calm (space_names handle) fun ns => ?_
  refine .bind Names.calm (need_names mode) fun mode => ?_
  refine .bind Names.calm (namedValues_names pairs) fun pairs => ?_
  refine .bind Names.calm (need_names as) fun handle => ?_
  refine .bind Names.calm (.lift Names.calm (.still Names.calm fun _ _ => rfl)) fun s => ?_
  dsimp only
  split
  · unfold answer
    split
    · exact .pure Names.calm _
    · split
      · exact .pure Names.calm _
      · exact .pure Names.calm _
  · refine .bind Names.calm (.lift Names.calm fun _ _ => ⟨rfl, rfl⟩) fun _ => ?_
    exact .bind Names.calm (.lift Names.calm (.still Names.calm fun _ _ => rfl)) fun _ => .pure Names.calm _

end Script

/-! ## Both ways to build overrides -/

namespace Namespace

variable {ns : Namespace} {s : Store} {pairs : List (String × Value)} {set : Overrides}
  {fault : Fault}

/-- Each pair has its override: the variable of its name, with its value. -/
def Names (ns : Namespace) (p : String × Value) (q : CellId × Value) : Prop :=
  ns.resolve? p.1 = some q.1 ∧ q.2 = p.2

/-- A name has a variable. -/
def Has (ns : Namespace) (name : String) : Prop :=
  (ns.resolve? name).isSome = true

/-- A name has a variable of a kind. -/
def HasKind (ns : Namespace) (s : Store) (kind : CellKind) (name : String) : Prop :=
  (ns.resolveKind? s kind name).isSome = true

/-- A name has a target if it has a variable. -/
theorem exists_target : (fun name => ∃ c, ns.target name = .ok c) = ns.Has := by
  funext name
  unfold Has
  simp only [target_eq_ok, Option.isSome_iff_exists]

/-- A name has a dynamic target if it has a dynamic variable. -/
theorem exists_dynamicTarget :
    (fun name => ∃ c, ns.dynamicTarget s name = .ok c) = ns.HasKind s .dynamic := by
  funext name
  unfold HasKind
  simp only [dynamicTarget_eq_ok, Option.isSome_iff_exists]

/-- Overrides are built exactly if every name has a variable. -/
theorem exists_overrides : (∃ set, ns.overrides pairs = .ok set) ↔ ∀ p ∈ pairs, ns.Has p.1 := by
  rw [← exists_target]
  exact exists_overridesBy

/-- Those for dynamic variables are built exactly if every name has a dynamic variable. -/
theorem exists_dynamicOverrides : (∃ set, ns.dynamicOverrides s pairs = .ok set) ↔
    ∀ p ∈ pairs, ns.HasKind s .dynamic p.1 := by
  rw [← exists_dynamicTarget]
  exact exists_overridesBy

/-- The overrides are those of the variables of the names. -/
theorem overrides_eq_ok :
    ns.overrides pairs = .ok set ↔ List.Forall₂ ns.Names pairs set := by
  unfold overrides
  simp only [overridesBy_eq_ok, target_eq_ok]
  rfl

/-- A variable of a kind that a name has is its variable, and of this kind. -/
theorem resolve?_of_resolveKind? {kind : CellKind} {name : String} {c : CellId}
    (h : ns.resolveKind? s kind name = some c) : ns.resolve? name = some c ∧ s.kind c = kind := by
  unfold resolveKind? at h
  obtain ⟨hc, hkind⟩ := Option.filter_eq_some_iff.1 h
  exact ⟨hc, of_decide_eq_true hkind⟩

/-- Overrides for dynamic variables are overrides, of dynamic variables of the name space. -/
theorem dynamicOverrides_eq_ok : ns.dynamicOverrides s pairs = .ok set →
    ns.overrides pairs = .ok set ∧ ∀ c ∈ set.map Prod.fst, c ∈ ns.cells ∧ s.kind c = .dynamic := by
  unfold dynamicOverrides
  rw [overridesBy_eq_ok, overrides_eq_ok]
  intro h
  induction h with
  | nil => exact ⟨.nil, nofun⟩
  | cons hpair _ ih =>
    obtain ⟨hc, hkind⟩ := resolve?_of_resolveKind? (dynamicTarget_eq_ok.1 hpair.1)
    exact ⟨.cons ⟨hc, hpair.2⟩ ih.1,
      List.forall_mem_cons.2 ⟨⟨mem_cells_of_resolve? hc, hkind⟩, ih.2⟩⟩

/-- The fault is that of the first name without a variable. -/
theorem overrides_eq_error : ns.overrides pairs = .error fault ↔
    ∃ name, FirstWithout ns.Has pairs name ∧ fault = ns.undefined name := by
  unfold overrides
  rw [overridesBy_eq_error, exists_target]
  constructor
  · rintro ⟨name, hfirst, hname⟩
    exact ⟨name, hfirst, (target_eq_error.1 hname).2⟩
  · rintro ⟨name, hfirst, hfault⟩
    refine ⟨name, hfirst, target_eq_error.2 ⟨?_, hfault⟩⟩
    exact Option.not_isSome_iff_eq_none.1 hfirst.1

/-- The fault is that of the first name without a dynamic variable. -/
theorem dynamicOverrides_eq_error : ns.dynamicOverrides s pairs = .error fault ↔
    ∃ name, FirstWithout (ns.HasKind s .dynamic) pairs name ∧
      ((ns.resolve? name = none ∧ fault = ns.undefined name) ∨
        ∃ c, ns.resolveKind? s .root name = some c ∧
          fault = .notDynamic (s.symbol c).display) := by
  unfold dynamicOverrides
  rw [overridesBy_eq_error, exists_dynamicTarget]
  simp only [dynamicTarget_eq_error]

/-- A name has a variable of a kind exactly if it was declared to be of this kind first. -/
theorem Records.hasKind_iff {space : String} {kept : CellId → Prop} {calls : List Declaration}
    (h : ns.Records space kept calls s) {kind : CellKind} {name : String} :
    ns.HasKind s kind name ↔ ∃ d ∈ calls, d.accepted = true ∧ d.kind = kind ∧ d.name = name := by
  unfold HasKind
  constructor
  · intro hsome
    obtain ⟨c, hc⟩ := Option.isSome_iff_exists.1 hsome
    obtain ⟨hresolve, hkind⟩ := resolve?_of_resolveKind? hc
    have hmem : name ∈ declaredNames calls := by
      rw [← h.resolve?_isSome, hresolve]
      rfl
    obtain ⟨d, hd, haccepted, rfl⟩ := mem_declaredNames.1 hmem
    obtain ⟨c', hc', hanswer⟩ := h.answered d hd
    obtain rfl := Option.some.inj (hc'.symm.trans hresolve)
    exact ⟨d, hd, haccepted, (hanswer.accepted_iff.1 haccepted).symm.trans hkind, rfl⟩
  · rintro ⟨d, hd, haccepted, rfl, rfl⟩
    obtain ⟨c, hc, hanswer⟩ := h.answered d hd
    have hkind := hanswer.accepted_iff.1 haccepted
    unfold resolveKind?
    rw [hc, Option.filter_some, hkind]
    simp

/-- When overrides are built from pairs, and what they are. -/
structure Builds (ns : Namespace) (s : Store) (pairs : List (String × Value)) : Prop where
  /-- They are built exactly if every name is declared. -/
  built : (∃ set, ns.overrides pairs = .ok set) ↔ ∀ p ∈ pairs, ns.Has p.1
  /-- There is one override for each pair, in order. -/
  paired : ∀ set, ns.overrides pairs = .ok set → List.Forall₂ ns.Names pairs set
  /-- Those for dynamic variables only are built exactly if every name is declared to be dynamic. -/
  builtDynamic : (∃ set, ns.dynamicOverrides s pairs = .ok set) ↔
    ∀ p ∈ pairs, ns.HasKind s .dynamic p.1
  /-- Both ways give the same. -/
  same : ∀ set, ns.dynamicOverrides s pairs = .ok set → ns.overrides pairs = .ok set

/-- With which fault overrides are refused: that of the first name that is no good. -/
structure Refuses (ns : Namespace) (space : String) (s : Store) (pairs : List (String × Value)) :
    Prop where
  fault : ∀ fault, ns.overrides pairs = .error fault ↔ ∃ name, FirstWithout ns.Has pairs name ∧
    fault = .undefined (space ++ "/" ++ name)
  /-- If only dynamic variables are accepted, a name that is declared to be shared is no good either. -/
  faultDynamic : ∀ fault, ns.dynamicOverrides s pairs = .error fault ↔
    ∃ name, FirstWithout (ns.HasKind s .dynamic) pairs name ∧
      ((¬ ns.Has name ∧ fault = .undefined (space ++ "/" ++ name)) ∨
        ∃ c, ns.resolveKind? s .root name = some c ∧
          fault = .notDynamic (s.symbol c).display)

/-- Which names are declared, and how their variables are shown. -/
structure Follows (ns : Namespace) (space : String) (s : Store) (calls : List Declaration) :
    Prop where
  has : ∀ name, ns.Has name ↔ ∃ d ∈ calls, d.accepted = true ∧ d.name = name
  hasKind : ∀ name kind, ns.HasKind s kind name ↔
    ∃ d ∈ calls, d.accepted = true ∧ d.kind = kind ∧ d.name = name
  shown : ∀ name c, ns.resolve? name = some c → (s.symbol c).display = space ++ "/" ++ name

/-- Overrides touch only bindings of the thread that runs them: they lead every relation between stores
that overlooks these, and that the body, its result that goes away and the watches lead. -/
structure RunsUnnoticed {υ ε : Type} (rules : Rules υ ε) (depth : Nat) (set : Overrides)
    (w : World (Hands υ) ε) (t : ThreadId) (R : Store → Store → Prop) : Prop where
  override : ∀ {α : Type} (discard : α → Program υ ε Unit) (p : Program υ ε α),
    (∀ a, LeadsOn t (World.OnStores R) ((discard a).act (rules.deliver depth))) →
    LeadsOn t (World.OnStores R) (p.act (rules.deliver depth)) → ∀ unwinding,
      R w.store
        ((Program.override discard set p).act (rules.deliver depth) ⟨t, unwinding⟩ w).2.store
  tryOverride : ∀ {α β : Type} (discard : Except β α → Program υ ε Unit) (ofFault : Fault → β)
    (p : Program υ ε (Except β α)),
    (∀ a, LeadsOn t (World.OnStores R) ((discard a).act (rules.deliver depth))) →
    LeadsOn t (World.OnStores R) (p.act (rules.deliver depth)) → ∀ unwinding,
      R w.store ((Program.tryOverride discard ofFault set p).act (rules.deliver depth)
        ⟨t, unwinding⟩ w).2.store

/-- What holds of overrides that are built from pairs in a name space. -/
structure FromNames {υ ε : Type} (rules : Rules υ ε) (depth : Nat) (kept : CellId → Prop)
    (space : String) (w : World (Hands υ) ε) (ns : Namespace) (calls : List Declaration)
    (pairs : List (String × Value)) : Prop where
  builds : ns.Builds w.store pairs
  refuses : ns.Refuses space w.store pairs
  /-- There are no more than `2 ^ 32` symbols; this matters only to what is declared. -/
  follows : (declaredNames calls).length < 2 ^ 32 → ns.Follows space w.store calls
  /-- A script that builds overrides does nothing but name them. -/
  scripts : ∀ (deliver : Script.Deliverer) (handle : Script.Arg String)
    (mode : Script.Arg Script.SetMode) (given : Script.Pairs) (as : Script.Arg String)
    (propagate : Bool), Script.Step.Leads Script.Names
      (Script.performSpace deliver (.overrides handle mode given as propagate))
  /-- Relations that overlook the bindings of a thread are that all roots are the same, and that all
  other threads see the same. -/
  roots : ∀ t, Store.Overlooks t Store.SameRoots
  elsewhere : ∀ t, Store.Overlooks t (Store.SameElsewhere t)
  /-- Nobody else notices overrides that were built for dynamic variables, at any later time. -/
  unnoticed : ∀ set, ns.dynamicOverrides w.store pairs = .ok set → ∀ w', World.Keeps kept w w' →
    ∀ (t : ThreadId) (R : Store → Store → Prop), Store.Overlooks t R →
      (∀ k e, LeadsOn t (World.OnStores R) (rules.deliver depth k e)) →
        RunsUnnoticed rules depth set w' t R

/-- Overrides built from names, in any name space that calls can lead to, and for any list of pairs. -/
theorem overrides_from_names {υ ε : Type} (rules : Rules υ ε) (depth : Nat)
    {kept : CellId → Prop} {space : String} {w₀ w : World (Hands υ) ε} {ns : Namespace}
    {calls : List Declaration}
    (hcalls : Reaches (rules.deliver depth) kept (.new space) w₀ calls ns w)
    (pairs : List (String × Value)) : FromNames rules depth kept space w ns calls pairs where
  builds :=
    { built := exists_overrides
      paired := fun _ => overrides_eq_ok.1
      builtDynamic := exists_dynamicOverrides
      same := fun _ h => (dynamicOverrides_eq_ok h).1 }
  refuses := by
    have hundefined : ∀ name, ns.undefined name = .undefined (space ++ "/" ++ name) := by
      intro name
      unfold undefined
      rw [hcalls.name_eq]
      rfl
    constructor
    · intro fault
      rw [overrides_eq_error]
      simp only [hundefined]
    · intro fault
      rw [dynamicOverrides_eq_error]
      simp only [hundefined, Has, Option.not_isSome_iff_eq_none]
  follows hfew := by
    have h := hcalls.records (rules.deliver_keeps kept depth) hfew
    refine ⟨fun name => ?_, fun name kind => h.hasKind_iff, fun name c hc => ?_⟩
    · unfold Has
      rw [h.resolve?_isSome, mem_declaredNames]
    · obtain ⟨hmem, rfl⟩ := h.resolve?_iff.1 hc
      obtain ⟨i, -, hci⟩ := h.symbol_eq hmem
      rw [hci]
      rfl
  scripts := Script.overrides_names
  roots := Store.overlooks_sameRoots
  elsewhere := Store.overlooks_sameElsewhere
  unnoticed set hset w' hlater t R hR hd := by
    have hholds := hcalls.holds (rules.deliver_keeps kept depth)
    have hk : ∀ c ∈ set.map Prod.fst, w'.store.kind c = .dynamic := by
      intro c hc
      obtain ⟨hmem, hkind⟩ := (dynamicOverrides_eq_ok hset).2 c hc
      obtain ⟨hkept, hissued⟩ := hholds c hmem
      exact ((hlater.same c hkept hissued).kind).trans hkind
    exact ⟨fun _ _ hdiscard hp => Program.override_unnoticed hR hd hk hdiscard hp,
      fun _ _ _ hdiscard hp => Program.tryOverride_unnoticed hR hd hk hdiscard hp⟩

/-- Watches that do nothing. -/
def restful : Rules Unit Unit :=
  fun _ _ => pure ()

/-- The world after a dynamic variable was declared in a new name space. -/
def declaredWorld : World (Hands Unit) Unit :=
  ((Namespace.new "app").declare (restful.deliver 1) .dynamic "x" (.int 1) ⟨⟨0⟩, false⟩
    (World.start ∅ ())).2

/-- What the declaration comes to. -/
theorem declare_restful :
    (Namespace.new "app").declare (restful.deliver 1) .dynamic "x" (.int 1) ⟨⟨0⟩, false⟩
      (World.start ∅ ()) = (.done (.ok ⟨0⟩, single), declaredWorld) := by
  have hnew : (Namespace.new "app").Declares "app" [] (∅ : Store) := .new "app" ∅
  unfold declaredWorld
  rw [declare_of_none (hnew.get?_of_new (by decide) (by decide))]
  rfl

/-- A name may be given twice. The first undeclared name is the fault, and a run of the overrides
with a body that does nothing leaves every root. -/
theorem twice_then_missing :
    (∃ set, single.dynamicOverrides declaredWorld.store [("x", .int 2), ("x", .int 3)] = .ok set ∧
      single.overrides [("x", .int 2), ("x", .int 3)] = .ok set ∧
      Store.SameRoots declaredWorld.store
        ((Program.override Program.skip set (pure ())).act (restful.deliver 1) ⟨⟨0⟩, false⟩
          declaredWorld).2.store) ∧
    single.dynamicOverrides declaredWorld.store [("x", .int 2), ("y", .nil), ("z", .nil)] =
      .error (.undefined "app/y") := by
  have hcalls : Reaches (restful.deliver 1) (fun _ => True) (.new "app") (World.start ∅ ())
      [⟨.dynamic, "x", some (.ok ⟨0⟩)⟩] single declaredWorld :=
    Reaches.start.declared declare_restful fun _ _ => trivial
  have hfew : (declaredNames [⟨.dynamic, "x", some (.ok ⟨0⟩)⟩]).length < 2 ^ 32 := by decide
  constructor
  · have h := overrides_from_names restful 1 hcalls [("x", .int 2), ("x", .int 3)]
    have hx : single.HasKind declaredWorld.store .dynamic "x" :=
      ((h.follows hfew).hasKind "x" .dynamic).2 ⟨_, List.mem_cons_self, rfl, rfl, rfl⟩
    obtain ⟨set, hset⟩ := h.builds.builtDynamic.2 (by simp [hx])
    have hstill : ∀ k e, LeadsOn ⟨0⟩ (World.OnStores Store.SameRoots) (restful.deliver 1 k e) :=
      fun _ _ _ _ _ => rfl
    have hbody : LeadsOn ⟨0⟩ (World.OnStores Store.SameRoots)
        ((pure () : Program Unit Unit Unit).act (restful.deliver 1)) := fun _ _ _ => rfl
    refine ⟨set, hset, h.builds.same set hset, ?_⟩
    have hruns := h.unnoticed set hset declaredWorld (.refl _) ⟨0⟩ _ (h.roots ⟨0⟩) hstill
    exact hruns.override Program.skip _ (fun _ _ _ _ => rfl) hbody false
  · have h := overrides_from_names restful 1 hcalls [("x", .int 2), ("y", .nil), ("z", .nil)]
    have hx : single.HasKind declaredWorld.store .dynamic "x" :=
      ((h.follows hfew).hasKind "x" .dynamic).2 ⟨_, List.mem_cons_self, rfl, rfl, rfl⟩
    have hy : ¬ single.Has "y" := by
      rw [(h.follows hfew).has "y"]
      decide
    have hy' : ¬ single.HasKind declaredWorld.store .dynamic "y" := by
      rw [(h.follows hfew).hasKind "y" .dynamic]
      decide
    refine (h.refuses.faultDynamic _).2
      ⟨"y", ⟨hy', [("x", .int 2)], .nil, [("z", .nil)], rfl, ?_⟩, .inl ⟨hy, rfl⟩⟩
    simp [hx]

end Namespace

end ScopedBinding
