import ScopedBinding.Proofs.Confinement
import ScopedBinding.Proofs.Steps

/-!
# Carrying bindings to another thread

A snapshot of what one thread has bound its variables to can be run on any thread, at any later time
and any number of times (`snapshot_conveys`). At the start of the body that thread sees the captured
values, and all else as it saw it just before. The scopes touch no root and no binding of another
thread. If the body leaves the stacks of its thread as it found them, no release is rejected
(`Overrides.around_accepted`), the stacks are what they were before, and the captured variables are given
back.

The watches leave the store as it is; they may panic. `Overrides.around_closes` tells the ways in which
such a run goes: the scopes are all opened and the body runs, or a watch cuts the opening short.
-/

set_option autoImplicit false

namespace ScopedBinding

open Store (Confined ClosesAll SameAt GivenBack)
open Act (Leads Runs)

/-! ## What a program does to the store -/

namespace Store

/-- What every program does to a store: it keeps it well formed, and variables keep their kinds. -/
structure Evolves (s s' : Store) : Prop where
  framesIssued_le : s.framesIssued ≤ s'.framesIssued
  wellFormed : s.WellFormed → s'.WellFormed
  kind : ∀ c, s'.kind c = s.kind c

/-- A store has evolved from itself. -/
theorem Evolves.refl (s : Store) : s.Evolves s :=
  ⟨Nat.le_refl _, id, fun _ => rfl⟩

/-- A store evolves step by step. -/
theorem Evolves.trans {s s' s'' : Store} (h : s.Evolves s') (h' : s'.Evolves s'') :
    s.Evolves s'' := by
  refine ⟨Nat.le_trans h.framesIssued_le h'.framesIssued_le, fun hs => ?_, fun c => ?_⟩
  · exact h'.wellFormed (h.wellFormed hs)
  · rw [h'.kind, h.kind]

end Store

/-- What every program does to the store of its world. -/
def EvolvesStore {η ε : Type} (w w' : World η ε) : Prop :=
  w.store.Evolves w'.store

/-- Changes that open and close no frame let the store evolve. -/
theorem EvolvesStore.revising {η ε : Type} : Revising (@EvolvesStore η ε) where
  refl w := .refl w.store
  trans h h' := Store.Evolves.trans h h'
  settings w _ := .refl w.store
  note w _ _ := .refl w.store
  store _ _ hs := ⟨hs.framesIssued_le, hs.wellFormed, hs.keepsStacks.kind⟩

/-- So do opening and closing frames. -/
theorem EvolvesStore.stepwise {η ε : Type} {deliver : Delivery η ε}
    (hd : ∀ w e, Leads EvolvesStore (deliver w e)) : Stepwise deliver (@EvolvesStore η ε) := by
  refine revising.stepwise (fun w _ => .refl w.store) (fun w t c => ?_) (fun w t c f r s h => ?_) hd
  · have hissued : w.store.framesIssued ≤ (w.store.push t c).2.framesIssued := by
      rw [Store.framesIssued_push]
      omega
    exact ⟨hissued, fun hs => hs.push t c, Store.kind_push w.store t c⟩
  · have hissued : w.store.framesIssued = s.framesIssued := (Store.framesIssued_pop h).symm
    exact ⟨Nat.le_of_eq hissued, fun hs => hs.pop h, Store.kind_pop h⟩

section Scopes

variable {υ ε α β : Type} {deliver : Delivery (Hands υ) ε}

/-- Every program lets the store evolve if the watches leave it as it is. -/
theorem Program.evolves (hd : deliver.Still) (p : Program υ ε α) :
    Leads EvolvesStore (p.act deliver) := by
  refine p.leads_to (EvolvesStore.stepwise fun w e ctx v => ?_)
  unfold EvolvesStore
  rw [hd]
  exact .refl v.store

/-- So does a body that is entered. -/
theorem Program.evolves_entered (hd : deliver.Still) (p : Program υ ε α) (size : Nat) :
    Leads EvolvesStore
      (do Overrides.logEntering size; p.act deliver : Act (Hands υ) ε α) := by
  have hC : Calm (@EvolvesStore (Hands υ) ε) := EvolvesStore.revising.toPlain.calm
  exact .bind hC (.log hC _) fun _ => p.evolves hd

/-! ## The ways in which a run of overrides goes -/

/-- A panic under a cleanup goes on, unless the run is cut off. -/
theorem Act.panicked_of_cleanup {m : Act (Hands υ) ε α} {cleanup : Act (Hands υ) ε Unit}
    {next : α → Act (Hands υ) ε β} {ctx : Context} {w v w' : World (Hands υ) ε} {message : String}
    {o : Outcome β} (hm : m ctx w = (.panicked message, v))
    (h : (Act.onUnwind m cleanup >>= next) ctx w = (o, w')) (ho : o ≠ .halted) :
    o = .panicked message := by
  change Act.bind (Act.onUnwind m cleanup) next ctx w = (o, w') at h
  unfold Act.bind Act.onUnwind at h
  rw [hm] at h
  dsimp only at h
  generalize cleanup { ctx with unwinding := true } v = result at h
  obtain ⟨_ | _ | _, _⟩ := result
  · exact (congrArg Prod.fst h).symm
  · exact absurd (congrArg Prod.fst h).symm ho
  · exact absurd (congrArg Prod.fst h).symm ho

namespace Overrides

/-- Opening the scopes does to the store what `opened` says. -/
theorem openAll_still (hd : deliver.Still) {set : Overrides} {ctx : Context}
    {w v : World (Hands υ) ε} {gs : List Guard} (h : openAll deliver set ctx w = (.done gs, v)) :
    gs = (opened ctx.thread set w.store).1 ∧ v.store = (opened ctx.thread set w.store).2 := by
  induction set generalizing w gs with
  | nil =>
    cases h
    exact ⟨rfl, rfl⟩
  | cons pair rest ih =>
    obtain ⟨c, x⟩ := pair
    unfold openAll at h
    rw [Act.bind_of_done (Guard.acquire_run c ctx w)] at h
    obtain ⟨⟨⟩, v₁, hwrite, hrest⟩ := Act.done_of_bind h
    obtain ⟨inner, v₂, hinner, hend⟩ := Act.done_of_bind hrest
    have hset : v₁.store = ((w.store.push ctx.thread c).2.write ctx.thread c x).2 := by
      have hwritten := c.write_store hd x ctx (w.acquired ctx.thread c)
      rw [hwrite] at hwritten
      exact hwritten
    cases hend
    obtain ⟨hguards, hstore⟩ := ih hinner
    rw [hset] at hguards hstore
    rw [hguards]
    exact ⟨rfl, hstore⟩

/-- The frame of the outermost override is closed on every way out of what is inside, and the result of the
body goes away without a step. -/
theorem around_cons_skip (hd : deliver.Still) {c : CellId} {x : Value} {rest : Overrides}
    {body : Act (Hands υ) ε α} {ctx : Context} {w : World (Hands υ) ε}
    (hend : (around deliver Act.skip ((c, x) :: rest) body ctx w).1.ending ≠ .halted) :
    Store.Closes ctx.thread c (w.store.push ctx.thread c).1.id
      ((do c.write deliver x; around deliver Act.skip rest body) ctx
        (w.acquired ctx.thread c)).2.store
      (around deliver Act.skip ((c, x) :: rest) body ctx w).2.store := by
  obtain ⟨s, hclose, hlast⟩ := around_cons_closes (G := Eq) hd (fun _ _ _ _ => rfl) c x rest body ctx w
    hend
  rcases hlast with hlast | hlast
  · rwa [hlast]
  · rwa [← hlast]

/-- The ways in which overrides around a body go when the watches leave the store as it is and the run
is not cut off. Either all scopes are opened, the body runs, and the frames of all guards are closed; or
a watch panics at some pair, and the frames up to this pair are closed. -/
theorem around_closes (hd : deliver.Still) (set : Overrides) {body : Act (Hands υ) ε α}
    {ctx : Context} {w w' : World (Hands υ) ε} {o : Outcome (α × Option Fault)}
    (h : around deliver Act.skip set body ctx w = (o, w')) (ho : o ≠ .halted) :
    (∃ gs v, openAll deliver set ctx w = (.done gs, v) ∧
      ClosesAll ctx.thread gs (body ctx v).2.store w'.store) ∨
    ∃ message front, front <+: set ∧ (openAll deliver set ctx w).1 = .panicked message ∧
      o = .panicked message ∧
      ClosesAll ctx.thread (opened ctx.thread front w.store).1
        (opened ctx.thread front w.store).2 w'.store := by
  induction set generalizing w w' o with
  | nil =>
    refine .inl ⟨[], w, rfl, ?_⟩
    have hend : w'.store = (body ctx w).2.store := by
      rw [← show (around deliver Act.skip [] body ctx w).2 = w' from congrArg Prod.snd h]
      exact Leads.bind_right SameStore.plain.calm body (fun _ => .pure SameStore.plain.calm _) ctx w
    rw [hend]
    exact .nil _
  | cons pair rest ih =>
    obtain ⟨c, x⟩ := pair
    have hwritten := c.write_store hd x ctx (w.acquired ctx.thread c)
    have hend : (around deliver Act.skip ((c, x) :: rest) body ctx w).1.ending ≠ .halted := by
      rw [h]
      exact fun hhalted => ho (Outcome.ending_eq_halted.1 hhalted)
    have hfirst := around_cons_skip hd hend
    rw [show (around deliver Act.skip ((c, x) :: rest) body ctx w).2 = w' from congrArg Prod.snd h]
      at hfirst
    rw [around_cons] at h
    have hopen : openAll deliver ((c, x) :: rest) ctx w =
        (do c.write deliver x
            return Guard.next w.store ctx.thread c :: (← openAll deliver rest)) ctx
          (w.acquired ctx.thread c) := rfl
    cases hwrite : c.write deliver x ctx (w.acquired ctx.thread c) with
    | mk ow v₁ =>
    rw [hwrite] at hwritten
    cases ow with
    | done a =>
      -- The first scope is open, and what follows goes as the rest of the overrides does.
      have hinside : (do c.write deliver x; around deliver Act.skip rest body) ctx
          (w.acquired ctx.thread c) = around deliver Act.skip rest body ctx v₁ :=
        Act.bind_of_done hwrite
      cases hrest : around deliver Act.skip rest body ctx v₁ with
      | mk oi wi =>
      rw [hrest] at hinside
      have hoi : oi ≠ .halted := by
        rintro rfl
        rw [Act.bind_of_halted (Act.onUnwind_of_halted hinside)] at h
        exact ho (congrArg Prod.fst h).symm
      rw [hinside] at hfirst
      rcases ih hrest hoi with ⟨gs, v, hinner, hall⟩ | ⟨message, front, hfront, hinner, rfl, hall⟩
      · refine .inl ⟨.next w.store ctx.thread c :: gs, v, ?_, .cons hall hfirst⟩
        rw [hopen, Act.bind_of_done hwrite, Act.bind_of_done hinner]
        rfl
      · refine .inr ⟨message, (c, x) :: front, ?_, ?_, Act.panicked_of_cleanup hinside h ho, ?_⟩
        · exact List.cons_prefix_cons.2 ⟨rfl, hfront⟩
        · rw [hopen, Act.bind_of_done hwrite]
          exact congrArg Prod.fst (Act.bind_of_panicked (Prod.ext hinner rfl))
        · rw [hwritten] at hall
          exact .cons hall hfirst
    | panicked message =>
      have hinside : (do c.write deliver x; around deliver Act.skip rest body) ctx
          (w.acquired ctx.thread c) = (.panicked message, v₁) := Act.bind_of_panicked hwrite
      rw [hinside, hwritten] at hfirst
      refine .inr ⟨message, [(c, x)], ?_, ?_, Act.panicked_of_cleanup hinside h ho,
        .cons (.nil _) hfirst⟩
      · exact List.cons_prefix_cons.2 ⟨rfl, List.nil_prefix⟩
      · rw [hopen, Act.bind_of_panicked hwrite]
    | halted =>
      rw [Act.bind_of_halted (Act.onUnwind_of_halted (Act.bind_of_halted hwrite))] at h
      exact absurd (congrArg Prod.fst h).symm ho

/-- What is left when overrides of dynamic variables end: all is given back if the body leaves the stacks of
its thread as it found them, or if it does not come to the body. -/
theorem around_returned (hd : deliver.Still) {body : Act (Hands υ) ε α} (hevolves : Leads EvolvesStore body)
    {set : Overrides} {ctx : Context} {w w' : World (Hands υ) ε} (hw : w.store.WellFormed)
    (hk : ∀ c ∈ set.map Prod.fst, w.store.kind c = .dynamic) {o : Outcome (α × Option Fault)}
    (h : around deliver Act.skip set body ctx w = (o, w')) (ho : o ≠ .halted) :
    (∃ gs v, openAll deliver set ctx w = (.done gs, v) ∧
      ((body ctx v).2.store.framesIssued ≤ 2 ^ 64 →
        (∀ c, (body ctx v).2.store.stack ctx.thread c = v.store.stack ctx.thread c) →
        Returned ctx.thread set w.store (body ctx v).2.store w'.store)) ∨
    ∃ message, (openAll deliver set ctx w).1 = .panicked message ∧ o = .panicked message ∧
      (w'.store.framesIssued ≤ 2 ^ 64 → Returned ctx.thread set w.store w.store w'.store) := by
  rcases around_closes hd set h ho with ⟨gs, v, hopen, hcloses⟩ | ⟨message, front, hfront, hpanic,
    hend, hcloses⟩
  · obtain ⟨rfl, hstore⟩ := openAll_still hd hopen
    refine .inl ⟨_, v, hopen, fun hn hstack => ?_⟩
    have hleft := hevolves ctx v
    unfold EvolvesStore at hleft
    rw [hstore] at hleft hstack
    have hwf := hleft.wellFormed (wellFormed_opened hw ctx.thread set)
    have hkind : ∀ c, (body ctx v).2.store.kind c = w.store.kind c :=
      fun c => (hleft.kind c).trans ((confined_opened hk).kind c)
    exact .of_closesAll hw hwf hkind hstack hleft.framesIssued_le hn hcloses
  · have hk' : ∀ c ∈ front.map Prod.fst, w.store.kind c = .dynamic := fun c hc =>
      hk c ((hfront.map Prod.fst).subset hc)
    refine .inr ⟨message, hpanic, hend, fun hn => ?_⟩
    rw [hcloses.framesIssued] at hn
    have hreturned := Returned.of_closesAll hw (wellFormed_opened hw ctx.thread front)
      (confined_opened hk').kind (fun _ => rfl) (Nat.le_refl _) hn hcloses
    exact hreturned.of_front hfront

/-- If the body has left the stacks of its thread as it found them, no release is rejected. -/
theorem around_accepted (hd : deliver.Still) {body : Act (Hands υ) ε α} (hevolves : Leads EvolvesStore body)
    {set : Overrides} {ctx : Context} {w v w' : World (Hands υ) ε} (hw : w.store.WellFormed)
    (hk : ∀ c ∈ set.map Prod.fst, w.store.kind c = .dynamic) {gs : List Guard}
    (hopen : openAll deliver set ctx w = (.done gs, v))
    (hn : (body ctx v).2.store.framesIssued ≤ 2 ^ 64)
    (hstack : ∀ c, (body ctx v).2.store.stack ctx.thread c = v.store.stack ctx.thread c) {a : α}
    {fault : Option Fault}
    (h : around deliver Act.skip set body ctx w = (.done (a, fault), w')) : fault = none := by
  induction set generalizing w w' gs fault with
  | nil =>
    obtain ⟨b, v', -, hend⟩ := Act.done_of_bind h
    cases hend
    rfl
  | cons pair rest ih =>
    obtain ⟨c, x⟩ := pair
    rw [around_cons] at h
    obtain ⟨⟨b, inner⟩, v₃, hinside, hleave⟩ := Act.done_of_bind h
    obtain ⟨outer, v₄, hfinish, hend⟩ := Act.done_of_bind hleave
    cases hend
    obtain ⟨⟨⟩, v₁, hwrite, haround⟩ := Act.done_of_bind (Act.done_of_onUnwind hinside)
    obtain ⟨guards, v', -, hinner, -⟩ := done_of_around haround
    obtain ⟨-, rfl⟩ := Prod.mk.inj (hopen.symm.trans (openAll_cons_of_done hwrite hinner))
    have hwritten := c.write_store hd x ctx (w.acquired ctx.thread c)
    rw [hwrite] at hwritten
    have hw₁ : v₁.store.WellFormed := by
      rw [hwritten]
      exact (hw.push ctx.thread c).write ctx.thread c x
    have hk₁ : ∀ d ∈ rest.map Prod.fst, v₁.store.kind d = .dynamic := by
      intro d hd
      rw [hwritten]
      exact ((override_dynamic (hk c List.mem_cons_self) ctx.thread x).1.kind d).trans
        (hk d (List.mem_cons_of_mem _ hd))
    obtain rfl : inner = none := ih hw₁ hk₁ hinner haround
    -- The scopes inside have given the stacks back, so the frame of this scope is innermost.
    rcases around_returned hd hevolves hw₁ hk₁ haround nofun with ⟨gs', v', hopen', hback⟩ |
      ⟨message, -, hpanic, -⟩
    · obtain ⟨-, rfl⟩ := Prod.mk.inj (hinner.symm.trans hopen')
      have htop := (hback hn hstack).stack c
      rw [hwritten] at htop
      obtain ⟨r, s, hpop⟩ := Store.pop_of_top (htop.trans (stack_pushed w.store ctx.thread c x))
      exact finish_accepted rfl hpop (Act.done_of_onUnwind hfinish)
    · cases hpanic

/-- What a run inside overrides of dynamic variables touches from where the body ends, if the result of the
body touches no more when it goes away. -/
theorem run_confined (hd : deliver.Still) {discard : α → Act (Hands υ) ε Unit} {set : Overrides}
    (p : Program υ ε α) {ctx : Context} {w v : World (Hands υ) ε}
    (hk : ∀ c ∈ set.map Prod.fst, w.store.kind c = .dynamic) {gs : List Guard}
    (hopen : openAll deliver set ctx w = (.done gs, v))
    (hgone : ∀ a, ((do logEntering set.length; p.act deliver : Act (Hands υ) ε α) ctx v).1 = .done a →
      Runs (Within (w.store.kind · = .dynamic)) (discard a)) :
    Confined ctx.thread
      ((do logEntering set.length; p.act deliver : Act (Hands υ) ε α) ctx v).2.store
      (run deliver discard set (p.act deliver) ctx w).2.store := by
  have hbody := p.evolves_entered hd set.length
  rw [run_eq, enter_eq]
  rcases around_within hd discard hk (fun v c => (hbody ctx v).kind c)
    (fun _ hc => hc) with ⟨gs', v', hopen', hfound, hleft⟩ | ⟨hnot, -⟩
  · obtain ⟨-, rfl⟩ := Prod.mk.inj (hopen.symm.trans hopen')
    have hconfined := hleft hgone
    cases haround : around deliver discard set (do logEntering set.length; p.act deliver) ctx w with
    | mk o w₁ =>
    rw [haround] at hconfined
    cases o with
    | done ends =>
      rw [Act.bind_of_done haround]
      obtain ⟨a, _ | fault⟩ := ends
      · exact hconfined
      -- A release was rejected, so the result of the body goes away.
      have hkinds : ∀ c, w.store.kind c = .dynamic → w₁.store.kind c = .dynamic := by
        intro c hc
        rw [hconfined.kind, (hbody ctx v).kind, hfound.kind]
        exact hc
      obtain ⟨gs', v', v₂, hopen', hresult⟩ := done_of_around haround
      obtain ⟨-, rfl⟩ := Prod.mk.inj (hopen.symm.trans hopen')
      have hsettled : Runs (Within (w.store.kind · = .dynamic)) (settle discard (a, some fault)) :=
        .bind .trans (hgone a (congrArg Prod.fst hresult)) fun _ _ w => .refl w
      exact hconfined.trans (hsettled ctx w₁ hkinds)
    | panicked message =>
      rw [Act.bind_of_panicked haround]
      exact hconfined
    | halted =>
      rw [Act.bind_of_halted haround]
      exact hconfined
  · rw [hopen] at hnot
    exact absurd rfl hnot

/-- What is left after a run inside overrides of dynamic variables if the body leaves the stacks of its
thread as it found them, and the run ends with a value or the result of the body owns no guard. -/
theorem run_returned (hd : deliver.Still) {discard : α → Act (Hands υ) ε Unit} {set : Overrides}
    (p : Program υ ε α) {ctx : Context} {w v w' : World (Hands υ) ε} (hw : w.store.WellFormed)
    (hk : ∀ c ∈ set.map Prod.fst, w.store.kind c = .dynamic) {o : Outcome (Except Fault α)}
    (h : run deliver discard set (p.act deliver) ctx w = (o, w')) (ho : o ≠ .halted)
    (hend : discard = Act.skip ∨ ∃ result, o = .done result) {gs : List Guard}
    (hopen : openAll deliver set ctx w = (.done gs, v))
    (hn : ((do logEntering set.length; p.act deliver : Act (Hands υ) ε α) ctx
      v).2.store.framesIssued ≤ 2 ^ 64)
    (hstack : ∀ c, ((do logEntering set.length; p.act deliver : Act (Hands υ) ε α) ctx
      v).2.store.stack ctx.thread c = v.store.stack ctx.thread c) :
    Returned ctx.thread set w.store
      ((do logEntering set.length; p.act deliver : Act (Hands υ) ε α) ctx v).2.store w'.store := by
  have hevolves := p.evolves_entered hd set.length
  have hback : ∀ {ends : Outcome (α × Option Fault)} {w₁ : World (Hands υ) ε},
      around deliver Act.skip set (do logEntering set.length; p.act deliver) ctx w = (ends, w₁) →
      ends ≠ .halted → Returned ctx.thread set w.store
        ((do logEntering set.length; p.act deliver : Act (Hands υ) ε α) ctx v).2.store w₁.store := by
    intro ends w₁ hends hhalted
    rcases around_returned hd hevolves hw hk hends hhalted with ⟨gs', v', hopen', hback⟩ |
      ⟨message, hpanic, -⟩
    · obtain ⟨-, rfl⟩ := Prod.mk.inj (hopen.symm.trans hopen')
      exact hback hn hstack
    · rw [hopen] at hpanic
      cases hpanic
  rw [run_eq, enter_eq] at h
  cases haround : around deliver discard set (do logEntering set.length; p.act deliver) ctx w with
  | mk ends w₁ =>
  cases ends with
  | done ends =>
    -- No release is rejected, so the result of the run is that of the body.
    obtain ⟨a, fault⟩ := ends
    have halways := around_done_always haround Act.skip
    obtain rfl := around_accepted hd hevolves hw hk hopen hn hstack halways
    rw [Act.bind_of_done haround] at h
    cases h
    exact hback halways nofun
  | panicked message =>
    rw [Act.bind_of_panicked haround] at h
    cases h
    obtain rfl | ⟨result, hresult⟩ := hend
    · exact hback haround nofun
    · cases hresult
  | halted =>
    rw [Act.bind_of_halted haround] at h
    cases h
    exact absurd rfl ho

/-- A run inside overrides that a watch keeps from being put in place. -/
theorem run_cut (hd : deliver.Still) {discard : α → Act (Hands υ) ε Unit} {set : Overrides}
    (p : Program υ ε α) {ctx : Context} {w w' : World (Hands υ) ε} (hw : w.store.WellFormed)
    (hk : ∀ c ∈ set.map Prod.fst, w.store.kind c = .dynamic) {o : Outcome (Except Fault α)}
    (h : run deliver discard set (p.act deliver) ctx w = (o, w')) (ho : o ≠ .halted)
    (hnot : (openAll deliver set ctx w).1.ending ≠ .done) :
    ∃ message, (openAll deliver set ctx w).1 = .panicked message ∧ o = .panicked message ∧
      Confined ctx.thread w.store w'.store ∧
      (w'.store.framesIssued ≤ 2 ^ 64 → Returned ctx.thread set w.store w.store w'.store) := by
  rw [run_eq, enter_eq] at h
  obtain ⟨v, hcut | ⟨message, hpanic, hcut⟩⟩ := around_cut hnot
  · rw [Act.bind_of_halted (hcut discard _)] at h
    exact absurd (congrArg Prod.fst h).symm ho
  · rw [Act.bind_of_panicked (hcut discard _)] at h
    obtain ⟨rfl, rfl⟩ := Prod.mk.inj h
    -- The run goes as it would with a result that owns no guard.
    have hskip := hcut Act.skip (do logEntering set.length; p.act deliver)
    refine ⟨message, hpanic, rfl, ?_, fun hn => ?_⟩
    · have hbody := p.evolves_entered hd set.length
      rcases around_within hd Act.skip hk (fun v c => (hbody ctx v).kind c)
        (fun _ hc => hc) with ⟨gs, v', hopen, -⟩ | ⟨-, hconfined⟩
      · rw [hopen] at hnot
        exact absurd rfl hnot
      · rw [hskip] at hconfined
        exact hconfined
    · rcases around_returned hd (p.evolves_entered hd set.length) hw hk hskip nofun with
        ⟨gs, v', hopen, -⟩ | ⟨-, -, -, hreturned⟩
      · rw [hopen] at hnot
        exact absurd rfl hnot
      · exact hreturned hn

end Overrides

end Scopes

/-! ## Snapshots -/

namespace Snapshot

/-- A snapshot has a value for the variables of the list that the thread had bound, and it is the value
that the thread saw. The entries of a variable that is listed twice are the same. -/
theorem get?_ofStore (s : Store) (t : ThreadId) (cells : List CellId) (c : CellId) :
    (ofStore s t cells).get? c =
      if c ∈ cells ∧ s.isBound t c = true then some (s.read t c) else none := by
  unfold get? ofStore
  induction cells with
  | nil => simp
  | cons d cells ih =>
    by_cases hb : s.isBound t d = true
    · rw [List.filter_cons_of_pos hb, List.map_cons]
      by_cases hd : d = c
      · subst hd
        simp [hb]
      · have hd' : c ≠ d := fun h => hd h.symm
        simp only [List.find?_cons, hd, decide_false, List.mem_cons, hd', false_or]
        exact ih
    · rw [List.filter_cons_of_neg hb, ih]
      by_cases hd : d = c
      · subst hd
        simp [hb]
      · have hd' : c ≠ d := fun h => hd h.symm
        simp only [List.mem_cons, hd', false_or]

/-- A snapshot binds what the thread had bound, to what it saw. -/
theorem mem_bindings {s : Store} {t : ThreadId} {cells : List CellId} {c : CellId} {x : Value} :
    (c, x) ∈ (ofStore s t cells).bindings ↔ c ∈ cells ∧ s.isBound t c = true ∧ x = s.read t c := by
  unfold ofStore
  simp only [List.mem_map, List.mem_filter, Prod.mk.injEq]
  constructor
  · rintro ⟨d, ⟨hd, hb⟩, rfl, rfl⟩
    exact ⟨hd, hb, rfl⟩
  · rintro ⟨hc, hb, rfl⟩
    exact ⟨c, ⟨hc, hb⟩, rfl, rfl⟩

/-- It binds the listed variables that the thread had bound. -/
theorem mem_cells {s : Store} {t : ThreadId} {cells : List CellId} {c : CellId} :
    c ∈ (ofStore s t cells).bindings.map Prod.fst ↔ c ∈ cells ∧ s.isBound t c = true := by
  constructor
  · intro h
    obtain ⟨⟨d, x⟩, hmem, rfl⟩ := List.mem_map.1 h
    exact ⟨(mem_bindings.1 hmem).1, (mem_bindings.1 hmem).2.1⟩
  · rintro ⟨hc, hb⟩
    exact List.mem_map.2 ⟨(c, s.read t c), mem_bindings.2 ⟨hc, hb, rfl⟩, rfl⟩

/-- What a thread sees inside the bindings of a snapshot: the captured values, and everything else as
before. -/
theorem read_opened {s s' : Store} {t u : ThreadId} {cells : List CellId}
    (hk : ∀ c ∈ cells, s'.kind c = .dynamic) (c : CellId) :
    (Overrides.opened u (ofStore s t cells).bindings s').2.read u c =
      ((ofStore s t cells).get? c).getD (s'.read u c) := by
  rw [get?_ofStore]
  by_cases hc : c ∈ cells ∧ s.isBound t c = true
  · have hk' : ∀ d ∈ (ofStore s t cells).bindings.map Prod.fst, s'.kind d = .dynamic :=
      fun d hd => hk d (mem_cells.1 hd).1
    obtain ⟨x, hx, hread⟩ := Overrides.read_opened (t := u) hk' (mem_cells.2 hc)
    rw [hread, if_pos hc, (mem_bindings.1 hx).2.2]
    rfl
  · have hout : c ∉ (ofStore s t cells).bindings.map Prod.fst := fun h => hc (mem_cells.1 h)
    rw [(Overrides.sameAt_opened s' hout).read, if_neg hc]
    rfl

/-- What a thread finds at the start of a body that is run inside a snapshot: the captured values, and
everything else as it was just before, of which no root and no binding of another thread has been
touched. -/
structure Found (snapshot : Snapshot) (t : ThreadId) (s s' : Store) : Prop where
  captured : ∀ c x, snapshot.get? c = some x → s'.read t c = x
  other : ∀ c, snapshot.get? c = none → s'.read t c = s.read t c
  confined : Confined t s s'

/-- A thread inside the bindings of a snapshot finds them. -/
theorem found_opened {s s' : Store} {t u : ThreadId} {cells : List CellId}
    (hk : ∀ c ∈ cells, s'.kind c = .dynamic) :
    (ofStore s t cells).Found u s' (Overrides.opened u (ofStore s t cells).bindings s').2 := by
  have hk' : ∀ c ∈ (ofStore s t cells).bindings.map Prod.fst, s'.kind c = .dynamic :=
    fun c hc => hk c (mem_cells.1 hc).1
  refine ⟨fun c x hc => ?_, fun c hc => ?_, Overrides.confined_opened hk'⟩
  · rw [read_opened hk, hc]
    rfl
  · rw [read_opened hk, hc]
    rfl

/-- If no root has changed since, a thread that has bound none of the listed variables finds of each of
them what the first thread saw. -/
theorem Found.all_listed {s s' s'' : Store} {t u : ThreadId} {cells : List CellId}
    (h : (ofStore s t cells).Found u s' s'')
    (hroot : ∀ c ∈ cells, s'.root c = s.root c) (hfree : ∀ c ∈ cells, s'.isBound u c = false) :
    ∀ c ∈ cells, s''.read u c = s.read t c := by
  intro c hc
  have hget := get?_ofStore s t cells c
  cases hb : s.isBound t c with
  | true =>
    rw [if_pos ⟨hc, hb⟩] at hget
    exact h.captured c _ hget
  | false =>
    rw [if_neg (fun hcb => by rw [hb] at hcb; cases hcb.2)] at hget
    have hbefore : s'.read u c = s'.root c := Store.read_of_not_bound (hfree c hc)
    have hthere : s.read t c = s.root c := Store.read_of_not_bound hb
    rw [h.other c hget, hbefore, hroot c hc, hthere]

end Snapshot

/-- A snapshot carries what a thread has bound dynamic variables to over to any thread. It holds an
entry for each occurrence of a variable in the list that the first thread had bound, in the order of the
list. It may be run at any later time, on the same thread or another one, and any number of times, in
whatever state; the watches leave the store as it is, and may panic.

When all overrides are in place, the thread finds the captured values (`Snapshot.Found`), also if a
variable is listed twice. When the run ends, by a value or by a panic, the ends of the scopes have
touched nothing but bindings of the thread, and neither has the result of the body if it has gone away
with guards of dynamic variables (`Within`). If the body has left the stacks of its thread as it found
them, no release is rejected and the stacks are what they were before the run. The captured variables are
given back, and so a thread that had not bound them has not bound them; what the body has done to other
variables stays. After a panic this holds if the result owns no guard, for it has gone away with them.
If a watch panics while the overrides are put in place, all variables are as they were.

Frame numbers do not repeat within a process. -/
theorem snapshot_conveys {υ ε : Type} (cells : List CellId) (ctx₀ : Context)
    (w₀ : World (Hands υ) ε) :
    ∃ (snapshot : Snapshot) (w₀' : World (Hands υ) ε),
      Snapshot.capture cells ctx₀ w₀ = (.done snapshot, w₀') ∧ w₀'.store = w₀.store ∧
      snapshot.bindings = (cells.filter fun c => w₀.store.isBound ctx₀.thread c).map
        (fun c => (c, w₀.store.read ctx₀.thread c)) ∧
      (∀ c, snapshot.get? c = if c ∈ cells ∧ w₀.store.isBound ctx₀.thread c = true
        then some (w₀.store.read ctx₀.thread c) else none) ∧
      ∀ (deliver : Delivery (Hands υ) ε), deliver.Still →
      ∀ (ctx : Context) (w : World (Hands υ) ε), w.store.WellFormed →
      (∀ c ∈ cells, w.store.kind c = .dynamic) →
      (∀ gs v, Overrides.openAll deliver snapshot.bindings ctx w = (.done gs, v) →
        snapshot.Found ctx.thread w.store v.store ∧
        ((∀ c ∈ cells, w.store.root c = w₀.store.root c) →
          (∀ c ∈ cells, w.store.isBound ctx.thread c = false) →
          ∀ c ∈ cells, v.store.read ctx.thread c = w₀.store.read ctx₀.thread c)) ∧
      ∀ {α : Type} (discard : α → Act (Hands υ) ε Unit) (p : Program υ ε α) o w',
        snapshot.run deliver discard (p.act deliver) ctx w = (o, w') → o ≠ .halted →
        (∃ gs v o₂ v₂, Overrides.openAll deliver snapshot.bindings ctx w = (.done gs, v) ∧
          (do Overrides.logEntering snapshot.bindings.length; p.act deliver) ctx v = (o₂, v₂) ∧
          ((∀ a, o₂ = .done a → Runs (Within (w.store.kind · = .dynamic)) (discard a)) →
            Confined ctx.thread v₂.store w'.store) ∧
          (discard = Act.skip ∨ (∃ result, o = .done result) → v₂.store.framesIssued ≤ 2 ^ 64 →
            (∀ c, v₂.store.stack ctx.thread c = v.store.stack ctx.thread c) →
            Returned ctx.thread snapshot.bindings w.store v₂.store w'.store)) ∨
        ∃ message, (Overrides.openAll deliver snapshot.bindings ctx w).1 = .panicked message ∧
          o = .panicked message ∧ Confined ctx.thread w.store w'.store ∧
          (w'.store.framesIssued ≤ 2 ^ 64 →
            Returned ctx.thread snapshot.bindings w.store w.store w'.store) := by
  refine ⟨Snapshot.ofStore w₀.store ctx₀.thread cells, _, rfl, rfl, rfl,
    Snapshot.get?_ofStore w₀.store ctx₀.thread cells, ?_⟩
  intro deliver hd ctx w hw hk
  refine ⟨fun gs v hopen => ?_, fun discard p o w' h ho => ?_⟩
  · obtain ⟨-, hstore⟩ := Overrides.openAll_still hd hopen
    have hfound := Snapshot.found_opened (s := w₀.store) (t := ctx₀.thread) (u := ctx.thread) hk
    rw [← hstore] at hfound
    exact ⟨hfound, hfound.all_listed⟩
  · generalize hsnapshot : Snapshot.ofStore w₀.store ctx₀.thread cells = snapshot at h ⊢
    have hdynamic : ∀ c ∈ snapshot.bindings.map Prod.fst, w.store.kind c = .dynamic := by
      rw [← hsnapshot]
      exact fun c hc => hk c (Snapshot.mem_cells.1 hc).1
    have hrun : Overrides.run deliver discard snapshot.bindings (p.act deliver) ctx w = (o, w') := h
    by_cases hopened : (Overrides.openAll deliver snapshot.bindings ctx w).1.ending = .done
    · obtain ⟨gs, hopen⟩ := Outcome.done_of_ending hopened
      refine .inl ⟨gs, _, _, _, hopen, rfl, fun hgone => ?_, fun hend => ?_⟩
      · have hleft := Overrides.run_confined hd p hdynamic hopen hgone
        rw [hrun] at hleft
        exact hleft
      · exact Overrides.run_returned hd p hw hdynamic hrun ho hend hopen
    · exact .inr (Overrides.run_cut hd p hw hdynamic hrun ho hopened)

/-! ## What a body does to variables that are not captured -/

/-- A store with two dynamic variables, which the first thread has bound to their roots. -/
def Store.boundPair : Store :=
  let pair := (((∅ : Store).create ⟨0, "x", none⟩ .dynamic (.int 1)).2.create
    ⟨1, "y", none⟩ .dynamic (.int 2)).2
  ((pair.push ⟨0⟩ ⟨0⟩).2.push ⟨0⟩ ⟨1⟩).2

/-- The frames of the example are in order. -/
theorem Store.boundPair_wellFormed : boundPair.WellFormed := by
  have hfresh : (∅ : Store).Fresh := ⟨fun _ _ => rfl, fun _ _ => rfl⟩
  have hpair := (hfresh.create ⟨0, "x", none⟩ .dynamic (.int 1)).create ⟨1, "y", none⟩ .dynamic (.int 2)
  exact (hpair.wellFormed.push _ _).push _ _

/-- A world with that store. -/
def World.boundPair : World (Hands Unit) Unit :=
  .start Store.boundPair ()

/-- The snapshot of the first variable of the two. -/
def Snapshot.ofFirst : Snapshot :=
  .ofStore Store.boundPair ⟨0⟩ [⟨0⟩]

/-- A program that sets the second variable. -/
def Program.setOther : Program Unit Unit Unit :=
  .call (.write ⟨1⟩ (.int 9))

/-- A body that sets a variable opens and closes no frame. -/
theorem Program.keepsStacks_set {υ ε : Type} {deliver : Delivery (Hands υ) ε} (hd : deliver.Still)
    (size : Nat) (c : CellId) (x : Value) (ctx : Context) (w : World (Hands υ) ε) :
    Store.KeepsStacks w.store
      ((do Overrides.logEntering size; (Program.call (.write c x)).act deliver) ctx w).2.store := by
  have hstore : ((do Overrides.logEntering size; (Program.call (.write c x)).act deliver) ctx w).2.store
      = (w.store.write ctx.thread c x).2 := c.write_store hd x ctx _
  rw [hstore]
  exact Store.keepsStacks_write _ _ _ _

/-- The world in which another thread has overridden the first variable with the captured value. -/
def World.insideCaptured : World (Hands Unit) Unit :=
  (Overrides.openAll Delivery.startled Snapshot.ofFirst.bindings ⟨⟨1⟩, false⟩ .boundPair).2

/-- The world after a body that sets it there. -/
def World.afterCaptured : World (Hands Unit) Unit :=
  ((do Overrides.logEntering Snapshot.ofFirst.bindings.length
       Program.setFirst.act Delivery.startled) ⟨⟨1⟩, false⟩ insideCaptured).2

/-- The first variable is captured and the snapshot run on another thread. The run ends, the thread
finds the captured value in it, and afterwards it has not bound the variable, as before, and the root
is as it was. -/
theorem captured_elsewhere :
    (∃ gs v, Overrides.openAll Delivery.startled Snapshot.ofFirst.bindings ⟨⟨1⟩, false⟩ .boundPair =
        (.done gs, v) ∧ v.store.read ⟨1⟩ ⟨0⟩ = .int 1) ∧
      ∃ o w', (Program.convey .skip .ofFirst .setFirst).act Delivery.startled ⟨⟨1⟩, false⟩ .boundPair =
        (o, w') ∧ w'.store.isBound ⟨1⟩ ⟨0⟩ = false ∧ w'.store.root ⟨0⟩ = .int 1 := by
  obtain ⟨snapshot, w₀, hcapture, -, -, hget, hruns⟩ :=
    snapshot_conveys [⟨0⟩] ⟨⟨0⟩, false⟩ World.boundPair
  obtain rfl : Snapshot.ofFirst = snapshot := Outcome.done.inj (congrArg Prod.fst hcapture)
  have hd : Delivery.startled.Still := Delivery.startled_observes.store
  obtain ⟨hstart, hend⟩ := hruns Delivery.startled hd ⟨⟨1⟩, false⟩ World.boundPair
    Store.boundPair_wellFormed (by decide)
  constructor
  · obtain ⟨gs, hopen⟩ : ∃ gs, Overrides.openAll Delivery.startled Snapshot.ofFirst.bindings
        ⟨⟨1⟩, false⟩ .boundPair = (.done gs, _) := Outcome.done_of_ending (by decide +kernel)
    refine ⟨gs, _, hopen, (hstart _ _ hopen).1.captured ⟨0⟩ (.int 1) ?_⟩
    rw [hget]
    decide
  · obtain ⟨a, hrun⟩ : ∃ a, (Program.convey .skip .ofFirst .setFirst).act Delivery.startled ⟨⟨1⟩, false⟩
        World.boundPair = (.done a, _) := Outcome.done_of_ending (by decide +kernel)
    have hfree : World.boundPair.store.isBound ⟨1⟩ ⟨0⟩ = false := by decide
    refine ⟨_, _, hrun, ?_⟩
    rcases hend Act.skip .setFirst _ _ hrun nofun with ⟨gs, v, o, v₂, hopen, hbody, hleft, hback⟩ |
      ⟨message, -, hpanic, -⟩
    · obtain rfl : World.insideCaptured = v := congrArg Prod.snd hopen
      have hkeeps := Program.keepsStacks_set hd Snapshot.ofFirst.bindings.length ⟨0⟩ (.int 5)
        ⟨⟨1⟩, false⟩ World.insideCaptured
      obtain rfl : World.afterCaptured = v₂ := congrArg Prod.snd hbody
      have hn : World.afterCaptured.store.framesIssued ≤ 2 ^ 64 := by decide +kernel
      have hreturned := hback (.inl rfl) hn fun c => hkeeps.stack ⟨1⟩ c
      have hroot : World.afterCaptured.store.root ⟨0⟩ = .int 1 := by decide +kernel
      refine ⟨(hreturned.bound ⟨0⟩).trans hfree, Eq.trans ?_ hroot⟩
      exact (hleft fun a _ => Act.skip_within a).root ⟨0⟩
    · cases hpanic

/-- The world in which the first variable is overridden with the captured value, and that after the
body that sets the other one. -/
def World.insideFirst : World (Hands Unit) Unit :=
  (Overrides.openAll Delivery.startled Snapshot.ofFirst.bindings ⟨⟨0⟩, false⟩ .boundPair).2

/-- The world after a body that sets the other variable in it. -/
def World.afterOther : World (Hands Unit) Unit :=
  ((do Overrides.logEntering Snapshot.ofFirst.bindings.length
       Program.setOther.act Delivery.startled) ⟨⟨0⟩, false⟩ insideFirst).2

/-- A body may set a bound variable that was not captured, without opening or closing a frame. The value
stays when the run ends. -/
theorem sets_uncaptured :
    (Overrides.openAll Delivery.startled Snapshot.ofFirst.bindings ⟨⟨0⟩, false⟩
      .boundPair).1.ending = .done ∧
    (∀ c, World.afterOther.store.stack ⟨0⟩ c = World.insideFirst.store.stack ⟨0⟩ c) ∧
    ((Program.convey .skip .ofFirst .setOther).act Delivery.startled ⟨⟨0⟩, false⟩
      .boundPair).1.ending = .done ∧
    World.boundPair.store.isBound ⟨0⟩ ⟨1⟩ = true ∧
    ((Program.convey .skip .ofFirst .setOther).act Delivery.startled ⟨⟨0⟩, false⟩
      .boundPair).2.store.read ⟨0⟩ ⟨1⟩ ≠ World.boundPair.store.read ⟨0⟩ ⟨1⟩ := by
  refine ⟨by decide +kernel, fun c => ?_, by decide +kernel, by decide, by decide +kernel⟩
  have hkeeps := Program.keepsStacks_set Delivery.startled_observes.store
    Snapshot.ofFirst.bindings.length ⟨1⟩ (.int 9) ⟨⟨0⟩, false⟩ World.insideFirst
  exact hkeeps.stack ⟨0⟩ c

end ScopedBinding
