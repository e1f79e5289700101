import ScopedBinding.Proofs.Declarations
import ScopedBinding.Proofs.History

/-!
# Changes are complete before anybody is told

Every operation that changes a variable makes the whole change first and then tells the watches. So
the store that it leaves does not depend on the watches, if these only observe, and in particular not on
whether one of them panics and which (`Commits`). The watches are told in order, up to the first that
panics (`Heard`), and the panic is that of the operation.

What is rejected or given up before the change, on the other hand, tells nobody and changes nothing.
-/

set_option autoImplicit false

namespace ScopedBinding

open Act (Ends)
open Store (KeepsStacks SameStack)

/-! ## The watches of a variable -/

namespace Store

variable {s s' : Store}

/-- A change of a cell that leaves its watches alone leaves all watches alone. -/
theorem watches_updateCell (s : Store) (c d : CellId) {change : Cell → Cell}
    (h : ∀ cell, (change cell).watches = cell.watches) :
    (s.updateCell c change).watches d = s.watches d := by
  unfold watches
  rw [cell?_updateCell]
  split
  · next hd => cases hc : s.cell? c <;> simp [hd, hc, h]
  · rfl

/-- Setting a variable registers no watch. -/
theorem watches_write (s : Store) (t : ThreadId) (c d : CellId) (v : Value) :
    (s.write t c v).2.watches d = s.watches d := by
  unfold write
  split
  · rfl
  · exact s.watches_updateCell c d fun _ => rfl

/-- Closing a frame registers no watch. -/
theorem watches_pop {t : ThreadId} {c : CellId} {f : FrameId} {r : Replaced}
    (h : s.pop t c f = .ok (r, s')) (d : CellId) : s'.watches d = s.watches d := by
  obtain ⟨frame, rest, -, -, ⟨-, -, rfl⟩ | ⟨-, -, -, rfl⟩ | ⟨-, -, -, rfl⟩⟩ := pop_ok_cases h
  · exact s.watches_updateCell c d fun _ => rfl
  · rfl
  · rfl

end Store

section Watches

variable {η ε : Type} {deliver : Delivery η ε} {ctx : Context} {w w' v : World η ε}

/-- A change of a value registers no watch and removes none. -/
theorem World.Altered.watches {t : ThreadId} {p : Place} {e : Event} (h : w.Altered t p e v)
    (d : CellId) : v.store.watches d = w.store.watches d := by
  cases h with
  | written c x => exact w.store.watches_write t c d x
  | rootSet c x => exact w.store.watches_updateCell c d fun _ => rfl
  | returned c f hp => exact Store.watches_pop hp d

/-- An event is told to some watches, one after another. None of them panics but for the last, whose
panic is how the telling ends. -/
inductive Heard (deliver : Delivery η ε) (e : Event) (ctx : Context) :
    List WatchId → World η ε → Outcome Unit → World η ε → Prop where
  | nobody (w : World η ε) : Heard deliver e ctx [] w (.done ()) w
  | next {k : WatchId} {ks : List WatchId} {w v w' : World η ε} {o : Outcome Unit}
      (hk : deliver k e ctx w = (.done (), v)) (h : Heard deliver e ctx ks v o w') :
      Heard deliver e ctx (k :: ks) w o w'
  | last {k : WatchId} {w w' : World η ε} {message : String}
      (hk : deliver k e ctx w = (.panicked message, w')) :
      Heard deliver e ctx [k] w (.panicked message) w'

/-- Watches that were told have left the store as it is. -/
theorem Heard.store {e : Event} {ks : List WatchId} {o : Outcome Unit} (hd : deliver.Still)
    (h : Heard deliver e ctx ks w o w') : w'.store = w.store := by
  induction h with
  | nobody w => rfl
  | @next k ks w v w' o hk h ih =>
    have hstore := hd k e ctx w
    rw [hk] at hstore
    exact ih.trans hstore
  | @last k w w' message hk =>
    have hstore := hd k e ctx w
    rw [hk] at hstore
    exact hstore

/-- Telling watches that do not end the run goes up to the first that panics. -/
theorem heard_forM (hd : ∀ k e, Ends Ending.Survives (deliver k e)) (e : Event)
    (ks : List WatchId) (ctx : Context) (w : World η ε) :
    ∃ told o w', ks.forM (fun k => deliver k e) ctx w = (o, w') ∧
      Heard deliver e ctx told w o w' ∧ told <+: ks ∧ (o = .done () → told = ks) := by
  induction ks generalizing w with
  | nil => exact ⟨[], .done (), w, rfl, .nobody w, List.prefix_rfl, fun _ => rfl⟩
  | cons k ks ih =>
    have hsurvives := hd k e ctx w
    cases hk : deliver k e ctx w with
    | mk o v =>
    rw [hk] at hsurvives
    cases o with
    | done a =>
      obtain ⟨told, o, w', hrest, hheard, htold, hall⟩ := ih v
      refine ⟨k :: told, o, w', ?_, .next hk hheard, ?_, fun ho => ?_⟩
      · exact (Act.bind_of_done hk).trans hrest
      · exact List.cons_prefix_cons.2 ⟨rfl, htold⟩
      · rw [hall ho]
    | panicked message =>
      refine ⟨[k], .panicked message, v, Act.bind_of_panicked hk, .last hk, ?_, nofun⟩
      exact List.cons_prefix_cons.2 ⟨rfl, List.nil_prefix⟩
    | halted => exact absurd rfl hsurvives

end Watches

/-! ## Operations that commit -/

section Operations

variable {η ε α : Type} {ctx : Context} {w₀ w v : World η ε} {p : Place} {e : Event} {a : α}

/-- An operation, run from `w₀`, changes a variable at a place. It makes the change from the world `w`,
which comes to `v` with it, and `v` does not depend on the watches. They are told of it afterwards, in
order, up to the first that panics, and the store stays that of `v`. -/
structure Commits (op : Delivery η ε → Act η ε α) (ctx : Context) (w₀ : World η ε) (a : α)
    (w : World η ε) (p : Place) (e : Event) (v : World η ε) : Prop where
  altered : w.Altered ctx.thread p e v
  describes : e.Describes ctx.thread p w.store v.store
  wellFormed : v.store.WellFormed
  registry : ∀ d, v.store.watches d = w.store.watches d
  told : ∀ deliver : Delivery η ε, deliver.Still → (∀ k e, Ends Ending.Survives (deliver k e)) →
    ∃ told o w', op deliver ctx w₀ = (o.map fun _ => a, w') ∧ w'.store = v.store ∧
      Heard deliver e ctx told v o w' ∧ told <+: (w.store.watches e.cell).values ∧
      (o = .done () → told = (w.store.watches e.cell).values)

/-- An operation that makes a change and then delivers its event commits. -/
theorem Commits.of_deliver {op : Delivery η ε → Act η ε α} (hw : w.store.WellFormed)
    (h : w.Altered ctx.thread p e v)
    (hop : ∀ deliver, op deliver ctx w₀ = (do e.deliver deliver; pure a : Act η ε α) ctx v) :
    Commits op ctx w₀ a w p e v := by
  refine ⟨h, h.describes hw, h.wellFormed hw, h.watches, fun deliver hstill hends => ?_⟩
  obtain ⟨told, o, w', hrun, hheard, htold, hall⟩ :=
    heard_forM hends e (v.store.watches e.cell).values ctx v
  rw [h.watches] at htold hall
  refine ⟨told, o, w', ?_, hheard.store hstill, hheard, htold, hall⟩
  have hdeliver : e.deliver deliver ctx v = (o, w') := hrun
  rw [hop, Act.map_run (fun _ => a), hdeliver]

namespace CellId

/-- Setting a variable commits. -/
theorem write_commits (hw : w.store.WellFormed) (c : CellId) (x : Value) (ctx : Context) :
    Commits (fun deliver => c.write deliver x) ctx w () w (w.store.writtenPlace ctx.thread c)
      ⟨c, (w.store.write ctx.thread c x).2.symbol c, (w.store.write ctx.thread c x).1.old,
        (w.store.write ctx.thread c x).1.new, .write⟩
      (w.changed ctx.thread c .write (w.store.write ctx.thread c x).1
        (w.store.write ctx.thread c x).2) := by
  refine .of_deliver hw (.written c x) fun deliver => ?_
  rw [bind_pure_unit]
  rfl

/-- Setting a root commits. -/
theorem setRoot_commits (hw : w.store.WellFormed) (c : CellId) (x : Value) (ctx : Context) :
    Commits (fun deliver => c.setRoot deliver x) ctx w () w .root
      ⟨c, (w.store.setRoot c x).2.symbol c, (w.store.setRoot c x).1.old,
        (w.store.setRoot c x).1.new, .write⟩
      (w.changed ctx.thread c .write (w.store.setRoot c x).1 (w.store.setRoot c x).2) := by
  refine .of_deliver hw (.rootSet c x) fun deliver => ?_
  rw [bind_pure_unit]
  rfl

/-- Setting a root to what a function makes of it commits from where the function has ended and the lock
is free again. -/
theorem alterRoot_commits {u : World η ε} (hu : u.store.WellFormed) {c : CellId}
    {f : Value → Act η ε Value} {x : Value} (hfree : w₀.store.altering c = false)
    (hf : f (w₀.store.root c) ctx (w₀.locked c) = (.done x, u)) :
    Commits (fun deliver => c.alterRoot deliver f) ctx w₀ x (u.unlocked c) .root
      ⟨c, ((u.unlocked c).store.setRoot c x).2.symbol c, ((u.unlocked c).store.setRoot c x).1.old,
        ((u.unlocked c).store.setRoot c x).1.new, .write⟩
      ((u.unlocked c).changed ctx.thread c .write ((u.unlocked c).store.setRoot c x).1
        ((u.unlocked c).store.setRoot c x).2) := by
  have hw : (u.unlocked c).store.WellFormed := (Store.Revises.unlock c).wellFormed hu
  refine .of_deliver hw (.rootSet c x) fun deliver => ?_
  rw [alterRoot_of_done hfree hf]
  rfl

/-- Closing a frame commits. -/
theorem pop_commits (hw : w.store.WellFormed) {c : CellId} {f : FrameId} {r : Replaced} {s : Store}
    (hp : w.store.pop ctx.thread c f = .ok (r, s)) :
    Commits (fun deliver => c.pop deliver f) ctx w (.ok ()) w (w.store.returnedPlace ctx.thread c)
      ⟨c, s.symbol c, r.old, r.new, .restore⟩
      ((w.closed ctx.thread c f s).changed ctx.thread c .restore r s) :=
  .of_deliver hw (.returned c f hp) fun _ => pop_delivers hp

end CellId

/-- Declaring a variable again in the same way commits as setting its root does. -/
theorem Namespace.declare_commits (hw : w.store.WellFormed) {ns : Namespace} {name : String}
    {c : CellId} (hc : ns.vars.get? (ns.symbols.symbol name).1.id = some c) (x : Value)
    (ctx : Context) :
    Commits (fun deliver => ns.declare deliver (w.store.kind c) name x) ctx w
      (.ok c, ns.interned name) w .root
      ⟨c, (w.store.setRoot c x).2.symbol c, (w.store.setRoot c x).1.old,
        (w.store.setRoot c x).1.new, .write⟩
      (w.changed ctx.thread c .write (w.store.setRoot c x).1 (w.store.setRoot c x).2) := by
  refine .of_deliver hw (.rootSet c x) fun deliver => ?_
  rw [declare_of_some hc, if_pos rfl]
  exact Act.bind_congr (redeclare_of_wellFormed hw c x ctx) _

/-- How the operations on a variable change it, from a world. -/
structure CellId.AllOrNothing (c : CellId) (ctx : Context) (w : World η ε) : Prop where
  write (x : Value) : ∃ e v,
    Commits (fun deliver => c.write deliver x) ctx w () w (w.store.writtenPlace ctx.thread c) e v ∧
    e.cell = c ∧ e.new = x ∧ KeepsStacks w.store v.store
  setRoot (x : Value) : ∃ e v,
    Commits (fun deliver => c.setRoot deliver x) ctx w () w .root e v ∧
    e.cell = c ∧ e.new = x ∧ KeepsStacks w.store v.store
  /-- The function may change anything itself before it returns the new root. It runs while the alteration
  has the lock of the variable, which is free again when the change is made. -/
  alterRoot (f : Value → Act η ε Value) (x : Value) (u : World η ε)
    (hfree : w.store.altering c = false)
    (hf : f (w.store.root c) ctx (w.locked c) = (.done x, u)) (hu : u.store.WellFormed) : ∃ e v,
    Commits (fun deliver => c.alterRoot deliver f) ctx w x (u.unlocked c) .root e v ∧
    e.cell = c ∧ e.new = x ∧ KeepsStacks u.store v.store
  /-- If it panics nothing happens but what it has done itself, and the lock is free again. What follows
  goes on as if only the function had been called, with the lock. -/
  alterRootFails (f : Value → Act η ε Value) (message : String) (u : World η ε)
    (hfree : w.store.altering c = false)
    (hf : f (w.store.root c) ctx (w.locked c) = (.panicked message, u)) (deliver : Delivery η ε) :
    c.alterRoot deliver f ctx w = (.panicked message, u.unlocked c) ∧
    (u.unlocked c).store.altering c = false ∧
    ∀ {γ : Type} (next : Except String Value → Act η ε γ),
      (Act.attempt (c.alterRoot deliver f) >>= next) ctx w =
        (Act.attempt (Act.onUnwind (f (w.store.root c)) c.unlock) >>= next) ctx (w.locked c)
  /-- Who finds the lock taken changes nothing and tells nobody. -/
  alterRootWaits (f : Value → Act η ε Value) (htaken : w.store.altering c = true)
    (deliver : Delivery η ε) : c.alterRoot deliver f ctx w = (.halted, w)
  /-- The stack from which the frame is taken is that of every thread that sees it, and the saved value
  is back unless the binding of the thread is gone with its last frame. -/
  pop (f : FrameId) (r : Replaced) (s : Store) (hp : w.store.pop ctx.thread c f = .ok (r, s)) :
    ∃ e v frame rest,
    Commits (fun deliver => c.pop deliver f) ctx w (.ok ()) w (w.store.returnedPlace ctx.thread c)
      e v ∧
    e.cell = c ∧ frame.id = f ∧ w.store.stack ctx.thread c = FrameStack.push rest frame ∧
    (∀ t d, v.store.stack t d =
      if d = c ∧ w.store.SameStack c ctx.thread t then rest else w.store.stack t d) ∧
    (w.store.kind c = .root ∨ rest.isEmpty = false → v.store.read ctx.thread c = frame.saved) ∧
    (w.store.kind c = .dynamic → rest.isEmpty = true →
      v.store.isBound ctx.thread c = false ∧ v.store.root c = w.store.root c)
  popRejected (f : FrameId) (fault : Fault) (hp : w.store.pop ctx.thread c f = .error fault)
    (deliver : Delivery η ε) : c.pop deliver f ctx w = (.done (.error fault), w)
  /-- The name space keeps the variable. -/
  redeclared (ns : Namespace) (name : String) (x : Value)
    (hc : ns.vars.get? (ns.symbols.symbol name).1.id = some c) : ∃ e v,
    Commits (fun deliver => ns.declare deliver (w.store.kind c) name x) ctx w
      (.ok c, ns.interned name) w .root e v ∧
    e.cell = c ∧ e.new = x ∧ KeepsStacks w.store v.store

/-- Changes of variables are all or nothing, and complete before anybody is told of them. The variable
may be of either kind, and its watches only observe; any of them may panic.

An operation that changes the variable comes to a world that does not depend on the watches, with the
complete change: the value at its place, every other value of every thread, and all stacks. Then the
watches are told, up to the first that panics, and the store stays as it is and with it their registry.
A function for a new root that panics, and a frame that is not innermost, change nothing and tell
nobody. -/
theorem changes_all_or_nothing (hw : w.store.WellFormed) (ctx : Context) (c : CellId) :
    c.AllOrNothing ctx w where
  write x := ⟨_, _, c.write_commits hw x ctx, rfl, w.store.write_new ctx.thread c x,
    w.store.keepsStacks_write ctx.thread c x⟩
  setRoot x := ⟨_, _, c.setRoot_commits hw x ctx, rfl, rfl, w.store.keepsStacks_setRoot c x⟩
  alterRoot f x u hfree hf hu :=
    ⟨_, _, CellId.alterRoot_commits hu hfree hf, rfl, rfl,
      (u.store.keepsStacks_unlock c).trans ((u.unlocked c).store.keepsStacks_setRoot c x)⟩
  alterRootFails f message u hfree hf deliver := by
    have hrun : c.alterRoot deliver f ctx w = (.panicked message, u.unlocked c) :=
      CellId.alterRoot_of_panicked hfree hf
    refine ⟨hrun, u.store.altering_unlock c, fun next => ?_⟩
    have hcleaned : Act.onUnwind (f (w.store.root c)) c.unlock ctx (w.locked c) =
        (.panicked message, u.unlocked c) := Act.onUnwind_of_panicked hf rfl
    have hcaught : Act.attempt (c.alterRoot deliver f) ctx w =
        Act.attempt (Act.onUnwind (f (w.store.root c)) c.unlock) ctx (w.locked c) := by
      unfold Act.attempt
      rw [hrun, hcleaned]
    exact Act.bind_congr hcaught next
  alterRootWaits f htaken deliver := CellId.alterRoot_of_taken htaken
  pop f r s hp := by
    obtain ⟨frame, rest, hid, hstack, hafter⟩ := Store.stack_pop hp
    subst hid
    obtain ⟨hback, hgone⟩ := (hw c).read_pop hstack hp
    exact ⟨_, _, frame, rest, CellId.pop_commits hw hp, rfl, rfl, hstack, hafter, hback, hgone⟩
  popRejected f fault hp deliver := CellId.pop_of_error hp
  redeclared ns name x hc := ⟨_, _, Namespace.declare_commits hw hc x ctx, rfl, rfl,
    w.store.keepsStacks_setRoot c x⟩

end Operations

/-- Watches of which the second one panics. -/
def Delivery.picky : Delivery (Hands Unit) Unit := fun k _ _ w =>
  if k = ⟨1⟩ then (.panicked "not this", w) else (.done (), w)

/-- A world in which the dynamic variable has three watches. -/
def World.watchedThrice : World (Hands Unit) Unit :=
  .start (((Store.sample.watch ⟨0⟩ "a" ⟨0⟩).watch ⟨0⟩ "b" ⟨1⟩).watch ⟨0⟩ "c" ⟨2⟩) ()

/-- Setting the variable panics, but leaves the same store as with watches that do nothing. -/
theorem picky_write_is_complete : ∃ message w₁ w₂,
    CellId.write .picky ⟨0⟩ (.int 9) ⟨⟨0⟩, false⟩ .watchedThrice = (.panicked message, w₁) ∧
    CellId.write .silent ⟨0⟩ (.int 9) ⟨⟨0⟩, false⟩ .watchedThrice = (.done (), w₂) ∧
    w₁.store = w₂.store ∧ w₁.store.root ⟨0⟩ = .int 9 := by
  have hw : World.watchedThrice.store.WellFormed := by
    have hfirst := (Store.Revises.watch ⟨0⟩ "a" ⟨0⟩).wellFormed Store.sample_fresh.wellFormed
    have hsecond := (Store.Revises.watch ⟨0⟩ "b" ⟨1⟩).wellFormed hfirst
    exact (Store.Revises.watch ⟨0⟩ "c" ⟨2⟩).wellFormed hsecond
  obtain ⟨e, v, hcommits, -, -, -⟩ :=
    (changes_all_or_nothing hw ⟨⟨0⟩, false⟩ ⟨0⟩).write (.int 9)
  have hstill : Delivery.picky.Still := by
    intro k e ctx w
    unfold Delivery.picky
    split <;> rfl
  have hends : ∀ k e, Ends Ending.Survives (Delivery.picky k e) := by
    intro k e ctx w
    unfold Delivery.picky
    split <;> exact nofun
  obtain ⟨told, o, w₁, hrun, hstore, -, -, -⟩ := hcommits.told .picky hstill hends
  obtain ⟨told', o', w₂, hrun', hstore', -, -, -⟩ :=
    hcommits.told .silent (fun _ _ _ _ => rfl) fun _ _ _ _ => nofun
  obtain rfl : (CellId.write .picky ⟨0⟩ (.int 9) ⟨⟨0⟩, false⟩ .watchedThrice).2 = w₁ :=
    congrArg Prod.snd hrun
  obtain rfl : (CellId.write .silent ⟨0⟩ (.int 9) ⟨⟨0⟩, false⟩ .watchedThrice).2 = w₂ :=
    congrArg Prod.snd hrun'
  refine ⟨"not this", _, _, Prod.ext rfl rfl, Prod.ext rfl rfl, hstore.trans hstore'.symm, ?_⟩
  decide +kernel

end ScopedBinding
