import ScopedBinding.Proofs.Changes
import ScopedBinding.Proofs.MirroredRoutines

/-!
# Threads do not interfere

A thread that works on dynamic variables amid other threads, which change no root of these
variables, gets the same answers as if it were alone (`threads_are_isolated`): its run ends in the
same way, and of the variables it sees the same at the end. Only its frames have other numbers, in
the same order.

What makes it so is that a thread touches its own bindings and roots only, and of roots nothing
where it has a binding. A single step of a routine makes at most one change of the store, by its
own thread (`Step.by_thread`). Overrides of dynamic variables change no root by themselves,
whatever their body does (`Overrides.spares_roots`).
-/

set_option autoImplicit false

namespace ScopedBinding

open Relation (ReflGen)

/-! ## Steps of a thread -/

/-- Closing a frame is a step of its thread, or nothing if it is rejected. -/
theorem Store.StepBy.close (s : Store) (u : ThreadId) (c : CellId) (f : FrameId) :
    ReflGen (StepBy u) s (s.close u c f) := by
  cases hp : s.pop u c f with
  | error fault => rw [close_of_error hp]
  | ok result =>
    obtain ⟨r, s'⟩ := result
    rw [close_of_ok hp]
    exact .single (.pop c f hp)

/-- So is what either closes a frame or does nothing. -/
theorem Store.StepBy.of_closes {s s' : Store} {u : ThreadId} {c : CellId} {f : FrameId}
    (h : s' = s ∨ s' = s.close u c f) : ReflGen (StepBy u) s s' := by
  rcases h with rfl | rfl
  · exact .refl
  · exact StepBy.close s u c f

section Steps

variable {η ε : Type} {deliver : Delivery η ε}

/-- What setting a root does to the store if the watches leave it as it is. -/
theorem CellId.setRoot_store (hd : deliver.Still) (c : CellId) (v : Value) (ctx : Context)
    (w : World η ε) : (c.setRoot deliver v ctx w).2.store = (w.store.setRoot c v).2 :=
  c.announce_leads SameStore.plain hd .write (w.store.setRoot c v).1 ctx _

/-- What closing a frame does to the store if the watches leave it as it is. -/
theorem CellId.pop_store (hd : deliver.Still) (c : CellId) (f : FrameId) (ctx : Context)
    (w : World η ε) : (c.pop deliver f ctx w).2.store = w.store.close ctx.thread c f := by
  have hP : Calm (@SameStore η ε) := SameStore.plain.calm
  cases hp : w.store.pop ctx.thread c f with
  | error fault => rw [pop_of_error hp, Store.close_of_error hp]
  | ok result =>
    obtain ⟨r, s⟩ := result
    rw [pop_of_ok hp, Store.close_of_ok hp]
    have hannounce := c.announce_leads SameStore.plain hd .restore r
    exact Act.Leads.bind hP hannounce (fun _ => .pure hP _) ctx (w.closed ctx.thread c f s)

namespace Guard

/-- A guard that has nothing to release changes nothing. -/
theorem release_closes (hd : deliver.Still) (g : Guard) (ctx : Context) (w : World η ε) :
    (g.release deliver ctx w).2.store = w.store ∨
      (g.release deliver ctx w).2.store = w.store.close ctx.thread g.cell g.frame := by
  cases hg : g.state with
  | acquired => exact .inr (release_store hd hg ctx w)
  | released =>
    rw [release_of_released hg]
    exact .inl rfl
  | abandoned =>
    obtain ⟨c, f, state⟩ := g
    cases hg
    exact .inl rfl

/-- Dropping a guard changes nothing if there is nothing to release. -/
theorem drop_closes (hd : deliver.Still) (g : Guard) (ctx : Context) (w : World η ε) :
    (g.drop deliver ctx w).2.store = w.store ∨
      (g.drop deliver ctx w).2.store = w.store.close ctx.thread g.cell g.frame := by
  cases hg : g.state with
  | acquired => exact .inr (drop_store hd hg ctx w)
  | released | abandoned =>
    unfold drop
    rw [hg]
    exact .inl rfl

end Guard

end Steps

section Others

variable {σ ε α : Type} {deliver : Delivery (Hands (Known σ)) ε}

/-- Releasing a guard in hand is a step of its thread, or nothing. -/
theorem Hands.release_by_thread (hd : deliver.Still) (n : Nat) (ctx : Context)
    (w : World (Hands (Known σ)) ε) :
    ReflGen (Store.StepBy ctx.thread) w.store (release deliver n ctx w).2.store := by
  rcases release_cases deliver n ctx w with hnone | ⟨h, hget, hthread⟩
  · rw [hnone]
  · have hstore : (release deliver n ctx w).2.store =
        (h.guard.release deliver ctx (w.without n)).2.store := by
      cases hrelease : h.guard.release deliver ctx (w.without n) with
      | mk o v =>
      cases o with
      | done result =>
        cases result with
        | ok guard => rw [release_of_returned hget hthread hrelease]; rfl
        | error fault => rw [release_of_refused hget hthread hrelease]; rfl
      | panicked message => rw [release_of_panicked hget hthread hrelease]; rfl
      | halted => rw [release_of_halted hget hthread hrelease]
    rw [hstore]
    exact Store.StepBy.of_closes (h.guard.release_closes hd ctx (w.without n))

/-- Letting a guard in hand go out of scope is a step of its thread, or nothing. -/
theorem Hands.drop_by_thread (hd : deliver.Still) (n : Nat) (ctx : Context)
    (w : World (Hands (Known σ)) ε) :
    ReflGen (Store.StepBy ctx.thread) w.store (drop deliver n ctx w).2.store := by
  rcases drop_cases deliver n ctx w with hnone | ⟨h, hget, -, hdrop⟩
  · rw [hnone]
  · rw [hdrop]
    exact Store.StepBy.of_closes (h.guard.drop_closes hd ctx (w.without n))

/-- A step of a routine makes at most one change of the store, and its own thread makes it. -/
theorem Step.by_thread (hd : deliver.Still) (op : Step α) (ctx : Context)
    (w : World (Hands (Known σ)) ε) :
    ReflGen (Store.StepBy ctx.thread) w.store (op.program.act deliver ctx w).2.store := by
  cases op with
  | ask question c => exact .refl
  | precedes n m => exact .refl
  | write c v =>
    have hstore := c.write_store hd v ctx w
    unfold program Program.act Call.act
    rw [hstore]
    exact .single (.write c v)
  | setRoot c v =>
    have hstore := c.setRoot_store hd v ctx w
    unfold program Program.act Call.act
    rw [hstore]
    exact .single (.setRoot c v)
  | issueFrame => exact .single .issueFrame
  | push c => exact .single (.push c)
  | acquire c => exact .single (.push c)
  | release n =>
    have hrelease := Hands.release_by_thread hd n ctx w
    have hstore : ((Step.release n).program.act deliver ctx w).2 =
        (Hands.release deliver n ctx w).2 := congrArg Prod.snd (Act.map_run _ _ ctx w)
    rw [hstore]
    exact hrelease
  | drop n => exact Hands.drop_by_thread hd n ctx w
  | forget n =>
    rcases Hands.forget_cases n ctx w with hnone | ⟨h, hget, hforget⟩
    · rw [show (Step.forget n).program.act deliver ctx w = (.done (), w) from hnone]
    · rw [show (Step.forget n).program.act deliver ctx w = (.done (), w.without n) from hforget]
      exact .refl
  | pop c n =>
    have hlook : (Program.call (.look fun _ w => w.host.own.frames[n]?) :
        Program (Known σ) ε (Option FrameId)).act deliver ctx w =
          (.done w.host.own.frames[n]?, w) := rfl
    cases hf : w.host.own.frames[n]? with
    | none =>
      rw [hf] at hlook
      have hrun : (Step.pop c n).program.act deliver ctx w = (.done none, w) :=
        (Act.bind_of_done hlook).trans rfl
      rw [hrun]
    | some f =>
      rw [hf] at hlook
      have hrun : (Step.pop c n).program.act deliver ctx w =
          (do return some ((← c.pop deliver f).mapError Fault.kindName) :
            Act (Hands (Known σ)) ε (Option (Except String Unit))) ctx w :=
        (Act.bind_of_done hlook).trans rfl
      rw [hrun, Act.map_run, c.pop_store hd]
      exact Store.StepBy.close w.store ctx.thread c f

/-- The world after a step that a thread makes in the meantime. -/
def World.turn (deliver : Delivery (Hands (Known σ)) ε) (u : ThreadId) (op : Step α)
    (w : World (Hands (Known σ)) ε) : World (Hands (Known σ)) ε :=
  { w with store := (op.program.act deliver ⟨u, false⟩ w).2.store }

/-- Whatever steps the other threads choose to make, they do not intrude as long as they change no
root of the variables. -/
theorem Intrudes.of_turns (hd : deliver.Still) {t : ThreadId} {V : CellId → Prop}
    {others : World (Hands (Known σ)) ε → World (Hands (Known σ)) ε}
    (hturn : ∀ w, ∃ u, u ≠ t ∧ ∃ (β : Type) (op : Step β), others w = World.turn deliver u op w)
    (hroot : ∀ w c, V c → (others w).store.root c = w.store.root c) : Intrudes t V others := by
  refine ⟨fun w => ?_, fun w => ?_, fun w => ?_, fun w => ?_, fun w => ?_⟩
  · have hkept := hroot w
    obtain ⟨u, hu, β, op, hothers⟩ := hturn w
    have hstep := op.by_thread hd ⟨u, false⟩ w
    have hstore : (others w).store = (op.program.act deliver ⟨u, false⟩ w).2.store := by
      rw [hothers]
      rfl
    rw [hstore] at hkept ⊢
    generalize (op.program.act deliver ⟨u, false⟩ w).2.store = s at hstep hkept ⊢
    cases hstep with
    | refl => exact .refl
    | single hby => exact .single ⟨u, hu, hby, hkept⟩
  all_goals
    obtain ⟨u, -, β, op, hothers⟩ := hturn w
    rw [hothers]
    rfl

end Others

/-! ## Roots -/

namespace Overrides

/-- Overrides around a body change no root. The body finds every root as it was, and every root
stays as the body leaves it, also if the result of the body goes away with guards of dynamic
variables. -/
def SparesRoots {υ ε α : Type} (deliver : Delivery (Hands υ) ε) (discard : α → Act (Hands υ) ε Unit)
    (set : Overrides) (body : Act (Hands υ) ε α) (ctx : Context) (w : World (Hands υ) ε) : Prop :=
  (∃ gs v o v', openAll deliver set ctx w = (.done gs, v) ∧
    (do logEntering set.length; body : Act (Hands υ) ε α) ctx v = (o, v') ∧
    (∀ c, v.store.root c = w.store.root c) ∧
    ((∀ a, o = .done a → Act.Runs (Within (w.store.kind · = .dynamic)) (discard a)) →
      ∀ c, (enter deliver discard set body ctx w).2.store.root c = v'.store.root c)) ∨
  ∀ c, (enter deliver discard set body ctx w).2.store.root c = w.store.root c

/-- Overrides of dynamic variables change no root. -/
theorem spares_roots {υ ε α : Type} {deliver : Delivery (Hands υ) ε} (hd : deliver.Still)
    (discard : α → Act (Hands υ) ε Unit) (set : Overrides) (p : Program υ ε α) (ctx : Context)
    (w : World (Hands υ) ε) (hk : ∀ c ∈ set.map Prod.fst, w.store.kind c = .dynamic) :
    SparesRoots deliver discard set (p.act deliver) ctx w := by
  have hbody := p.evolves_entered hd set.length
  unfold SparesRoots
  rw [enter_eq]
  rcases around_within hd discard hk (fun v c => (hbody ctx v).kind c) (fun _ hc => hc) with
    ⟨gs, v, hopen, hfound, hleft⟩ | ⟨-, hconfined⟩
  · exact .inl ⟨gs, v, _, _, hopen, rfl, hfound.root, fun hgone => (hleft hgone).root⟩
  · exact .inr hconfined.root

end Overrides

/-! ## A thread amid others -/

section Isolation

variable {σ ε α : Type} {t : ThreadId} {V : CellId → Prop} {w : World (Hands (Known σ)) ε}

/-- A world in which a thread may start to work on some dynamic variables. Nobody watches them, the
policy is decided, and the frames and guards that the thread already has were given out. -/
structure World.Ready (t : ThreadId) (V : CellId → Prop) (w : World (Hands (Known σ)) ε) :
    Prop where
  wellFormed : w.store.WellFormed
  dynamic : ∀ c, V c → w.store.kind c = .dynamic
  unwatched : ∀ c, V c → (w.store.watches c).values = []
  active : ∃ policy, w.settings.active = some policy
  frames : ∀ f ∈ w.host.own.frames, f.Issued w.store.framesIssued
  guards : ∀ n h, w.host.guards.get? n = some h → h.thread = t →
    V h.guard.cell ∧ h.guard.frame.Issued w.store.framesIssued

/-- Such a world matches itself. -/
theorem World.Ready.matches (h : w.Ready t V) :
    World.Matches t V (.same w.store.framesIssued) w w where
  store := .refl h.wellFormed h.dynamic h.unwatched
  settings := rfl
  active := h.active
  frames := List.forall₂_same.2 fun f hf => ⟨rfl, h.frames f hf⟩
  issued := rfl
  guards n := by
    have hguards := h.guards n
    generalize w.host.guards.get? n = found at hguards ⊢
    cases found with
    | none => exact .none
    | some held =>
      refine .some ⟨rfl, fun hthread => ?_⟩
      obtain ⟨hcell, hframe⟩ := hguards held rfl hthread
      exact ⟨hcell, rfl, ⟨rfl, hframe⟩, rfl⟩

/-- A thread that works on dynamic variables amid others, which change none of their roots, ends as
it does alone, with the same answers on the way, and sees the same at the end; its frames have
other numbers in the same order. No step of another thread changes a binding of it, no thread
changes a root where it has a binding, and overrides of dynamic variables change no root around any
body (`Overrides.SparesRoots`). -/
theorem threads_are_isolated (rules : Rules (Known σ) ε) (depth : Nat)
    {others : World (Hands (Known σ)) ε → World (Hands (Known σ)) ε} (ho : Intrudes t V others)
    (r : Routine α) (hr : r.Over V fun _ => True) (unwinding : Bool) (hw : w.Ready t V)
    (hn : (r.amid (rules.deliver depth) others ⟨t, unwinding⟩ w).2.store.framesIssued < 2 ^ 64) :
    (∃ ρ : Renaming, .same w.store.framesIssued ≤ ρ ∧
      (r.program.act (rules.deliver depth) ⟨t, unwinding⟩ w).1.Matches ρ (fun a b => b = a)
        (r.amid (rules.deliver depth) others ⟨t, unwinding⟩ w).1 ∧
      World.Matches t V ρ (r.program.act (rules.deliver depth) ⟨t, unwinding⟩ w).2
        (r.amid (rules.deliver depth) others ⟨t, unwinding⟩ w).2) ∧
    (∀ u s s', t ≠ u → Store.StepBy u s s' → ∀ c, s'.binding? t c = s.binding? t c) ∧
    (∀ (u : ThreadId) (s : Store) c v, s.isBound u c = true →
      ∀ d, (s.write u c v).2.root d = s.root d) ∧
    ∀ (deliver : Delivery (Hands (Known σ)) ε) (discard : α → Act (Hands (Known σ)) ε Unit)
      (set : Overrides) (p : Program (Known σ) ε α) (ctx : Context) (w : World (Hands (Known σ)) ε),
      deliver.Still → (∀ c ∈ set.map Prod.fst, w.store.kind c = .dynamic) →
      Overrides.SparesRoots deliver discard set (p.act deliver) ctx w := by
  have hC : Calm (@EvolvesStore (Hands (Known σ)) ε) := EvolvesStore.revising.toPlain.calm
  have hd := rules.deliver_leads_to hC (fun _ hd => EvolvesStore.stepwise hd) depth
  refine ⟨?_, fun u s s' htu hstep c => hstep.binding htu c, fun u s c v hb d => ?_,
    fun deliver discard set p ctx w hd hk => Overrides.spares_roots hd discard set p ctx w hk⟩
  · obtain ⟨ρ, hρ, hout, hend⟩ := r.amid_mirrors hd ho hr unwinding _ w w le_rfl hw.matches hn
    rw [r.amid_alone] at hout hend
    exact ⟨ρ, hρ, hout.imp fun a b hab => hab.1, hend⟩
  · exact (Store.write_of_bound hb v).1.root d

/-- A world with no watches in which the policy is decided. -/
def World.decided : World (Hands (Known Unit)) Unit :=
  ⟨Store.sample, ⟨none, some .panic⟩, [], ⟨∅, 0, [], ()⟩⟩

/-- Watches that would do nothing. -/
def Rules.idle : Rules (Known Unit) Unit :=
  fun _ _ => pure ()

/-- Another thread that binds the dynamic variable, and sets its binding at every later turn. -/
def World.meddledWith (w : World (Hands (Known Unit)) Unit) : World (Hands (Known Unit)) Unit :=
  if w.store.isBound ⟨1⟩ ⟨0⟩ then w.turn (Rules.idle.deliver 1) ⟨1⟩ (.write ⟨0⟩ (.int 9))
  else w.turn (Rules.idle.deliver 1) ⟨1⟩ (.push ⟨0⟩)

/-- A routine that overrides the dynamic variable, opens a frame of it and looks at it. -/
def Routine.lookInside : Routine (Except String Value) :=
  .override (fun _ => .done ()) [(⟨0⟩, .int 5)] (.bind (.step (.push ⟨0⟩)) fun n =>
    .bind (.step (.ask .value ⟨0⟩)) fun v => .bind (.step (.pop ⟨0⟩ n)) fun _ => .done v)

/-- A thread may start to work in the example. -/
theorem World.decided_ready : World.decided.Ready ⟨0⟩ (· = ⟨0⟩) where
  wellFormed := Store.sample_fresh.wellFormed
  dynamic c hc := by
    subst hc
    rfl
  unwatched c hc := by
    subst hc
    rfl
  active := ⟨.panic, rfl⟩
  frames f hf := nomatch hf
  guards n h hget := nomatch hget

/-- The other thread of the example changes no root. -/
theorem World.meddledWith_intrudes : Intrudes ⟨0⟩ (· = ⟨0⟩) World.meddledWith := by
  have hd : (Rules.idle.deliver 1).Still := fun _ _ _ _ => rfl
  refine .of_turns hd (fun w => ?_) fun w c hc => ?_
  · refine ⟨⟨1⟩, nofun, ?_⟩
    unfold World.meddledWith
    split
    · exact ⟨Unit, .write ⟨0⟩ (.int 9), rfl⟩
    · exact ⟨Nat, .push ⟨0⟩, rfl⟩
  · unfold World.meddledWith
    split
    · next hb =>
      have hstore := CellId.write_store hd ⟨0⟩ (.int 9) ⟨⟨1⟩, false⟩ w
      exact (congrArg (fun s : Store => s.root c) hstore).trans
        ((Store.write_of_bound hb (.int 9)).1.root c)
    · exact w.store.root_push ⟨1⟩ ⟨0⟩ c

/-- The run of that routine alone. -/
def Routine.lookAlone : Outcome (Except String Value) × World (Hands (Known Unit)) Unit :=
  Routine.lookInside.program.act (Rules.idle.deliver 1) ⟨⟨0⟩, false⟩ .decided

/-- Its run amid the other thread. -/
def Routine.lookAmid : Outcome (Except String Value) × World (Hands (Known Unit)) Unit :=
  Routine.lookInside.amid (Rules.idle.deliver 1) World.meddledWith ⟨⟨0⟩, false⟩ .decided

/-- The frame of the routine has another number amid the other thread, and the value is the same. -/
theorem lookInside_unaware : World.decided.Ready ⟨0⟩ (· = ⟨0⟩) ∧
    Intrudes ⟨0⟩ (· = ⟨0⟩) World.meddledWith ∧
    ∃ ρ : Renaming, ρ ⟨2⟩ ⟨3⟩ ∧
      Routine.lookAlone.1.Matches ρ (fun a b => b = a) Routine.lookAmid.1 ∧
      World.Matches ⟨0⟩ (· = ⟨0⟩) ρ Routine.lookAlone.2 Routine.lookAmid.2 := by
  have hover : Routine.lookInside.Over (· = ⟨0⟩) fun _ => True := by
    simp [Routine.lookInside, Routine.Over, Step.cell?]
  have halone : Routine.lookInside.program.act (Rules.idle.deliver 1) ⟨⟨0⟩, false⟩ .decided =
    Routine.lookAlone := rfl
  have hamid : Routine.lookInside.amid (Rules.idle.deliver 1) World.meddledWith ⟨⟨0⟩, false⟩
    .decided = Routine.lookAmid := rfl
  have hn : (Routine.lookInside.amid (Rules.idle.deliver 1) World.meddledWith ⟨⟨0⟩, false⟩
      .decided).2.store.framesIssued < 2 ^ 64 := by
    rw [hamid]
    decide +kernel
  obtain ⟨⟨ρ, -, hout, hend⟩, -⟩ := threads_are_isolated Rules.idle 1
    World.meddledWith_intrudes Routine.lookInside hover false World.decided_ready hn
  rw [halone, hamid] at hout hend
  have hframes : Routine.lookAlone.2.host.own.frames = [⟨2⟩] := by decide +kernel
  have hframes' : Routine.lookAmid.2.host.own.frames = [⟨3⟩] := by decide +kernel
  have hknown := hend.frames
  rw [hframes, hframes'] at hknown
  refine ⟨World.decided_ready, World.meddledWith_intrudes, ρ, ?_, hout, hend⟩
  cases hknown with
  | cons hnumbers _ => exact hnumbers

end Isolation

end ScopedBinding
