import ScopedBinding.Proofs.History
import ScopedBinding.Proofs.Restoration
import ScopedBinding.Proofs.ScopeLoop

/-!
# Watches that attend

Watches that only observe make no events of their own, so each change makes exactly one: a write, a
release or a drop that closes its frame, and the end of an override, also if a watch panics at it and the
frame is tried once more (`Overrides.finish_attended`).

While scopes are left the result of the body may go away, with the guards that it owns. They are not those
of the scopes, so wherever the innermost frame of a variable is that of a scope, they leave the variable
alone (`Overrides.Apart.dropAll`).
-/

set_option autoImplicit false

namespace ScopedBinding

open Act (Leads Ends)

/-! ## Watches that make no events -/

/-- Watches that only observe, and note no changes themselves. -/
structure Delivery.Attends {η ε : Type} (deliver : Delivery η ε) : Prop
    extends deliver.Observes where
  events : ∀ w e ctx v, (deliver w e ctx v).2.events = v.events

/-- Two worlds have the same store and the same events. -/
structure Uneventful {η ε : Type} (w w' : World η ε) : Prop where
  store : w'.store = w.store
  events : w'.events = w.events

/-- Keeping the store and making no event can be put together. -/
theorem Uneventful.calm {η ε : Type} : Calm (@Uneventful η ε) where
  refl _ := ⟨rfl, rfl⟩
  trans h h' := ⟨h'.store.trans h.store, h'.events.trans h.events⟩
  settings _ _ := ⟨rfl, rfl⟩
  logged _ _ := ⟨rfl, rfl⟩

/-- The events of one world go on from those of another. -/
def EventsGrow {η ε : Type} (w w' : World η ε) : Prop :=
  ∃ es, w'.events = w.events ++ es

/-- A journal that goes on has events that go on. -/
theorem EventsGrow.of_journal {η ε : Type} {w w' : World η ε} {J : List (Note ε)}
    (h : w'.journal = J ++ w.journal) : EventsGrow w w' := by
  refine ⟨(J.filterMap Note.event?).reverse, ?_⟩
  unfold World.events
  rw [h, List.filterMap_append, List.reverse_append]

/-- Whatever is noted, the events go on. -/
theorem EventsGrow.revising {η ε : Type} : Revising (@EventsGrow η ε) where
  refl w := ⟨[], by rw [List.append_nil]⟩
  trans h h' := by
    obtain ⟨es, hes⟩ := h
    obtain ⟨es', hes'⟩ := h'
    exact ⟨es ++ es', by rw [hes', hes, List.append_assoc]⟩
  settings _ _ := .of_journal (J := []) rfl
  note w n _ := .of_journal (J := [n]) rfl
  store _ _ _ := .of_journal (J := []) rfl

section Attending

variable {η ε α : Type} {deliver : Delivery η ε} {w : World η ε} {ctx : Context}

/-- Such watches make no event. -/
theorem Delivery.Attends.uneventful (hd : deliver.Attends) (w : WatchId) (e : Event) :
    Leads Uneventful (deliver w e) :=
  fun ctx v => ⟨hd.store w e ctx v, hd.events w e ctx v⟩

/-- A change that was noted is one more event. -/
theorem World.events_changed (w : World η ε) (t : ThreadId) (c : CellId) (change : Change)
    (r : Replaced) (s : Store) : (w.changed t c change r s).events =
      w.events ++ [(t, ⟨c, s.symbol c, r.old, r.new, change⟩)] :=
  List.reverse_cons

/-- Making a change known makes one event, whatever the watches do then. -/
theorem CellId.announce_attended (hd : deliver.Attends) (c : CellId) (change : Change)
    (r : Replaced) (ctx : Context) (w : World η ε) :
    (c.announce deliver change r ctx w).2.store = w.store ∧
      (c.announce deliver change r ctx w).2.events =
        w.events ++ [(ctx.thread, ⟨c, w.store.symbol c, r.old, r.new, change⟩)] := by
  rw [CellId.announce_run, ← World.events_changed]
  have htold := Event.deliver_leads Uneventful.calm hd.uneventful
    ⟨c, w.store.symbol c, r.old, r.new, change⟩ ctx (w.changed ctx.thread c change r w.store)
  exact ⟨htold.store, htold.events⟩

/-- Setting a variable makes one event, whatever the watches do then. -/
theorem CellId.write_attended (hd : deliver.Attends) (c : CellId) (v : Value) (ctx : Context)
    (w : World η ε) :
    (c.write deliver v ctx w).2.store = (w.store.write ctx.thread c v).2 ∧
      ∃ e, (c.write deliver v ctx w).2.events = w.events ++ [(ctx.thread, e)] ∧ e.cell = c ∧
        e.change = .write ∧ e.old = w.store.read ctx.thread c ∧ e.new = v := by
  have hrun := c.announce_attended hd .write (w.store.write ctx.thread c v).1 ctx
    { w with store := (w.store.write ctx.thread c v).2 }
  refine ⟨hrun.1, _, hrun.2, rfl, rfl, ?_, w.store.write_new ctx.thread c v⟩
  show (w.store.write ctx.thread c v).1.old = w.store.read ctx.thread c
  unfold Store.write Store.read
  split <;> rfl

/-- The event of a frame that was closed. -/
def World.restoration (g : Guard) (s : Store) (r : Replaced) : Event :=
  ⟨g.cell, s.symbol g.cell, r.old, r.new, .restore⟩

namespace Guard

variable {g : Guard} {r : Replaced} {s : Store}

/-- A release that closes the frame makes one event, also if a watch panics at it. -/
theorem release_attended (hd : deliver.Attends) (hg : g.state = .acquired)
    (hpop : w.store.pop ctx.thread g.cell g.frame = .ok (r, s)) :
    (g.release deliver ctx w).2.store = s ∧
      (g.release deliver ctx w).2.events = w.events ++ [(ctx.thread, World.restoration g s r)] := by
  have htold := g.cell.announce_attended hd .restore r ctx (w.closed ctx.thread g.cell g.frame s)
  have htail : Uneventful
      (g.cell.announce deliver .restore r ctx (w.closed ctx.thread g.cell g.frame s)).2
      (g.release deliver ctx w).2 := by
    rw [release_of_ok hg hpop]
    apply Leads.bind_right Uneventful.calm
    intro _
    exact .bind Uneventful.calm (.log Uneventful.calm _) fun _ => .pure Uneventful.calm _
  exact ⟨htail.store.trans htold.1, htail.events.trans htold.2⟩

/-- A drop that closes the frame makes one event. -/
theorem drop_attended (hd : deliver.Attends) (hg : g.state = .acquired)
    (hpop : w.store.pop ctx.thread g.cell g.frame = .ok (r, s)) :
    (g.drop deliver ctx w).2.store = s ∧
      (g.drop deliver ctx w).2.events = w.events ++ [(ctx.thread, World.restoration g s r)] := by
  obtain ⟨policy, v, hpolicy, hstore⟩ := Settings.current_run ctx w
  have hcurrent : Uneventful w (Settings.current ctx w).2 :=
    Settings.current_leads Uneventful.calm ctx w
  rw [hpolicy] at hcurrent
  rw [← hstore] at hpop
  have hrelease := release_attended hd hg hpop
  have htail : Uneventful (g.release deliver ctx v).2 (g.drop deliver ctx w).2 := by
    unfold drop
    rw [hg]
    dsimp only
    rw [Act.bind_of_done hpolicy]
    apply Leads.bind_right Uneventful.calm
    intro result
    cases result with
    | ok _ => exact .pure Uneventful.calm _
    | error fault => exact failRelease_leads Uneventful.calm policy fault
  rw [htail.store, htail.events, hrelease.1, hrelease.2, hcurrent.events]
  exact ⟨rfl, rfl⟩

/-- A drop that is rejected makes no event. -/
theorem drop_rejected (hg : g.state = .acquired) {fault : Fault}
    (hpop : w.store.pop ctx.thread g.cell g.frame = .error fault) :
    Uneventful w (g.drop deliver ctx w).2 := by
  obtain ⟨policy, v, hpolicy, hstore⟩ := Settings.current_run ctx w
  have hcurrent : Uneventful w (Settings.current ctx w).2 :=
    Settings.current_leads Uneventful.calm ctx w
  rw [hpolicy] at hcurrent
  rw [← hstore] at hpop
  have hreport : Uneventful v (v.reported g (some fault)) := ⟨rfl, rfl⟩
  apply Uneventful.calm.trans hcurrent
  apply Uneventful.calm.trans hreport
  unfold drop
  rw [hg]
  dsimp only
  rw [Act.bind_of_done hpolicy, Act.bind_of_done (release_of_error hg hpop)]
  exact failRelease_leads Uneventful.calm policy fault ctx _

end Guard

/-- A frame of a scope that can be closed, and not once more. -/
structure Store.Closable (s : Store) (t : ThreadId) (g : Guard) (r : Replaced) (s' : Store) :
    Prop where
  acquired : g.state = .acquired
  closes : s.pop t g.cell g.frame = .ok (r, s')
  once : ∃ fault, s'.pop t g.cell g.frame = .error fault

/-- A frame can be closed in every store that agrees on its variable, with the same effect there. -/
theorem Store.Closable.sameAt {s s' s₁ : Store} {t : ThreadId} {g : Guard} {r : Replaced}
    (h : s.Closable t g r s₁) (hsame : Store.SameAt g.cell s s') :
    ∃ s₁', s'.Closable t g r s₁' ∧ Store.SameAt g.cell s₁ s₁' := by
  obtain ⟨s₁', hcloses, hclosed⟩ := hsame.pop h.closes
  obtain ⟨fault, honce⟩ := h.once
  refine ⟨s₁', ⟨h.acquired, hcloses, ?_⟩, hclosed⟩
  cases hagain : s₁'.pop t g.cell g.frame with
  | error fault' => exact ⟨fault', rfl⟩
  | ok again =>
    obtain ⟨s₂, hpop, -⟩ := hclosed.symm.pop hagain
    rw [honce] at hpop
    cases hpop

/-- Ending an override makes one event. If a watch panics at it the frame is tried again, and there is no
second event. -/
theorem Overrides.finish_attended (hd : deliver.Attends) {g : Guard} {r : Replaced} {s : Store}
    (hg : w.store.Closable ctx.thread g r s) :
    (finish deliver g ctx w).2.store = s ∧
      (finish deliver g ctx w).2.events =
        w.events ++ [(ctx.thread, World.restoration g s r)] := by
  have hrelease := Guard.release_attended hd hg.acquired hg.closes
  have hinner : Uneventful (g.release deliver ctx w).2
      (Act.onUnwind (g.release deliver) (g.drop deliver) ctx w).2 := by
    cases hrun : g.release deliver ctx w with
    | mk o v =>
    rw [hrun] at hrelease
    have hagain : Uneventful v (g.drop deliver { ctx with unwinding := true } v).2 := by
      obtain ⟨fault, honce⟩ := hg.once
      rw [← hrelease.1] at honce
      exact Guard.drop_rejected hg.acquired honce
    unfold Act.onUnwind
    rw [hrun]
    cases o with
    | done a => exact Uneventful.calm.refl v
    | halted => exact Uneventful.calm.refl v
    | panicked message =>
      dsimp only
      generalize g.drop deliver { ctx with unwinding := true } v = result at hagain ⊢
      obtain ⟨_ | _ | _, v'⟩ := result <;> exact hagain
  have htail : Uneventful (g.release deliver ctx w).2 (finish deliver g ctx w).2 := by
    apply Uneventful.calm.trans hinner
    unfold finish
    apply Leads.bind_right Uneventful.calm
    intro result
    cases result with
    | ok _ => exact .pure Uneventful.calm _
    | error fault =>
      exact .bind Uneventful.calm (g.abandon_leads Uneventful.calm) fun _ =>
        .pure Uneventful.calm _
  rw [htail.store, htail.events, hrelease.1, hrelease.2]
  exact ⟨rfl, rfl⟩

/-- A panic from inside a scope goes on after its guard was dropped. -/
theorem Overrides.leave_panicked {β γ : Type} (hd : deliver.Observes) {m : Act η ε β} {g : Guard}
    {next : β → Act η ε γ} {v : World η ε} {message : String}
    (hm : m ctx w = (.panicked message, v)) :
    (Act.onUnwind m (g.drop deliver) >>= next) ctx w =
      (.panicked message, (g.drop deliver { ctx with unwinding := true } v).2) := by
  let unwinding : Context := { ctx with unwinding := true }
  have hending : (g.drop deliver unwinding v).1.ending = .done := by
    rcases g.drop_orderly hd.orderly unwinding v with hdone | ⟨-, hfalse⟩
    · exact hdone
    · cases hfalse
  obtain ⟨⟨⟩, hdone⟩ := Outcome.done_of_ending hending
  exact Act.bind_of_panicked (Act.onUnwind_of_panicked hm hdone)

end Attending

/-! ## Results that go away -/

/-- Whether the innermost frame that a thread sees of a variable is that of one of some guards. -/
def Store.Tops (s : Store) (t : ThreadId) (gs : List Guard) (c : CellId) : Prop :=
  ∃ g ∈ gs, (s.stack t c).top?.map Frame.id = some g.frame

/-- Stores that agree on a variable have the same innermost frame of it. -/
theorem Store.Tops.of_sameAt {s s' : Store} {t : ThreadId} {gs : List Guard} {c : CellId}
    (h : s.Tops t gs c) (hsame : Store.SameAt c s s') : s'.Tops t gs c := by
  unfold Store.Tops
  rw [hsame.stack]
  exact h

/-- A frame that can be closed is innermost. -/
theorem Store.Closable.tops {s s' : Store} {t : ThreadId} {gs : List Guard} {g : Guard}
    {r : Replaced} (h : s.Closable t g r s') (hg : g ∈ gs) : s.Tops t gs g.cell := by
  obtain ⟨frame, rest, hid, hstack, -⟩ := Store.pop_ok_cases h.closes
  refine ⟨g, hg, ?_⟩
  rw [hstack, ← hid]
  rfl

/-- What becomes of the result of a body that goes away while scopes with some guards are left. It comes to
its end, may make events, and leaves each variable alone whose innermost frame is that of a scope. -/
structure Overrides.Apart {η ε : Type} (gs : List Guard) (ctx : Context) (m : Act η ε Unit) :
    Prop where
  ends : ∀ w, (m ctx w).1 = .done ()
  grows : ∀ w, EventsGrow w (m ctx w).2
  sameAt : ∀ w c, w.store.Tops ctx.thread gs c → Store.SameAt c w.store (m ctx w).2.store

namespace Overrides.Apart

variable {η ε α : Type} {deliver : Delivery η ε} {gs : List Guard} {ctx : Context}

/-- A result that owns no guard goes away without a step. -/
theorem skip (a : α) : Apart gs ctx (Act.skip a : Act η ε Unit) where
  ends _ := rfl
  grows w := ⟨[], (List.append_nil w.events).symm⟩
  sameAt w c _ := .refl c w.store

/-- One thing goes away after another. -/
theorem andThen {m m' : Act η ε Unit} (hm : Apart gs ctx m) (hm' : Apart gs ctx m') :
    Apart gs ctx (do m; m') := by
  have hrun : ∀ w, (do m; m' : Act η ε Unit) ctx w = m' ctx (m ctx w).2 := fun w =>
    Act.bind_of_done (Prod.ext (hm.ends w) rfl)
  refine ⟨fun w => ?_, fun w => ?_, fun w c htop => ?_⟩
  · rw [hrun]
    exact hm'.ends _
  · rw [hrun]
    exact EventsGrow.revising.trans (hm.grows w) (hm'.grows _)
  · have hsame := hm.sameAt w c htop
    rw [hrun]
    exact hsame.trans (hm'.sameAt _ c (htop.of_sameAt hsame))

/-- A guard that is not one of the scopes is dropped, on a thread that is unwinding. -/
theorem drop (hd : deliver.Attends) (hctx : ctx.unwinding = true) {k : Guard}
    (hk : ∀ g ∈ gs, g.frame ≠ k.frame) : Apart gs ctx (k.drop deliver) := by
  have hends : ∀ w, (k.drop deliver ctx w).1 = .done () := by
    intro w
    rcases k.drop_orderly hd.orderly ctx w with hdone | ⟨-, hfalse⟩
    · obtain ⟨⟨⟩, hdone⟩ := Outcome.done_of_ending hdone
      exact congrArg Prod.fst hdone
    · rw [hctx] at hfalse
      cases hfalse
  by_cases hstate : k.state = .acquired
  · refine ⟨hends, fun w => ?_, fun w c htop => ?_⟩
    · cases hpop : w.store.pop ctx.thread k.cell k.frame with
      | error fault => exact ⟨[], by rw [(Guard.drop_rejected hstate hpop).events, List.append_nil]⟩
      | ok result => exact ⟨_, (Guard.drop_attended hd hstate hpop).2⟩
    · rw [Guard.drop_store hd.store hstate]
      by_cases hc : c = k.cell
      · -- The innermost frame is that of a scope, so this guard is rejected.
        subst hc
        obtain ⟨g, hg, hframe⟩ := htop
        have hnot : (w.store.stack ctx.thread k.cell).top?.map Frame.id ≠ some k.frame := by
          rw [hframe]
          exact fun heq => hk g hg (Option.some.inj heq)
        rw [Store.close_of_error (Store.pop_of_not_top hnot)]
        exact .refl _ _
      · exact w.store.sameAt_close ctx.thread k.frame hc
  · refine ⟨hends, fun w => ?_, fun w c _ => ?_⟩
    · rw [Guard.drop_of_not_acquired hstate]
      exact ⟨[], (List.append_nil w.events).symm⟩
    · rw [Guard.drop_of_not_acquired hstate]
      exact .refl c w.store

/-- A result that owns guards. None of them is that of a scope. -/
theorem dropAll (hd : deliver.Attends) (hctx : ctx.unwinding = true) {owned : List Guard}
    (h : ∀ k ∈ owned, ∀ g ∈ gs, g.frame ≠ k.frame) :
    Apart gs ctx (Overrides.dropAll deliver owned) := by
  induction owned with
  | nil => exact skip ()
  | cons k rest ih =>
    rw [dropAll_cons]
    obtain ⟨hk, hrest⟩ := List.forall_mem_cons.1 h
    exact (drop hd hctx hk).andThen (ih hrest)

end Overrides.Apart

end ScopedBinding
