import ScopedBinding.Proofs.Changes
import ScopedBinding.Proofs.GuardStates
import ScopedBinding.Proofs.Nesting

/-!
# Events as the history of changes

A run goes from world to world by elementary changes and by steps that change no value. After each
change its event is delivered, once, before anything else happens, and nothing else is ever delivered
(`Told`). This holds for any delivery whatsoever.

If the watches are programs themselves, their changes come between a change and what follows its
delivery. The notes of the journal then are all events of the run in the order of the changes, and
every one of them describes its change (`Chronicle`). For a variable with a root for all threads they
form a chain from its root at the start to its root at the end (`Links`).
-/

set_option autoImplicit false

namespace ScopedBinding

open Act (Leads)

/-! ## Deliveries -/

section Deliveries

variable {η ε : Type}

/-- Worlds that come about by steps, where the event of every change is delivered right after it. -/
inductive Told (deliver : Delivery η ε) (w : World η ε) : World η ε → Prop where
  | start : Told deliver w w
  | aside {v w' : World η ε} (h : Told deliver w v) (hv : v.Aside w') : Told deliver w w'
  | altered {v v' : World η ε} {p : Place} {e : Event} (h : Told deliver w v) (ctx : Context)
      (hv : v.Altered ctx.thread p e v') : Told deliver w (e.deliver deliver ctx v').2

variable {deliver : Delivery η ε} {w v w' : World η ε}

/-- One run after another is told as a whole. -/
theorem Told.trans (h : Told deliver w v) (h' : Told deliver v w') : Told deliver w w' := by
  induction h' with
  | start => exact h
  | aside _ hv ih => exact ih.aside hv
  | altered _ ctx hv ih => exact ih.altered ctx hv

/-- Settings and messages change no value. -/
theorem Told.calm : Calm (Told deliver) where
  refl _ := .start
  trans := .trans
  settings _ s := .aside .start (.settings s)
  logged _ message := .aside .start (.logged message)

/-- Closing a frame is a change if it is not rejected. -/
theorem CellId.pop_told (c : CellId) (f : FrameId) : Leads (Told deliver) (c.pop deliver f) := by
  intro ctx w
  cases hp : w.store.pop ctx.thread c f with
  | error fault =>
    rw [CellId.pop_of_error hp]
    exact .start
  | ok result =>
    obtain ⟨r, s⟩ := result
    rw [CellId.pop_of_ok hp]
    refine Told.trans ?_ (Leads.bind_right Told.calm _ (fun _ => .pure Told.calm _) ctx _)
    rw [CellId.announce_run]
    exact .altered .start ctx (.returned c f hp)

/-- Every single step is told, whatever the watches do. -/
theorem Told.stepwise : Stepwise deliver (Told deliver) where
  toCalm := Told.calm
  write c v ctx _ := .altered .start ctx (.written c v)
  setRoot c v ctx _ := .altered .start ctx (.rootSet c v)
  rearranged _ _ h := .aside .start (.rearranged h)
  host _ a := .aside .start (.host a)
  opened _ t c := .aside .start (.opened t c)
  pop c f := c.pop_told f

/-- So every run of a program is told. -/
theorem Program.told {υ α : Type} (deliver : Delivery (Hands υ) ε) (p : Program υ ε α) :
    Leads (Told deliver) (p.act deliver) :=
  p.leads_to Told.stepwise

end Deliveries

/-! ## Chronicles -/

/-- The events of one variable. -/
def eventsOf (c : CellId) (es : List (ThreadId × Event)) : List Event :=
  (es.map Prod.snd).filter fun e => e.cell = c

/-- Events that lead from one value to another, each going on from where the one before it ended. -/
def Links : List Event → Value → Value → Prop
  | [], old, new => old = new
  | e :: rest, old, new => e.old = old ∧ Links rest e.new new

/-- Events that go on from each other's values are linked as a whole. -/
theorem Links.append {es es' : List Event} {u v v' : Value} (h : Links es u v)
    (h' : Links es' v v') : Links (es ++ es') u v' := by
  induction es generalizing u with
  | nil =>
    have huv : u = v := h
    rw [huv]
    exact h'
  | cons e rest ih => exact ⟨h.1, ih h.2⟩

/-- The events of a variable in two lists after each other. -/
theorem eventsOf_append (c : CellId) (es es' : List (ThreadId × Event)) :
    eventsOf c (es ++ es') = eventsOf c es ++ eventsOf c es' := by
  simp [eventsOf]

/-- Stores that come about from each other by changes with these events, oldest first, and by steps
after which the same is visible as before. -/
inductive Chronicle (s : Store) : List (ThreadId × Event) → Store → Prop where
  | start : Chronicle s [] s
  | aside {es : List (ThreadId × Event)} {r s' : Store} (h : Chronicle s es r)
      (hr : ∀ (p : Place) (c : CellId), p.visible s' c = p.visible r c) : Chronicle s es s'
  | changed {es : List (ThreadId × Event)} {r s' : Store} {t : ThreadId} {p : Place} {e : Event}
      (h : Chronicle s es r) (hr : e.Describes t p r s') : Chronicle s (es ++ [(t, e)]) s'

/-- One chronicle goes on from another. -/
theorem Chronicle.trans {s r s' : Store} {es es' : List (ThreadId × Event)}
    (h : Chronicle s es r) (h' : Chronicle r es' s') : Chronicle s (es ++ es') s' := by
  induction h' with
  | start =>
    rw [List.append_nil]
    exact h
  | aside _ hr ih => exact ih.aside hr
  | changed _ hr ih =>
    rw [← List.append_assoc]
    exact ih.changed hr

section Histories

variable {η ε : Type}

/-- The change that a note tells of, and the thread that made it. -/
def Note.event? : Note ε → Option (ThreadId × Event)
  | .changed t e => some (t, e)
  | _ => none

/-- The events that have been noted, oldest first. -/
def World.events (w : World η ε) : List (ThreadId × Event) :=
  (w.journal.filterMap Note.event?).reverse

/-- The new events of a world tell how it came about from another. -/
structure History (es : List (ThreadId × Event)) (w w' : World η ε) : Prop where
  wellFormed : w'.store.WellFormed
  kind : ∀ c, w'.store.kind c = w.store.kind c
  events : w'.events = w.events ++ es
  chronicle : Chronicle w.store es w'.store
  roots : ∀ c, w.store.kind c = .root →
    Links (eventsOf c es) (w.store.root c) (w'.store.root c)

/-- One history goes on from another. -/
theorem History.trans {es es' : List (ThreadId × Event)} {w v w' : World η ε}
    (h : History es w v) (h' : History es' v w') : History (es ++ es') w w' where
  wellFormed := h'.wellFormed
  kind c := (h'.kind c).trans (h.kind c)
  events := by rw [h'.events, h.events, List.append_assoc]
  chronicle := h.chronicle.trans h'.chronicle
  roots c hk := by
    rw [eventsOf_append]
    exact (h.roots c hk).append (h'.roots c ((h.kind c).trans hk))

namespace World

variable {w w' : World η ε} {t : ThreadId} {p : Place} {e : Event}

/-- A step that changes no value keeps the store well formed. -/
theorem Aside.wellFormed (h : w.Aside w') (hw : w.store.WellFormed) : w'.store.WellFormed := by
  cases h with
  | settings | host | logged => exact hw
  | rearranged hs => exact hs.revises.wellFormed hw
  | opened t c => exact hw.push t c

/-- A step that changes no value keeps the kinds of variables. -/
theorem Aside.kind (h : w.Aside w') (c : CellId) : w'.store.kind c = w.store.kind c := by
  cases h with
  | settings | host | logged => rfl
  | rearranged hs => exact hs.revises.keepsStacks.kind c
  | opened t d => exact w.store.kind_push t d c

/-- A step that changes no value notes no event. -/
theorem Aside.events (h : w.Aside w') : w'.events = w.events := by
  cases h <;> rfl

/-- A change keeps the store well formed. -/
theorem Altered.wellFormed (h : w.Altered t p e w') (hw : w.store.WellFormed) :
    w'.store.WellFormed := by
  cases h with
  | written c v => exact hw.write t c v
  | rootSet c v => exact (Store.Revises.setRoot c v).wellFormed hw
  | returned c f hp => exact hw.pop hp

/-- A change keeps the kinds of variables. -/
theorem Altered.kind (h : w.Altered t p e w') (c : CellId) :
    w'.store.kind c = w.store.kind c := by
  cases h with
  | written d v => exact (w.store.keepsStacks_write t d v).kind c
  | rootSet d v => exact (w.store.keepsStacks_setRoot d v).kind c
  | returned d f hp => exact Store.kind_pop hp c

/-- A change notes its event. -/
theorem Altered.events (h : w.Altered t p e w') : w'.events = w.events ++ [(t, e)] := by
  cases h <;> exact List.reverse_cons

/-- The history of a step that changes no value. -/
theorem Aside.history (h : w.Aside w') (hw : w.store.WellFormed) : History [] w w' where
  wellFormed := h.wellFormed hw
  kind := h.kind
  events := by rw [h.events, List.append_nil]
  chronicle := .aside .start h.visible
  roots c _ := (h.visible .root c).symm

/-- The history of a change is its event. -/
theorem Altered.history (h : w.Altered t p e w') (hw : w.store.WellFormed) :
    History [(t, e)] w w' := by
  have hdescribes := h.describes hw
  refine ⟨h.wellFormed hw, h.kind, h.events, .changed .start hdescribes, fun c hk => ?_⟩
  have helsewhere := hdescribes.elsewhere .root c
  by_cases hc : e.cell = c
  · -- A variable with a root for all threads is bound nowhere, so its root is what has changed.
    subst hc
    have hroot : p = .root := by
      rcases hdescribes.place with hp | rfl
      · exact hp
      · have hold := hdescribes.old
        rw [Place.content_binding, (hw e.cell).unbound t hk] at hold
        cases hold
    subst hroot
    have hexists : (w.store.cell? e.cell).isSome = true := by
      obtain ⟨cell, hcell, -⟩ := Option.map_eq_some_iff.1 (Store.storage_of_root hk t)
      rw [hcell]
      rfl
    have holds : eventsOf e.cell [(t, e)] = [e] := by simp [eventsOf]
    rw [holds]
    exact ⟨(Option.some.inj hdescribes.old).symm, (hdescribes.new hexists).symm⟩
  · have hnone : eventsOf c [(t, e)] = [] := by simp [eventsOf, hc]
    rw [hnone]
    exact (Option.some.inj (helsewhere fun hsame => hc hsame.1.symm)).symm

end World

/-- From a world with a well-formed store there is a history to the other world. -/
def Historic (w w' : World η ε) : Prop :=
  w.store.WellFormed → ∃ es, History es w w'

/-- Runs have histories if their steps have. -/
theorem Historic.calm : Calm (Historic : World η ε → World η ε → Prop) where
  refl w hw := ⟨[], hw, fun _ => rfl, (List.append_nil _).symm, .start, fun _ _ => rfl⟩
  trans h h' hw := by
    obtain ⟨es, hes⟩ := h hw
    obtain ⟨es', hes'⟩ := h' hes.wellFormed
    exact ⟨es ++ es', hes.trans hes'⟩
  settings _ s hw := ⟨[], World.Aside.history (.settings s) hw⟩
  logged _ message hw := ⟨[], World.Aside.history (.logged message) hw⟩

/-- Where every event is delivered after its change, there is a history if the watches have one. -/
theorem Told.historic {deliver : Delivery η ε} {w w' : World η ε} (h : Told deliver w w')
    (hd : ∀ k e, Leads Historic (deliver k e)) : Historic w w' := by
  induction h with
  | start => exact Historic.calm.refl w
  | aside _ hv ih => exact Historic.calm.trans ih fun hw => ⟨[], hv.history hw⟩
  | altered _ ctx hv ih =>
    refine Historic.calm.trans ih (Historic.calm.trans (fun hw => ⟨_, hv.history hw⟩) ?_)
    exact Event.deliver_leads Historic.calm hd _ ctx _

end Histories

/-- The runs of watches have histories, whatever other watches are set off by them. -/
theorem Rules.deliver_historic {υ ε : Type} (rules : Rules υ ε) (depth : Nat) (k : WatchId)
    (e : Event) : Leads Historic (rules.deliver depth k e) := by
  induction depth generalizing k e with
  | zero => exact .still Historic.calm fun _ _ => rfl
  | succ depth ih => exact fun ctx w => ((rules k e).told _ ctx w).historic ih

/-! ## What each operation delivers -/

/-- How the operations deliver events. Each elementary change delivers one event after it has been
made; what is rejected or given up delivers none. The first watch of the variable is told in the world
right after the change. -/
structure Delivery.Announces {η ε : Type} (deliver : Delivery η ε) : Prop where
  write (c : CellId) (v : Value) (ctx : Context) (w : World η ε) : ∃ e w', e.cell = c ∧ e.new = v ∧
    w.Altered ctx.thread (w.store.writtenPlace ctx.thread c) e w' ∧
    c.write deliver v ctx w = e.deliver deliver ctx w'
  setRoot (c : CellId) (v : Value) (ctx : Context) (w : World η ε) : ∃ e w', e.cell = c ∧
    e.new = v ∧ w.Altered ctx.thread .root e w' ∧ c.setRoot deliver v ctx w = e.deliver deliver ctx w'
  /-- The function of an alteration runs while the alteration has the lock of the variable. -/
  altered (c : CellId) (f : Value → Act η ε Value) (ctx : Context) (w v : World η ε) (x : Value)
    (hfree : w.store.altering c = false)
    (hf : f (w.store.root c) ctx (w.locked c) = (.done x, v)) : ∃ e w', e.cell = c ∧ e.new = x ∧
    (v.unlocked c).Altered ctx.thread .root e w' ∧
    c.alterRoot deliver f ctx w = (do e.deliver deliver; pure x : Act η ε Value) ctx w'
  notAltered (c : CellId) (f : Value → Act η ε Value) (ctx : Context) (w v : World η ε)
    (message : String) (hfree : w.store.altering c = false)
    (hf : f (w.store.root c) ctx (w.locked c) = (.panicked message, v)) :
    c.alterRoot deliver f ctx w = (.panicked message, v.unlocked c)
  waits (c : CellId) (f : Value → Act η ε Value) (ctx : Context) (w : World η ε)
    (htaken : w.store.altering c = true) : c.alterRoot deliver f ctx w = (.halted, w)
  closed (c : CellId) (f : FrameId) (ctx : Context) (w : World η ε) (r : Replaced) (s : Store)
    (hp : w.store.pop ctx.thread c f = .ok (r, s)) : ∃ e w', e.cell = c ∧
    w.Altered ctx.thread (w.store.returnedPlace ctx.thread c) e w' ∧
    c.pop deliver f ctx w =
      (do e.deliver deliver; pure (.ok ()) : Act η ε (Except Fault Unit)) ctx w'
  notClosed (c : CellId) (f : FrameId) (ctx : Context) (w : World η ε) (fault : Fault)
    (hp : w.store.pop ctx.thread c f = .error fault) :
    c.pop deliver f ctx w = (.done (.error fault), w)
  notReleased (g : Guard) (ctx : Context) (w : World η ε) (fault : Fault)
    (hfault : (g.release deliver ctx w).1 = .done (.error fault)) :
    ∃ message, (g.release deliver ctx w).2 = { w with journal := .logged message :: w.journal }
  first (e : Event) (ctx : Context) (w : World η ε) (k : WatchId) (rest : List WatchId)
    (hwatches : (w.store.watches e.cell).values = k :: rest) :
    e.deliver deliver ctx w =
      (do deliver k e; rest.forM fun k => deliver k e : Act η ε PUnit) ctx w

section Elementary

variable {η ε : Type} {deliver : Delivery η ε} {ctx : Context} {w : World η ε}

/-- Closing a frame delivers an event once the frame is closed. -/
theorem CellId.pop_delivers {c : CellId} {f : FrameId} {r : Replaced} {s : Store}
    (hp : w.store.pop ctx.thread c f = .ok (r, s)) :
    c.pop deliver f ctx w =
      (do Event.deliver deliver ⟨c, s.symbol c, r.old, r.new, .restore⟩; pure (.ok ()) :
        Act η ε (Except Fault Unit)) ctx
          ((w.closed ctx.thread c f s).changed ctx.thread c .restore r s) := by
  rw [pop_of_ok hp]
  exact Act.bind_congr (c.announce_run deliver .restore r ctx (w.closed ctx.thread c f s)) _

end Elementary

/-- Every delivery is asked for in this way by the operations. -/
theorem Delivery.announces {η ε : Type} (deliver : Delivery η ε) : deliver.Announces where
  write c v ctx w := ⟨_, _, rfl, w.store.write_new ctx.thread c v, .written c v, rfl⟩
  setRoot c v ctx w := ⟨_, _, rfl, rfl, .rootSet c v, rfl⟩
  altered c f ctx w v x hfree hf := by
    refine ⟨_, _, rfl, rfl, .rootSet c x, ?_⟩
    rw [CellId.alterRoot_of_done hfree hf]
    rfl
  notAltered c f ctx w v message hfree hf := CellId.alterRoot_of_panicked hfree hf
  waits c f ctx w htaken := CellId.alterRoot_of_taken htaken
  closed c f ctx w r s hp := ⟨_, _, rfl, .returned c f hp, CellId.pop_delivers hp⟩
  notClosed c f ctx w fault hp := CellId.pop_of_error hp
  notReleased g ctx w fault hfault := by
    rcases g.release_cases deliver ctx w with ⟨fault', message, hrun⟩ | ⟨hg, r, s, hp⟩
    · exact ⟨message, congrArg Prod.snd hrun⟩
    · exact absurd hfault (Guard.release_not_refused hg hp fault)
  first e ctx w k rest hwatches := by
    unfold Event.deliver
    show ((w.store.watches e.cell).values.forM fun k => deliver k e) ctx w = _
    rw [hwatches]
    rfl

/-! ## Whole runs -/

section Runs

variable {υ ε : Type}

/-- Events are the exact history of changes. In every run each elementary change is followed at once
by one delivery of its event and nothing else is delivered; the event describes the change. The events
noted by a run, those of its watches among them, describe how its store came about, and those of a
variable with a root for all threads form a chain from its root before to its root after. -/
theorem events_are_the_changes {α : Type} (rules : Rules υ ε) (depth : Nat) (p : Program υ ε α)
    (ctx : Context) (w : World (Hands υ) ε) (hw : w.store.WellFormed) :
    let deliver := rules.deliver depth
    let w' := (p.act deliver ctx w).2
    Told deliver w w' ∧ deliver.Announces ∧
    (∀ (v v' : World (Hands υ) ε) t place e, v.store.WellFormed → v.Altered t place e v' →
      e.Describes t place v.store v'.store) ∧
    (∀ v v' : World (Hands υ) ε, v.Aside v' →
      ∀ (place : Place) c, place.visible v'.store c = place.visible v.store c) ∧
    ∃ es, w'.events = w.events ++ es ∧ Chronicle w.store es w'.store ∧
      ∀ c, w.store.kind c = .root →
        Links (eventsOf c es) (w.store.root c) (w'.store.root c) := by
  intro deliver w'
  have htold : Told deliver w w' := p.told deliver ctx w
  obtain ⟨es, hes⟩ := htold.historic (rules.deliver_historic depth) hw
  refine ⟨htold, deliver.announces, ?_, ?_, es, hes.events, hes.chronicle, hes.roots⟩
  · intro v v' t place e hv halter
    exact halter.describes hv
  · intro v v' haside
    exact haside.visible

/-- Watches that set the dynamic variable to what the shared variable has become. -/
def Rules.mirroring : Rules Unit Unit :=
  fun _ e => .call (.write ⟨0⟩ e.new)

/-- A program that sets the shared variable while it is overridden. -/
def Program.setInside : Program Unit Unit (Except Fault Unit) :=
  .override .skip [(⟨1⟩, .int 4)] (.call (.write ⟨1⟩ (.int 5)))

/-- The world after that program, on the first thread. -/
def World.setInside : World (Hands Unit) Unit :=
  (Program.setInside.act (Rules.mirroring.deliver 3) ⟨⟨0⟩, false⟩ .watched).2

/-- The changes of the watches come right after those that they are told of. -/
theorem setInside_changes : ∃ es, World.setInside.events = es ∧
    es.map (fun x => (x.2.cell.index, x.2.old, x.2.new)) =
      [(1, .int 2, .int 4), (0, .int 1, .int 4), (1, .int 4, .int 5), (0, .int 4, .int 5),
        (1, .int 5, .int 2), (0, .int 5, .int 2)] ∧
    Chronicle World.watched.store es World.setInside.store ∧
    Links (eventsOf ⟨1⟩ es) (.int 2) (.int 2) := by
  have hw : World.watched.store.WellFormed :=
    (Store.Revises.watch ⟨1⟩ "w" ⟨0⟩).wellFormed Store.sample_fresh.wellFormed
  obtain ⟨-, -, -, -, es, hevents, hchronicle, hroots⟩ := events_are_the_changes Rules.mirroring 3
    Program.setInside ⟨⟨0⟩, false⟩ World.watched hw
  have hrun : (Program.setInside.act (Rules.mirroring.deliver 3) ⟨⟨0⟩, false⟩ World.watched).2 =
    World.setInside := rfl
  have hlinks := hroots ⟨1⟩ (by decide +kernel)
  have hnone : World.watched.events = [] := by decide +kernel
  have hold : World.watched.store.root ⟨1⟩ = .int 2 := by decide +kernel
  have hnew : World.setInside.store.root ⟨1⟩ = .int 2 := by decide +kernel
  rw [hrun, hnone, List.nil_append] at hevents
  rw [hrun] at hchronicle
  rw [hrun, hold, hnew] at hlinks
  refine ⟨es, hevents, ?_, hchronicle, hlinks⟩
  rw [← hevents]
  decide +kernel

end Runs

end ScopedBinding
