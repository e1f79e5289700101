import ScopedBinding.Proofs.Composition
import ScopedBinding.Proofs.Locks
import ScopedBinding.Proofs.WellFormed

/-!
# Where actions lead

`Act.Leads R m` says that `m` takes every world to one that the relation `R` holds of, however its
run ends. For a relation that can be put together (`Calm`) it follows from the parts of `m`, and so a
program leads where the elementary changes lead with their watches (`Altering`). For a relation for
which it does not matter what notes say (`Plain`, `Revising`) these lead where the watches lead.

Opening and closing frames is more than that. For a relation that holds only of whole scopes, `Scopes`
says what holds between worlds while the guard of a scope is held, and what is left to prove: that
closing the frame of the guard leads there, and that after the opening of the frame it ends in the
relation for the scope as a whole.
-/

set_option autoImplicit false

namespace ScopedBinding

/-- Whether a note tells of a frame that was opened or closed. -/
def Note.movesFrame {ε : Type} : Note ε → Bool
  | .pushed _ _ _ => true
  | .popped _ _ _ => true
  | _ => false

/-- A single change of the store that opens and closes no frame. -/
inductive Store.Revises (s : Store) : Store → Prop where
  | write (t : ThreadId) (c : CellId) (v : Value) : Revises s (s.write t c v).2
  | setRoot (c : CellId) (v : Value) : Revises s (s.setRoot c v).2
  | watch (c : CellId) (key : String) (w : WatchId) : Revises s (s.watch c key w)
  | unwatch (c : CellId) (key : String) : Revises s (s.unwatch c key).2
  | issueFrame : Revises s s.issueFrame.2
  | lock (c : CellId) : Revises s (s.lock c)
  | unlock (c : CellId) : Revises s (s.unlock c)

/-- A single change of the store that changes no value and opens and closes no frame. -/
inductive Store.Rearranges (s : Store) : Store → Prop where
  | watch (c : CellId) (key : String) (w : WatchId) : Rearranges s (s.watch c key w)
  | unwatch (c : CellId) (key : String) : Rearranges s (s.unwatch c key).2
  | issueFrame : Rearranges s s.issueFrame.2
  | lock (c : CellId) : Rearranges s (s.lock c)
  | unlock (c : CellId) : Rearranges s (s.unlock c)

/-- A change that changes no value is one that opens and closes no frame. -/
theorem Store.Rearranges.revises {s s' : Store} (h : s.Rearranges s') : s.Revises s' := by
  cases h with
  | watch c key w => exact .watch c key w
  | unwatch c key => exact .unwatch c key
  | issueFrame => exact .issueFrame
  | lock c => exact .lock c
  | unlock c => exact .unlock c

namespace Store.Revises

variable {s s' : Store}

/-- Such a change leaves all stacks as they are. -/
theorem keepsStacks (h : s.Revises s') : KeepsStacks s s' := by
  cases h with
  | write t c v => exact s.keepsStacks_write t c v
  | setRoot c v => exact s.keepsStacks_setRoot c v
  | watch c key w => exact s.keepsStacks_watch c key w
  | unwatch c key => exact s.keepsStacks_unwatch c key
  | issueFrame => exact s.keepsStacks_issueFrame
  | lock c => exact s.keepsStacks_lock c
  | unlock c => exact s.keepsStacks_unlock c

/-- Frame numbers are taken and never given back. -/
theorem framesIssued_le (h : s.Revises s') : s.framesIssued ≤ s'.framesIssued := by
  cases h with
  | write t c v => exact Nat.le_of_eq (s.framesIssued_write t c v).symm
  | setRoot c v => exact Nat.le_refl _
  | watch c key w => exact Nat.le_refl _
  | unwatch c key => exact Nat.le_refl _
  | issueFrame => exact Nat.le_succ _
  | lock c => exact Nat.le_refl _
  | unlock c => exact Nat.le_refl _

/-- Such a change keeps the frames of a variable in order. -/
theorem wellFormedAt (h : s.Revises s') {d : CellId} (hs : s.WellFormedAt d) :
    s'.WellFormedAt d := by
  cases h with
  | write t c v => exact hs.write t c v
  | setRoot c v => exact hs.updateCell c fun _ => rfl
  | watch c key w => exact hs.updateCell c fun _ => rfl
  | unwatch c key => exact hs.updateCell c fun _ => rfl
  | issueFrame => exact hs.issueFrame
  | lock c => exact hs.updateCell c fun _ => rfl
  | unlock c => exact hs.updateCell c fun _ => rfl

/-- Such a change keeps all frames in order. -/
theorem wellFormed (h : s.Revises s') (hs : s.WellFormed) : s'.WellFormed :=
  fun d => h.wellFormedAt (hs d)

end Store.Revises

namespace World

variable {η ε : Type}

/-- The world after a thread opened a frame. -/
def opened (w : World η ε) (t : ThreadId) (c : CellId) : World η ε :=
  { w with store := (w.store.push t c).2, journal := .pushed t c (w.store.push t c).1 :: w.journal }

/-- The world after a thread closed a frame, with the store that the closing left. -/
def closed (w : World η ε) (t : ThreadId) (c : CellId) (f : FrameId) (s : Store) : World η ε :=
  { w with store := s, journal := .popped t c f :: w.journal }

/-- The world after a change of a variable was made and noted. -/
def changed (w : World η ε) (t : ThreadId) (c : CellId) (change : Change) (r : Replaced)
    (s : Store) : World η ε :=
  { w with store := s, journal := .changed t ⟨c, s.symbol c, r.old, r.new, change⟩ :: w.journal }

/-- The world after a thread opened a frame for a guard and logged it. -/
def acquired (w : World η ε) (t : ThreadId) (c : CellId) : World η ε :=
  let opened := w.opened t c
  { opened with
    journal := .logged ⟨.debug, Guard.source, "acquired",
      [("symbol", (opened.store.symbol c).display),
        ("frame", (w.store.push t c).1.id.display),
        ("kind", (opened.store.kind c).word)]⟩ :: opened.journal }

end World

/-- The guard of the frame that a thread opens next. -/
def Guard.next (s : Store) (t : ThreadId) (c : CellId) : Guard :=
  ⟨c, (s.push t c).1.id, .acquired⟩

/-- Acquiring a guard opens the next frame and logs that. -/
theorem Guard.acquire_run {η ε : Type} (c : CellId) (ctx : Context) (w : World η ε) :
    Guard.acquire c ctx w = (.done (.next w.store ctx.thread c), w.acquired ctx.thread c) :=
  rfl

/-- A relation between worlds that can be put together, and that holds of steps that only log or
decide the settings. -/
structure Calm {η ε : Type} (R : World η ε → World η ε → Prop) : Prop where
  refl : ∀ w, R w w
  trans : ∀ {w w' w''}, R w w' → R w' w'' → R w w''
  settings : ∀ w s, R w { w with settings := s }
  logged : ∀ w message, R w { w with journal := .logged message :: w.journal }

/-- A relation that can be put together, and that holds of every step that leaves the store as it
is. -/
structure Plain {η ε : Type} (R : World η ε → World η ε → Prop) : Prop where
  refl : ∀ w, R w w
  trans : ∀ {w w' w''}, R w w' → R w' w'' → R w w''
  settings : ∀ w s, R w { w with settings := s }
  note : ∀ w n, n.movesFrame = false → R w { w with journal := n :: w.journal }

/-- A plain relation that also holds of every change of the store that opens and closes no frame. -/
structure Revising {η ε : Type} (R : World η ε → World η ε → Prop) : Prop extends Plain R where
  store : ∀ w s, w.store.Revises s → R w { w with store := s }

/-- A relation for whole scopes for which it does not matter what notes say, and one that holds while the
guard of a scope is held. -/
structure Scoping {η ε : Type} (R : World η ε → World η ε → Prop)
    (held : Guard → World η ε → World η ε → Prop) : Prop extends Revising R where
  revising_held : ∀ g, Revising (held g)
  weaken : ∀ g {w w'}, R w w' → held g w w'
  opened : ∀ w t c w',
    held (.next w.store t c) (w.opened t c) w' → R w w'
  closed : ∀ (g : Guard) (w : World η ε) t r s,
    w.store.pop t g.cell g.frame = .ok (r, s) → held g w (w.closed t g.cell g.frame s)

section Relations

variable {η ε : Type} {R : World η ε → World η ε → Prop}
  {held : Guard → World η ε → World η ε → Prop}

/-- A relation for which it does not matter what notes say is one that holds of logging. -/
theorem Plain.calm (h : Plain R) : Calm R where
  refl := h.refl
  trans := h.trans
  settings := h.settings
  logged w _ := h.note w _ rfl

instance : Coe (Plain R) (Calm R) := ⟨Plain.calm⟩

/-- A change that has been made is noted. -/
theorem Plain.changed (h : Plain R) {w : World η ε} {t : ThreadId} {c : CellId} {change : Change}
    {r : Replaced} {v : World η ε} (hv : R w v) : R w (v.changed t c change r v.store) :=
  h.trans hv (h.note v _ rfl)

end Relations

namespace Act

variable {η ε α β : Type} {R S : World η ε → World η ε → Prop}

/-- An action takes every world to one that a relation holds of, however it ends. -/
def Leads (R : World η ε → World η ε → Prop) (m : Act η ε α) : Prop :=
  ∀ ctx w, R w (m ctx w).2

namespace Leads

/-- An action that leads somewhere leads everywhere where that leads. -/
theorem weaken {m : Act η ε α} (h : Leads R m) (hRS : ∀ w w', R w w' → S w w') : Leads S m :=
  fun ctx w => hRS _ _ (h ctx w)

/-- An action that leaves the world as it is. -/
theorem still (hR : Calm R) {m : Act η ε α} (h : ∀ ctx w, (m ctx w).2 = w) : Leads R m := by
  intro ctx w
  rw [h]
  exact hR.refl w

/-- A value. -/
theorem pure (hR : Calm R) (a : α) : Leads R (pure a : Act η ε α) :=
  still hR fun _ _ => rfl

/-- One action after another, when the values of the first have a property. -/
theorem bind_of (hR : Calm R) {P : α → Prop} {m : Act η ε α} {next : α → Act η ε β}
    (hm : Leads R m) (hP : Yields P m)
    (hnext : ∀ a, P a → Leads R (next a)) : Leads R (m >>= next) := by
  intro ctx w
  have hfirst := hm ctx w
  have hvalue := hP ctx w
  show R w (Act.bind m next ctx w).2
  unfold Act.bind
  generalize m ctx w = result at hfirst hvalue ⊢
  obtain ⟨a | message | _, w'⟩ := result
  · exact hR.trans hfirst (hnext a (hvalue a rfl) ctx w')
  · exact hfirst
  · exact hfirst

/-- One action after another. -/
theorem bind (hR : Calm R) {m : Act η ε α} {next : α → Act η ε β} (hm : Leads R m)
    (hnext : ∀ a, Leads R (next a)) : Leads R (m >>= next) :=
  bind_of hR hm (P := fun _ => True) (fun _ _ _ _ => trivial) fun a _ => hnext a

/-- What follows the first part of a sequence leads on from there. -/
theorem bind_right (hR : Calm R) (m : Act η ε α) {next : α → Act η ε β}
    (hnext : ∀ a, Leads R (next a)) (ctx : Context) (w : World η ε) :
    R (m ctx w).2 ((m >>= next) ctx w).2 := by
  rcases bind_cases m next ctx w with ⟨a, hgo⟩ | hstop
  · rw [hgo]
    exact hnext a ctx _
  · rw [hstop]
    exact hR.refl _

/-- An action whose panic is stopped. -/
theorem attempt {m : Act η ε α} (hm : Leads R m) : Leads R (Act.attempt m) := by
  intro ctx w
  have hfirst := hm ctx w
  unfold Act.attempt
  generalize m ctx w = result at hfirst ⊢
  obtain ⟨a | message | _, w'⟩ := result <;> exact hfirst

/-- An action with its cleanup, whether the cleanup runs or not. -/
theorem onUnwind (hR : Calm R) {m : Act η ε α} {cleanup : Act η ε Unit} (hm : Leads R m)
    (hc : Leads R cleanup) : Leads R (Act.onUnwind m cleanup) :=
  Runs.onUnwind (Q := fun _ w _ w' => R w w') (D := fun _ w _ w' => R w w') hR.trans hm hc

/-- Work on another thread. -/
theorem onThread {m : Act η ε α} (t : ThreadId) (hm : Leads R m) : Leads R (Act.onThread t m) :=
  fun _ w => hm ⟨t, false⟩ w

/-- A note of something else than a frame. -/
theorem note (hR : Plain R) {n : Note ε} (h : n.movesFrame = false) :
    Leads R (Act.note n : Act η ε Unit) :=
  fun _ w => hR.note w n h

/-- A message. -/
theorem log (hR : Calm R) (message : LogMessage) : Leads R (Act.log message : Act η ε Unit) :=
  fun _ w => hR.logged w message

/-- A change of the settings. -/
theorem setSettings (hR : Calm R) (s : Settings) : Leads R (Act.setSettings s : Act η ε Unit) :=
  fun _ w => hR.settings w s

/-- Where an action leads follows from its parts. -/
theorem composes (hR : Calm R) :
    Composes (Same fun {α} (m : Act η ε α) => Leads R m) (Same fun {α} (m : Act η ε α) => Leads R m) :=
  have hsequences := Runs.sequences (Q := fun _ w _ w' => R w w') (fun _ => hR.refl)
    (fun _ => hR.logged) hR.trans
  hsequences.composes (D := fun _ w _ w' => R w w') (fun _ => hR.refl) (fun _ w _ => hR.refl w)
    hR.trans

end Leads

end Act

open Act (Leads)

section Operations

variable {η ε α : Type} {R : World η ε → World η ε → Prop} {deliver : Delivery η ε}

/-- Telling the watches leads where they lead. -/
theorem Event.deliver_leads (hR : Calm R) (hd : ∀ w e, Leads R (deliver w e)) (e : Event) :
    Leads R (e.deliver deliver) :=
  ((Leads.composes hR).tell (fun k e => .of (hd k e)) e).2

/-- Making a change known leads where the watches lead. -/
theorem CellId.announce_leads (hR : Plain R) (hd : ∀ w e, Leads R (deliver w e)) (c : CellId)
    (change : Change) (r : Replaced) : Leads R (c.announce deliver change r) :=
  ((Leads.composes hR.calm).announce (fun _ _ => .of (.note hR rfl)) (fun k e => .of (hd k e)) c change
    r).2

/-- Making a change known notes it and delivers its event. -/
theorem CellId.announce_run (deliver : Delivery η ε) (c : CellId) (change : Change) (r : Replaced)
    (ctx : Context) (w : World η ε) : c.announce deliver change r ctx w =
      Event.deliver deliver ⟨c, w.store.symbol c, r.old, r.new, change⟩ ctx
        (w.changed ctx.thread c change r w.store) :=
  rfl

/-- Making a change known from where it was made leads where the change with its note does. -/
theorem CellId.announce_after (hR : Calm R) (hd : ∀ w e, Leads R (deliver w e)) (c : CellId)
    (change : Change) (r : Replaced) (ctx : Context) {w v : World η ε}
    (h : R w (v.changed ctx.thread c change r v.store)) :
    R w (c.announce deliver change r ctx v).2 := by
  rw [announce_run]
  exact hR.trans h (Event.deliver_leads hR hd _ ctx _)

/-- Setting a variable leads where the change with its note and the watches lead. -/
theorem CellId.write_leads (hR : Calm R) (hd : ∀ w e, Leads R (deliver w e)) (c : CellId)
    (v : Value) (hwritten : ∀ (w : World η ε) t,
      R w (w.changed t c .write (w.store.write t c v).1 (w.store.write t c v).2)) :
    Leads R (c.write deliver v) := by
  intro ctx w
  exact c.announce_after hR hd .write (w.store.write ctx.thread c v).1 ctx (hwritten w ctx.thread)

/-- Setting a root leads where the change with its note and the watches lead. -/
theorem CellId.setRoot_leads (hR : Calm R) (hd : ∀ w e, Leads R (deliver w e)) (c : CellId)
    (v : Value) (hset : ∀ (w : World η ε) t,
      R w (w.changed t c .write (w.store.setRoot c v).1 (w.store.setRoot c v).2)) :
    Leads R (c.setRoot deliver v) := by
  intro ctx w
  exact c.announce_after hR hd .write (w.store.setRoot c v).1 ctx (hset w ctx.thread)

/-- Looking at what the environment variable selects leads where logging leads. -/
theorem Settings.fromVariable_leads (hR : Calm R) :
    Leads R (Settings.fromVariable : Act η ε ReleasePolicy) :=
  (Leads.composes hR).fromVariable.2

/-- Asking for the policy leads where logging and deciding the settings lead. -/
theorem Settings.current_leads (hR : Calm R) :
    Leads R (Settings.current : Act η ε ReleasePolicy) :=
  ((Leads.composes hR).current fun s => .of (.setSettings hR s)).2

/-- Installing a policy leads where deciding the settings leads. -/
theorem Settings.install_leads (hR : Calm R) (policy : ReleasePolicy) :
    Leads R (Settings.install policy : Act η ε (Except ReleasePolicy Unit)) :=
  ((Leads.composes hR).install (fun s => .of (.setSettings hR s)) policy).2

/-- Changing the environment variable leads where deciding the settings leads. -/
theorem Settings.setVariable_leads (hR : Calm R) (content : Option (List UInt8)) :
    Leads R (Settings.setVariable content : Act η ε Unit) :=
  ((Leads.composes hR).setVariable (fun s => .of (.setSettings hR s)) content).2

/-- Taking a snapshot leads where logging leads. -/
theorem Snapshot.capture_leads (hR : Calm R) (cells : List CellId) :
    Leads R (Snapshot.capture cells : Act η ε Snapshot) :=
  ((Leads.composes hR).capture cells).2

/-- A frame that cannot be closed is rejected, and nothing happens. -/
theorem CellId.pop_of_error {c : CellId} {f : FrameId} {ctx : Context} {w : World η ε}
    {fault : Fault} (h : w.store.pop ctx.thread c f = .error fault) :
    c.pop deliver f ctx w = (.done (.error fault), w) := by
  unfold CellId.pop
  simp only [bind, Act.bind, Act.thread, Act.store, h]
  rfl

/-- A frame that can be closed is closed first, and then the watches are told. -/
theorem CellId.pop_of_ok {c : CellId} {f : FrameId} {ctx : Context} {w : World η ε} {r : Replaced}
    {s : Store} (h : w.store.pop ctx.thread c f = .ok (r, s)) :
    c.pop deliver f ctx w =
      (do c.announce deliver .restore r; pure (.ok ()) : Act η ε (Except Fault Unit)) ctx
        (w.closed ctx.thread c f s) := by
  unfold CellId.pop
  simp only [bind, Act.bind, Act.thread, Act.store, h]
  rfl

/-- Closing a frame leads where the watches lead, from the world where it is closed. -/
theorem CellId.pop_leads (hR : Calm R) (hd : ∀ w e, Leads R (deliver w e)) (c : CellId)
    (f : FrameId) (hclosed : ∀ (w : World η ε) t r s, w.store.pop t c f = .ok (r, s) →
      R w ((w.closed t c f s).changed t c .restore r s)) :
    Leads R (c.pop deliver f) := by
  intro ctx w
  cases hp : w.store.pop ctx.thread c f with
  | error fault =>
    rw [CellId.pop_of_error hp]
    exact hR.refl w
  | ok result =>
    obtain ⟨r, s⟩ := result
    rw [CellId.pop_of_ok hp]
    refine hR.trans (c.announce_after hR hd .restore r ctx (hclosed w _ r s hp)) ?_
    exact Leads.bind_right hR _ (fun _ => .pure hR _) ctx _

end Operations

/-! ## Programs -/

section Relations

variable {η ε : Type} (deliver : Delivery η ε) (R : World η ε → World η ε → Prop)
  (held : Guard → World η ε → World η ε → Prop)

/-- A calm relation that elementary changes of values lead, with the watches told of them, and that holds
of what else opens and closes no frame. -/
structure Altering : Prop extends Calm R where
  write : ∀ c v, Leads R (CellId.write deliver c v)
  setRoot : ∀ c v, Leads R (CellId.setRoot deliver c v)
  rearranged : ∀ w s, w.store.Rearranges s → R w { w with store := s }

/-- A relation for whole scopes, and one that holds while the guard of a scope is held. -/
structure Scopes : Prop extends Altering deliver R where
  altering_held : ∀ g, Altering deliver (held g)
  weaken : ∀ g {w w'}, R w w' → held g w w'
  opened : ∀ w t c w',
    held (.next w.store t c) (w.opened t c) w' → R w w'
  pop : ∀ g : Guard, Leads (held g) (g.cell.pop deliver g.frame)

variable {deliver R held}

/-- Setting a root to what a function makes of it leads where the function and setting it lead, and the
lock of the variable. -/
theorem CellId.alterRoot_leads (hR : Altering deliver R) (c : CellId) {f : Value → Act η ε Value}
    (hf : ∀ v, Leads R (f v)) : Leads R (c.alterRoot deliver f) := by
  have hcalm := hR.toCalm
  have hhalt : Leads R (Act.halt : Act η ε Unit) := .still hcalm fun _ _ => rfl
  have hlock := (Leads.composes hcalm).lock c (.of hhalt) (.of fun _ w => hR.rearranged w _ (.lock c))
  have hunlock : Leads R (c.unlock : Act η ε Unit) := fun _ w => hR.rearranged w _ (.unlock c)
  exact ((Leads.composes hcalm).alterRoot hlock (.of hunlock) (.of hunlock)
    (fun v => .of (hR.setRoot c v)) fun v => .of (hf v)).2

/-- A relation for which it does not matter what notes say is led by setting variables where the watches
lead. -/
theorem Revising.altering (h : Revising R) (hd : ∀ w e, Leads R (deliver w e)) :
    Altering deliver R where
  toCalm := h.toPlain
  write c v := c.write_leads h.toPlain hd v fun w t => h.toPlain.changed (h.store w _ (.write t c v))
  setRoot c v := c.setRoot_leads h.toPlain hd v fun w _ =>
    h.toPlain.changed (h.store w _ (.setRoot c v))
  rearranged w s hs := h.store w s hs.revises

/-- The same for a relation that holds of whole scopes. -/
theorem Scoping.scopes (h : Scoping R held) (hd : ∀ w e, Leads R (deliver w e)) :
    Scopes deliver R held := by
  have hd' : ∀ g w e, Leads (held g) (deliver w e) := fun g w e =>
    (hd w e).weaken fun _ _ => h.weaken g
  refine ⟨h.toRevising.altering hd, fun g => (h.revising_held g).altering (hd' g), h.weaken,
    h.opened, fun g => ?_⟩
  have hP := (h.revising_held g).toPlain
  exact g.cell.pop_leads hP (hd' g) g.frame fun w t r s hp => hP.changed (h.closed g w t r s hp)

end Relations

namespace Guard

variable {η ε α : Type} {R : World η ε → World η ε → Prop} {deliver : Delivery η ε}

/-- Where closing the frame of a guard leads, the operations on the guard lead. -/
theorem closes (hR : Calm R) (g : Guard) (hpop : Leads R (g.cell.pop deliver g.frame)) :
    Act.Closes (Act.Same fun {α} (m : Act η ε α) => Leads R m)
      (Act.Same fun {α} (m : Act η ε α) => Leads R m) deliver deliver
      fun c f => c = g.cell ∧ f = g.frame where
  toComposes := Leads.composes hR
  message message := .of (.log hR message)
  current := .of (Settings.current_leads hR)
  pop := by
    rintro _ _ ⟨rfl, rfl⟩
    exact .of hpop

/-- Releasing a guard leads where closing its frame leads. -/
theorem release_leads (hR : Calm R) (g : Guard) (hpop : Leads R (g.cell.pop deliver g.frame)) :
    Leads R (g.release deliver) :=
  ((Leads.composes hR).release (fun message => .of (.log hR message)) (.of hpop)).2

/-- A guard that is released is as before but for its state. -/
theorem release_yields (g : Guard) :
    Act.Yields (fun result => ∀ g', result = .ok g' → g' = { g with state := .released })
      (g.release deliver) := by
  unfold release
  refine .bind fun s => ?_
  dsimp only
  split <;>
  · refine .bind fun closed => ?_
    split
    · exact .bind fun _ => .pure nofun
    · exact .bind fun _ => .pure fun g' h => (Except.ok.inj h).symm

/-- Giving up a guard leads where logging leads. -/
theorem abandon_leads (hR : Calm R) (g : Guard) : Leads R (g.abandon : Act η ε Guard) :=
  ((Leads.composes hR).abandon (fun message => .of (.log hR message)) g).2

/-- A release that failed leaves the world as it is. -/
theorem failRelease_leads (hR : Calm R) (policy : ReleasePolicy) (fault : Fault) :
    Leads R (failRelease policy fault : Act η ε Unit) :=
  ((Leads.composes hR).failRelease policy fault).2

/-- Dropping a guard leads where closing its frame leads. -/
theorem drop_leads (hR : Calm R) (g : Guard) (hpop : Leads R (g.cell.pop deliver g.frame)) :
    Leads R (g.drop deliver) :=
  ((g.closes hR hpop).drop ⟨rfl, rfl⟩).2

variable {held : Guard → World η ε → World η ε → Prop}

/-- What follows the opening of a frame is led by the relation for its guard, and all of it by the
relation for whole scopes. -/
theorem acquire_bind_leads (h : Scopes deliver R held) (c : CellId) {next : Guard → Act η ε α}
    (hnext : ∀ g, Leads (held g) (next g)) : Leads R (acquire c >>= next) := by
  intro ctx w
  refine h.opened w ctx.thread c _ ?_
  exact (h.altering_held _).trans ((h.altering_held _).logged _ _) (hnext _ ctx _)

/-- Holding a guard around a body leads where the body and the watches lead. -/
theorem hold_leads (h : Scopes deliver R held) (c : CellId)
    {body : Act η ε α} (hbody : Leads R body) : Leads R (hold deliver c body) := by
  unfold hold
  refine acquire_bind_leads h c fun g => ?_
  have hg := (h.altering_held g).toCalm
  have hdrop := g.drop_leads hg (h.pop g)
  have hbody' : Leads (held g) body := hbody.weaken fun _ _ => h.weaken g
  refine .bind hg (.onUnwind hg hbody' hdrop) fun a => ?_
  exact .bind hg hdrop fun _ => .pure hg a

end Guard

namespace Overrides

variable {η ε α β : Type} {R : World η ε → World η ε → Prop} {deliver : Delivery η ε}
  {held : Guard → World η ε → World η ε → Prop}

/-- Ending an override leads where closing its frame leads. -/
theorem finish_leads (h : Scopes deliver R held) (g : Guard) : Leads (held g) (finish deliver g) :=
  have hg := (h.altering_held g).toCalm
  ((g.closes hg (h.pop g)).finish ⟨rfl, rfl⟩ (.of (g.drop_leads hg (h.pop g)))).2

/-- Overriding one more variable: its guard is released after all the rest. -/
theorem around_cons (deliver : Delivery η ε) (discard : α → Act η ε Unit) (c : CellId) (v : Value)
    (rest : Overrides) (body : Act η ε α) (ctx : Context) (w : World η ε) :
    around deliver discard ((c, v) :: rest) body ctx w =
      (Act.onUnwind (do c.write deliver v; around deliver discard rest body)
          ((Guard.next w.store ctx.thread c).drop deliver) >>= fun ends => do
        return (ends.1, ends.2.or
          (← Act.onUnwind (finish deliver (.next w.store ctx.thread c)) (discard ends.1)))) ctx
            (w.acquired ctx.thread c) :=
  rfl

/-- Overriding variables around a body leads where the body, its result that goes away and the watches
lead. -/
theorem around_leads (h : Scopes deliver R held) {discard : α → Act η ε Unit}
    (hdiscard : ∀ a, Leads R (discard a)) (set : Overrides) {body : Act η ε α} (hbody : Leads R body) :
    Leads R (around deliver discard set body) := by
  induction set with
  | nil =>
    unfold around
    exact .bind h.toCalm hbody fun a => .pure h.toCalm _
  | cons pair rest ih =>
    obtain ⟨c, v⟩ := pair
    unfold around
    refine Guard.acquire_bind_leads h c fun g => ?_
    have hg := (h.altering_held g).toCalm
    refine .bind hg ?_ fun ends => ?_
    · refine .onUnwind hg ?_ (g.drop_leads hg (h.pop g))
      refine .bind hg ((h.altering_held g).write c v) fun _ => ?_
      exact ih.weaken fun _ _ => h.weaken g
    · have hdiscarded := (hdiscard ends.1).weaken fun _ _ => h.weaken g
      exact .bind hg (.onUnwind hg (finish_leads h g) hdiscarded) fun _ => .pure hg _

/-- The same for the entering of a body. -/
theorem enter_leads (h : Scopes deliver R held) {discard : α → Act η ε Unit}
    (hdiscard : ∀ a, Leads R (discard a)) (set : Overrides) {body : Act η ε α} (hbody : Leads R body) :
    Leads R (enter deliver discard set body) := by
  rw [enter_eq]
  refine around_leads h hdiscard set ?_
  exact .bind h.toCalm (.log h.toCalm _) fun _ => hbody

/-- What programs are put together by leads where the parts lead. -/
theorem congruent (h : Scopes deliver R held) :
    Act.Congruent (Act.Same fun {α} (m : Act η ε α) => Leads R m) deliver deliver where
  toComposes := Leads.composes h.toCalm
  current := .of (Settings.current_leads h.toCalm)
  attempt := by
    rintro _ _ _ ⟨rfl, hm⟩
    exact .of hm.attempt
  onThread := by
    rintro _ _ _ t ⟨rfl, hm⟩
    exact .of (hm.onThread t)
  alterRoot := by
    intro c f f' hf
    obtain rfl : f' = f := funext fun v => (hf v).1
    exact .of (c.alterRoot_leads h.toAltering fun v => (hf v).2)
  hold := by
    rintro c _ _ _ ⟨rfl, hbody⟩
    exact .of (Guard.hold_leads h c hbody)
  enter := by
    rintro _ discard discard' hdiscard _ _ ⟨rfl, hbody⟩ set
    obtain rfl : discard' = discard := funext fun a => (hdiscard a).1
    exact .of (enter_leads h (fun a => (hdiscard a).2) set hbody)

end Overrides

namespace Call

variable {υ ε : Type} {R : World (Hands υ) ε → World (Hands υ) ε → Prop}
  {deliver : Delivery (Hands υ) ε}

/-- Calls that touch no frame, no guard and no state of the program's own. -/
def IsPlain {α : Type} : Call υ ε α → Prop
  | .own _ => False
  | .push _ => False
  | .pop _ _ => False
  | .acquire _ => False
  | .release _ => False
  | .drop _ => False
  | .forget _ => False
  | _ => True

/-- Such calls lead where setting variables leads. -/
theorem leads_of_isPlain (hR : Altering deliver R) {α : Type} {op : Call υ ε α}
    (h : op.IsPlain) : Leads R (op.act deliver) := by
  have hP := hR.toCalm
  cases op with
  | look see => exact .still hP fun _ _ => rfl
  | panic message => exact .still hP fun _ _ => rfl
  | halt => exact .still hP fun _ _ => rfl
  | write c v => exact hR.write c v
  | setRoot c v => exact hR.setRoot c v
  | issueFrame => exact fun _ w => hR.rearranged w _ .issueFrame
  | watch c key w => exact fun _ v => hR.rearranged v _ (.watch c key w)
  | unwatch c key => exact fun _ w => hR.rearranged w _ (.unwatch c key)
  | capture cells => exact Snapshot.capture_leads hP cells
  | policy => exact Settings.current_leads hP
  | policyFromVariable => exact Settings.fromVariable_leads hP
  | install decided => exact Settings.install_leads hP decided
  | setVariable content => exact Settings.setVariable_leads hP content
  | own | push | pop | acquire | release | drop | forget => exact h.elim

end Call

/-- A program leads where its calls and the watches lead. -/
theorem Program.leads {υ ε : Type} {R : World (Hands υ) ε → World (Hands υ) ε → Prop}
    {held : Guard → World (Hands υ) ε → World (Hands υ) ε → Prop}
    {deliver : Delivery (Hands υ) ε} (h : Scopes deliver R held)
    {allowed : {β : Type} → Call υ ε β → Prop} {cleanups : Prop}
    (hcall : ∀ {β : Type} (op : Call υ ε β), allowed op → Leads R (op.act deliver)) {α : Type}
    (p : Program υ ε α) (hp : p.Uses allowed cleanups) : Leads R (p.act deliver) :=
  (p.related (Overrides.congruent h) (fun op hop => .of (hcall op hop)) hp).2

/-- Watches that are programs lead where the calls of their programs lead. -/
theorem Rules.deliver_leads {υ ε : Type} {R : World (Hands υ) ε → World (Hands υ) ε → Prop}
    {held : Guard → World (Hands υ) ε → World (Hands υ) ε → Prop}
    (hR : Calm R) (h : ∀ deliver : Delivery (Hands υ) ε, (∀ w e, Leads R (deliver w e)) →
      Scopes deliver R held) {allowed : {β : Type} → Call υ ε β → Prop} {cleanups : Prop}
    (hcall : ∀ (deliver : Delivery (Hands υ) ε), (∀ w e, Leads R (deliver w e)) →
      ∀ {β : Type} (op : Call υ ε β), allowed op → Leads R (op.act deliver))
    (rules : Rules υ ε) (hrules : ∀ w e, (rules w e).Uses allowed cleanups) (depth : Nat)
    (w : WatchId) (e : Event) : Leads R (rules.deliver depth w e) := by
  induction depth generalizing w e with
  | zero => exact .still hR fun _ _ => rfl
  | succ depth ih => exact Program.leads (h _ ih) (hcall _ ih) (rules w e) (hrules w e)

end ScopedBinding
