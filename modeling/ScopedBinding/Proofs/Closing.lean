import ScopedBinding.Proofs.Leads

/-!
# Closing frames while the watches only observe

Watches that only observe leave the store as it is, so what a release does to the store is what
closing the frame does, and nothing if the frame cannot be closed (`Store.close`). Such watches may
panic, except on a thread that is unwinding already. Then the release is cut short after the frame
was closed, and the guard is dropped once more on the way out; so a frame is closed once or tried
twice (`Overrides.finish_store`).
-/

set_option autoImplicit false

namespace ScopedBinding

/-! ## How runs end -/

/-- The ending with a value. -/
def Ending.Returns (_ : Context) (e : Ending) : Prop :=
  e = .done

/-- An ending that a surrounding program can catch. -/
def Ending.Survives (_ : Context) (e : Ending) : Prop :=
  e ≠ .halted

/-- An ending that is safe in a cleanup: no panic on a thread that is unwinding. -/
def Ending.Orderly (ctx : Context) (e : Ending) : Prop :=
  e = .done ∨ e = .panicked ∧ ctx.unwinding = false

/-- An end with a value is one that returns. -/
theorem Ending.done_returns (ctx : Context) : Ending.Returns ctx .done :=
  rfl

/-- An end with a value does not end the run. -/
theorem Ending.done_survives (ctx : Context) : Ending.Survives ctx .done :=
  nofun

/-- What is safe in a cleanup does not end the run. -/
theorem Ending.Orderly.survives {ctx : Context} {e : Ending} (h : e.Orderly ctx) :
    e.Survives ctx := by
  rcases h with rfl | ⟨rfl, -⟩ <;> exact nofun

/-- On a thread that is unwinding only an end with a value is safe. -/
theorem Ending.Orderly.done_of_unwinding {ctx : Context} {e : Ending} (h : e.Orderly ctx)
    (hctx : ctx.unwinding = true) : e = .done := by
  rcases h with rfl | ⟨-, hfalse⟩
  · rfl
  · rw [hctx] at hfalse
    cases hfalse

namespace Act

variable {η ε α β : Type} {allowed : Context → Ending → Prop}

/-- Every run of an action ends in a way that is allowed. -/
def Ends (allowed : Context → Ending → Prop) (m : Act η ε α) : Prop :=
  ∀ ctx w, allowed ctx (m ctx w).1.ending

namespace Ends

/-- An action that always ends with a value. -/
theorem value (hdone : ∀ ctx, allowed ctx .done) {m : Act η ε α}
    (h : ∀ ctx w, ∃ a, (m ctx w).1 = .done a) : Ends allowed m := by
  intro ctx w
  obtain ⟨a, ha⟩ := h ctx w
  rw [ha]
  exact hdone ctx

/-- A value. -/
theorem pure (hdone : ∀ ctx, allowed ctx .done) (a : α) : Ends allowed (pure a : Act η ε α) :=
  value hdone fun _ _ => ⟨a, rfl⟩

/-- One action after another. -/
theorem bind {m : Act η ε α} {next : α → Act η ε β} (hm : Ends allowed m)
    (hnext : ∀ a, Ends allowed (next a)) : Ends allowed (m >>= next) :=
  Runs.bind (Q := fun ctx _ e _ => allowed ctx e) (fun _ h => h) hm hnext

/-- An action whose panic is stopped. -/
theorem attempt {m : Act η ε α} (hm : Ends Ending.Survives m) :
    Ends Ending.Survives (Act.attempt m) := by
  intro ctx w
  have hfirst := hm ctx w
  unfold Act.attempt
  generalize m ctx w = result at hfirst ⊢
  obtain ⟨a | message | _, w'⟩ := result
  · exact nofun
  · exact nofun
  · exact hfirst

/-- Work on another thread. -/
theorem onThread {m : Act η ε α} (t : ThreadId) (hm : Ends Ending.Survives m) :
    Ends Ending.Survives (Act.onThread t m) :=
  fun _ w => hm ⟨t, false⟩ w

/-- How a sequence ends follows from its parts. -/
theorem sequences (hdone : ∀ ctx, allowed ctx .done) :
    Sequences (Same fun {α} (m : Act η ε α) => Ends allowed m) :=
  Runs.sequences (Q := fun ctx _ e _ => allowed ctx e) (fun ctx _ => hdone ctx)
    (fun ctx _ _ => hdone ctx) fun _ h => h

/-- Cleanups that are orderly let a panic end as it did before. -/
theorem composes (hallowed : ∀ ctx e, e.Orderly ctx → allowed ctx e) :
    Composes (Same fun {α} (m : Act η ε α) => Ends allowed m)
      (Same fun {α} (m : Act η ε α) => Ends Ending.Orderly m) := by
  have hdone := fun ctx => hallowed ctx .done (.inl rfl)
  refine (sequences hdone).composes (Q := fun ctx _ e _ => allowed ctx e)
    (D := fun ctx _ e _ => e.Orderly ctx) (fun ctx _ => hdone ctx)
    (fun ctx _ h => hallowed ctx .panicked (.inr ⟨rfl, h⟩)) fun hpanicked hcleaned => ?_
  rw [hcleaned.done_of_unwinding rfl]
  exact hpanicked

end Ends

end Act

open Act (Leads Ends)

section Operations

variable {η ε : Type} {deliver : Delivery η ε} {allowed : Context → Ending → Prop}

/-- Making a change known ends as the watches do. -/
theorem CellId.announce_ends (hdone : ∀ ctx, allowed ctx .done)
    (hd : ∀ w e, Ends allowed (deliver w e)) (c : CellId) (change : Change) (r : Replaced) :
    Ends allowed (c.announce deliver change r) :=
  ((Ends.sequences hdone).announce (fun _ _ => .of (.value hdone fun _ _ => ⟨_, rfl⟩))
    (fun k e => .of (hd k e)) c change r).2

/-- Setting a variable ends as the watches do. -/
theorem CellId.write_ends (hdone : ∀ ctx, allowed ctx .done)
    (hd : ∀ w e, Ends allowed (deliver w e)) (c : CellId) (v : Value) :
    Ends allowed (c.write deliver v) :=
  ((Ends.sequences hdone).write (fun _ _ _ => .of (.value hdone fun _ _ => ⟨_, rfl⟩))
    (fun c change r => .of (c.announce_ends hdone hd change r)) c v).2

/-- Setting a root ends as the watches do. -/
theorem CellId.setRoot_ends (hdone : ∀ ctx, allowed ctx .done)
    (hd : ∀ w e, Ends allowed (deliver w e)) (c : CellId) (v : Value) :
    Ends allowed (c.setRoot deliver v) :=
  ((Ends.sequences hdone).setRoot (fun _ _ => .of (.value hdone fun _ _ => ⟨_, rfl⟩))
    (fun c change r => .of (c.announce_ends hdone hd change r)) c v).2

/-- A frame is closed or rejected, and the watches are told of no rejection. -/
theorem CellId.pop_ends (hdone : ∀ ctx, allowed ctx .done)
    (hd : ∀ w e, Ends allowed (deliver w e)) (c : CellId) (f : FrameId) :
    Ends allowed (c.pop deliver f) := by
  intro ctx w
  cases hp : w.store.pop ctx.thread c f with
  | error fault =>
    rw [CellId.pop_of_error hp]
    exact hdone ctx
  | ok result =>
    obtain ⟨r, s⟩ := result
    rw [CellId.pop_of_ok hp]
    exact Ends.bind (c.announce_ends hdone hd .restore r) (fun _ => .pure hdone _) ctx _

/-- Asking for the policy ends with it. -/
theorem Settings.current_ends (hdone : ∀ ctx, allowed ctx .done) :
    Ends allowed (Settings.current : Act η ε ReleasePolicy) :=
  ((Ends.sequences hdone).current fun _ => .of (.value hdone fun _ _ => ⟨_, rfl⟩)).2

end Operations

namespace Guard

variable {η ε : Type} {deliver : Delivery η ε} {allowed : Context → Ending → Prop}

/-- Releasing a guard ends as the watches do. -/
theorem release_ends (hdone : ∀ ctx, allowed ctx .done)
    (hd : ∀ w e, Ends allowed (deliver w e)) (g : Guard) : Ends allowed (g.release deliver) :=
  ((Ends.sequences hdone).release (fun _ => .of (.value hdone fun _ _ => ⟨_, rfl⟩))
    (.of (g.cell.pop_ends hdone hd g.frame))).2

/-- Giving up a guard ends with a value. -/
theorem abandon_ends (hdone : ∀ ctx, allowed ctx .done) (g : Guard) :
    Ends allowed (g.abandon : Act η ε Guard) :=
  ((Ends.sequences hdone).abandon (fun _ => .of (.value hdone fun _ _ => ⟨_, rfl⟩)) g).2

/-- Guards are closed in an orderly way if the watches are orderly. -/
theorem closes_ends (hallowed : ∀ ctx e, e.Orderly ctx → allowed ctx e)
    (hd : ∀ w e, Ends allowed (deliver w e)) :
    Act.Closes (Act.Same fun {α} (m : Act η ε α) => Ends allowed m)
      (Act.Same fun {α} (m : Act η ε α) => Ends Ending.Orderly m) deliver deliver
      fun _ _ => True where
  toComposes := Ends.composes hallowed
  message _ := .of (.value (fun ctx => hallowed ctx .done (.inl rfl)) fun _ _ => ⟨_, rfl⟩)
  current := .of (Settings.current_ends fun ctx => hallowed ctx .done (.inl rfl))
  pop _ := .of (CellId.pop_ends (fun ctx => hallowed ctx .done (.inl rfl)) hd _ _)

/-- Dropping a guard is safe in a cleanup if the watches are. -/
theorem drop_orderly (hd : ∀ w e, Ends Ending.Orderly (deliver w e)) (g : Guard) :
    Ends Ending.Orderly (g.drop deliver) :=
  ((closes_ends (fun _ _ h => h) hd).drop trivial).2

end Guard

/-! ## What a release does to the store -/

/-- Watches that leave the store as it is. -/
def Delivery.Still {η ε : Type} (deliver : Delivery η ε) : Prop :=
  ∀ w e ctx v, (deliver w e ctx v).2.store = v.store

/-- Watches that only observe. They may note what they see and keep it, and they may panic on a
thread that is not unwinding. -/
structure Delivery.Observes {η ε : Type} (deliver : Delivery η ε) : Prop where
  store : ∀ w e ctx v, (deliver w e ctx v).2.store = v.store
  orderly : ∀ w e, Ends Ending.Orderly (deliver w e)

/-- The store after a frame is closed if it can be. -/
def Store.close (s : Store) (t : ThreadId) (c : CellId) (f : FrameId) : Store :=
  match s.pop t c f with
  | .error _ => s
  | .ok (_, s') => s'

/-- The message about a release that was or was not rejected. -/
def Guard.report (s : Store) (g : Guard) : Option Fault → LogMessage
  | some fault => ⟨.error, source, fault.message, [("frame", g.frame.display)]⟩
  | none => ⟨.debug, source, "released",
      [("symbol", (s.symbol g.cell).display), ("frame", g.frame.display)]⟩

/-- The world after a release was reported. -/
def World.reported {η ε : Type} (w : World η ε) (g : Guard) (result : Option Fault) : World η ε :=
  { w with journal := .logged (g.report w.store result) :: w.journal }

/-- Two worlds have the same store. -/
def SameStore {η ε : Type} (w w' : World η ε) : Prop :=
  w'.store = w.store

/-- Having the same store is a plain relation. -/
theorem SameStore.plain {η ε : Type} : Plain (@SameStore η ε) where
  refl _ := rfl
  trans h h' := Eq.trans h' h
  settings _ _ := rfl
  note _ _ _ := rfl

section Stores

variable {η ε : Type} {deliver : Delivery η ε}

/-- A policy that is decided already is the answer, and nothing is logged. -/
theorem Settings.current_of_active {ctx : Context} {w : World η ε} {policy : ReleasePolicy}
    (h : w.settings.active = some policy) : Settings.current ctx w = (.done policy, w) := by
  unfold Settings.current
  simp only [bind, Act.bind, Act.settings, h]
  rfl

/-- The policy of a process, or the one that it would have if it was decided now. -/
def Settings.policy (s : Settings) : ReleasePolicy :=
  s.active.getD (ReleasePolicy.ofVariable s.content).1

/-- The warnings that are logged when the policy of a process is asked for. -/
def Settings.warnings (s : Settings) : List LogMessage :=
  match s.active with
  | some _ => []
  | none => (ReleasePolicy.ofVariable s.content).2

/-- The world after the policy was asked for, which decides it. -/
def World.afterPolicy (w : World η ε) : World η ε :=
  { w with
    settings := { w.settings with active := some w.settings.policy }
    journal := (w.settings.warnings.map .logged).reverse ++ w.journal }

/-- Deciding the policy logs warnings only. -/
theorem Settings.warnings_level (s : Settings) : ∀ message ∈ s.warnings, message.level = .warn := by
  obtain ⟨content, _ | _⟩ := s
  · unfold warnings ReleasePolicy.ofVariable
    cases content with
    | none => exact nofun
    | some bytes =>
      dsimp only
      split
      · exact nofun
      · intro message hmessage
        rw [List.mem_singleton.1 hmessage]
        rfl
  · exact nofun

/-- Messages are logged one after another. -/
theorem Act.forM_log_run (messages : List LogMessage) (ctx : Context) (w : World η ε) :
    messages.forM Act.log ctx w =
      (.done (), { w with journal := (messages.map .logged).reverse ++ w.journal }) := by
  induction messages generalizing w with
  | nil => rfl
  | cons message rest ih =>
    rw [List.map_cons, List.reverse_cons, List.append_assoc]
    exact ih { w with journal := .logged message :: w.journal }

/-- Asking for the policy decides it and logs the warnings about it. -/
theorem Settings.current_decides (ctx : Context) (w : World η ε) :
    Settings.current ctx w = (.done w.settings.policy, w.afterPolicy) := by
  obtain ⟨s, ⟨content, active⟩, journal, host⟩ := w
  cases active with
  | some policy => exact Settings.current_of_active rfl
  | none =>
    have hlog := Act.forM_log_run (ReleasePolicy.ofVariable content).2 ctx
      (⟨s, ⟨content, none⟩, journal, host⟩ : World η ε)
    unfold Settings.current Settings.fromVariable
    simp only [bind, Act.bind, Act.settings, hlog]
    rfl

/-- Asking for the policy ends with one and leaves the store as it is. -/
theorem Settings.current_run (ctx : Context) (w : World η ε) :
    ∃ policy w', Settings.current ctx w = (.done policy, w') ∧ w'.store = w.store :=
  ⟨_, _, current_decides ctx w, rfl⟩

/-- Setting a value changes the store as such, whatever the watches do with it. -/
theorem CellId.write_store (hd : deliver.Still) (c : CellId) (v : Value) (ctx : Context)
    (w : World η ε) :
    (c.write deliver v ctx w).2.store = (w.store.write ctx.thread c v).2 :=
  c.announce_leads SameStore.plain hd .write (w.store.write ctx.thread c v).1 ctx _

namespace Guard

/-- A release of an open guard whose frame cannot be closed only logs the fault. -/
theorem release_of_error {g : Guard} {ctx : Context} {w : World η ε} {fault : Fault}
    (hg : g.state = .acquired) (h : w.store.pop ctx.thread g.cell g.frame = .error fault) :
    g.release deliver ctx w = (.done (.error fault), w.reported g (some fault)) := by
  obtain ⟨c, f, state⟩ := g
  cases hg
  have hpop : c.pop deliver f ctx w = _ := CellId.pop_of_error h
  unfold release
  simp only [bind, Act.bind, Act.store, hpop]
  rfl

/-- A release of an open guard whose frame can be closed closes it and tells the watches, and logs
the release if none of them panics. -/
theorem release_of_ok {g : Guard} {ctx : Context} {w : World η ε} {r : Replaced} {s : Store}
    (hg : g.state = .acquired) (h : w.store.pop ctx.thread g.cell g.frame = .ok (r, s)) :
    g.release deliver ctx w =
      (do g.cell.announce deliver .restore r
          Act.log (g.report w.store none)
          pure (.ok { g with state := .released }) : Act η ε (Except Fault Guard)) ctx
        (w.closed ctx.thread g.cell g.frame s) := by
  obtain ⟨c, f, state⟩ := g
  cases hg
  have hpop : c.pop deliver f ctx w = _ := CellId.pop_of_ok h
  unfold release
  simp only [bind, Act.bind, Act.store, hpop]
  generalize c.announce deliver .restore r ctx (w.closed ctx.thread c f s) = result
  obtain ⟨a | message | _, w'⟩ := result <;> rfl

/-- What a release of an open guard does to the store is what closing its frame does. -/
theorem release_store (hd : deliver.Still) {g : Guard} (hg : g.state = .acquired) (ctx : Context)
    (w : World η ε) :
    (g.release deliver ctx w).2.store = w.store.close ctx.thread g.cell g.frame := by
  have hP : Calm (@SameStore η ε) := SameStore.plain.calm
  unfold Store.close
  cases hp : w.store.pop ctx.thread g.cell g.frame with
  | error fault =>
    rw [release_of_error hg hp]
    rfl
  | ok result =>
    obtain ⟨r, s⟩ := result
    rw [release_of_ok hg hp]
    refine Leads.bind hP (g.cell.announce_leads SameStore.plain hd .restore r) (fun _ => ?_) ctx _
    exact .bind hP (.log hP _) fun _ => .pure hP _

/-- Dropping a guard that is not acquired does nothing. -/
theorem drop_of_not_acquired {g : Guard} (hg : g.state ≠ .acquired) (ctx : Context)
    (w : World η ε) : g.drop deliver ctx w = (.done (), w) := by
  unfold drop
  cases hstate : g.state with
  | acquired => exact absurd hstate hg
  | released | abandoned => rfl

/-- What the drop of an open guard does to the store is what closing its frame does. -/
theorem drop_store (hd : deliver.Still) {g : Guard} (hg : g.state = .acquired) (ctx : Context)
    (w : World η ε) :
    (g.drop deliver ctx w).2.store = w.store.close ctx.thread g.cell g.frame := by
  have hP : Calm (@SameStore η ε) := SameStore.plain.calm
  obtain ⟨policy, w', hpolicy, hstore⟩ := Settings.current_run ctx w
  unfold drop
  rw [hg]
  dsimp only
  rw [Act.bind_of_done hpolicy, ← hstore, ← release_store hd hg]
  refine Leads.bind_right hP _ (fun result => ?_) ctx _
  cases result with
  | ok _ => exact .pure hP _
  | error fault => exact failRelease_leads hP policy fault

end Guard

/-- An override whose frame can be closed is not rejected. -/
theorem Overrides.finish_accepted {g : Guard} (hg : g.state = .acquired) {ctx : Context}
    {w v : World η ε} {r : Replaced} {s : Store}
    (hpop : w.store.pop ctx.thread g.cell g.frame = .ok (r, s)) {fault : Option Fault}
    (h : finish deliver g ctx w = (.done fault, v)) : fault = none := by
  obtain ⟨result, v₁, hended, hrest⟩ := Act.done_of_bind h
  have hrelease := Act.done_of_onUnwind hended
  rw [Guard.release_of_ok hg hpop] at hrelease
  obtain ⟨-, v₂, -, hlog⟩ := Act.done_of_bind hrelease
  obtain ⟨-, v₃, -, hvalue⟩ := Act.done_of_bind hlog
  cases hvalue
  cases hrest
  rfl

/-- Ending an override closes its frame, or tries that twice. -/
theorem Overrides.finish_store (hd : deliver.Still) {g : Guard} (hg : g.state = .acquired)
    (ctx : Context) (w : World η ε) :
    (finish deliver g ctx w).2.store = w.store.close ctx.thread g.cell g.frame ∨
      (finish deliver g ctx w).2.store =
        (w.store.close ctx.thread g.cell g.frame).close ctx.thread g.cell g.frame := by
  have hP : Calm (@SameStore η ε) := SameStore.plain.calm
  have htail : (finish deliver g ctx w).2.store =
      (Act.onUnwind (g.release deliver) (g.drop deliver) ctx w).2.store := by
    unfold finish
    refine Leads.bind_right hP _ (fun result => ?_) ctx w
    cases result with
    | ok _ => exact .pure hP _
    | error fault => exact .bind hP (g.abandon_leads hP) fun _ => .pure hP _
  have hrelease := Guard.release_store hd hg ctx w
  rw [htail, ← hrelease]
  unfold Act.onUnwind
  generalize g.release deliver ctx w = result
  obtain ⟨a | message | _, w'⟩ := result
  · exact .inl rfl
  -- The release closed the frame before it panicked, and still the guard is dropped as acquired.
  · have hdrop := Guard.drop_store hd hg { ctx with unwinding := true } w'
    dsimp only
    generalize g.drop deliver { ctx with unwinding := true } w' = result at hdrop ⊢
    obtain ⟨_ | _ | _, w''⟩ := result <;> exact .inr hdrop
  · exact .inl rfl

/-- Watches that only observe do not end the run. -/
theorem Delivery.Observes.survives (hd : deliver.Observes) (w : WatchId) (e : Event) :
    Ends Ending.Survives (deliver w e) :=
  fun ctx v => (hd.orderly w e ctx v).survives

/-- Ending an override does not end the run. -/
theorem Overrides.finish_survives (hd : deliver.Observes) (g : Guard) :
    Ends Ending.Survives (finish deliver g) :=
  ((Guard.closes_ends (fun _ _ h => h.survives) hd.survives).finish trivial
    (.of (g.drop_orderly hd.orderly))).2

end Stores

end ScopedBinding
