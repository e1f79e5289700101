import ScopedBinding.Proofs.Closing

/-!
# Programs that are not cut off

An alteration waits for the lock of its variable, and waits for ever if the lock is with an alteration
that it is itself a part of. A program that alters no variable inside an alteration of the same one
(`Program.Apart`) comes to an end, with a value or with a panic, if its watches only observe and its
results own no guard (`Program.passes`).

By `Act.Passes` an action is followed from worlds in which only some locks are taken to worlds in which
no other ones are.
-/

set_option autoImplicit false

namespace ScopedBinding

open Act (Leads Ends)

/-- Between two worlds no lock was taken and none was given back. -/
def SameLocks {η ε : Type} (w w' : World η ε) : Prop :=
  ∀ c, w'.store.altering c = w.store.altering c

/-- Keeping all locks can be put together. -/
theorem SameLocks.calm {η ε : Type} : Calm (@SameLocks η ε) where
  refl _ _ := rfl
  trans h h' c := (h' c).trans (h c)
  settings _ _ _ := rfl
  logged _ _ _ := rfl

/-- All locks that are taken are among some. -/
def Store.TakenAmong (s : Store) (held : List CellId) : Prop :=
  ∀ c, s.altering c = true → c ∈ held

namespace Store.TakenAmong

variable {s : Store} {held : List CellId}

/-- No lock is taken if all are free. -/
theorem of_free (h : ∀ c, s.altering c = false) : s.TakenAmong held := fun c hc => by
  rw [h c] at hc
  cases hc

/-- Taking a lock adds it to those that are taken. -/
theorem lock (h : s.TakenAmong held) (c : CellId) : (s.lock c).TakenAmong (c :: held) := by
  intro d hd
  by_cases hdc : d = c
  · exact hdc ▸ List.mem_cons_self
  · rw [altering_lock_of_ne s hdc] at hd
    exact List.mem_cons_of_mem c (h d hd)

/-- Giving a lock back removes it from those that are taken. -/
theorem unlock {c : CellId} (h : s.TakenAmong (c :: held)) : (s.unlock c).TakenAmong held := by
  intro d hd
  by_cases hdc : d = c
  · rw [hdc, altering_unlock] at hd
    cases hd
  · rw [altering_unlock_of_ne s hdc] at hd
    exact (List.mem_cons.1 (h d hd)).resolve_left hdc

/-- A lock that is not among those that may be taken is free. -/
theorem free (h : s.TakenAmong held) {c : CellId} (hc : c ∉ held) : s.altering c = false :=
  Bool.eq_false_iff.2 fun htaken => hc (h c htaken)

end Store.TakenAmong

/-- From a world in which only some locks are taken, every run ends in a way that is allowed, and in such
a world. -/
def Act.Passes {η ε α : Type} (held : List CellId) (allowed : Context → Ending → Prop)
    (m : Act η ε α) : Prop :=
  ∀ ctx w, w.store.TakenAmong held →
    allowed ctx (m ctx w).1.ending ∧ (m ctx w).2.store.TakenAmong held

namespace Act.Passes

variable {η ε α : Type} {held : List CellId} {allowed : Context → Ending → Prop}
  {deliver : Delivery η ε}

/-- An action that leaves all locks as they are. -/
theorem of_ends {m : Act η ε α} (h : Ends allowed m) (hlocks : Leads SameLocks m) :
    Passes held allowed m := by
  intro ctx w hw
  refine ⟨h ctx w, fun c hc => hw c ?_⟩
  rw [← hlocks ctx w c]
  exact hc

/-- How a run ends follows from the parts of an action. -/
theorem composes (hallowed : ∀ ctx e, e.Orderly ctx → allowed ctx e) :
    Composes (Same fun {α} (m : Act η ε α) => Passes held allowed m)
      (Same fun {α} (m : Act η ε α) => Passes held Ending.Orderly m) := by
  let Q (allowed : Context → Ending → Prop) (ctx : Context) (w : World η ε) (e : Ending)
      (w' : World η ε) : Prop :=
    w.store.TakenAmong held → allowed ctx e ∧ w'.store.TakenAmong held
  have hdone := fun ctx => hallowed ctx .done (.inl rfl)
  have hstill : ∀ ctx w, Q allowed ctx w .done w := fun ctx _ hw => ⟨hdone ctx, hw⟩
  refine (Runs.sequences (Q := Q allowed) hstill (fun ctx _ _ hw => ⟨hdone ctx, hw⟩)
    fun h h' hw => h' (h hw).2).composes (D := Q Ending.Orderly) hstill
    (fun ctx _ h hw => ⟨hallowed ctx _ (.inr ⟨rfl, h⟩), hw⟩) ?_
  intro ctx w w' e w'' h h' hw
  obtain ⟨hpanicked, hw'⟩ := h hw
  obtain ⟨hcleaned, hw''⟩ := h' hw'
  rw [hcleaned.done_of_unwinding rfl]
  exact ⟨hpanicked, hw''⟩

end Act.Passes

open Act (Passes)

section Scopes

variable {η ε α β : Type} {held : List CellId} {allowed : Context → Ending → Prop}
  {deliver : Delivery η ε}

/-- Watches that only observe leave all locks as they are. -/
theorem Delivery.Observes.sameLocks (hd : deliver.Observes) (w : WatchId) (e : Event) :
    Leads SameLocks (deliver w e) := by
  intro ctx v c
  rw [hd.store]

/-- Setting a variable leaves all locks as they are. -/
theorem CellId.write_sameLocks (hd : deliver.Observes) (c : CellId) (v : Value) :
    Leads SameLocks (c.write deliver v) :=
  c.write_leads SameLocks.calm hd.sameLocks v fun w t d => w.store.altering_write t c d v

/-- Setting a root leaves all locks as they are. -/
theorem CellId.setRoot_sameLocks (hd : deliver.Observes) (c : CellId) (v : Value) :
    Leads SameLocks (c.setRoot deliver v) :=
  c.setRoot_leads SameLocks.calm hd.sameLocks v fun w _ d => w.store.altering_setRoot c d v

/-- Closing a frame leaves all locks as they are. -/
theorem CellId.pop_sameLocks (hd : deliver.Observes) (c : CellId) (f : FrameId) :
    Leads SameLocks (c.pop deliver f) :=
  c.pop_leads SameLocks.calm hd.sameLocks f fun _ _ _ _ h d => Store.altering_pop h d

/-- Scopes pass if the watches only observe. -/
theorem Act.Passes.opens (hallowed : ∀ ctx e, e.Orderly ctx → allowed ctx e) (hd : deliver.Observes) :
    Act.Opens (Act.Same fun {α} (m : Act η ε α) => Passes held allowed m)
      (Act.Same fun {α} (m : Act η ε α) => Passes held Ending.Orderly m) deliver deliver where
  toComposes := Passes.composes hallowed
  message message := .of (.of_ends (.value (fun ctx => hallowed ctx _ (.inl rfl)) fun _ _ => ⟨_, rfl⟩)
    (.log SameLocks.calm message))
  current := .of (.of_ends (Settings.current_ends fun ctx => hallowed ctx _ (.inl rfl))
    (Settings.current_leads SameLocks.calm))
  pop {c f} _ := .of (.of_ends (c.pop_ends (fun ctx => hallowed ctx _ (.inl rfl))
    (fun k e ctx v => hallowed ctx _ (hd.orderly k e ctx v)) f) (c.pop_sameLocks hd f))
  acquire c := .of (.of_ends (.value (fun ctx => hallowed ctx _ (.inl rfl)) fun _ _ => ⟨_, rfl⟩)
    fun ctx w d => w.store.altering_push ctx.thread c d)
  write c v := .of (.of_ends (c.write_ends (fun ctx => hallowed ctx _ (.inl rfl))
    (fun k e ctx v => hallowed ctx _ (hd.orderly k e ctx v)) v) (c.write_sameLocks hd v))
  cleanup g := .of (.of_ends (g.drop_orderly hd.orderly)
    (g.drop_leads SameLocks.calm (g.cell.pop_sameLocks hd g.frame)))

/-- An alteration passes if its lock is free and its function passes with it taken. -/
theorem CellId.alterRoot_passes (hd : deliver.Observes) {c : CellId} (hc : c ∉ held)
    {f : Value → Act η ε Value} (hf : ∀ v, Passes (c :: held) Ending.Survives (f v)) :
    Passes held Ending.Survives (c.alterRoot deliver f) := by
  intro ctx w hw
  have hfree := hw.free hc
  obtain ⟨hend, htaken⟩ := hf (w.store.root c) ctx (w.locked c) (hw.lock c)
  cases hrun : f (w.store.root c) ctx (w.locked c) with
  | mk o u =>
  rw [hrun] at hend htaken
  cases o with
  | done x =>
    rw [CellId.alterRoot_of_done hfree hrun]
    have hset : Passes held Ending.Survives (do c.setRoot deliver x; pure x) := by
      refine .of_ends ?_ ?_
      · exact .bind (c.setRoot_ends Ending.done_survives hd.survives x)
          fun _ => .pure Ending.done_survives x
      · exact .bind SameLocks.calm (c.setRoot_sameLocks hd x) fun _ => .pure SameLocks.calm x
    exact hset ctx (u.unlocked c) htaken.unlock
  | panicked message =>
    rw [CellId.alterRoot_of_panicked hfree hrun]
    exact ⟨nofun, htaken.unlock⟩
  | halted => exact absurd rfl hend

/-- An action whose panic is stopped. -/
theorem Act.Passes.attempt {m : Act η ε α} (hm : Passes held Ending.Survives m) :
    Passes held Ending.Survives (Act.attempt m) := by
  intro ctx w hw
  obtain ⟨hend, htaken⟩ := hm ctx w hw
  unfold Act.attempt
  generalize m ctx w = result at hend htaken ⊢
  obtain ⟨a | message | _, w'⟩ := result
  · exact ⟨nofun, htaken⟩
  · exact ⟨nofun, htaken⟩
  · exact absurd rfl hend

/-- Work on another thread. -/
theorem Act.Passes.onThread {m : Act η ε α} (t : ThreadId) (hm : Passes held Ending.Survives m) :
    Passes held Ending.Survives (Act.onThread t m) :=
  fun _ w hw => hm ⟨t, false⟩ w hw

end Scopes

/-! ## Scoped programs -/

/-- Calls that open and close no frame on their own, and do not cut the run off. -/
def Call.Scoped {υ ε α : Type} : Call υ ε α → Prop
  | .halt => False
  | .push _ => False
  | .pop _ _ => False
  | .acquire _ => False
  | .release _ => False
  | .drop _ => False
  | .forget _ => False
  | _ => True

/-- Programs that open frames only by overriding variables and by holding guards around a body. -/
def Program.Scoped {υ ε α : Type} (p : Program υ ε α) : Prop :=
  p.Uses Call.Scoped False

/-- Programs that alter none of some variables and no variable inside an alteration of the same one, and
whose results own no guard. -/
def Program.Apart {υ ε : Type} : {α : Type} → List CellId → Program υ ε α → Prop
  | _, _, .call _ => True
  | _, held, .bind first next => first.Apart held ∧ ∀ a, (next a).Apart held
  | _, held, .attempt body => body.Apart held
  | _, held, .onUnwind body cleanup => body.Apart held ∧ cleanup.Apart held
  | _, held, .onThread _ body => body.Apart held
  | _, held, .alterRoot c f => c ∉ held ∧ ∀ v, (f v).Apart (c :: held)
  | _, held, .hold _ body => body.Apart held
  | _, held, .override discard _ body => discard = .skip ∧ body.Apart held
  | _, held, .tryOverride discard _ _ body => discard = .skip ∧ body.Apart held
  | _, held, .convey discard _ body => discard = .skip ∧ body.Apart held

section Programs

variable {υ ε : Type} {held : List CellId} {deliver : Delivery (Hands υ) ε}

/-- The calls of scoped programs pass. -/
theorem Call.scoped_passes (hd : deliver.Observes) {α : Type} {op : Call υ ε α} (h : op.Scoped) :
    Passes held Ending.Survives (op.act deliver) := by
  have hvalue : ∀ {α : Type} {m : Act (Hands υ) ε α}, (∀ ctx w, ∃ a, (m ctx w).1 = .done a) →
      Leads SameLocks m → Passes held Ending.Survives m :=
    fun hm hlocks => .of_ends (.value Ending.done_survives hm) hlocks
  cases op with
  | look see => exact hvalue (fun _ _ => ⟨_, rfl⟩) fun _ _ _ => rfl
  | own change => exact hvalue (fun _ _ => ⟨_, rfl⟩) fun _ _ _ => rfl
  | panic message => exact .of_ends (fun _ _ => nofun) fun _ _ _ => rfl
  | write c v =>
    exact .of_ends (c.write_ends Ending.done_survives hd.survives v) (c.write_sameLocks hd v)
  | setRoot c v =>
    exact .of_ends (c.setRoot_ends Ending.done_survives hd.survives v) (c.setRoot_sameLocks hd v)
  | issueFrame => exact hvalue (fun _ _ => ⟨_, rfl⟩) fun _ _ _ => rfl
  | watch c key k =>
    exact hvalue (fun _ _ => ⟨_, rfl⟩) fun _ w d =>
      w.store.altering_updateCell_of_keeps c d fun _ => rfl
  | unwatch c key =>
    exact hvalue (fun _ _ => ⟨_, rfl⟩) fun _ w d =>
      w.store.altering_updateCell_of_keeps c d fun _ => rfl
  | capture cells => exact hvalue (fun _ _ => ⟨_, rfl⟩) (Snapshot.capture_leads SameLocks.calm cells)
  | policy =>
    exact .of_ends (Settings.current_ends Ending.done_survives)
      (Settings.current_leads SameLocks.calm)
  | policyFromVariable =>
    exact .of_ends (Ends.sequences Ending.done_survives).fromVariable.2
      (Settings.fromVariable_leads SameLocks.calm)
  | install decided =>
    refine .of_ends ?_ (Settings.install_leads SameLocks.calm decided)
    exact ((Ends.sequences Ending.done_survives).install
      (fun _ => .of (.value Ending.done_survives fun _ _ => ⟨_, rfl⟩)) decided).2
  | setVariable content =>
    exact hvalue (fun _ _ => ⟨_, rfl⟩) (Settings.setVariable_leads SameLocks.calm content)
  | halt | push | pop | acquire | release | drop | forget => exact h.elim

/-- A scoped program that waits for no lock of its own is not cut off, whatever it panics with. -/
theorem Program.passes (hd : deliver.Observes) {α : Type} (p : Program υ ε α) (hp : p.Scoped)
    (hapart : p.Apart held) : Passes held Ending.Survives (p.act deliver) := by
  have hopens (held : List CellId) :
      Act.Opens (Act.Same fun {α} (m : Act (Hands υ) ε α) => Passes held Ending.Survives m)
        (Act.Same fun {α} (m : Act (Hands υ) ε α) => Passes held Ending.Orderly m) deliver deliver :=
    Passes.opens (fun _ _ h => h.survives) hd
  have hskip {α : Type} (held : List CellId) (a : α) :
      Passes held Ending.Survives ((Program.skip a).act deliver : Act (Hands υ) ε Unit) :=
    ((hopens held).pure ()).2
  have hskipped {α : Type} (held : List CellId) (a : α) :
      Passes held Ending.Orderly ((Program.skip a).act deliver : Act (Hands υ) ε Unit) :=
    ((Passes.composes fun _ _ h => h).pure ()).2
  induction p generalizing held with
  | call op => exact op.scoped_passes hd hp
  | bind first next ihFirst ihNext =>
    exact ((hopens held).bind (.of (ihFirst hp.1 hapart.1))
      fun a => .of (ihNext a (hp.2 a) (hapart.2 a))).2
  | attempt body ih => exact (ih hp hapart).attempt
  | onUnwind body cleanup => exact hp.1.elim
  | onThread t body ih => exact (ih hp hapart).attempt.onThread t
  | alterRoot c f ih => exact c.alterRoot_passes hd hapart.1 fun v => ih v (hp v) (hapart.2 v)
  | hold c body ih => exact ((hopens held).hold c (.of (ih hp hapart))).2
  | override discard set body ihDiscard ih =>
    obtain rfl := hapart.1
    exact ((hopens held).run (fun a => .of (hskip held a))
      ((hopens held).enter (fun a => .of (hskipped held a)) (.of (ih hp.2 hapart.2)) set)).2
  | tryOverride discard ofFault set body ihDiscard ih =>
    obtain rfl := hapart.1
    exact ((hopens held).tryRun (hopens held).current (fun a => .of (hskip held a))
      (fun a => .of (hskipped held a)) ofFault
      ((hopens held).enter (fun a => .of (hskipped held a)) (.of (ih hp.2 hapart.2)) set)).2
  | convey discard snapshot body ihDiscard ih =>
    obtain rfl := hapart.1
    exact ((hopens held).run (fun a => .of (hskip held a))
      ((hopens held).enter (fun a => .of (hskipped held a)) (.of (ih hp.2 hapart.2))
        snapshot.bindings)).2

end Programs

end ScopedBinding
