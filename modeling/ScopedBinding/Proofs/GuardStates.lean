import ScopedBinding.Proofs.Agreement
import ScopedBinding.Proofs.Closing

/-!
# The states of guards

What a release of a guard comes to, in a run where frames are closed only through guards. A release
that returns leaves a guard whose state tells whether its frame is open. A release that is cut short
by the panic of a watch leaves a guard that is acquired though its frame is closed, and every later
release and drop of that guard goes wrong (`guard_agrees_iff_not_interrupted`). The agreement of all
other guards is kept by every step, so it holds along the whole run (`Program.agreeing`).
-/

set_option autoImplicit false

namespace ScopedBinding

open Act (Leads)

namespace Guard

variable {η ε : Type} {deliver : Delivery η ε} {ctx : Context} {w : World η ε}

/-- A second release is rejected. -/
theorem release_of_released {g : Guard} (hg : g.state = .released) :
    g.release deliver ctx w =
      (.done (.error (.doubleRelease (w.store.symbol g.cell).display)),
        w.reported g (some (.doubleRelease (w.store.symbol g.cell).display))) := by
  obtain ⟨c, f, state⟩ := g
  cases hg
  rfl

/-- The drop of a released guard does nothing. -/
theorem drop_of_released {g : Guard} (hg : g.state = .released) :
    g.drop deliver ctx w = (.done (), w) := by
  unfold drop
  rw [hg]
  rfl

/-- A release after the frame was given up is rejected. -/
theorem release_of_abandoned {g : Guard} (hg : g.state = .abandoned) :
    g.release deliver ctx w =
      (.done (.error (.abandoned (w.store.symbol g.cell).display g.frame)),
        w.reported g (some (.abandoned (w.store.symbol g.cell).display g.frame))) := by
  obtain ⟨c, f, state⟩ := g
  cases hg
  rfl

/-- Dropping an open guard whose frame cannot be closed decides the policy if it was not before, and
logs the fault. Then it panics if the policy says so and the thread is not unwinding. -/
theorem drop_refused {g : Guard} {fault : Fault} (hg : g.state = .acquired)
    (h : w.store.pop ctx.thread g.cell g.frame = .error fault) :
    g.drop deliver ctx w =
      (if w.settings.policy = .panic ∧ ctx.unwinding = false then .panicked fault.message
        else .done (), w.afterPolicy.reported g (some fault)) := by
  have hrelease : g.release deliver ctx w.afterPolicy = _ := release_of_error hg h
  unfold drop
  rw [hg]
  dsimp only
  rw [Act.bind_of_done (Settings.current_decides ctx w), Act.bind_of_done hrelease]
  exact failRelease_run _ fault ctx _

/-- The drop of a guard whose frame cannot be closed reports that, and panics if the policy says so. -/
theorem drop_of_error {g : Guard} {fault : Fault} (hg : g.state = .acquired)
    (h : w.store.pop ctx.thread g.cell g.frame = .error fault) :
    ∃ policy w', Settings.current ctx w = (.done policy, w') ∧ g.drop deliver ctx w =
      (if policy = .panic ∧ ctx.unwinding = false then .panicked fault.message else .done (),
        w'.reported g (some fault)) :=
  ⟨_, _, Settings.current_decides ctx w, drop_refused hg h⟩

/-- A release is refused and only logged, or the guard is acquired and its frame can be closed. -/
theorem release_cases (deliver : Delivery η ε) (g : Guard) (ctx : Context) (w : World η ε) :
    (∃ fault message, g.release deliver ctx w =
      (.done (.error fault), { w with journal := .logged message :: w.journal })) ∨
    (g.state = .acquired ∧ ∃ r s, w.store.pop ctx.thread g.cell g.frame = .ok (r, s)) := by
  cases hstate : g.state with
  | acquired =>
    cases hpop : w.store.pop ctx.thread g.cell g.frame with
    | error fault => exact .inl ⟨_, _, release_of_error hstate hpop⟩
    | ok result => exact .inr ⟨rfl, result.1, result.2, rfl⟩
  | released => exact .inl ⟨_, _, release_of_released hstate⟩
  | abandoned => exact .inl ⟨_, _, release_of_abandoned hstate⟩

/-- A release whose frame can be closed is not rejected. -/
theorem release_not_refused {g : Guard} (hg : g.state = .acquired) {r : Replaced} {s : Store}
    (hpop : w.store.pop ctx.thread g.cell g.frame = .ok (r, s)) (fault : Fault) :
    (g.release deliver ctx w).1 ≠ .done (.error fault) := by
  intro ho
  rw [release_of_ok hg hpop] at ho
  obtain ⟨g', hg'⟩ : ∃ g', (.error fault : Except Fault Guard) = .ok g' :=
    Act.Yields.bind (Q := fun result => ∃ g', result = .ok g')
      (fun _ => .bind fun _ => .pure ⟨_, rfl⟩) ctx _ _ ho
  cases hg'

end Guard

section Releases

variable {υ ε : Type} {deliver : Delivery (Hands υ) ε} {w : World (Hands υ) ε}

/-- What a release comes to, of a guard that is not in the program's hands meanwhile. The guards that
are stay in agreement, and do not get the frame of this one. If the release is refused the frame is
open or not as before, and otherwise it was open and is not any more. -/
structure Guard.Settled (g : Guard) (t : ThreadId) (w : World (Hands υ) ε)
    (o : Outcome (Except Fault Guard)) (w' : World (Hands υ) ε) : Prop where
  agreement : Agreement w'
  outOfReach : OutOfReach [g.frame] w'
  refused : ∀ fault, o = .done (.error fault) →
    w'.store.isOpen t g.cell g.frame = w.store.isOpen t g.cell g.frame
  released : ∀ g', o = .done (.ok g') → g' = { g with state := .released } ∧
    w.store.isOpen t g.cell g.frame = true ∧ w'.store.isOpen t g.cell g.frame = false
  cutShort : ∀ message, o = .panicked message → g.state = .acquired ∧
    w.store.isOpen t g.cell g.frame = true ∧ w'.store.isOpen t g.cell g.frame = false

/-- A release that closes the frame. The watches cannot reach the guard, so they find the guards in
the program's hands in agreement and leave the frame closed. -/
theorem Guard.settled_of_pop (hd : ∀ w e, Leads Agreeing (deliver w e)) (hw : Agreement w)
    {g : Guard} (hf : OutOfReach [g.frame] w) (hstate : g.state = .acquired) {ctx : Context}
    {r : Replaced} {s : Store} (hpop : w.store.pop ctx.thread g.cell g.frame = .ok (r, s))
    (hn : (g.release deliver ctx w).2.store.framesIssued ≤ 2 ^ 64) :
    g.Settled ctx.thread w (g.release deliver ctx w).1 (g.release deliver ctx w).2 := by
  have hR : Plain (@Agreeing υ ε) := Agreeing.revising.toPlain
  obtain ⟨hclosed, hfc⟩ := hw.closed hf hpop
  have hopen := Store.isOpen_of_pop hpop
  have hgone := Store.not_isOpen_pop (hw.nodup _ _) hpop
  have hrelease : g.release deliver ctx w = _ := release_of_ok hstate hpop
  have hafter : Agreeing (w.closed ctx.thread g.cell g.frame s) (g.release deliver ctx w).2 := by
    rw [hrelease]
    refine Leads.bind hR (g.cell.announce_leads hR hd .restore r) (fun _ => ?_) ctx _
    exact .bind hR (.log hR _) fun _ => .pure hR _
  -- After the closing only the watches run, and the frame is out of their reach.
  obtain ⟨hf', hout⟩ := (hafter.spares [g.frame]).spared hfc hn
  have hgone' : (g.release deliver ctx w).2.store.isOpen ctx.thread g.cell g.frame = false :=
    (Store.isOpen_of_outward (hout _ _)).trans hgone
  refine ⟨hafter.agreement hclosed hn, hf', fun fault ho => ?_, fun g' ho => ?_, fun _ _ => ?_⟩
  · exact absurd ho (release_not_refused hstate hpop fault)
  · exact ⟨g.release_yields ctx w _ ho g' rfl, hopen, hgone'⟩
  · exact ⟨hstate, hopen, hgone'⟩

/-- What a release comes to, of a guard that is not in the program's hands meanwhile. -/
theorem Guard.release_settled (hd : ∀ w e, Leads Agreeing (deliver w e)) (hw : Agreement w)
    {g : Guard} (hf : OutOfReach [g.frame] w) (ctx : Context)
    (hn : (g.release deliver ctx w).2.store.framesIssued ≤ 2 ^ 64) :
    g.Settled ctx.thread w (g.release deliver ctx w).1 (g.release deliver ctx w).2 := by
  rcases release_cases deliver g ctx w with ⟨fault, message, hrelease⟩ | ⟨hstate, r, s, hpop⟩
  · rw [hrelease]
    refine ⟨?_, hf.mono (Nat.le_refl _) fun _ _ hget => hget, fun _ _ => rfl, nofun, nofun⟩
    exact hw.of_keepsStacks hw.wellFormed (.refl _) (Nat.le_refl _) fun _ _ hget => hget
  · exact settled_of_pop hd hw hf hstate hpop hn

end Releases

/-- A guard goes by the same frame as before, whatever has become of it. -/
structure HeldGuard.Continues (h h' : HeldGuard) : Prop where
  thread : h'.thread = h.thread
  cell : h'.guard.cell = h.guard.cell
  frame : h'.guard.frame = h.guard.frame

namespace Hands

variable {υ ε : Type} {deliver : Delivery (Hands υ) ε} {n : Nat} {h : HeldGuard} {ctx : Context}
  {w : World (Hands υ) ε}

/-- A guard in hand is found on its thread. -/
theorem find_held (hget : w.host.guards.get? n = some h) (hthread : h.thread = ctx.thread) :
    find n ctx w = (.done (some h), w) := by
  rw [find_run, hget]
  simp [hthread]

/-- A search finds nothing, or a guard in hand on its thread. -/
theorem find_cases (n : Nat) (ctx : Context) (w : World (Hands υ) ε) :
    find n ctx w = (.done none, w) ∨
      ∃ h, w.host.guards.get? n = some h ∧ h.thread = ctx.thread := by
  rw [find_run]
  cases hfound : (w.host.guards.get? n).filter fun h => decide (h.thread = ctx.thread) with
  | none => exact .inl rfl
  | some h =>
    obtain ⟨hget, hthread⟩ := Option.filter_eq_some_iff.1 hfound
    exact .inr ⟨h, hget, of_decide_eq_true hthread⟩

/-- How a release in the program's hands begins: the guard is taken out of them. -/
theorem release_held (hget : w.host.guards.get? n = some h) (hthread : h.thread = ctx.thread) :
    release deliver n ctx w =
      (do match ← Act.onUnwind (h.guard.release deliver) (put n { h with interrupted := true }) with
          | .ok guard =>
            put n { h with guard }
            pure (some (.ok ()))
          | .error fault =>
            put n h
            pure (some (.error fault)) : Act (Hands υ) ε (Option (Except Fault Unit))) ctx
        (w.without n) := by
  unfold release
  rw [Act.bind_of_done (find_held hget hthread)]
  rfl

/-- Dropping a guard in hand takes it out of hand and drops it. -/
theorem drop_held (hget : w.host.guards.get? n = some h) (hthread : h.thread = ctx.thread) :
    drop deliver n ctx w = h.guard.drop deliver ctx (w.without n) := by
  unfold drop
  rw [Act.bind_of_done (find_held hget hthread)]
  rfl

/-- A release finds no guard, and does nothing, or it finds one of its own thread. -/
theorem release_cases (deliver : Delivery (Hands υ) ε) (n : Nat) (ctx : Context)
    (w : World (Hands υ) ε) :
    release deliver n ctx w = (.done none, w) ∨
      ∃ h, w.host.guards.get? n = some h ∧ h.thread = ctx.thread := by
  refine (find_cases n ctx w).imp_left fun hnone => ?_
  unfold release
  rw [Act.bind_of_done hnone]
  rfl

/-- Dropping a guard does nothing, or drops one in hand. -/
theorem drop_cases (deliver : Delivery (Hands υ) ε) (n : Nat) (ctx : Context)
    (w : World (Hands υ) ε) :
    drop deliver n ctx w = (.done (), w) ∨
      ∃ h, w.host.guards.get? n = some h ∧ h.thread = ctx.thread ∧
        drop deliver n ctx w = h.guard.drop deliver ctx (w.without n) := by
  rcases find_cases n ctx w with hnone | ⟨h, hget, hthread⟩
  · unfold drop
    rw [Act.bind_of_done hnone]
    exact .inl rfl
  · exact .inr ⟨h, hget, hthread, drop_held hget hthread⟩

/-- Forgetting a guard does nothing, or takes one out of hand. -/
theorem forget_cases (n : Nat) (ctx : Context) (w : World (Hands υ) ε) :
    forget n ctx w = (.done (), w) ∨
      ∃ h, w.host.guards.get? n = some h ∧ forget n ctx w = (.done (), w.without n) := by
  unfold forget
  rcases find_cases n ctx w with hnone | ⟨h, hget, hthread⟩
  · rw [Act.bind_of_done hnone]
    exact .inl rfl
  · rw [Act.bind_of_done (find_held hget hthread)]
    exact .inr ⟨h, hget, rfl⟩

/-- A guard whose release is rejected comes back into hand as it was. -/
theorem release_of_refused (hget : w.host.guards.get? n = some h) (hthread : h.thread = ctx.thread)
    {fault : Fault} {w' : World (Hands υ) ε}
    (hrelease : h.guard.release deliver ctx (w.without n) = (.done (.error fault), w')) :
    release deliver n ctx w = (.done (some (.error fault)), w'.withGuard n h) := by
  rw [release_held hget hthread, Act.bind_of_done (Act.onUnwind_of_done hrelease)]
  rfl

/-- A guard that was released comes back into hand. -/
theorem release_of_returned (hget : w.host.guards.get? n = some h)
    (hthread : h.thread = ctx.thread) {guard : Guard} {w' : World (Hands υ) ε}
    (hrelease : h.guard.release deliver ctx (w.without n) = (.done (.ok guard), w')) :
    release deliver n ctx w = (.done (some (.ok ())), w'.withGuard n { h with guard }) := by
  rw [release_held hget hthread, Act.bind_of_done (Act.onUnwind_of_done hrelease)]
  rfl

/-- A release that is cut short by a panic puts the guard back with a mark. -/
theorem release_of_panicked (hget : w.host.guards.get? n = some h)
    (hthread : h.thread = ctx.thread) {message : String} {w' : World (Hands υ) ε}
    (hrelease : h.guard.release deliver ctx (w.without n) = (.panicked message, w')) :
    release deliver n ctx w =
      (.panicked message, w'.withGuard n { h with interrupted := true }) := by
  rw [release_held hget hthread]
  exact Act.bind_of_panicked (Act.onUnwind_of_panicked hrelease rfl)

/-- A release after which the run is over puts no guard back. -/
theorem release_of_halted (hget : w.host.guards.get? n = some h) (hthread : h.thread = ctx.thread)
    {w' : World (Hands υ) ε}
    (hrelease : h.guard.release deliver ctx (w.without n) = (.halted, w')) :
    release deliver n ctx w = (.halted, w') := by
  rw [release_held hget hthread]
  exact Act.bind_of_halted (Act.onUnwind_of_halted hrelease)

end Hands

/-- What a release of a guard in the program's hands comes to. All guards are in agreement afterwards.
If the release returns the guard is back, and if it is cut short by a panic the guard is back and
marked. -/
structure Hands.AfterRelease {υ ε : Type} (n : Nat) (h : HeldGuard)
    (o : Outcome (Option (Except Fault Unit))) (w' : World (Hands υ) ε) : Prop where
  agreement : Agreement w'
  returned : ∀ result, o = .done result → ∃ h', w'.host.guards.get? n = some h' ∧
    h.Continues h' ∧ h'.interrupted = h.interrupted
  cutShort : ∀ message, o = .panicked message → ∃ h', w'.host.guards.get? n = some h' ∧
    h.Continues h' ∧ h'.interrupted = true

namespace Hands

variable {υ ε : Type} {deliver : Delivery (Hands υ) ε} {n : Nat} {h : HeldGuard} {ctx : Context}
  {w : World (Hands υ) ε}

/-- What has become of a guard after a release, and whether its frame is open. -/
theorem afterRelease (hd : ∀ w e, Leads Agreeing (deliver w e)) (hw : Agreement w)
    (hget : w.host.guards.get? n = some h) (hthread : h.thread = ctx.thread)
    (hn : (release deliver n ctx w).2.store.framesIssued ≤ 2 ^ 64) :
    AfterRelease n h (release deliver n ctx w).1 (release deliver n ctx w).2 := by
  obtain ⟨hw₁, hf⟩ := hw.taken hget
  have hin := hw.inOrder n h hget
  have hsettled := Guard.release_settled hd hw₁ hf ctx
  have hopened : (w.without n).store.isOpen ctx.thread h.guard.cell h.guard.frame = true →
      h.interrupted = false := by
    intro hopen
    cases hi : h.interrupted with
    | false => rfl
    | true =>
      rw [← hthread] at hopen
      exact absurd (hopen.symm.trans (hin.gone hi).2) nofun
  -- The release is refused, returns, is cut short, or the run is over; each puts back its own guard.
  rcases hrelease : h.guard.release deliver ctx (w.without n) with
    ⟨⟨fault | guard⟩ | message | _, w'⟩
  all_goals rw [hrelease, ← hthread] at hsettled
  · rw [release_of_refused hget hthread hrelease] at hn ⊢
    have hs := hsettled hn
    refine ⟨hs.agreement.put hs.outOfReach (hin.of_isOpen (hs.refused fault rfl)), ?_, nofun⟩
    exact fun _ _ => ⟨h, World.get?_withGuard _ n h, ⟨rfl, rfl, rfl⟩, rfl⟩
  · rw [release_of_returned hget hthread hrelease] at hn ⊢
    have hs := hsettled hn
    obtain ⟨rfl, hopen, hclosed⟩ := hs.released guard rfl
    have hunmarked := hopened (hthread ▸ hopen)
    refine ⟨hs.agreement.put hs.outOfReach ⟨nofun, fun _ => ⟨nofun, fun hopen' => ?_⟩,
      fun hi => ?_⟩, ?_, nofun⟩
    · exact absurd (hopen'.symm.trans hclosed) nofun
    · exact absurd (hi.symm.trans hunmarked) nofun
    · exact fun _ _ => ⟨_, World.get?_withGuard _ n _, ⟨rfl, rfl, rfl⟩, rfl⟩
  · rw [release_of_panicked hget hthread hrelease] at hn ⊢
    have hs := hsettled hn
    obtain ⟨hstate, -, hclosed⟩ := hs.cutShort message rfl
    refine ⟨hs.agreement.put hs.outOfReach ⟨hin.kept, nofun, fun _ => ⟨hstate, hclosed⟩⟩,
      nofun, ?_⟩
    exact fun _ _ => ⟨_, World.get?_withGuard _ n _, ⟨rfl, rfl, rfl⟩, rfl⟩
  · rw [release_of_halted hget hthread hrelease] at hn ⊢
    exact ⟨(hsettled hn).agreement, nofun, nofun⟩

/-- A new guard has a new frame, which is open. -/
theorem acquire_agreeing (c : CellId) : Leads Agreeing (acquire c : Act (Hands υ) ε Nat) := by
  intro ctx w
  refine ⟨fun X => acquire_spares c ctx w, fun hw hn => ?_⟩
  have hissued : (acquire c ctx w).2.store.framesIssued = w.store.framesIssued + 1 :=
    Store.framesIssued_push w.store ctx.thread c
  obtain ⟨hopened, hf⟩ := hw.opened ctx.thread c (by omega)
  have hput : Agreement ((w.opened ctx.thread c).withGuard w.host.issued
      ⟨ctx.thread, .next w.store ctx.thread c, false⟩) :=
    hopened.put hf ⟨nofun, fun _ => ⟨fun _ => Store.isOpen_push_self _ _ _, fun _ => rfl⟩, nofun⟩
  exact hput.of_keepsStacks hput.wellFormed (.refl _) (Nat.le_refl _) fun _ _ hget => hget

/-- Releasing a guard in hand keeps the agreement of all others. -/
theorem release_agreeing (hd : ∀ w e, Leads Agreeing (deliver w e)) (n : Nat) :
    Leads Agreeing (release deliver n) := by
  intro ctx w
  refine ⟨fun X => release_spares (fun w e => (hd w e).weaken fun _ _ h => h.spares X) n ctx w,
    fun hw hn => ?_⟩
  rcases release_cases deliver n ctx w with hnone | ⟨h, hget, hthread⟩
  · rw [hnone]
    exact hw
  · exact (afterRelease hd hw hget hthread hn).agreement

/-- A guard that is dropped is in nobody's hands while its frame is closed. -/
theorem drop_agreeing (hd : ∀ w e, Leads Agreeing (deliver w e)) (n : Nat) :
    Leads Agreeing (drop deliver n) := by
  intro ctx w
  refine ⟨fun X => drop_spares (fun w e => (hd w e).weaken fun _ _ h => h.spares X) n ctx w,
    fun hw hn => ?_⟩
  rcases drop_cases deliver n ctx w with hnone | ⟨h, hget, -, hdropped⟩
  · rw [hnone]
    exact hw
  · obtain ⟨hw₁, hf⟩ := hw.taken hget
    have hscopes : Scopes deliver (@Agreeing υ ε) AgreeingWith := Agreeing.scoping.scopes hd
    have hdrop := h.guard.drop_leads (hscopes.altering_held h.guard).toCalm (hscopes.pop h.guard) ctx
      (w.without n)
    rw [hdropped] at hn ⊢
    exact (hdrop.agreement hw₁ hf hn).1

/-- Forgetting a guard keeps the agreement of those in hand. -/
theorem forget_agreeing (n : Nat) : Leads Agreeing (forget n : Act (Hands υ) ε Unit) := by
  intro ctx w
  refine ⟨fun X => forget_spares n ctx w, fun hw _ => ?_⟩
  rcases forget_cases n ctx w with hnone | ⟨h, hget, hforget⟩
  · rw [hnone]
    exact hw
  · rw [hforget]
    exact (hw.taken hget).1

end Hands

section Programs

variable {υ ε : Type} {deliver : Delivery (Hands υ) ε}

/-- A call that closes frames only through guards keeps the agreement. -/
theorem Call.agreeing (hd : ∀ w e, Leads Agreeing (deliver w e)) {α : Type} {op : Call υ ε α}
    (h : op.Guarded) : Leads Agreeing (op.act deliver) := by
  cases op with
  | own change =>
    intro ctx w
    exact .of_keepsStacks (.host w _) (.refl _) (Nat.le_refl _) fun _ _ hget => hget
  | push c =>
    intro ctx w
    refine ⟨fun X => .opened w ctx.thread c, fun hw hn => ?_⟩
    rw [show ((Call.push c : Call υ ε _).act deliver ctx w).2.store.framesIssued = _ from
      Store.framesIssued_push w.store ctx.thread c] at hn
    exact (hw.opened ctx.thread c hn).1
  | pop c f => exact h.elim
  | acquire c => exact Hands.acquire_agreeing c
  | release n => exact Hands.release_agreeing hd n
  | drop n => exact Hands.drop_agreeing hd n
  | forget n => exact Hands.forget_agreeing n
  | look | panic | halt | write | setRoot | issueFrame | watch | unwatch | capture | policy
  | policyFromVariable | install | setVariable =>
    exact leads_of_isPlain (Agreeing.revising.altering hd) trivial

/-- Watches that close frames only through guards keep the agreement. -/
theorem Rules.deliver_agreeing (rules : Rules υ ε) (hrules : ∀ w e, (rules w e).Guarded)
    (depth : Nat) (w : WatchId) (e : Event) : Leads Agreeing (rules.deliver depth w e) :=
  rules.deliver_leads Agreeing.revising.toPlain.calm (fun _ hd => Agreeing.scoping.scopes hd)
    (fun _ hd _ _ h => Call.agreeing hd h) hrules depth w e

/-- A program that closes frames only through guards keeps the agreement. -/
theorem Program.agreeing (hd : ∀ w e, Leads Agreeing (deliver w e)) {α : Type}
    (p : Program υ ε α) (hp : p.Guarded) : Leads Agreeing (p.act deliver) :=
  p.leads (Agreeing.scoping.scopes hd) (fun _ => Call.agreeing hd) hp

end Programs

/-! ## Later releases -/

section Later

variable {υ ε : Type} {w : World (Hands υ) ε}

/-- What a later release of a guard that is not in the program's hands does to its agreement. -/
structure Guard.Conduct (deliver : Delivery (Hands υ) ε) (w : World (Hands υ) ε) (g : Guard)
    (later : Context) : Prop where
  refused : ∀ fault w', g.release deliver later w = (.done (.error fault), w') →
    w'.store.framesIssued ≤ 2 ^ 64 → g.Agrees later.thread w'.store
  released : ∀ g' w', g.release deliver later w = (.done (.ok g'), w') →
    w'.store.framesIssued ≤ 2 ^ 64 → g'.Agrees later.thread w'.store
  cutShort : ∀ message w', g.release deliver later w = (.panicked message, w') →
    w'.store.framesIssued ≤ 2 ^ 64 → ¬ g.Agrees later.thread w'.store

/-- What a later release or drop of a guard in the program's hands comes to. A release that returns
leaves it in agreement as it was, and a release that is cut short does not leave it in agreement. Once
its frame is closed it is refused as released already and dropped without a trace, unless a release of
it was cut short: then it is refused as out of order, and dropping it logs that and panics under the
panic policy. -/
structure HeldGuard.Conduct (deliver : Delivery (Hands υ) ε) (w : World (Hands υ) ε) (n : Nat)
    (h : HeldGuard) (later : Context) : Prop where
  returned : ∀ result w', Hands.release deliver n later w = (.done result, w') →
    w'.store.framesIssued ≤ 2 ^ 64 → ∃ h', w'.host.guards.get? n = some h' ∧ h.Continues h' ∧
      (h'.guard.Agrees h'.thread w'.store ↔ h.interrupted = false)
  cutShort : ∀ message w', Hands.release deliver n later w = (.panicked message, w') →
    w'.store.framesIssued ≤ 2 ^ 64 → ∃ h', w'.host.guards.get? n = some h' ∧ h.Continues h' ∧
      ¬ h'.guard.Agrees h'.thread w'.store
  spent : h.interrupted = false → w.store.isOpen h.thread h.guard.cell h.guard.frame = false →
    ∀ fault, fault = .doubleRelease (w.store.symbol h.guard.cell).display →
      Hands.release deliver n later w = (.done (some (.error fault)),
        ((w.without n).reported h.guard (some fault)).withGuard n h) ∧
      Hands.drop deliver n later w = (.done (), w.without n)
  broken : h.interrupted = true →
    ∀ fault, fault = .outOfOrder (w.store.symbol h.guard.cell).display h.guard.frame
        ((w.store.stack h.thread h.guard.cell).top?.map Frame.id) →
      Hands.release deliver n later w = (.done (some (.error fault)),
        ((w.without n).reported h.guard (some fault)).withGuard n h) ∧
      ∃ policy w', Settings.current later (w.without n) = (.done policy, w') ∧
        Hands.drop deliver n later w =
          (if policy = .panic ∧ later.unwinding = false then .panicked fault.message else .done (),
            w'.reported h.guard (some fault))

/-- In agreement a release follows the state of the guard and the stack. -/
theorem Agreement.conduct_of_agrees {deliver : Delivery (Hands υ) ε}
    (hd : ∀ w e, Leads Agreeing (deliver w e)) (hw : Agreement w) {g : Guard}
    (hf : OutOfReach [g.frame] w) {later : Context} (hg : g.Agrees later.thread w.store) :
    g.Conduct deliver w later := by
  have hsettled := Guard.release_settled hd hw hf later
  refine ⟨fun fault w' hrun hn => ?_, fun g' w' hrun hn => ?_, fun message w' hrun hn => ?_⟩
  all_goals rw [hrun] at hsettled
  · unfold Guard.Agrees
    rw [(hsettled hn).refused fault rfl]
    exact hg
  · obtain ⟨rfl, -, hclosed⟩ := (hsettled hn).released g' rfl
    exact ⟨nofun, fun hopen => absurd (hopen.symm.trans hclosed) nofun⟩
  · obtain ⟨hstate, -, hclosed⟩ := (hsettled hn).cutShort message rfl
    exact fun hagrees => absurd ((hagrees.1 hstate).symm.trans hclosed) nofun

/-- In agreement a guard in the program's hands follows its state and its mark. -/
theorem Agreement.conduct {deliver : Delivery (Hands υ) ε}
    (hd : ∀ w e, Leads Agreeing (deliver w e)) (hw : Agreement w) {n : Nat} {h : HeldGuard}
    (hget : w.host.guards.get? n = some h) {later : Context} (hthread : h.thread = later.thread) :
    h.Conduct deliver w n later := by
  have hin := hw.inOrder n h hget
  have hafter := Hands.afterRelease hd hw hget hthread
  refine ⟨fun result w' hrun hn => ?_, fun message w' hrun hn => ?_, ?_, ?_⟩
  · rw [hrun] at hafter
    obtain ⟨h', hget', hsame, hmark⟩ := (hafter hn).returned result rfl
    refine ⟨h', hget', hsame, ?_⟩
    rw [← hmark]
    exact ((hafter hn).agreement.inOrder n h' hget').agrees_iff
  · rw [hrun] at hafter
    obtain ⟨h', hget', hsame, hmark⟩ := (hafter hn).cutShort message rfl
    refine ⟨h', hget', hsame, ?_⟩
    rw [((hafter hn).agreement.inOrder n h' hget').agrees_iff, hmark]
    exact nofun
  · rintro hmark hclosed fault rfl
    have hstate : h.guard.state = .released := by
      cases hstate : h.guard.state with
      | acquired => exact absurd (((hin.agrees hmark).1 hstate).symm.trans hclosed) nofun
      | released => rfl
      | abandoned => exact absurd hstate hin.kept
    refine ⟨Hands.release_of_refused hget hthread (Guard.release_of_released hstate), ?_⟩
    rw [Hands.drop_held hget hthread]
    exact Guard.drop_of_released hstate
  · rintro hmark fault rfl
    obtain ⟨hstate, hclosed⟩ := hin.gone hmark
    have hpop := Store.pop_of_not_isOpen hclosed
    rw [hthread] at hpop ⊢
    refine ⟨Hands.release_of_refused hget hthread (Guard.release_of_error hstate hpop), ?_⟩
    rw [Hands.drop_held hget hthread]
    exact Guard.drop_of_error hstate hpop

/-- Guards and frames, in every run where frames are closed only through guards. A run may be halted
anywhere, also in a watch or inside a scope, so the world `w` is any moment of any run. The state of a
guard tells whether its frame is open exactly if no release of the guard was cut short by a panic, and
this decides what every later release and drop of it come to. A release of any other guard, such as
that of a scope, keeps its agreement if it returns and loses it if it is cut short. -/
theorem guard_agrees_iff_not_interrupted {α : Type} (rules : Rules υ ε)
    (hrules : ∀ w e, (rules w e).Guarded) (depth : Nat) (p : Program υ ε α) (hp : p.Guarded)
    (ctx : Context) {w₀ : World (Hands υ) ε} (h₀ : w₀.store.Fresh)
    (hhands : ∀ n, w₀.host.guards.get? n = none)
    (hw : (p.act (rules.deliver depth) ctx w₀).2 = w) (hn : w.store.framesIssued ≤ 2 ^ 64) :
    (∀ n h, w.host.guards.get? n = some h →
      (h.guard.Agrees h.thread w.store ↔ h.interrupted = false) ∧
      ∀ depth' later, h.thread = later.thread → h.Conduct (rules.deliver depth') w n later) ∧
    ∀ (g : Guard) depth' later, OutOfReach [g.frame] w → g.Agrees later.thread w.store →
      g.Conduct (rules.deliver depth') w later := by
  have hd := rules.deliver_agreeing hrules
  have hagreement : Agreement w := by
    rw [← hw] at hn ⊢
    exact (p.agreeing (hd depth) hp ctx w₀).agreement (.start h₀ hhands) hn
  refine ⟨fun n h hget => ⟨(hagreement.inOrder n h hget).agrees_iff, ?_⟩, ?_⟩
  · exact fun depth' later hthread => hagreement.conduct (hd depth') hget hthread
  · exact fun g depth' later hf hg => hagreement.conduct_of_agrees (hd depth') hf hg

end Later

/-! ## A release that is cut short -/

/-- Watches that panic when a saved value is given back. -/
def Rules.panicOnRestore : Rules Unit Unit := fun _ e =>
  match e.change with
  | .write => pure ()
  | .restore => .call (.panic "watch w panicked")

/-- The watches of the example close no frame. -/
theorem Rules.panicOnRestore_guarded (w : WatchId) (e : Event) :
    (panicOnRestore w e).Guarded := by
  unfold panicOnRestore
  cases e.change <;> trivial

/-- A program that holds a guard of a watched variable and one of another, and releases both. -/
def Program.releaseBoth : Program Unit Unit (Option (Except Fault Unit)) := do
  .call (.watch ⟨1⟩ "w" ⟨0⟩)
  let watched ← .call (.acquire ⟨1⟩)
  let other ← .call (.acquire ⟨0⟩)
  let _ ← .attempt (.call (.release watched))
  .call (.release other)

/-- The program of the example closes frames only through guards. -/
theorem Program.releaseBoth_guarded : releaseBoth.Guarded :=
  ⟨trivial, fun _ => ⟨trivial, fun _ => ⟨trivial, fun _ => ⟨trivial, fun _ => trivial⟩⟩⟩⟩

/-- The world after that program. -/
def World.bothReleased : World (Hands Unit) Unit :=
  (Program.releaseBoth.act (Rules.panicOnRestore.deliver 1) ⟨⟨0⟩, false⟩
    (.start Store.sample ())).2

/-- The watch cuts the first release short, and that guard is acquired though its frame is closed. The
other guard agrees with the stack. -/
theorem bothReleased_agree :
    World.bothReleased.store.framesIssued ≤ 2 ^ 64 ∧
      (∃ h, World.bothReleased.host.guards.get? 0 = some h ∧ h.interrupted = true ∧
        ¬ h.guard.Agrees h.thread World.bothReleased.store) ∧
      ∃ h, World.bothReleased.host.guards.get? 1 = some h ∧ h.interrupted = false ∧
        h.guard.Agrees h.thread World.bothReleased.store := by
  have hn : World.bothReleased.store.framesIssued ≤ 2 ^ 64 := by decide +kernel
  have hmarked : (World.bothReleased.host.guards.get? 0).map HeldGuard.interrupted = some true := by
    decide +kernel
  have hunmarked : (World.bothReleased.host.guards.get? 1).map HeldGuard.interrupted =
      some false := by
    decide +kernel
  obtain ⟨g, hg, hgmark⟩ := Option.map_eq_some_iff.1 hmarked
  obtain ⟨k, hk, hkmark⟩ := Option.map_eq_some_iff.1 hunmarked
  have hagrees := (guard_agrees_iff_not_interrupted Rules.panicOnRestore
    Rules.panicOnRestore_guarded 1 Program.releaseBoth Program.releaseBoth_guarded ⟨⟨0⟩, false⟩
    Store.sample_fresh (fun _ => rfl) (w := World.bothReleased) rfl hn).1
  refine ⟨hn, ⟨g, hg, hgmark, fun h => ?_⟩, k, hk, hkmark, (hagrees 1 k hk).1.2 hkmark⟩
  exact absurd (hgmark.symm.trans ((hagrees 0 g hg).1.1 h)) nofun

/-- So the state of a guard does not tell in every run whether its frame is open. -/
theorem state_may_disagree :
    Program.releaseBoth.Guarded ∧ (∀ w e, (Rules.panicOnRestore w e).Guarded) ∧
      Store.sample.Fresh ∧ ∃ h, World.bothReleased.host.guards.get? 0 = some h ∧
        h.guard.state = .acquired ∧
        World.bothReleased.store.isOpen h.thread h.guard.cell h.guard.frame = false := by
  have hview : (World.bothReleased.host.guards.get? 0).map (fun h => (h.guard.state,
      World.bothReleased.store.isOpen h.thread h.guard.cell h.guard.frame)) =
      some (.acquired, false) := by
    decide +kernel
  obtain ⟨h, hget, hpair⟩ := Option.map_eq_some_iff.1 hview
  obtain ⟨hstate, hopen⟩ := Prod.mk.inj hpair
  exact ⟨Program.releaseBoth_guarded, Rules.panicOnRestore_guarded, Store.sample_fresh, h, hget,
    hstate, hopen⟩

end ScopedBinding
