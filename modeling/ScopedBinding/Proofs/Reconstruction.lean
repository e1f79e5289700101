import ScopedBinding.Proofs.Tracking

/-!
# The guard log tells which frames are open

In a run that opens and closes frames only by guards, the messages of the guards tell at every juncture
which frames are open and in what order they were opened, which releases were rejected, and which
frames were given up by the overrides that had opened them (`log_reconstructs_open_frames`). A frame
that is closed behind the back of its guard stays open in the log (`popped_frame_stays_acquired`).
-/

set_option autoImplicit false

namespace ScopedBinding

open Act (Ends)
open Report (frames)

/-- What the log tells at a juncture. The newest report comes first. -/
structure Juncture.Reconstructed {υ ε : Type} (M : Juncture υ ε) : Prop where
  /-- Every message of a guard reports something of a frame. -/
  read : ∀ m ∈ M.world.guardMessages, m.report?.isSome = true
  acquired_once : ∀ f ∈ M.world.framesOpened, M.world.reports.count ⟨.acquired, f⟩ = 1
  acquired_only : ∀ f, ⟨.acquired, f⟩ ∈ M.world.reports → f ∈ M.world.framesOpened
  released_once : ∀ f, M.world.reports.count ⟨.released, f⟩ ≤ 1
  released_later : ReportedInOrder M.world.reports
  /-- The frames on the stacks of all threads are those acquired and not released. -/
  live : ∀ f, (∃ t c, f ∈ M.store.frameIds t c) ↔
    ⟨.acquired, f⟩ ∈ M.world.reports ∧ ⟨.released, f⟩ ∉ M.world.reports
  /-- On every stack they are in the order in which they were acquired. -/
  ordered : ∀ t c, (M.store.frameIds t c).Sublist (frames .acquired M.world.reports)
  errors : (M.world.guardMessages.countP fun m => m.level = .error) = M.rejected
  /-- A frame of an override that was left after a normal end of its body was released, or given up. -/
  given_up : ∀ f ∈ M.ended, ⟨.released, f⟩ ∉ M.world.reports → GivenUp f M.world.reports

namespace Juncture

variable {υ ε : Type} {rules : Rules υ ε} {M M' : Juncture υ ε}

/-- Where no release is in progress and none was cut short, the frames that are closed are those that
are reported to be released. -/
theorem Sound.reconstructed (h : M.Sound) (hclosing : M.closing = []) (hcut : M.cutShort = []) :
    M.Reconstructed := by
  have haccounts := h.accounts
  rw [hclosing, hcut, List.append_nil, List.append_nil] at haccounts
  refine ⟨h.read, fun f hf => ?_, fun f hf => ?_, fun f => ?_, h.inOrder, fun f => ?_, fun t c => ?_,
    h.errors, fun f hf hnot => (h.settled f hf).resolve_left hnot⟩
  · rw [← Report.count_frames, h.acquired]
    exact List.count_eq_one_of_mem haccounts.nodup hf
  · rw [← h.acquired]
    exact Report.mem_frames.2 hf
  · rw [← Report.count_frames]
    exact List.nodup_iff_count_le_one.1 haccounts.once f
  · rw [haccounts.live, ← h.acquired, Report.mem_frames, Report.mem_frames]
  · rw [h.acquired]
    exact haccounts.ordered t c

end Juncture

/-- An ending other than a panic. -/
def Ending.Unpanicked (_ : Context) (e : Ending) : Prop :=
  e ≠ .panicked

/-- Where no watch panics no release is cut short. -/
theorem Juncture.Steps.cutShort_eq {υ ε : Type} {rules : Rules υ ε} {M M' : Juncture υ ε}
    (h : M.Steps rules M')
    (hcalm : ∀ depth k e, Ends Ending.Unpanicked (rules.deliver depth k e)) :
    M'.cutShort = M.cutShort := by
  induction h with
  | refl => rfl
  | tail _ hstep ih =>
    refine Eq.trans ?_ ih
    cases hstep with
    | @interrupted f hf depth k e ctx v message hpanic =>
      have hends := hcalm depth k e ctx v
      rw [hpanic] at hends
      exact absurd rfl hends
    | revised | created | threadEnded | noted | configured | minded | acquired | closed | reported
    | refused | gaveUp | passed | loosened | taken | returned | left => rfl

/-- The guard log tells which frames are open. Frames are opened and closed only by guards, those of
rebind scopes and snapshots among them, on any threads; watches are such programs too. Variables may be
created, and threads that have no frames of their own open may end.

At every juncture of a run at which no release is in progress, and before which none was cut short by the
panic of a watch, each frame that has been opened was reported as acquired once, and at most once, and
later, as released. The frames on all stacks are those acquired and not released, and each stack has them
in the order of those reports. There is one error for each rejected release, and a frame of an override
that was left after a normal end of its body was released, or abandoned right after its rejected release.

If watches never panic no release is cut short. Programs go by such steps, and unless a program halts, no
release is in progress at its end that was not at its start. If overrides end with a value, their frames
are among those that have been left. A release that is rejected makes one report of that, whether it was
explicit or not. -/
theorem log_reconstructs_open_frames {υ ε : Type} {rules : Rules υ ε}
    (hrules : ∀ k e, (rules k e).ByGuards) {s : Store} (hs : s.Fresh) (own : υ) :
    (∀ M, (Juncture.start s own).Steps rules M → M.store.framesIssued ≤ 2 ^ 64 →
      M.closing = [] → M.cutShort = [] → M.Reconstructed) ∧
    ((∀ depth k e, Ends Ending.Unpanicked (rules.deliver depth k e)) →
      ∀ M, (Juncture.start s own).Steps rules M → M.cutShort = []) ∧
    (∀ {α : Type} (p : Program υ ε α), p.ByGuards → ∀ depth ctx (M : Juncture υ ε),
      M.Reaches rules (p.act (rules.deliver depth) ctx M.world) M.Alike) ∧
    (∀ {α : Type} (discard : α → Program υ ε Unit) (p : Program υ ε α),
      (∀ a, (discard a).ByGuards) → p.ByGuards → ∀ set depth ctx (M : Juncture υ ε),
        let run := Overrides.enter (rules.deliver depth) (fun a => (discard a).act (rules.deliver depth))
          set (p.act (rules.deliver depth)) ctx M.world
        M.Reaches rules run fun M' =>
          M.Alike M' ∧ Overrides.LeftAt (rules.deliver depth) set ctx M.world run.1 M') ∧
    ∀ (deliver : Delivery (Hands υ) ε) (g : Guard) ctx w fault w',
      g.release deliver ctx w = (.done (.error fault), w') → w.Tells ⟨.rejected, g.frame⟩ w' := by
  have hd := rules.deliver_tracked hrules
  refine ⟨fun M hsteps hissued hclosing hcut => ?_, fun hcalm M hsteps => hsteps.cutShort_eq hcalm,
    fun p hp depth ctx M => p.tracked (hd depth) hp ctx M, fun discard p ha hp set depth ctx M => ?_,
    fun deliver g ctx w fault w' => Guard.refused_tells⟩
  · have hsound : M.Sound := hsteps.sound (.start hs own) hissued
    exact hsound.reconstructed hclosing hcut
  · have hdiscard := fun a => (discard a).tracked (hd depth) (ha a)
    exact Overrides.enter_reaches (hd depth) hdiscard (p.tracked (hd depth) hp) set ctx M

/-- Watches that set the shared variable. -/
def Rules.setting : Rules Unit Unit :=
  fun _ _ => .call (.write ⟨1⟩ (.int 5))

/-- Watches that only set a variable do not panic. -/
theorem Rules.setting_calm (depth : Nat) (k : WatchId) (e : Event) :
    Ends Ending.Unpanicked (setting.deliver depth k e) := by
  induction depth generalizing k e with
  | zero => exact fun _ _ => nofun
  | succ depth ih => exact CellId.write_ends (fun _ => nofun) ih ⟨1⟩ (.int 5)

/-- A program that keeps a guard beyond an override, whose frame is then not innermost, and releases that
guard later. -/
def Program.leakFirst : Program Unit Unit (Option (Except Fault Unit)) := do
  let _ ← .override skip [(⟨0⟩, .int 7)] do
    let _ ← .call (.acquire ⟨0⟩)
    pure ()
  .call (.release 0)

/-- The store with a watch of the dynamic variable. -/
def Store.watched : Store :=
  sample.watch ⟨0⟩ "a" ⟨0⟩

/-- With a watch the store has no frames yet either. -/
theorem Store.watched_fresh : watched.Fresh where
  unbound t c := sample_fresh.unbound t c
  empty t c := by
    unfold watched
    rw [(sample.keepsStacks_watch ⟨0⟩ "a" ⟨0⟩).stack]
    exact sample_fresh.empty t c

/-- How that program comes out. -/
def World.leakedFirst : Outcome (Option (Except Fault Unit)) × World (Hands Unit) Unit :=
  Program.leakFirst.act (Rules.setting.deliver 3) ⟨⟨0⟩, false⟩ (.start Store.watched ())

/-- The log tells that the frame of the override has been given up, and is the one that is open. -/
theorem leaked_first_is_told : ∃ M : Juncture Unit Unit,
    (Juncture.start Store.watched ()).Steps Rules.setting M ∧ M.world = World.leakedFirst.2 ∧
      M.Reconstructed ∧ M.rejected = 1 ∧
      M.world.reports = [⟨.released, ⟨2⟩⟩, ⟨.abandoned, ⟨1⟩⟩, ⟨.rejected, ⟨1⟩⟩, ⟨.acquired, ⟨2⟩⟩,
        ⟨.acquired, ⟨1⟩⟩] := by
  have hrules : ∀ k e, (Rules.setting k e).ByGuards := fun _ _ => trivial
  obtain ⟨hreconstructed, hcalm, hprograms, -, -⟩ :=
    log_reconstructs_open_frames hrules Store.watched_fresh ()
  obtain ⟨M, hsteps, hworld, halike⟩ := hprograms Program.leakFirst
    ⟨⟨fun _ => trivial, trivial, fun _ => trivial⟩, fun _ => trivial⟩ 3 ⟨⟨0⟩, false⟩
    (.start Store.watched ())
  have hdone : World.leakedFirst.1.ending = .done := by decide +kernel
  have hclosing : M.closing = [] := by
    refine (halike fun hhalted => ?_).closing
    have hending : World.leakedFirst.1.ending = .halted := congrArg Outcome.ending hhalted
    rw [hdone] at hending
    cases hending
  have hissued : M.store.framesIssued ≤ 2 ^ 64 := by
    show M.world.store.framesIssued ≤ 2 ^ 64
    rw [hworld]
    decide +kernel
  have hM := hreconstructed M hsteps hissued hclosing (hcalm Rules.setting_calm M hsteps)
  have hreports : World.leakedFirst.2.reports = [⟨.released, ⟨2⟩⟩, ⟨.abandoned, ⟨1⟩⟩,
      ⟨.rejected, ⟨1⟩⟩, ⟨.acquired, ⟨2⟩⟩, ⟨.acquired, ⟨1⟩⟩] := by
    decide +kernel
  have herrors : (World.leakedFirst.2.guardMessages.countP fun m => m.level = .error) = 1 := by
    decide +kernel
  refine ⟨M, hsteps, hworld, hM, ?_, ?_⟩
  · rw [← hM.errors, hworld]
    exact herrors
  · rw [hworld]
    exact hreports

/-! ## Closing a frame behind the back of its guard -/

/-- A program that acquires a guard and closes its frame by itself. -/
def Program.popBehind : Program Unit Unit (Except Fault Unit) := do
  let _ ← .call (.acquire ⟨0⟩)
  .call (.pop ⟨0⟩ (.afterIssued 0))

/-- How that program comes out. -/
def World.poppedBehind : Outcome (Except Fault Unit) × World (Hands Unit) Unit :=
  Program.popBehind.act Delivery.silent ⟨⟨0⟩, false⟩ (.start Store.sample ())

/-- Calls that open frames only by guards. -/
def Call.OpensByGuards {υ ε α : Type} : Call υ ε α → Prop
  | .push _ => False
  | _ => True

/-- Its only frame is acquired and not released in the log, and is not open. -/
theorem popped_frame_stays_acquired :
    Program.popBehind.Uses Call.OpensByGuards True ∧ World.poppedBehind.1 = .done (.ok ()) ∧
      World.poppedBehind.2.reports = [⟨.acquired, ⟨1⟩⟩] ∧
      ¬ ∃ t c, ⟨1⟩ ∈ World.poppedBehind.2.store.frameIds t c := by
  have hopened := (Store.Accounts.fresh Store.sample_fresh).pushed (by decide) ⟨0⟩ ⟨0⟩
  have hpop : (Store.sample.push ⟨0⟩ ⟨0⟩).2.pop ⟨0⟩ ⟨0⟩ ⟨1⟩ =
      .ok (⟨.int 1, .int 1⟩, World.poppedBehind.2.store) := rfl
  obtain ⟨-, -, hclosed⟩ := hopened.popped hpop
  refine ⟨⟨trivial, fun _ => trivial⟩, rfl, by decide +kernel, fun hopen => ?_⟩
  exact ((hclosed.live ⟨1⟩).1 hopen).2 List.mem_cons_self

end ScopedBinding
