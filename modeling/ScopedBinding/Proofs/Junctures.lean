import ScopedBinding.Proofs.FrameAccounts
import ScopedBinding.Proofs.GuardReports

/-!
# Junctures of a run and the log up to them

A run in which frames are opened and closed only by guards is a sequence of steps, in which threads
take turns as they like. At a `Juncture` between two steps there is the world, the guards that the
program does not have in its hands, and the frames that are closed already while their release still
tells the watches. Opening a frame and reporting it is one step. Closing a frame and reporting it are
two, with anything between them. A rejected release is one step with its report, and if it is that of an
override, one step with the report that the guard is abandoned.

`Juncture.Sound` says how the log goes with the stacks and the guards at every juncture. Each step keeps
it (`Juncture.Step.sound`), so it holds along the whole run (`Juncture.Steps.sound`).
-/

set_option autoImplicit false

namespace ScopedBinding

open Report (frames Fails)

/-- A juncture of a run: the world, the guards that the program does not have in its hands, and what
has become of frames. -/
structure Juncture (υ ε : Type) where
  world : World (Hands υ) ε
  /-- The guards of scopes for overrides that have not been left, which nobody has tried to release
  in vain. -/
  untried : List Guard
  /-- The other guards out of the program's hands, each of which is being released or dropped or will
  be dropped. -/
  loose : List Guard
  /-- The frames that are closed already, but whose release is in progress. -/
  closing : List FrameId
  /-- The frames whose release was cut short by the panic of a watch after they had been closed. -/
  cutShort : List FrameId
  /-- The frames of overrides that have been left after a normal end of the body. -/
  ended : List FrameId
  /-- How many releases have been rejected. -/
  rejected : Nat

/-- The next guard has the next frame number. -/
theorem Guard.next_frame {s : Store} {u : ThreadId} {d : CellId} :
    (Guard.next s u d).frame = .afterIssued s.framesIssued :=
  s.push_fst_id u d

/-- Notes that tell nothing of frames. -/
def Note.IsAside {ε : Type} (n : Note ε) : Prop :=
  n.guardMessage? = none ∧ n.openedFrame? = none

namespace Juncture

variable {υ ε : Type}

/-- The store at a juncture. -/
def store (M : Juncture υ ε) : Store :=
  M.world.store

/-- The juncture at which a program starts. -/
def start (s : Store) (own : υ) : Juncture υ ε :=
  ⟨.start s own, [], [], [], [], [], 0⟩

/-- A single step of some thread. -/
inductive Step (rules : Rules υ ε) (M : Juncture υ ε) : Juncture υ ε → Prop where
  | revised {s : Store} (hs : M.store.Revises s) :
      Step rules M { M with world := { M.world with store := s } }
  | created (symbol : Symbol) (kind : CellKind) (init : Value)
      (hcell : M.store.cell? ⟨M.store.cellsIssued⟩ = none)
      (hfree : ∀ t, M.store.binding? t ⟨M.store.cellsIssued⟩ = none) :
      Step rules M
        { M with world := { M.world with store := (M.store.create symbol kind init).2 } }
  | threadEnded {u : ThreadId}
      (hu : ∀ c, M.store.kind c = .dynamic → M.store.stack u c = ∅) :
      Step rules M { M with world := { M.world with store := M.store.endThread u } }
  | noted (n : Note ε) (hn : n.IsAside) :
      Step rules M { M with world := { M.world with journal := n :: M.world.journal } }
  | configured (settings : Settings) :
      Step rules M { M with world := { M.world with settings } }
  | minded {hands : Hands υ} (h : hands.guards = M.world.host.guards) :
      Step rules M { M with world := { M.world with host := hands } }
  | acquired (u : ThreadId) (d : CellId) :
      Step rules M
        { M with world := M.world.acquired u d, untried := .next M.store u d :: M.untried }
  | closed {g : Guard} (hg : g ∈ M.untried ∨ g ∈ M.loose) {u : ThreadId} {r : Replaced} {s : Store}
      (hpop : M.store.pop u g.cell g.frame = .ok (r, s)) :
      Step rules M
        { M with world := M.world.closed u g.cell g.frame s, closing := g.frame :: M.closing }
  | reported {g : Guard} (hg : g.frame ∈ M.closing) (s : Store) :
      Step rules M
        { M with
          world := { M.world with journal := .logged (g.report s none) :: M.world.journal }
          closing := M.closing.erase g.frame }
  /-- A watch has panicked, and the release that told it ends without a report. -/
  | interrupted {f : FrameId} (hf : f ∈ M.closing) {depth : Nat} {k : WatchId} {e : Event}
      {ctx : Context} {v : World (Hands υ) ε} {message : String}
      (hpanic : rules.deliver depth k e ctx v = (.panicked message, M.world)) :
      Step rules M { M with closing := M.closing.erase f, cutShort := f :: M.cutShort }
  | refused {g : Guard} (hg : g ∈ M.loose) {deliver : Delivery (Hands υ) ε} {ctx : Context}
      {fault : Fault} {w' : World (Hands υ) ε}
      (h : g.release deliver ctx M.world = (.done (.error fault), w')) :
      Step rules M { M with world := w', rejected := M.rejected + 1 }
  /-- A body has ended normally, and the release of the guard around it is rejected. -/
  | gaveUp {g : Guard} (hg : g ∈ M.untried) (hstate : g.state = .acquired)
      {deliver : Delivery (Hands υ) ε} {ctx : Context} {fault : Fault} {w' : World (Hands υ) ε}
      (h : g.release deliver ctx M.world = (.done (.error fault), w')) :
      Step rules M
        { M with world := (g.abandon ctx w').2, untried := M.untried.erase g
                 ended := g.frame :: M.ended, rejected := M.rejected + 1 }
  /-- A body has ended normally, and the guard around it has been released. -/
  | passed {g : Guard} (hg : g ∈ M.untried)
      (hreleased : ⟨.released, g.frame⟩ ∈ M.world.reports) :
      Step rules M { M with untried := M.untried.erase g, ended := g.frame :: M.ended }
  /-- A body has panicked, or the guard is not one of overrides. -/
  | loosened {g : Guard} (hg : g ∈ M.untried) :
      Step rules M { M with untried := M.untried.erase g, loose := g :: M.loose }
  | taken {n : Nat} {h : HeldGuard} (hget : M.world.host.guards.get? n = some h) :
      Step rules M { M with world := M.world.without n, loose := h.guard :: M.loose }
  | returned {g : Guard} (hg : g ∈ M.loose) (n : Nat) {h : HeldGuard}
      (hf : h.guard.frame = g.frame) :
      Step rules M { M with world := M.world.withGuard n h, loose := M.loose.erase g }
  | left (g : Guard) : Step rules M { M with loose := M.loose.erase g }

/-- Some steps, one after another. -/
def Steps (rules : Rules υ ε) : Juncture υ ε → Juncture υ ε → Prop :=
  Relation.ReflTransGen (Step rules)

/-- Frame numbers are taken and never given back. -/
theorem Step.framesIssued_le {rules : Rules υ ε} {M M' : Juncture υ ε} (h : Step rules M M') :
    M.store.framesIssued ≤ M'.store.framesIssued := by
  cases h with
  | revised hs => exact hs.framesIssued_le
  | acquired u d =>
    exact Nat.le_trans (Nat.le_succ _) (Nat.le_of_eq (Store.framesIssued_push _ u d).symm)
  | closed _ hpop => exact Nat.le_of_eq (Store.framesIssued_pop hpop).symm
  | @refused g hg deliver ctx fault w' h =>
    exact Nat.le_of_eq (congrArg Store.framesIssued (Guard.refused_tells h).store.symm)
  | @gaveUp g hg hstate deliver ctx fault w' h =>
    refine Nat.le_of_eq (congrArg Store.framesIssued ?_)
    exact ((World.abandoned_tells hstate ctx w').store.trans (Guard.refused_tells h).store).symm
  | created | threadEnded | noted | configured | minded | reported | interrupted | passed | loosened
  | taken | returned | left => exact Nat.le_refl _

/-! ## The log and the stacks -/

/-- Every release is reported after the frame was. -/
def ReportedInOrder (rs : List Report) : Prop :=
  ∀ f later earlier, rs = later ++ ⟨.released, f⟩ :: earlier → ⟨.acquired, f⟩ ∈ earlier

/-- One more report, which is of no release or of one of a frame that was acquired. -/
theorem ReportedInOrder.cons {r : Report} {rs : List Report} (h : ReportedInOrder rs)
    (hr : r.kind = .released → ⟨.acquired, r.frame⟩ ∈ rs) : ReportedInOrder (r :: rs) := by
  intro f later earlier hsplit
  rcases List.cons_eq_append_iff.1 hsplit with ⟨-, hhead⟩ | ⟨later', -, htail⟩
  · obtain ⟨rfl, rfl⟩ := List.cons.inj hhead
    exact hr rfl
  · exact h f later' earlier htail

/-- How the log goes with the stacks at a juncture. -/
structure LogAgrees (M : Juncture υ ε) : Prop where
  accounts : M.store.Accounts M.world.framesOpened
    (frames .released M.world.reports ++ (M.closing ++ M.cutShort))
  read : ∀ m ∈ M.world.guardMessages, m.report?.isSome = true
  acquired : frames .acquired M.world.reports = M.world.framesOpened
  inOrder : ReportedInOrder M.world.reports
  errors : (M.world.guardMessages.countP fun m => m.level = .error) = M.rejected

namespace LogAgrees

variable {M M' : Juncture υ ε} {r : Report}

/-- Before a run nothing is reported and no frame is open. -/
theorem start {s : Store} (hs : s.Fresh) (own : υ) : LogAgrees (.start s own : Juncture υ ε) := by
  refine ⟨.fresh hs, nofun, rfl, fun f later earlier hsplit => ?_, rfl⟩
  cases (List.append_eq_nil_iff.1 hsplit.symm).2

/-- A step that tells nothing of frames and leaves them as they are. -/
theorem of_aside (h : M.LogAgrees) (hlog : M'.world.guardMessages = M.world.guardMessages)
    (hopened : M'.world.framesOpened = M.world.framesOpened)
    (hstore : Store.KeepsFrames M.store M'.store)
    (hclosing : M'.closing ++ M'.cutShort = M.closing ++ M.cutShort)
    (hrejected : M'.rejected = M.rejected) : M'.LogAgrees := by
  have hreports : M'.world.reports = M.world.reports := by
    unfold World.reports
    rw [hlog]
  refine ⟨?_, ?_, ?_, ?_, ?_⟩
  · rw [hopened, hreports, hclosing]
    exact h.accounts.of_keepsFrames hstore
  · rw [hlog]
    exact h.read
  · rw [hopened, hreports]
    exact h.acquired
  · rw [hreports]
    exact h.inOrder
  · rw [hlog, hrejected]
    exact h.errors

/-- One more report can be read from the messages. -/
theorem read_cons (h : M.LogAgrees) {w : World (Hands υ) ε} (hr : M.world.Reports r w) :
    ∀ m ∈ w.guardMessages, m.report?.isSome = true := by
  obtain ⟨m, hm, -, hmessages⟩ := hr
  rw [hmessages]
  refine List.forall_mem_cons.2 ⟨?_, h.read⟩
  rw [hm]
  rfl

/-- One more report is an error if it is of a rejected release. -/
theorem errors_cons (h : M.LogAgrees) {w : World (Hands υ) ε} (hr : M.world.Reports r w) :
    (w.guardMessages.countP fun m => m.level = .error) =
      M.rejected + if r.kind = .rejected then 1 else 0 := by
  obtain ⟨m, -, hlevel, hmessages⟩ := hr
  rw [hmessages, List.countP_cons, h.errors]
  simp only [hlevel, decide_eq_true_eq]

/-- A report of a release that was rejected or of a guard that was abandoned. -/
theorem told (h : M.LogAgrees) (hr : M.world.Tells r M'.world)
    (hkind : r.kind = .rejected ∨ r.kind = .abandoned)
    (hclosing : M'.closing ++ M'.cutShort = M.closing ++ M.cutShort)
    (hrejected : M'.rejected = M.rejected + if r.kind = .rejected then 1 else 0) :
    M'.LogAgrees := by
  have hreports := hr.reports.reports_eq
  obtain ⟨kind, f⟩ := r
  obtain ⟨hacquired, hreleased⟩ : kind ≠ .acquired ∧ kind ≠ .released := by
    rcases hkind with rfl | rfl <;> decide
  refine ⟨?_, h.read_cons hr.reports, ?_, ?_, ?_⟩
  · have hstore : M'.store = M.store := hr.store
    rw [hstore, hr.framesOpened, hreports, Report.frames_cons_of_ne hreleased, hclosing]
    exact h.accounts
  · rw [hreports, Report.frames_cons_of_ne hacquired, hr.framesOpened]
    exact h.acquired
  · rw [hreports]
    exact h.inOrder.cons fun hk => absurd hk hreleased
  · rw [h.errors_cons hr.reports, hrejected]

/-- A frame is opened and reported. -/
theorem opened (h : M.LogAgrees) (hn : M.store.framesIssued < 2 ^ 64) (u : ThreadId) (d : CellId)
    (untried : List Guard) :
    LogAgrees { M with world := M.world.acquired u d, untried } := by
  obtain ⟨hr, hopened⟩ := M.world.acquired_reports u d
  have hreports := hr.reports_eq
  refine ⟨?_, h.read_cons hr, ?_, ?_, ?_⟩
  · show Store.Accounts (M.store.push u d).2 (M.world.acquired u d).framesOpened
      (frames .released (M.world.acquired u d).reports ++ _)
    rw [hopened, hreports, Report.frames_cons_of_ne (by decide)]
    exact h.accounts.pushed hn u d
  · show frames .acquired (M.world.acquired u d).reports = (M.world.acquired u d).framesOpened
    rw [hopened, hreports, Report.frames_cons_self, h.acquired]
  · show ReportedInOrder (M.world.acquired u d).reports
    rw [hreports]
    exact h.inOrder.cons nofun
  · exact h.errors_cons hr

/-- A frame is closed and not reported yet. -/
theorem closed (h : M.LogAgrees) {u : ThreadId} {c : CellId} {f : FrameId} {r : Replaced}
    {s : Store} (hpop : M.store.pop u c f = .ok (r, s)) :
    LogAgrees { M with world := M.world.closed u c f s, closing := f :: M.closing } := by
  obtain ⟨-, -, haccounts⟩ := h.accounts.popped hpop
  exact ⟨haccounts.perm List.perm_middle.symm, h.read, h.acquired, h.inOrder, h.errors⟩

/-- A frame that was closed is reported. -/
theorem reported (h : M.LogAgrees) {g : Guard} (hg : g.frame ∈ M.closing)
    {w : World (Hands υ) ε} (htells : M.world.Tells ⟨.released, g.frame⟩ w) :
    LogAgrees { M with world := w, closing := M.closing.erase g.frame } := by
  have hreports := htells.reports.reports_eq
  have hopened : g.frame ∈ M.world.framesOpened :=
    h.accounts.known _ (List.mem_append_right _ (List.mem_append_left _ hg))
  refine ⟨?_, h.read_cons htells.reports, ?_, ?_, h.errors_cons htells.reports⟩
  · show Store.Accounts w.store w.framesOpened
      (frames .released w.reports ++ (M.closing.erase g.frame ++ M.cutShort))
    rw [htells.store, htells.framesOpened, hreports, Report.frames_cons_self]
    refine h.accounts.perm (List.Perm.trans (List.Perm.append_left _ ?_) List.perm_middle)
    exact (List.perm_cons_erase hg).append_right M.cutShort
  · show frames .acquired w.reports = w.framesOpened
    rw [hreports, htells.framesOpened, Report.frames_cons_of_ne (by decide)]
    exact h.acquired
  · show ReportedInOrder w.reports
    rw [hreports]
    refine h.inOrder.cons fun _ => ?_
    rw [← Report.mem_frames, h.acquired]
    exact hopened

/-- A frame that was closed is never reported. -/
theorem interrupted (h : M.LogAgrees) {f : FrameId} (hf : f ∈ M.closing) :
    LogAgrees { M with closing := M.closing.erase f, cutShort := f :: M.cutShort } := by
  refine ⟨h.accounts.perm (List.Perm.append_left _ ?_), h.read, h.acquired, h.inOrder, h.errors⟩
  exact ((List.perm_cons_erase hf).append_right M.cutShort).trans List.perm_middle.symm

end LogAgrees

/-! ## The log and the guards -/

/-- A frame was given up: the last attempt to release it was rejected, right after that it was
abandoned, and nothing else of this kind is told of it. -/
def GivenUp (f : FrameId) (rs : List Report) : Prop :=
  ∃ later earlier, rs = later ++ ⟨.abandoned, f⟩ :: ⟨.rejected, f⟩ :: earlier ∧
    ∀ r ∈ later ++ earlier, ¬ Fails f r

/-- A frame stays given up if no more failures are told of it. -/
theorem GivenUp.append {f : FrameId} {new rs : List Report} (h : GivenUp f rs)
    (hnew : ∀ r ∈ new, ¬ Fails f r) : GivenUp f (new ++ rs) := by
  obtain ⟨later, earlier, rfl, hothers⟩ := h
  refine ⟨new ++ later, earlier, (List.append_assoc _ _ _).symm, fun r hr => ?_⟩
  rw [List.append_assoc, List.mem_append] at hr
  exact hr.elim (hnew r) (hothers r)

/-- The frames whose guards nobody but their overrides has had: those of overrides that have not been
left, and of overrides that have been left after a normal end. -/
def reserved (M : Juncture υ ε) : List FrameId :=
  M.untried.map Guard.frame ++ M.ended

/-- The frame of a new guard is reserved. -/
theorem reserved_acquired (M : Juncture υ ε) (u : ThreadId) (d : CellId) :
    reserved { M with world := M.world.acquired u d, untried := .next M.store u d :: M.untried } =
      .afterIssued M.store.framesIssued :: M.reserved := by
  unfold reserved
  rw [List.map_cons, Guard.next_frame]
  rfl

/-- A guard of the frame is in the program's hands, or somewhere else outside of overrides. -/
def AtLarge (M : Juncture υ ε) (f : FrameId) : Prop :=
  (∃ g ∈ M.loose, g.frame = f) ∨ ∃ n h, M.world.host.guards.get? n = some h ∧ h.guard.frame = f

/-- How the log goes with the guards at a juncture. -/
structure GuardsAgree (M : Juncture υ ε) : Prop where
  distinct : M.reserved.Nodup
  apart : ∀ f, M.AtLarge f → f ∉ M.reserved
  opened : ∀ f, f ∈ M.reserved ∨ M.AtLarge f → f ∈ M.world.framesOpened
  reported : ∀ r ∈ M.world.reports, r.frame ∈ M.world.framesOpened
  untouched : ∀ g ∈ M.untried, ∀ r ∈ M.world.reports, ¬ Fails g.frame r
  settled : ∀ f ∈ M.ended, ⟨.released, f⟩ ∈ M.world.reports ∨ GivenUp f M.world.reports

namespace GuardsAgree

variable {M M' : Juncture υ ε} {g : Guard}

/-- Before a run there are no guards. -/
theorem start (s : Store) (own : υ) : GuardsAgree (.start s own : Juncture υ ε) := by
  have hnone : ∀ f, ¬ AtLarge (.start s own : Juncture υ ε) f := by
    rintro f (⟨g, hg, -⟩ | ⟨n, h, hget, -⟩)
    · cases hg
    · cases hget
  refine ⟨.nil, fun f hf => absurd hf (hnone f), fun f hf => ?_, nofun, nofun, nofun⟩
  exact hf.elim nofun fun hlarge => absurd hlarge (hnone f)

/-- What was told before is told still. -/
theorem settled_append (h : M.GuardsAgree) (new : List Report)
    (hreports : M'.world.reports = new ++ M.world.reports) {f : FrameId} (hf : f ∈ M.ended)
    (hnew : ∀ r ∈ new, ¬ Fails f r) :
    ⟨.released, f⟩ ∈ M'.world.reports ∨ GivenUp f M'.world.reports := by
  rw [hreports]
  exact (h.settled f hf).imp (List.mem_append_right new) fun hgiven => hgiven.append hnew

/-- A step of guards at large. What it tells of failures is about their frames. -/
theorem go (h : M.GuardsAgree) (new : List Report) (huntried : M'.untried = M.untried)
    (hended : M'.ended = M.ended) (hlarge : ∀ f, M'.AtLarge f → M.AtLarge f)
    (hopened : M'.world.framesOpened = M.world.framesOpened)
    (hreports : M'.world.reports = new ++ M.world.reports)
    (hnew : ∀ r ∈ new, r.frame ∈ M.world.framesOpened ∧ ∀ f, Fails f r → M.AtLarge f) :
    M'.GuardsAgree := by
  have hreserved : M'.reserved = M.reserved := by
    unfold reserved
    rw [huntried, hended]
  have hspared : ∀ f ∈ M.reserved, ∀ r ∈ new, ¬ Fails f r :=
    fun f hf r hr hfails => h.apart f ((hnew r hr).2 f hfails) hf
  refine ⟨?_, fun f hf => ?_, fun f hf => ?_, fun r hr => ?_, fun g hg r hr => ?_, fun f hf => ?_⟩
  · rw [hreserved]
    exact h.distinct
  · rw [hreserved]
    exact h.apart f (hlarge f hf)
  · rw [hreserved] at hf
    rw [hopened]
    exact h.opened f (hf.imp_right (hlarge f))
  · rw [hreports, List.mem_append] at hr
    rw [hopened]
    exact hr.elim (fun hr => (hnew r hr).1) (h.reported r)
  · rw [huntried] at hg
    rw [hreports, List.mem_append] at hr
    refine hr.elim (hspared g.frame ?_ r) (h.untouched g hg r)
    exact List.mem_append_left _ (List.mem_map_of_mem hg)
  · rw [hended] at hf
    exact h.settled_append new hreports hf (hspared f (List.mem_append_right _ hf))

/-- The same without a report. -/
theorem of_aside (h : M.GuardsAgree) (huntried : M'.untried = M.untried)
    (hended : M'.ended = M.ended) (hlarge : ∀ f, M'.AtLarge f → M.AtLarge f)
    (hlog : M'.world.guardMessages = M.world.guardMessages)
    (hopened : M'.world.framesOpened = M.world.framesOpened) : M'.GuardsAgree := by
  refine h.go [] huntried hended hlarge hopened ?_ nofun
  unfold World.reports
  rw [hlog]
  rfl

/-- The frames of overrides, with that of one of their guards first. -/
theorem reserved_perm (hg : g ∈ M.untried) :
    M.reserved.Perm (g.frame :: ((M.untried.erase g).map Guard.frame ++ M.ended)) :=
  ((List.perm_cons_erase hg).map Guard.frame).append_right M.ended

/-- The guard of an override is not that of another one. -/
theorem notMem_others (h : M.GuardsAgree) (hg : g ∈ M.untried) :
    g.frame ∉ (M.untried.erase g).map Guard.frame ++ M.ended :=
  (List.nodup_cons.1 ((reserved_perm hg).nodup_iff.1 h.distinct)).1

/-- The frame of a guard that nobody has tried to release is reserved. -/
theorem mem_reserved (hg : g ∈ M.untried) : g.frame ∈ M.reserved :=
  List.mem_append_left _ (List.mem_map_of_mem hg)

/-- An override is left after a normal end of its body. Either it was released, or it is given up. -/
theorem concluded (h : M.GuardsAgree) (new : List Report) (hg : g ∈ M.untried)
    (huntried : M'.untried = M.untried.erase g) (hended : M'.ended = g.frame :: M.ended)
    (hlarge : ∀ f, M'.AtLarge f → M.AtLarge f)
    (hopened : M'.world.framesOpened = M.world.framesOpened)
    (hreports : M'.world.reports = new ++ M.world.reports)
    (hnew : ∀ r ∈ new, r.frame = g.frame)
    (hdone : ⟨.released, g.frame⟩ ∈ M'.world.reports ∨ GivenUp g.frame M'.world.reports) :
    M'.GuardsAgree := by
  have hreserved : M'.reserved.Perm M.reserved := by
    unfold reserved
    rw [huntried, hended]
    exact List.perm_middle.trans (reserved_perm hg).symm
  have hspared : ∀ f ∈ (M.untried.erase g).map Guard.frame ++ M.ended, ∀ r ∈ new, ¬ Fails f r := by
    rintro f hf r hr (rfl | rfl)
    · exact h.notMem_others hg (hnew _ hr ▸ hf)
    · exact h.notMem_others hg (hnew _ hr ▸ hf)
  refine ⟨hreserved.nodup_iff.2 h.distinct, fun f hf => ?_, fun f hf => ?_, fun r hr => ?_,
    fun k hk r hr => ?_, fun f hf => ?_⟩
  · rw [hreserved.mem_iff]
    exact h.apart f (hlarge f hf)
  · rw [hreserved.mem_iff] at hf
    rw [hopened]
    exact h.opened f (hf.imp_right (hlarge f))
  · rw [hreports, List.mem_append] at hr
    rw [hopened]
    rcases hr with hr | hr
    · rw [hnew r hr]
      exact h.opened _ (.inl (mem_reserved hg))
    · exact h.reported r hr
  · rw [huntried] at hk
    rw [hreports, List.mem_append] at hr
    refine hr.elim (hspared k.frame ?_ r) (h.untouched k (List.mem_of_mem_erase hk) r)
    exact List.mem_append_left _ (List.mem_map_of_mem hk)
  · rw [hended] at hf
    rcases List.mem_cons.1 hf with rfl | hf
    · exact hdone
    · exact h.settled_append new hreports hf (hspared f (List.mem_append_right _ hf))

/-- A guard is at large from now on. -/
theorem loosened (h : M.GuardsAgree) (hg : g ∈ M.untried) :
    GuardsAgree { M with untried := M.untried.erase g, loose := g :: M.loose } := by
  have hperm := reserved_perm hg
  have hlarge : ∀ f, AtLarge { M with untried := M.untried.erase g, loose := g :: M.loose } f →
      f = g.frame ∨ M.AtLarge f := by
    rintro f (⟨k, hk, rfl⟩ | hheld)
    · rcases List.mem_cons.1 hk with rfl | hk
      · exact .inl rfl
      · exact .inr (.inl ⟨k, hk, rfl⟩)
    · exact .inr (.inr hheld)
  refine ⟨(List.nodup_cons.1 (hperm.nodup_iff.1 h.distinct)).2, fun f hf => ?_, fun f hf => ?_,
    h.reported, fun k hk => h.untouched k (List.mem_of_mem_erase hk), h.settled⟩
  · rcases hlarge f hf with rfl | hf
    · exact h.notMem_others hg
    · exact fun hmem => h.apart f hf (hperm.mem_iff.2 (List.mem_cons_of_mem _ hmem))
  · rcases hf with hf | hf
    · exact h.opened f (.inl (hperm.mem_iff.2 (List.mem_cons_of_mem _ hf)))
    · rcases hlarge f hf with rfl | hf
      · exact h.opened _ (.inl (mem_reserved hg))
      · exact h.opened f (.inr hf)

/-- A new guard has a new frame, of which nothing has been told. -/
theorem acquired (h : M.GuardsAgree)
    (hnew : .afterIssued M.store.framesIssued ∉ M.world.framesOpened) (u : ThreadId) (d : CellId) :
    GuardsAgree
      { M with world := M.world.acquired u d, untried := .next M.store u d :: M.untried } := by
  obtain ⟨hr, hopened⟩ := M.world.acquired_reports u d
  have hreports := hr.reports_eq
  have hreserved := M.reserved_acquired u d
  have hlarge : ∀ f, AtLarge
      { M with world := M.world.acquired u d, untried := .next M.store u d :: M.untried } f →
      M.AtLarge f := fun _ hf => hf
  refine ⟨?_, fun f hf => ?_, fun f hf => ?_, fun r hr => ?_, fun k hk r hr => ?_, fun f hf => ?_⟩
  · rw [hreserved]
    exact List.nodup_cons.2 ⟨fun hmem => hnew (h.opened _ (.inl hmem)), h.distinct⟩
  · rw [hreserved]
    intro hmem
    rcases List.mem_cons.1 hmem with rfl | hmem
    · exact hnew (h.opened _ (.inr (hlarge _ hf)))
    · exact h.apart f (hlarge f hf) hmem
  · show f ∈ (M.world.acquired u d).framesOpened
    rw [hreserved] at hf
    rw [hopened]
    rcases hf with hf | hf
    · rcases List.mem_cons.1 hf with rfl | hf
      · exact List.mem_cons_self
      · exact List.mem_cons_of_mem _ (h.opened f (.inl hf))
    · exact List.mem_cons_of_mem _ (h.opened f (.inr (hlarge f hf)))
  · change r ∈ (M.world.acquired u d).reports at hr
    show r.frame ∈ (M.world.acquired u d).framesOpened
    rw [hreports] at hr
    rw [hopened]
    rcases List.mem_cons.1 hr with rfl | hr
    · exact List.mem_cons_self
    · exact List.mem_cons_of_mem _ (h.reported r hr)
  · change r ∈ (M.world.acquired u d).reports at hr
    rw [hreports] at hr
    rcases List.mem_cons.1 hr with rfl | hr
    · rintro (hf | hf) <;> cases hf
    rcases List.mem_cons.1 hk with rfl | hk
    · -- Nothing has been told of a frame that had not been opened.
      rw [Guard.next_frame]
      rintro (rfl | rfl)
      · exact hnew (h.reported _ hr)
      · exact hnew (h.reported _ hr)
    · exact h.untouched k hk r hr
  · refine h.settled_append [⟨.acquired, .afterIssued M.store.framesIssued⟩] hreports hf ?_
    intro r hr
    rw [List.mem_singleton.1 hr]
    rintro (hf | hf) <;> cases hf

end GuardsAgree

/-! ## Every juncture -/

/-- The log goes with the stacks and the guards. -/
structure Sound (M : Juncture υ ε) : Prop extends LogAgrees M, GuardsAgree M

/-- The log goes with the stacks and the guards before a run. -/
theorem Sound.start {s : Store} (hs : s.Fresh) (own : υ) : Sound (.start s own : Juncture υ ε) :=
  ⟨.start hs own, .start s own⟩

namespace Sound

variable {M M' : Juncture υ ε} {g : Guard}

/-- A step that tells nothing of frames, and changes neither them nor the guards. -/
theorem of_aside (h : M.Sound) (hlog : M'.world.guardMessages = M.world.guardMessages)
    (hopened : M'.world.framesOpened = M.world.framesOpened)
    (hstore : Store.KeepsFrames M.store M'.store)
    (hlarge : ∀ f, M'.AtLarge f → M.AtLarge f)
    (huntried : M'.untried = M.untried) (hended : M'.ended = M.ended)
    (hclosing : M'.closing = M.closing) (hcut : M'.cutShort = M.cutShort)
    (hrejected : M'.rejected = M.rejected) : M'.Sound :=
  ⟨h.toLogAgrees.of_aside hlog hopened hstore (by rw [hclosing, hcut]) hrejected,
    h.toGuardsAgree.of_aside huntried hended hlarge hlog hopened⟩

/-- A frame is opened for a new guard. -/
theorem on_acquired (h : M.Sound) (hn : M.store.framesIssued < 2 ^ 64) (u : ThreadId) (d : CellId) :
    Sound { M with world := M.world.acquired u d, untried := .next M.store u d :: M.untried } :=
  ⟨h.toLogAgrees.opened hn u d _, h.toGuardsAgree.acquired (h.accounts.next_notMem hn) u d⟩

/-- A frame that is closed may be reported by whoever has a guard of it. -/
theorem on_reported (h : M.Sound) (hg : g.frame ∈ M.closing) (s : Store) :
    Sound { M with
      world := { M.world with journal := .logged (g.report s none) :: M.world.journal }
      closing := M.closing.erase g.frame } := by
  have htells := M.world.released_tells s g
  refine ⟨h.toLogAgrees.reported hg htells, h.toGuardsAgree.go [⟨.released, g.frame⟩] rfl rfl
    (fun _ hf => hf) rfl htells.reports.reports_eq ?_⟩
  refine List.forall_mem_singleton.2 ⟨?_, fun f hf => ?_⟩
  · exact h.accounts.known _ (List.mem_append_right _ (List.mem_append_left _ hg))
  · rcases hf with hf | hf <;> cases hf

/-- A rejected release of a guard that is at large. -/
theorem on_refused (h : M.Sound) (hg : g ∈ M.loose) {w : World (Hands υ) ε}
    (htells : M.world.Tells ⟨.rejected, g.frame⟩ w) :
    Sound { M with world := w, rejected := M.rejected + 1 } := by
  have hlarge : M.AtLarge g.frame := .inl ⟨g, hg, rfl⟩
  refine ⟨h.toLogAgrees.told htells (.inl rfl) rfl rfl, h.toGuardsAgree.go
    [⟨.rejected, g.frame⟩] rfl rfl (fun f hf => ?_) htells.framesOpened
    htells.reports.reports_eq ?_⟩
  · unfold AtLarge at hf ⊢
    rw [← htells.host]
    exact hf
  · refine List.forall_mem_singleton.2 ⟨h.opened _ (.inr hlarge), fun f hf => ?_⟩
    rcases hf with hf | hf <;> cases hf
    exact hlarge

/-- A rejected release of an override's guard, which is abandoned then. -/
theorem on_gaveUp (h : M.Sound) (hg : g ∈ M.untried) {w w' : World (Hands υ) ε}
    (hrejected : M.world.Tells ⟨.rejected, g.frame⟩ w)
    (habandoned : w.Tells ⟨.abandoned, g.frame⟩ w') :
    Sound { M with
      world := w', untried := M.untried.erase g
      ended := g.frame :: M.ended, rejected := M.rejected + 1 } := by
  have hreports : w'.reports =
      [⟨.abandoned, g.frame⟩, ⟨.rejected, g.frame⟩] ++ M.world.reports := by
    rw [habandoned.reports.reports_eq, hrejected.reports.reports_eq]
    rfl
  have hmiddle : LogAgrees { M with world := w, rejected := M.rejected + 1 } :=
    h.toLogAgrees.told hrejected (.inl rfl) rfl rfl
  refine ⟨hmiddle.told habandoned (.inr rfl) rfl rfl, h.toGuardsAgree.concluded _ hg rfl rfl
    (fun f hf => ?_) (habandoned.framesOpened.trans hrejected.framesOpened) hreports ?_ (.inr ?_)⟩
  · unfold AtLarge at hf ⊢
    rw [← hrejected.host, ← habandoned.host]
    exact hf
  · simp
  · exact ⟨[], M.world.reports, hreports, h.untouched g hg⟩

end Sound

namespace AtLarge

variable {M : Juncture υ ε} {g : Guard} {f : FrameId} {n : Nat} {k : HeldGuard}

/-- A guard that is taken out of the hands was at large there. -/
theorem of_taken (hget : M.world.host.guards.get? n = some k)
    (hf : AtLarge { M with world := M.world.without n, loose := k.guard :: M.loose } f) :
    M.AtLarge f := by
  rcases hf with ⟨g, hg, rfl⟩ | ⟨m, k', hget', rfl⟩
  · rcases List.mem_cons.1 hg with rfl | hg
    · exact .inr ⟨n, k, hget, rfl⟩
    · exact .inl ⟨g, hg, rfl⟩
  · exact .inr ⟨m, k', (World.of_get?_without hget').2, rfl⟩

/-- A guard that is put into the hands was at large outside. -/
theorem of_returned (hg : g ∈ M.loose) (hframe : k.guard.frame = g.frame)
    (hf : AtLarge { M with world := M.world.withGuard n k, loose := M.loose.erase g } f) :
    M.AtLarge f := by
  rcases hf with ⟨g', hg', rfl⟩ | ⟨m, k', hget, rfl⟩
  · exact .inl ⟨g', List.mem_of_mem_erase hg', rfl⟩
  · rcases World.of_get?_withGuard hget with ⟨-, rfl⟩ | ⟨-, hget⟩
    · exact .inl ⟨g, hg, hframe.symm⟩
    · exact .inr ⟨m, k', hget, rfl⟩

end AtLarge

/-- Every step keeps the log in agreement. -/
theorem Step.sound {rules : Rules υ ε} {M M' : Juncture υ ε} (hstep : Step rules M M')
    (h : M.Sound) (hissued : M'.store.framesIssued ≤ 2 ^ 64) : M'.Sound := by
  have hkeeps : Store.KeepsFrames M.store M.store :=
    ⟨fun _ _ => rfl, fun _ _ _ => rfl, Nat.le_refl _⟩
  have hsame : ∀ f, M.AtLarge f → M.AtLarge f := fun _ hf => hf
  cases hstep with
  | revised hs =>
    exact h.of_aside rfl rfl hs.keepsFrames hsame rfl rfl rfl rfl rfl
  | created symbol kind init hcell hfree =>
    have hcreated := M.store.keepsFrames_create symbol kind init hcell hfree
    exact h.of_aside rfl rfl hcreated hsame rfl rfl rfl rfl rfl
  | threadEnded hu =>
    exact h.of_aside rfl rfl (Store.keepsFrames_endThread hu) hsame rfl rfl rfl rfl rfl
  | noted n hn =>
    have hlog := List.filterMap_cons_none (l := M.world.journal) hn.1
    have hopened := List.filterMap_cons_none (l := M.world.journal) hn.2
    exact h.of_aside hlog hopened hkeeps hsame rfl rfl rfl rfl rfl
  | configured settings => exact h.of_aside rfl rfl hkeeps hsame rfl rfl rfl rfl rfl
  | @minded hands hguards =>
    refine h.of_aside rfl rfl hkeeps (fun f hf => ?_) rfl rfl rfl rfl rfl
    refine hf.imp_right fun ⟨n, k, hget, hframe⟩ => ⟨n, k, ?_, hframe⟩
    rw [← hguards]
    exact hget
  | acquired u d =>
    have hlt : M.store.framesIssued < 2 ^ 64 := by
      have hpushed := Store.framesIssued_push M.store u d
      change (M.store.push u d).2.framesIssued ≤ 2 ^ 64 at hissued
      omega
    exact h.on_acquired hlt u d
  | closed hg hpop =>
    exact ⟨h.toLogAgrees.closed hpop, h.toGuardsAgree.of_aside rfl rfl hsame rfl rfl⟩
  | reported hg s => exact h.on_reported hg s
  | interrupted hf hpanic =>
    exact ⟨h.toLogAgrees.interrupted hf, h.toGuardsAgree.of_aside rfl rfl hsame rfl rfl⟩
  | refused hg hrefused => exact h.on_refused hg (Guard.refused_tells hrefused)
  | gaveUp hg hstate hrefused =>
    exact h.on_gaveUp hg (Guard.refused_tells hrefused) (World.abandoned_tells hstate _ _)
  | passed hg hreleased =>
    exact ⟨h.toLogAgrees.of_aside rfl rfl hkeeps rfl rfl, h.toGuardsAgree.concluded [] hg rfl rfl
      hsame rfl rfl nofun (.inl hreleased)⟩
  | loosened hg =>
    exact ⟨h.toLogAgrees.of_aside rfl rfl hkeeps rfl rfl, h.toGuardsAgree.loosened hg⟩
  | taken hget =>
    exact h.of_aside rfl rfl hkeeps (fun _ => .of_taken hget) rfl rfl rfl rfl rfl
  | returned hg n hframe =>
    exact h.of_aside rfl rfl hkeeps (fun _ => .of_returned hg hframe) rfl rfl rfl rfl rfl
  | left g =>
    refine h.of_aside rfl rfl hkeeps (fun f hf => ?_) rfl rfl rfl rfl rfl
    exact hf.imp_left fun ⟨g', hg', hframe⟩ => ⟨g', List.mem_of_mem_erase hg', hframe⟩

/-- The log is in agreement at every juncture of a run. -/
theorem Steps.sound {rules : Rules υ ε} {M M' : Juncture υ ε} (hsteps : Steps rules M M')
    (h : M.Sound) (hissued : M'.store.framesIssued ≤ 2 ^ 64) : M'.Sound := by
  induction hsteps with
  | refl => exact h
  | tail _ hstep ih => exact hstep.sound (ih (Nat.le_trans hstep.framesIssued_le hissued)) hissued

end Juncture

end ScopedBinding
