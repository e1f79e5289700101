import ScopedBinding.Proofs.Lifecycle

/-!
# What guards report

Guards log what becomes of their frames. `LogMessage.report?` reads such a message: its level and its
text tell what happened, and one of its fields shows the frame. `World.reports` is what the whole log
tells of frames, newest first.

A frame that is opened for a guard is reported when it is opened, and one that is closed is reported
after the watches have been told. A release that is rejected is reported and does nothing else
(`Guard.refused_tells`).
-/

set_option autoImplicit false

namespace ScopedBinding

/-- What can be reported of a frame. -/
inductive ReportKind where
  | acquired
  | released
  | rejected
  | abandoned
  deriving DecidableEq

/-- What a guard message tells of a frame. -/
structure Report where
  kind : ReportKind
  frame : FrameId
  deriving DecidableEq

namespace Report

/-- The frames of which something is reported, in the order of the reports. -/
def frames (kind : ReportKind) (rs : List Report) : List FrameId :=
  rs.filterMap fun r => if r.kind = kind then some r.frame else none

/-- Whether a report is about a frame that was not closed though it should have been. -/
def Fails (f : FrameId) (r : Report) : Prop :=
  r = ⟨.rejected, f⟩ ∨ r = ⟨.abandoned, f⟩

variable {kind other : ReportKind} {f : FrameId} {rs : List Report}

/-- A report of the kind adds its frame. -/
theorem frames_cons_self : frames kind (⟨kind, f⟩ :: rs) = f :: frames kind rs := by
  simp [frames]

/-- A report of another kind adds nothing. -/
theorem frames_cons_of_ne (h : other ≠ kind) :
    frames kind (⟨other, f⟩ :: rs) = frames kind rs := by
  simp [frames, h]

/-- The frames of a kind are those that a report of the kind names. -/
theorem mem_frames : f ∈ frames kind rs ↔ ⟨kind, f⟩ ∈ rs := by
  induction rs with
  | nil => exact ⟨nofun, nofun⟩
  | cons r rs ih =>
    obtain ⟨k, g⟩ := r
    by_cases hk : k = kind
    · subst hk
      simp [frames_cons_self, ih]
    · simp [frames_cons_of_ne hk, ih, Ne.symm hk]

/-- A frame is reported as often as there are reports of it. -/
theorem count_frames (kind : ReportKind) (f : FrameId) (rs : List Report) :
    (frames kind rs).count f = rs.count ⟨kind, f⟩ := by
  induction rs with
  | nil => rfl
  | cons r rs ih =>
    obtain ⟨k, g⟩ := r
    by_cases hk : k = kind
    · subst hk
      simp [frames_cons_self, List.count_cons, ih]
    · simp [frames_cons_of_ne hk, ih, hk]

end Report

/-! ## Reading the log -/

/-- The frame number that a text shows. -/
def FrameId.read? (text : String) : Option FrameId :=
  match text.toList with
  | '#' :: digits => some ⟨.ofNat (Nat.ofDigitChars 10 digits 0)⟩
  | _ => none

/-- The number of a frame is read back from its text. -/
theorem FrameId.read?_display (f : FrameId) : read? f.display = some f := by
  have hchars : f.display.toList = '#' :: Nat.toDigits 10 f.val.toNat := by
    unfold display
    rw [String.toList_append, ← Nat.toList_repr]
    rfl
  have hdigits : Nat.ofDigitChars 10 (Nat.toDigits 10 f.val.toNat) 0 = f.val.toNat :=
    Nat.ofDigitChars_toDigits (by decide) (by decide)
  unfold read?
  rw [hchars]
  show some (⟨.ofNat (Nat.ofDigitChars 10 (Nat.toDigits 10 f.val.toNat) 0)⟩ : FrameId) = some f
  rw [hdigits, UInt64.ofNat_toNat]

/-- What a guard message of a level and with a text tells of the frame that it shows. -/
def ReportKind.ofText? (level : Level) (text : String) : Option ReportKind :=
  match level with
  | .debug =>
    if text = "acquired" then some .acquired
    else if text = "released" then some .released
    else none
  | .warn => if text = "abandoned without restoring" then some .abandoned else none
  | .error => some .rejected
  | .trace => none

/-- What a guard message tells. -/
def LogMessage.report? (m : LogMessage) : Option Report := do
  let kind ← ReportKind.ofText? m.level m.text
  let frame ← FrameId.read? (← m.fields.lookup "frame")
  some ⟨kind, frame⟩

/-- The message of a guard that a note has. -/
def Note.guardMessage? {ε : Type} : Note ε → Option LogMessage
  | .logged m => if m.source = Guard.source then some m else none
  | _ => none

/-- The frame that a note tells to have been opened. -/
def Note.openedFrame? {ε : Type} : Note ε → Option FrameId
  | .pushed _ _ frame => some frame.id
  | _ => none

/-- The report of a message, from its text and its field. -/
theorem LogMessage.report?_eq {m : LogMessage} {kind : ReportKind} {f : FrameId}
    (hkind : ReportKind.ofText? m.level m.text = some kind)
    (hframe : m.fields.lookup "frame" = some f.display) : m.report? = some ⟨kind, f⟩ := by
  unfold report?
  rw [hkind, hframe]
  show (FrameId.read? f.display).bind _ = _
  rw [FrameId.read?_display]
  rfl

namespace World

variable {η ε : Type}

/-- The messages of guards, newest first. -/
def guardMessages (w : World η ε) : List LogMessage :=
  w.journal.filterMap Note.guardMessage?

/-- What the log tells of frames, newest first. -/
def reports (w : World η ε) : List Report :=
  w.guardMessages.filterMap LogMessage.report?

/-- The frames that have been opened, newest first. -/
def framesOpened (w : World η ε) : List FrameId :=
  w.journal.filterMap Note.openedFrame?

/-- A world whose log has one more message of a guard than that of another. Its level is that of an error
exactly if it tells of a rejected release. -/
def Reports (w : World η ε) (r : Report) (w' : World η ε) : Prop :=
  ∃ m, m.report? = some r ∧ (m.level = .error ↔ r.kind = .rejected) ∧
    w'.guardMessages = m :: w.guardMessages

/-- A step that only reports something of a frame. -/
structure Tells (w : World η ε) (r : Report) (w' : World η ε) : Prop where
  reports : w.Reports r w'
  framesOpened : w'.framesOpened = w.framesOpened
  store : w'.store = w.store
  host : w'.host = w.host

variable {w w' : World η ε} {r : Report}

/-- A world that reports something has one report more. -/
theorem Reports.reports_eq (h : w.Reports r w') : w'.reports = r :: w.reports := by
  obtain ⟨m, hm, -, hmessages⟩ := h
  unfold World.reports
  rw [hmessages, List.filterMap_cons_some hm]

/-- Opening a frame for a guard makes a frame and a report. -/
theorem acquired_reports (w : World η ε) (t : ThreadId) (c : CellId) :
    w.Reports ⟨.acquired, .afterIssued w.store.framesIssued⟩ (w.acquired t c) ∧
      (w.acquired t c).framesOpened = .afterIssued w.store.framesIssued :: w.framesOpened := by
  rw [← w.store.push_fst_id t c]
  exact ⟨⟨_, LogMessage.report?_eq rfl rfl, by simp, rfl⟩, rfl⟩

/-- The message may be about the symbol that the variable had when the release began. -/
theorem released_tells (w : World η ε) (s : Store) (g : Guard) :
    w.Tells ⟨.released, g.frame⟩
      { w with journal := .logged (g.report s none) :: w.journal } :=
  ⟨⟨_, LogMessage.report?_eq rfl rfl, by simp [Guard.report], rfl⟩, rfl, rfl, rfl⟩

/-- A rejected release tells of its guard. -/
theorem rejected_tells (w : World η ε) (g : Guard) (fault : Fault) :
    w.Tells ⟨.rejected, g.frame⟩ (w.reported g (some fault)) :=
  ⟨⟨_, LogMessage.report?_eq rfl rfl, by simp [Guard.report], rfl⟩, rfl, rfl, rfl⟩

/-- A guard that is given up is told of. -/
theorem abandoned_tells {g : Guard} (hg : g.state = .acquired) (ctx : Context) (w : World η ε) :
    w.Tells ⟨.abandoned, g.frame⟩ (g.abandon ctx w).2 := by
  obtain ⟨c, f, state⟩ := g
  cases hg
  exact ⟨⟨_, LogMessage.report?_eq rfl rfl, by simp, rfl⟩, rfl, rfl, rfl⟩

end World

/-- A release that is rejected makes one report of that and does nothing else. -/
theorem Guard.refused_tells {η ε : Type} {deliver : Delivery η ε} {g : Guard} {ctx : Context}
    {w w' : World η ε} {fault : Fault}
    (h : g.release deliver ctx w = (.done (.error fault), w')) :
    w.Tells ⟨.rejected, g.frame⟩ w' := by
  obtain ⟨-, rfl⟩ := of_refused h
  exact w.rejected_tells g fault

end ScopedBinding
