import ScopedBinding.Proofs.Steps

/-!
# What the journal tells of the store

The journal notes every frame that is opened and closed. `Follows s₀ J s` says that the store `s`
comes about from `s₀` by single operations, of any threads in any order, whose notes are `J`; the
newest note comes first. Every program leads from a world to one whose store and new notes are
related in this way, also when it is cut off in the middle of something (`Program.recorded`).

`openFrames` reads off the notes alone which frames of a stack have been opened and not been closed.
-/

set_option autoImplicit false

namespace ScopedBinding

/-- A store that comes about from another by single operations with these notes, newest first. -/
inductive Follows {ε : Type} (s₀ : Store) : List (Note ε) → Store → Prop where
  | start : Follows s₀ [] s₀
  | revised {J : List (Note ε)} {s s' : Store} (h : Follows s₀ J s) (hs : s.Revises s') :
      Follows s₀ J s'
  | noted {J : List (Note ε)} {s : Store} (h : Follows s₀ J s) (n : Note ε)
      (hn : n.movesFrame = false) : Follows s₀ (n :: J) s
  | pushed {J : List (Note ε)} {s : Store} (h : Follows s₀ J s) (t : ThreadId) (c : CellId) :
      Follows s₀ (.pushed t c (s.push t c).1 :: J) (s.push t c).2
  | popped {J : List (Note ε)} {s s' : Store} {t : ThreadId} {c : CellId} {f : FrameId}
      {r : Replaced} (h : Follows s₀ J s) (hs : s.pop t c f = .ok (r, s')) :
      Follows s₀ (.popped t c f :: J) s'

namespace Follows

variable {ε : Type} {s₀ s s' : Store} {J J' : List (Note ε)}

/-- Operations after other operations, with the notes of both. -/
theorem trans (h : Follows s₀ J s) (h' : Follows s J' s') : Follows s₀ (J' ++ J) s' := by
  induction h' with
  | start => exact h
  | revised _ hs ih => exact ih.revised hs
  | noted _ n hn ih => exact ih.noted n hn
  | pushed _ t c ih => exact ih.pushed t c
  | popped _ hs ih => exact ih.popped hs

/-- No operation changes the kind of a variable. -/
theorem kind (h : Follows s₀ J s) (c : CellId) : s.kind c = s₀.kind c := by
  induction h with
  | start => rfl
  | revised _ hs ih => exact (hs.keepsStacks.kind c).trans ih
  | noted _ n hn ih => exact ih
  | pushed _ t d ih => exact (Store.kind_push _ t d c).trans ih
  | popped _ hs ih => exact (Store.kind_pop hs c).trans ih

/-- No operation gives a frame number back. -/
theorem framesIssued_le (h : Follows s₀ J s) : s₀.framesIssued ≤ s.framesIssued := by
  induction h with
  | start => exact Nat.le_refl _
  | revised _ hs ih => exact Nat.le_trans ih hs.framesIssued_le
  | noted _ n hn ih => exact ih
  | pushed _ t c ih =>
    rw [Store.framesIssued_push]
    omega
  | popped _ hs ih =>
    rw [Store.framesIssued_pop hs]
    exact ih

/-- All operations keep the frames in order. -/
theorem wellFormed (h : Follows s₀ J s) (h₀ : s₀.WellFormed) : s.WellFormed := by
  induction h with
  | start => exact h₀
  | revised _ hs ih => exact hs.wellFormed ih
  | noted _ n hn ih => exact ih
  | pushed _ t c ih => exact ih.push t c
  | popped _ hs ih => exact ih.pop hs

end Follows

/-! ## Programs -/

/-- The store of the second world comes about from that of the first by the operations that the new
notes of the journal tell of. -/
def Recorded {η ε : Type} (w w' : World η ε) : Prop :=
  ∃ J, w'.journal = J ++ w.journal ∧ Follows w.store J w'.store

namespace Recorded

variable {η ε : Type}

/-- Nothing has happened, and there are no notes of it. -/
theorem refl (w : World η ε) : Recorded w w :=
  ⟨[], rfl, .start⟩

/-- What is recorded one after another is recorded. -/
theorem trans {w w' w'' : World η ε} (h : Recorded w w') (h' : Recorded w' w'') :
    Recorded w w'' := by
  obtain ⟨J, hJ, hs⟩ := h
  obtain ⟨J', hJ', hs'⟩ := h'
  refine ⟨J' ++ J, ?_, hs.trans hs'⟩
  rw [hJ', hJ, List.append_assoc]

/-- The state of the program is no matter of the store. -/
theorem host (w : World η ε) (a : η) : Recorded w { w with host := a } :=
  ⟨[], rfl, .start⟩

/-- Opening a frame is recorded. -/
theorem opened (w : World η ε) (t : ThreadId) (c : CellId) : Recorded w (w.opened t c) :=
  ⟨[_], rfl, .pushed .start t c⟩

/-- Closing a frame is recorded. -/
theorem closed (w : World η ε) (t : ThreadId) (c : CellId) (f : FrameId) (r : Replaced) (s : Store)
    (h : w.store.pop t c f = .ok (r, s)) : Recorded w (w.closed t c f s) :=
  ⟨[_], rfl, .popped .start h⟩

/-- Whatever opens and closes no frame is recorded. -/
theorem revising : Revising (Recorded : World η ε → World η ε → Prop) where
  refl := refl
  trans := trans
  settings _ _ := ⟨[], rfl, .start⟩
  note _ n hn := ⟨[n], rfl, .noted .start n hn⟩
  store _ _ hs := ⟨[], rfl, .revised .start hs⟩

/-- Every single step is recorded if the watches are. -/
theorem stepwise {deliver : Delivery η ε} (hd : ∀ w e, Act.Leads Recorded (deliver w e)) :
    Stepwise deliver (Recorded : World η ε → World η ε → Prop) :=
  revising.stepwise host opened closed hd

end Recorded

open Act (Leads)

/-- What every program does is recorded, whatever programs its watches are and however it ends. -/
theorem Program.recorded {υ ε α : Type} (rules : Rules υ ε) (depth : Nat) (p : Program υ ε α) :
    Leads Recorded (p.act (rules.deliver depth)) :=
  p.leads_to <| Recorded.stepwise <| rules.deliver_leads_to Recorded.revising.toPlain.calm
    (fun _ hd => Recorded.stepwise hd) depth

end ScopedBinding
