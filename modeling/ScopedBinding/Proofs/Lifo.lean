import ScopedBinding.Proofs.Journal

/-!
# Frames close in the opposite order

A history starts from variables that nobody has overridden. Whatever is done after that, by whatever
threads in whatever order, the frame that can be closed is the one opened last among those of its
stack that are still open, and closing it brings back what its opener saw (`closes_last_opened`).
The stacks of the store and the saved values in them agree with the journal at every moment; both
follow by induction over the history.
-/

set_option autoImplicit false

namespace ScopedBinding

/-- The frames of the stack that a thread sees of a variable that have been opened and not been
closed since, newest first, as the notes tell of them. -/
def openFrames {ε : Type} (s₀ : Store) (t : ThreadId) (c : CellId) : List (Note ε) → List Frame
  | [] => []
  | .pushed u d frame :: J =>
    if c = d ∧ s₀.SameStack d u t then frame :: openFrames s₀ t c J else openFrames s₀ t c J
  | .popped u d f :: J =>
    if c = d ∧ s₀.SameStack d u t then (openFrames s₀ t c J).filter fun frame => frame.id ≠ f
    else openFrames s₀ t c J
  | _ :: J => openFrames s₀ t c J

/-- A note of something else than a frame does not matter to the open frames. -/
theorem openFrames_noted {ε : Type} (s₀ : Store) (t : ThreadId) (c : CellId) {n : Note ε}
    (h : n.movesFrame = false) (J : List (Note ε)) :
    openFrames s₀ t c (n :: J) = openFrames s₀ t c J := by
  cases n with
  | pushed t c frame => cases h
  | popped t c f => cases h
  | changed t e => rfl
  | logged message => rfl
  | entered e => rfl

namespace Follows

variable {ε : Type} {s₀ s : Store} {J : List (Note ε)}

/-- No stack has two frames with one number, as long as the numbers do not repeat. -/
theorem nodup_ids (h₀ : s₀.Fresh) (h : Follows s₀ J s) (hn : s.framesIssued ≤ 2 ^ 64)
    (t : ThreadId) (c : CellId) : ((s.stack t c).frames.map Frame.id).Nodup := by
  induction h with
  | start => simp [h₀.empty]
  | revised _ hs ih =>
    rw [hs.keepsStacks.stack]
    exact ih (Nat.le_trans hs.framesIssued_le hn)
  | noted _ n _ ih => exact ih hn
  | @pushed J s h u d ih =>
    rw [Store.framesIssued_push] at hn
    have ih := ih (by omega)
    rw [Store.stack_push]
    -- Open frames have numbers that were given out, and the new one has the next.
    split
    · refine List.nodup_cons.2 ⟨fun hmem => ?_, ih⟩
      obtain ⟨frame, hframe, hid⟩ := List.mem_map.1 hmem
      have hissued := ((h.wellFormed h₀.wellFormed) c).issued t frame hframe
      refine FrameId.ne_afterIssued hissued (by omega) ?_
      rw [hid, Store.push_fst_id]
    · exact ih
  | @popped J s s' u d f r h hs ih =>
    rw [Store.framesIssued_pop hs] at hn
    have ih := ih hn
    obtain ⟨frame, rest, -, htop, hstack⟩ := Store.stack_pop hs
    rw [hstack]
    split
    · next hc =>
      obtain ⟨rfl, hsame⟩ := hc
      rw [hsame.stack_eq, htop] at ih
      exact (List.nodup_cons.1 ih).2
    · exact ih

/-- Every stack holds the frames that have been opened on it and not been closed since. -/
theorem stack_eq_openFrames (h₀ : s₀.Fresh) (h : Follows s₀ J s) (hn : s.framesIssued ≤ 2 ^ 64)
    (t : ThreadId) (c : CellId) : (s.stack t c).frames = openFrames s₀ t c J := by
  induction h with
  | start => exact h₀.empty t c
  | revised _ hs ih =>
    rw [hs.keepsStacks.stack]
    exact ih (Nat.le_trans hs.framesIssued_le hn)
  | noted _ n hnote ih =>
    rw [openFrames_noted s₀ t c hnote]
    exact ih hn
  | @pushed J s h u d ih =>
    rw [Store.framesIssued_push] at hn
    have ih := ih (by omega)
    have hsame : s.SameStack d u t ↔ s₀.SameStack d u t := by
      unfold Store.SameStack
      rw [h.kind]
    rw [Store.stack_push]
    unfold openFrames
    simp only [hsame]
    split
    · exact congrArg (List.cons _) ih
    · exact ih
  | @popped J s s' u d f r h hs ih =>
    rw [Store.framesIssued_pop hs] at hn
    have ih := ih hn
    have hsame : s.SameStack d u t ↔ s₀.SameStack d u t := by
      unfold Store.SameStack
      rw [h.kind]
    obtain ⟨frame, rest, rfl, htop, hstack⟩ := Store.stack_pop hs
    rw [hstack]
    unfold openFrames
    simp only [hsame]
    split
    · next hc =>
      obtain ⟨rfl, hc⟩ := hc
      have hframes : (s.stack t c).frames = frame :: rest.frames := by
        rw [(hsame.2 hc).stack_eq, htop]
        rfl
      have hnodup := h.nodup_ids h₀ hn t c
      rw [hframes] at hnodup
      -- The filter drops the innermost frame only, since no frame below it has its number.
      rw [← ih, hframes, List.filter_cons_of_neg (by simp)]
      refine (List.filter_eq_self.2 fun other hother => ?_).symm
      have hne : other.id ≠ frame.id := fun heq =>
        (List.nodup_cons.1 hnodup).1 (List.mem_map.2 ⟨other, hother, heq⟩)
      simpa using hne
    · exact ih

/-- An open frame was opened at a moment of the history, on the same stack. -/
theorem exists_push (h : Follows s₀ J s) {t : ThreadId} {c : CellId} {frame : Frame}
    (hf : frame ∈ openFrames s₀ t c J) :
    ∃ u s₁ J₁ J₂, J = J₂ ++ .pushed u c frame :: J₁ ∧ s₀.SameStack c u t ∧ Follows s₀ J₁ s₁ ∧
      (s₁.push u c).1 = frame ∧ Follows (s₁.push u c).2 J₂ s := by
  induction h with
  | start => cases hf
  | revised _ hs ih =>
    obtain ⟨u, s₁, J₁, J₂, hJ, hsame, hbefore, hpush, hafter⟩ := ih hf
    exact ⟨u, s₁, J₁, J₂, hJ, hsame, hbefore, hpush, hafter.revised hs⟩
  | noted _ n hnote ih =>
    rw [openFrames_noted s₀ t c hnote] at hf
    obtain ⟨u, s₁, J₁, J₂, rfl, hsame, hbefore, hpush, hafter⟩ := ih hf
    exact ⟨u, s₁, J₁, n :: J₂, rfl, hsame, hbefore, hpush, hafter.noted n hnote⟩
  | @pushed J s h v d ih =>
    have hcases : (c = d ∧ s₀.SameStack d v t ∧ frame = (s.push v d).1) ∨
        frame ∈ openFrames s₀ t c J := by
      unfold openFrames at hf
      split at hf
      · next hc =>
        rcases List.mem_cons.1 hf with heq | hmem
        · exact .inl ⟨hc.1, hc.2, heq⟩
        · exact .inr hmem
      · exact .inr hf
    rcases hcases with ⟨rfl, hsame, rfl⟩ | hmem
    · exact ⟨v, s, J, [], rfl, hsame, h, rfl, .start⟩
    · obtain ⟨u, s₁, J₁, J₂, rfl, hsame, hbefore, hpush, hafter⟩ := ih hmem
      exact ⟨u, s₁, J₁, _ :: J₂, rfl, hsame, hbefore, hpush, hafter.pushed v d⟩
  | @popped J s s' v d f r h hs ih =>
    have hmem : frame ∈ openFrames s₀ t c J := by
      unfold openFrames at hf
      split at hf
      · exact (List.mem_filter.1 hf).1
      · exact hf
    obtain ⟨u, s₁, J₁, J₂, rfl, hsame, hbefore, hpush, hafter⟩ := ih hmem
    exact ⟨u, s₁, J₁, _ :: J₂, rfl, hsame, hbefore, hpush, hafter.popped hs⟩

end Follows

/-- What closing a frame leaves of its variable. The frame was opened at some moment of the history
on the same stack, and what the thread sees is what the opener saw then. The outermost frame of a
dynamic variable takes the binding with it, and the root is seen. -/
structure GivesBack {ε : Type} (s₀ : Store) (J : List (Note ε)) (s s' : Store) (t : ThreadId)
    (c : CellId) (frame : Frame) (below : List Frame) : Prop where
  opened : ∃ u s₁ J₁ J₂, J = J₂ ++ .pushed u c frame :: J₁ ∧ s₀.SameStack c u t ∧
    Follows s₀ J₁ s₁ ∧ (s₁.push u c).1 = frame ∧ Follows (s₁.push u c).2 J₂ s ∧
    frame.saved = s₁.read u c
  stack : (s'.stack t c).frames = below
  seen : s.kind c = .root ∨ below ≠ [] → s'.read t c = frame.saved
  unbound : s.kind c = .dynamic → below = [] → s'.isBound t c = false ∧ s'.read t c = s.root c

namespace Follows

variable {ε : Type} {s₀ s : Store} {J : List (Note ε)}

/-- The frame opened last among the open ones can be closed. -/
theorem pop_last (h₀ : s₀.Fresh) (h : Follows s₀ J s) (hn : s.framesIssued ≤ 2 ^ 64)
    {t : ThreadId} {c : CellId} {frame : Frame} {below : List Frame}
    (hopen : openFrames s₀ t c J = frame :: below) :
    ∃ r s', s.pop t c frame.id = .ok (r, s') ∧ GivesBack s₀ J s s' t c frame below := by
  have hwf := h.wellFormed h₀.wellFormed
  have hstack : s.stack t c = FrameStack.push ⟨below⟩ frame := by
    have hframes := h.stack_eq_openFrames h₀ hn t c
    rw [hopen] at hframes
    exact congrArg FrameStack.mk hframes
  obtain ⟨r, s', hpop⟩ := Store.pop_of_top hstack
  obtain ⟨hseen, hunbound⟩ := (hwf c).read_pop hstack hpop
  refine ⟨r, s', hpop, ?_, ?_, fun hvis => hseen ?_, fun hk hbelow => ?_⟩
  · have hmem : frame ∈ openFrames s₀ t c J := by
      rw [hopen]
      exact List.mem_cons_self
    obtain ⟨u, s₁, J₁, J₂, hJ, hsame, hbefore, hpush, hafter⟩ := h.exists_push hmem
    refine ⟨u, s₁, J₁, J₂, hJ, hsame, hbefore, hpush, hafter, ?_⟩
    rw [← hpush]
    exact (hbefore.wellFormed h₀.wellFormed c).saved_push u
  · exact congrArg FrameStack.frames (Store.stack_pop_top hstack hpop (.inr rfl))
  · rcases hvis with hk | hbelow
    · exact .inl hk
    · exact .inr (by simpa [FrameStack.isEmpty] using hbelow)
  · subst hbelow
    obtain ⟨hbound, hroot⟩ := hunbound hk rfl
    refine ⟨hbound, ?_⟩
    rw [Store.read_of_not_bound hbound, hroot]

/-- Every other frame is rejected, and the fault names the one opened last. -/
theorem pop_other (h₀ : s₀.Fresh) (h : Follows s₀ J s) (hn : s.framesIssued ≤ 2 ^ 64)
    {t : ThreadId} {c : CellId} {f : FrameId}
    (hlast : (openFrames s₀ t c J).head?.map Frame.id ≠ some f) :
    s.pop t c f = .error (.outOfOrder (s.symbol c).display f
      ((openFrames s₀ t c J).head?.map Frame.id)) := by
  have htop : (s.stack t c).top? = (openFrames s₀ t c J).head? := by
    unfold FrameStack.top?
    rw [h.stack_eq_openFrames h₀ hn]
  rw [← htop] at hlast ⊢
  exact Store.pop_of_not_top hlast

end Follows

/-- Over whole histories, frames close in the opposite order and give back what they saved. Programs
make histories, with any watches and cut off anywhere. At every moment of a history a frame can be
closed exactly if it is the one opened last among those of its stack that are still open. Then what
its opener saw is back before any watch is told; otherwise the fault names the frame and the one
opened last, and the world stays as it is, so no watch is told of anything. -/
theorem closes_last_opened {υ ε : Type} {w₀ : World (Hands υ) ε} (h₀ : w₀.store.Fresh) :
    (∀ (rules : Rules υ ε) (depth : Nat) {α : Type} (p : Program υ ε α) (ctx : Context)
        (w : World (Hands υ) ε),
      Recorded w₀ w → Recorded w₀ (p.act (rules.deliver depth) ctx w).2) ∧
    ∀ (w : World (Hands υ) ε) (J : List (Note ε)), w.journal = J ++ w₀.journal →
      Follows w₀.store J w.store → w.store.framesIssued ≤ 2 ^ 64 →
      ∀ (deliver : Delivery (Hands υ) ε) (ctx : Context) (c : CellId) (f : FrameId),
        ((∃ r s, w.store.pop ctx.thread c f = .ok (r, s)) ↔
          (openFrames w₀.store ctx.thread c J).head?.map Frame.id = some f) ∧
        (∀ frame below, openFrames w₀.store ctx.thread c J = frame :: below → frame.id = f →
          ∃ r s, GivesBack w₀.store J w.store s ctx.thread c frame below ∧
            c.pop deliver f ctx w =
              (do c.announce deliver .restore r; pure (.ok ()) :
                Act (Hands υ) ε (Except Fault Unit)) ctx (w.closed ctx.thread c f s)) ∧
        ((openFrames w₀.store ctx.thread c J).head?.map Frame.id ≠ some f →
          c.pop deliver f ctx w =
            (.done (.error (.outOfOrder (w.store.symbol c).display f
              ((openFrames w₀.store ctx.thread c J).head?.map Frame.id))), w)) := by
  refine ⟨fun rules depth α p ctx w hw => ?_, ?_⟩
  · exact hw.trans (p.recorded rules depth ctx w)
  intro w J _ hw hn deliver ctx c f
  refine ⟨⟨?_, ?_⟩, ?_, ?_⟩
  · rintro ⟨r, s, hpop⟩
    refine Decidable.byContradiction fun hlast => ?_
    rw [hw.pop_other h₀ hn hlast] at hpop
    cases hpop
  · intro hlast
    obtain ⟨frame, hhead, rfl⟩ := Option.map_eq_some_iff.1 hlast
    obtain ⟨below, hopen⟩ := List.head?_eq_some_iff.1 hhead
    obtain ⟨r, s, hpop, -⟩ := hw.pop_last h₀ hn hopen
    exact ⟨r, s, hpop⟩
  · rintro frame below hopen rfl
    obtain ⟨r, s, hpop, hback⟩ := hw.pop_last h₀ hn hopen
    exact ⟨r, s, hback, CellId.pop_of_ok hpop⟩
  · intro hlast
    exact CellId.pop_of_error (hw.pop_other h₀ hn hlast)

/-- The world in which the shared variable is overridden twice, by two threads. -/
def World.twiceOpened : World (Hands Unit) Unit :=
  ((World.start Store.sample ()).opened ⟨0⟩ ⟨1⟩).opened ⟨1⟩ ⟨1⟩

/-- The frames of this world come about from the sample by what its journal notes. -/
theorem World.twiceOpened_follows :
    Follows Store.sample twiceOpened.journal twiceOpened.store :=
  (Follows.start.pushed ⟨0⟩ ⟨1⟩).pushed ⟨1⟩ ⟨1⟩

/-- There the first thread can close the frame of the second, and cannot close its own before. -/
theorem twiceOpened_closes :
    (∃ r s, World.twiceOpened.store.pop ⟨0⟩ ⟨1⟩ (.afterIssued 1) = .ok (r, s)) ∧
      ∀ deliver, CellId.pop deliver ⟨1⟩ (.afterIssued 0) ⟨⟨0⟩, false⟩ World.twiceOpened =
        (.done (.error (.outOfOrder "y" (.afterIssued 0) (some (.afterIssued 1)))),
          World.twiceOpened) := by
  have hn : World.twiceOpened.store.framesIssued ≤ 2 ^ 64 := by decide +kernel
  have hlast : (openFrames Store.sample ⟨0⟩ ⟨1⟩ World.twiceOpened.journal).head?.map Frame.id =
      some (.afterIssued 1) := by
    decide +kernel
  have hsymbol : (World.twiceOpened.store.symbol ⟨1⟩).display = "y" := by decide +kernel
  have hmoment := (@closes_last_opened Unit Unit (.start Store.sample ()) Store.sample_fresh).2
    World.twiceOpened World.twiceOpened.journal rfl World.twiceOpened_follows hn
  refine ⟨?_, fun deliver => ?_⟩
  · exact (hmoment (fun _ _ => pure ()) ⟨⟨0⟩, false⟩ ⟨1⟩ (.afterIssued 1)).1.2 hlast
  · have hother : some (FrameId.afterIssued 1) ≠ some (.afterIssued 0) := by decide +kernel
    have hrefused := (hmoment deliver ⟨⟨0⟩, false⟩ ⟨1⟩ (.afterIssued 0)).2.2
    rw [← hsymbol, ← hlast]
    exact hrefused (hlast ▸ hother)

end ScopedBinding
