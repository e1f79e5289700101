import Mathlib.Data.List.Nodup
import Mathlib.Logic.Relation
import ScopedBinding.Proofs.Journal

/-!
# Reachable stores

A store is reachable if it comes about from the empty store by single steps of any threads: changes
of values, frames opened and closed, variables created and destroyed, threads ended. Frames may be
left open for good, and a destroyed variable may leave bindings on other threads behind.

In every reachable store the frames of a stack are numbered in the order in which they were opened,
no number is on two stacks, bindings are where frames are, and they belong to variables whose numbers
were given out (`Store.Numbered`). So a new variable finds no binding that an old one left.

Frames have numbers of 64 bits, so all this is said of stores in which fewer than `2 ^ 64` of them
were given out.
-/

set_option autoImplicit false

namespace ScopedBinding

namespace FrameId

/-- A later number is greater, as long as the numbers do not start again. -/
theorem Issued.val_lt {n : Nat} {f : FrameId} (h : f.Issued n) (hn : n + 1 < 2 ^ 64) :
    f.val < (afterIssued n).val := by
  obtain ⟨i, hi, rfl⟩ := h
  rw [UInt64.lt_iff_toNat_lt]
  simp only [afterIssued, UInt64.toNat_ofNat']
  omega

/-- The number of a frame is at most the count of those that have been issued. -/
theorem Issued.toNat_le {n : Nat} {f : FrameId} (h : f.Issued n) : f.val.toNat ≤ n := by
  obtain ⟨i, hi, rfl⟩ := h
  simp only [afterIssued, UInt64.toNat_ofNat']
  omega

end FrameId

namespace Store

/-! ## Single steps -/

/-- A single step of some thread. Frames are opened of variables that are there. -/
inductive Step (s : Store) : Store → Prop where
  | revised {s' : Store} (h : s.Revises s') : Step s s'
  | pushed (t : ThreadId) (c : CellId) (hc : (s.cell? c).isSome = true) : Step s (s.push t c).2
  | popped {s' : Store} {t : ThreadId} {c : CellId} {f : FrameId} {r : Replaced}
      (h : s.pop t c f = .ok (r, s')) : Step s s'
  | created (symbol : Symbol) (kind : CellKind) (init : Value) :
      Step s (s.create symbol kind init).2
  | destroyed (t : ThreadId) (c : CellId) : Step s (s.destroy t c)
  | ended (t : ThreadId) : Step s (s.endThread t)

/-- A store that comes about from the empty one. -/
def Reachable : Store → Prop :=
  Relation.ReflTransGen Step ∅

variable {s s' : Store}

/-- A change that opens and closes no frame creates no variable. -/
theorem Revises.cellsIssued (h : s.Revises s') : s'.cellsIssued = s.cellsIssued := by
  cases h with
  | write t c v =>
    unfold Store.write
    split <;> rfl
  | setRoot c v => rfl
  | watch c key w => rfl
  | unwatch c key => rfl
  | lock c => rfl
  | unlock c => rfl
  | issueFrame => rfl

/-- Opening a frame creates no variable. -/
theorem cellsIssued_push (s : Store) (t : ThreadId) (c : CellId) :
    (s.push t c).2.cellsIssued = s.cellsIssued := by
  cases hk : s.kind c with
  | root => rw [push_of_root hk t]; rfl
  | dynamic => rw [push_of_dynamic hk]; rfl

/-- Closing a frame creates no variable. -/
theorem cellsIssued_pop {t : ThreadId} {c : CellId} {f : FrameId} {r : Replaced}
    (h : s.pop t c f = .ok (r, s')) : s'.cellsIssued = s.cellsIssued := by
  obtain ⟨_, _, -, -, ⟨-, -, rfl⟩ | ⟨-, -, -, rfl⟩ | ⟨-, -, -, rfl⟩⟩ := pop_ok_cases h <;> rfl

/-- A change of a cell takes no variable away and adds none. -/
theorem isSome_updateCell (s : Store) (c d : CellId) (change : Cell → Cell) :
    ((s.updateCell c change).cell? d).isSome = (s.cell? d).isSome := by
  rw [cell?_updateCell]
  split
  · next hd => simp [hd]
  · rfl

/-- A change that opens and closes no frame takes no variable away and adds none. -/
theorem Revises.isSome (h : s.Revises s') (d : CellId) :
    (s'.cell? d).isSome = (s.cell? d).isSome := by
  cases h with
  | write t c v =>
    unfold Store.write
    split
    · rfl
    · exact s.isSome_updateCell c d _
  | setRoot c v => exact s.isSome_updateCell c d _
  | watch c key w => exact s.isSome_updateCell c d _
  | unwatch c key => exact s.isSome_updateCell c d _
  | lock c => exact s.isSome_updateCell c d _
  | unlock c => exact s.isSome_updateCell c d _
  | issueFrame => rfl

/-- Opening a frame takes no variable away and adds none. -/
theorem isSome_push (s : Store) (t : ThreadId) (c d : CellId) :
    ((s.push t c).2.cell? d).isSome = (s.cell? d).isSome := by
  cases hk : s.kind c with
  | root =>
    rw [push_of_root hk t]
    exact s.issueFrame.2.isSome_updateCell c d _
  | dynamic => rw [push_of_dynamic hk]; rfl

/-- Closing a frame takes no variable away and adds none. -/
theorem isSome_pop {t : ThreadId} {c : CellId} {f : FrameId} {r : Replaced}
    (h : s.pop t c f = .ok (r, s')) (d : CellId) : (s'.cell? d).isSome = (s.cell? d).isSome := by
  obtain ⟨_, _, -, -, ⟨-, -, rfl⟩ | ⟨-, -, -, rfl⟩ | ⟨-, -, -, rfl⟩⟩ := pop_ok_cases h
  · exact s.isSome_updateCell c d _
  · rfl
  · rfl

/-! ## Bindings after a step -/

/-- A write binds nothing: where there is a binding after it, there was one before. -/
theorem isBound_write (s : Store) (t u : ThreadId) (c d : CellId) (v : Value) :
    (s.write t c v).2.isBound u d = s.isBound u d := by
  unfold write
  split
  · next b hb =>
    unfold isBound
    rw [binding?_putBinding]
    split
    · next hu =>
      obtain ⟨rfl, rfl⟩ := Prod.mk.inj hu
      rw [hb]
      rfl
    · rfl
  · rfl

/-- A change that opens and closes no frame binds nothing. -/
theorem Revises.isBound (h : s.Revises s') (u : ThreadId) (d : CellId) :
    s'.isBound u d = s.isBound u d := by
  cases h with
  | write t c v => exact s.isBound_write t u c d v
  | setRoot c v => rfl
  | watch c key w => rfl
  | unwatch c key => rfl
  | lock c => rfl
  | unlock c => rfl
  | issueFrame => rfl

/-- Opening a frame binds no other variable. -/
theorem isBound_of_push {t u : ThreadId} {c d : CellId} (h : (s.push t c).2.isBound u d = true) :
    d = c ∨ s.isBound u d = true := by
  by_cases hd : d = c
  · exact .inl hd
  · rw [(s.sameAt_push t hd).isBound] at h
    exact .inr h

/-- Closing a frame binds nothing. -/
theorem isBound_of_pop {t u : ThreadId} {c d : CellId} {f : FrameId} {r : Replaced}
    (hpop : s.pop t c f = .ok (r, s')) (h : s'.isBound u d = true) :
    s.isBound u d = true := by
  unfold isBound at h ⊢
  obtain ⟨frame, rest, -, hstack, ⟨-, -, rfl⟩ | ⟨-, -, -, rfl⟩ | ⟨hk, -, -, rfl⟩⟩ :=
    pop_ok_cases hpop
  · exact h
  · rw [binding?_eraseBinding] at h
    split at h
    · cases h
    · exact h
  · rw [binding?_putBinding] at h
    split at h
    · next hu =>
      -- What was closed was a frame of the thread's binding.
      obtain ⟨rfl, rfl⟩ := Prod.mk.inj hu
      rw [stack_of_dynamic hk] at hstack
      cases hb : s.binding? u d with
      | some b => rfl
      | none =>
        rw [hb] at hstack
        cases hstack
    · exact h

/-- The bindings of a thread go with it, and no others. -/
theorem binding?_endThread (s : Store) (t u : ThreadId) (d : CellId) :
    (s.endThread t).binding? u d = if u = t then none else s.binding? u d := by
  unfold binding? endThread
  dsimp only
  rw [Table.get?_filterKeys]
  by_cases hu : u = t
  · simp [hu]
  · simp [hu]

/-- A destroyed variable takes along the binding of the thread that destroys it, and no other. -/
theorem binding?_destroy (s : Store) (t u : ThreadId) (c d : CellId) :
    (s.destroy t c).binding? u d = if (u, d) = (t, c) then none else s.binding? u d :=
  s.binding?_eraseBinding t u c d

/-- A destroyed variable is gone, and no other. -/
theorem cell?_destroy (s : Store) (t : ThreadId) (c d : CellId) :
    (s.destroy t c).cell? d = if d = c then none else s.cell? d :=
  s.cells.get?_erase c d

/-- A new variable is there under the next number. -/
theorem cell?_create (s : Store) (symbol : Symbol) (kind : CellKind) (init : Value) (d : CellId) :
    (s.create symbol kind init).2.cell? d =
      if d = ⟨s.cellsIssued⟩ then
        some ⟨symbol, match kind with | .dynamic => .perThread | .root => .shared ∅, init, false, ∅⟩
      else s.cell? d :=
  s.cells.get?_insert _ d _

/-! ## The invariant -/

/-- What the numbers of frames and variables tell in every store. -/
structure Numbered (s : Store) : Prop where
  wellFormed : s.WellFormed
  /-- The frames of a stack are numbered in the order in which they were opened. -/
  ordered : ∀ t c, (s.stack t c).frames.Pairwise fun inner outer => outer.id.val < inner.id.val
  /-- No number is on two stacks. -/
  apart : ∀ t c u d, ∀ frame ∈ (s.stack t c).frames, ∀ other ∈ (s.stack u d).frames,
    frame.id = other.id → c = d ∧ s.SameStack c t u
  /-- Variables have numbers that were given out. -/
  cells : ∀ c, (s.cell? c).isSome = true → c.index < s.cellsIssued
  /-- Bindings are of variables with numbers that were given out. -/
  bindings : ∀ t c, s.isBound t c = true → c.index < s.cellsIssued

namespace Numbered

/-- Nothing is issued in the empty store. -/
theorem empty : (∅ : Store).Numbered where
  wellFormed := Fresh.wellFormed ⟨fun _ _ => rfl, fun _ _ => rfl⟩
  ordered _ _ := .nil
  apart _ _ _ _ := nofun
  cells _ := nofun
  bindings _ _ := nofun

/-- A number on a stack tells the frame. -/
theorem frame_eq (h : s.Numbered) {t : ThreadId} {c : CellId} {frame other : Frame}
    (hframe : frame ∈ (s.stack t c).frames) (hother : other ∈ (s.stack t c).frames)
    (hid : frame.id = other.id) : frame = other := by
  have hnodup : ((s.stack t c).frames.map Frame.id).Nodup := by
    rw [List.nodup_iff_pairwise_ne, List.pairwise_map]
    apply (h.ordered t c).imp
    intro inner outer hlt heq
    rw [heq] at hlt
    exact absurd hlt (UInt64.lt_irrefl _)
  exact List.inj_on_of_nodup_map hnodup hframe hother hid

/-- The stacks stay numbered if each of them is left as it is or emptied. -/
theorem of_stacks (h : s.Numbered) (hwf : s'.WellFormed)
    (hstack : ∀ t c, (s'.stack t c).frames = [] ∨
      s'.stack t c = s.stack t c ∧ s'.kind c = s.kind c)
    (hcells : ∀ c, (s'.cell? c).isSome = true → c.index < s'.cellsIssued)
    (hbindings : ∀ t c, s'.isBound t c = true → c.index < s'.cellsIssued) : s'.Numbered where
  wellFormed := hwf
  ordered t c := by
    rcases hstack t c with hnil | ⟨hsame, -⟩
    · rw [hnil]
      exact .nil
    · rw [hsame]
      exact h.ordered t c
  apart t c u d frame hframe other hother hid := by
    rcases hstack t c with hnil | ⟨hsame, hkind⟩
    · rw [hnil] at hframe
      cases hframe
    rcases hstack u d with hnil | ⟨hsame', -⟩
    · rw [hnil] at hother
      cases hother
    rw [hsame] at hframe
    rw [hsame'] at hother
    unfold SameStack
    rw [hkind]
    exact h.apart t c u d frame hframe other hother hid
  cells := hcells
  bindings := hbindings

/-- A change that opens and closes no frame keeps the numbers in order. -/
theorem revised (h : s.Numbered) (hs : s.Revises s') : s'.Numbered := by
  have hkeeps := hs.keepsStacks
  apply h.of_stacks (hs.wellFormed h.wellFormed)
  · intro t c
    exact .inr ⟨hkeeps.stack t c, hkeeps.kind c⟩
  · intro c hc
    rw [hs.isSome] at hc
    rw [hs.cellsIssued]
    exact h.cells c hc
  · intro t c hb
    rw [hs.isBound] at hb
    rw [hs.cellsIssued]
    exact h.bindings t c hb

/-- The new frame has the greatest number, and no other frame has it. -/
theorem pushed (h : s.Numbered) (t : ThreadId) {c : CellId} (hc : (s.cell? c).isSome = true)
    (hn : s.framesIssued + 1 < 2 ^ 64) : (s.push t c).2.Numbered where
  wellFormed := h.wellFormed.push t c
  ordered u d := by
    rw [stack_push]
    split
    · refine List.pairwise_cons.2 ⟨fun frame hframe => ?_, h.ordered u d⟩
      rw [push_fst_id]
      exact ((h.wellFormed d).issued u frame hframe).val_lt hn
    · exact h.ordered u d
  apart u d v e frame hframe other hother hid := by
    have hsame : (s.push t c).2.SameStack d u v ↔ s.SameStack d u v := by
      unfold SameStack
      rw [kind_push]
    rw [hsame]
    -- A frame is the new one, or it was there before and has another number than the new one.
    have hcases : ∀ u d, ∀ frame ∈ ((s.push t c).2.stack u d).frames,
        (frame = (s.push t c).1 ∧ d = c ∧ s.SameStack c t u) ∨
          (frame.id ≠ (s.push t c).1.id ∧ frame ∈ (s.stack u d).frames) := by
      intro u d frame hframe
      have hold : frame ∈ (s.stack u d).frames → frame.id ≠ (s.push t c).1.id := by
        intro hmem
        rw [push_fst_id]
        exact FrameId.ne_afterIssued ((h.wellFormed d).issued u frame hmem) (by omega)
      rw [stack_push] at hframe
      split at hframe
      · next hat =>
        rcases List.mem_cons.1 hframe with rfl | hmem
        · exact .inl ⟨rfl, hat⟩
        · exact .inr ⟨hold hmem, hmem⟩
      · exact .inr ⟨hold hframe, hframe⟩
    rcases hcases u d frame hframe with ⟨rfl, rfl, hu⟩ | ⟨hne, hframe⟩
    · rcases hcases v e other hother with ⟨-, rfl, hv⟩ | ⟨hne, -⟩
      · refine ⟨rfl, ?_⟩
        unfold SameStack at hu hv ⊢
        rcases hu with hk | rfl
        · exact .inl hk
        · exact hv
      · exact absurd hid.symm hne
    · rcases hcases v e other hother with ⟨rfl, -, -⟩ | ⟨-, hother⟩
      · exact absurd hid hne
      · exact h.apart u d v e frame hframe other hother hid
  cells d hd := by
    rw [isSome_push] at hd
    rw [cellsIssued_push]
    exact h.cells d hd
  bindings u d hb := by
    rw [cellsIssued_push]
    rcases isBound_of_push hb with rfl | hb
    · exact h.cells d hc
    · exact h.bindings u d hb

/-- Closing a frame keeps the numbers in order. -/
theorem popped (h : s.Numbered) {t : ThreadId} {c : CellId} {f : FrameId} {r : Replaced}
    (hpop : s.pop t c f = .ok (r, s')) : s'.Numbered := by
  obtain ⟨top, rest, -, htop, hstack⟩ := stack_pop hpop
  -- What is on a stack afterwards was on it before, in the same order.
  have hsub : ∀ u d, (s'.stack u d).frames.Sublist (s.stack u d).frames := by
    intro u d
    rw [hstack]
    split
    · next hat =>
      obtain ⟨rfl, hsame⟩ := hat
      rw [hsame.stack_eq, htop]
      exact List.sublist_cons_self _ _
    · exact .refl _
  refine ⟨h.wellFormed.pop hpop, ?_, ?_, ?_, ?_⟩
  · intro u d
    exact (h.ordered u d).sublist (hsub u d)
  · intro u d v e frame hframe other hother hid
    unfold SameStack
    rw [kind_pop hpop]
    exact h.apart u d v e frame ((hsub u d).subset hframe) other ((hsub v e).subset hother) hid
  · intro d hd
    rw [isSome_pop hpop] at hd
    rw [cellsIssued_pop hpop]
    exact h.cells d hd
  · intro u d hb
    rw [cellsIssued_pop hpop]
    exact h.bindings u d (isBound_of_pop hpop hb)

/-- The next variable is bound by nobody, whatever variables that are gone have left. -/
theorem unbound_next (h : s.Numbered) (t : ThreadId) : s.binding? t ⟨s.cellsIssued⟩ = none := by
  cases hb : s.binding? t ⟨s.cellsIssued⟩ with
  | none => rfl
  | some b =>
    have hlt := h.bindings t ⟨s.cellsIssued⟩ (by simp [Store.isBound, hb])
    exact absurd hlt (Nat.lt_irrefl _)

/-- A new variable leaves the others as they are. -/
theorem sameAt_create {c : CellId} (symbol : Symbol) (kind : CellKind) (init : Value)
    (hc : c ≠ ⟨s.cellsIssued⟩) : SameAt c s (s.create symbol kind init).2 :=
  ⟨by rw [cell?_create, if_neg hc], fun _ => rfl⟩

/-- No thread has a frame on a new variable. -/
theorem stack_create (h : s.Numbered) (symbol : Symbol) (kind : CellKind) (init : Value)
    (t : ThreadId) : (s.create symbol kind init).2.stack t ⟨s.cellsIssued⟩ = ∅ := by
  have hnone : (s.create symbol kind init).2.binding? t ⟨s.cellsIssued⟩ = none := h.unbound_next t
  unfold stack
  rw [cell?_create, if_pos rfl, hnone]
  cases kind <;> rfl

/-- A new variable keeps the numbers in order. -/
theorem created (h : s.Numbered) (symbol : Symbol) (kind : CellKind) (init : Value) :
    (s.create symbol kind init).2.Numbered := by
  apply h.of_stacks
  · intro c
    by_cases hc : c = ⟨s.cellsIssued⟩
    · subst hc
      refine ⟨fun t _ => h.unbound_next t, fun t b hb => ?_, fun t frame hframe => ?_⟩
      · have hnone := h.unbound_next t
        rw [show s.binding? t ⟨s.cellsIssued⟩ = some b from hb] at hnone
        cases hnone
      · rw [h.stack_create] at hframe
        cases hframe
    · exact (h.wellFormed c).of_sameAt (sameAt_create symbol kind init hc) (Nat.le_refl _)
  · intro t c
    by_cases hc : c = ⟨s.cellsIssued⟩
    · subst hc
      rw [h.stack_create]
      exact .inl rfl
    · have hsame := sameAt_create symbol kind init hc
      exact .inr ⟨hsame.stack t, hsame.kind⟩
  · intro c hc
    show c.index < s.cellsIssued + 1
    rw [cell?_create] at hc
    split at hc
    · next hnew => simp [hnew]
    · exact Nat.lt_succ_of_lt (h.cells c hc)
  · intro t c hb
    exact Nat.lt_succ_of_lt (h.bindings t c hb)

/-- Where bindings are taken away and cells of variables that nobody shares, stacks stay or are
emptied. -/
theorem trimmed (h : s.Numbered)
    (hbinding : ∀ t c, s'.binding? t c = none ∨ s'.binding? t c = s.binding? t c)
    (hcell : ∀ c, s'.cell? c = none ∨ s'.cell? c = s.cell? c)
    (hframes : s'.framesIssued = s.framesIssued) (hissued : s'.cellsIssued = s.cellsIssued) :
    s'.Numbered := by
  have hstack : ∀ t c, (s'.stack t c).frames = [] ∨
      s'.stack t c = s.stack t c ∧ s'.kind c = s.kind c := by
    intro t c
    rcases hcell c with hgone | hcell
    · -- Without its cell a variable is seen as a dynamic one, by the bindings that are left.
      have hdyn : s'.kind c = .dynamic := by
        unfold Store.kind
        rw [hgone]
        rfl
      rw [stack_of_dynamic hdyn, hdyn]
      rcases hbinding t c with hnone | hsame
      · rw [hnone]
        exact .inl rfl
      · cases hk : s.kind c with
        | root =>
          rw [hsame, (h.wellFormed c).unbound t hk]
          exact .inl rfl
        | dynamic =>
          rw [stack_of_dynamic hk, hsame]
          exact .inr ⟨rfl, rfl⟩
    · have hkind : s'.kind c = s.kind c := by
        unfold Store.kind
        rw [hcell]
      rcases hbinding t c with hnone | hsame
      · cases hk : s.kind c with
        | root =>
          refine .inr ⟨?_, hkind.trans hk⟩
          have hstorage := storage_of_root hk t
          unfold stack at hstorage ⊢
          rw [hcell, hstorage]
        | dynamic =>
          rw [stack_of_dynamic (hkind.trans hk), hnone]
          exact .inl rfl
      · refine .inr ⟨?_, hkind⟩
        unfold stack
        rw [hcell, hsame]
  have hbound : ∀ t c b, s'.binding? t c = some b → s.binding? t c = some b := by
    intro t c b hb
    rcases hbinding t c with hnone | hsame
    · rw [hnone] at hb
      cases hb
    · rw [← hsame]
      exact hb
  apply h.of_stacks _ hstack
  · intro c hc
    rw [hissued]
    rcases hcell c with hgone | hcell
    · rw [hgone] at hc
      cases hc
    · rw [hcell] at hc
      exact h.cells c hc
  · intro t c hb
    rw [hissued]
    obtain ⟨b, hb⟩ := Option.isSome_iff_exists.1 hb
    apply h.bindings t c
    unfold Store.isBound
    rw [hbound t c b hb]
    rfl
  · intro c
    refine ⟨fun t hk => ?_, fun t b hb => ?_, fun t frame hframe => ?_⟩
    · -- A variable that still has a root for all threads had one before.
      have hk' : s.kind c = .root := by
        rcases hcell c with hgone | hcell
        · simp [Store.kind, hgone] at hk
        · unfold Store.kind at hk ⊢
          rw [← hcell]
          exact hk
      cases hb : s'.binding? t c with
      | none => rfl
      | some b =>
        have hnone := (h.wellFormed c).unbound t hk'
        rw [hbound t c b hb] at hnone
        cases hnone
    · exact (h.wellFormed c).bound t b (hbound t c b hb)
    · rw [hframes]
      rcases hstack t c with hnil | ⟨hsame, -⟩
      · rw [hnil] at hframe
        cases hframe
      · rw [hsame] at hframe
        exact (h.wellFormed c).issued t frame hframe

/-- A variable that is gone keeps the numbers in order. -/
theorem destroyed (h : s.Numbered) (t : ThreadId) (c : CellId) : (s.destroy t c).Numbered := by
  apply h.trimmed
  · intro u d
    rw [binding?_destroy]
    split
    · exact .inl rfl
    · exact .inr rfl
  · intro d
    rw [cell?_destroy]
    split
    · exact .inl rfl
    · exact .inr rfl
  · rfl
  · rfl

/-- A thread that has ended keeps the numbers in order. -/
theorem ended (h : s.Numbered) (t : ThreadId) : (s.endThread t).Numbered := by
  apply h.trimmed
  · intro u d
    rw [binding?_endThread]
    split
    · exact .inl rfl
    · exact .inr rfl
  · exact fun _ => .inr rfl
  · rfl
  · rfl

/-- Every step keeps the numbers in order. -/
theorem step (h : s.Numbered) (hs : s.Step s') (hn : s'.framesIssued < 2 ^ 64) :
    s'.Numbered := by
  cases hs with
  | revised hs => exact h.revised hs
  | pushed t c hc =>
    rw [framesIssued_push] at hn
    exact h.pushed t hc hn
  | popped hs => exact h.popped hs
  | created symbol kind init => exact h.created symbol kind init
  | destroyed t c => exact h.destroyed t c
  | ended t => exact h.ended t

end Numbered

/-- No step takes back a frame number. -/
theorem Step.framesIssued_le (h : s.Step s') : s.framesIssued ≤ s'.framesIssued := by
  cases h with
  | revised hs => exact hs.framesIssued_le
  | pushed t c hc =>
    rw [framesIssued_push]
    omega
  | popped hs => exact Nat.le_of_eq (framesIssued_pop hs).symm
  | created symbol kind init => exact Nat.le_refl _
  | destroyed t c => exact Nat.le_refl _
  | ended t => exact Nat.le_refl _

/-- Every reachable store is numbered, whatever has been done to get there. -/
theorem Reachable.numbered (h : s.Reachable) (hn : s.framesIssued < 2 ^ 64) : s.Numbered := by
  unfold Reachable at h
  induction h with
  | refl => exact .empty
  | tail _ hs ih =>
    have hle := hs.framesIssued_le
    exact (ih (by omega)).step hs hn

end Store

/-! ## Programs -/

/-- Whoever follows notes takes no variable away. -/
theorem Follows.isSome {ε : Type} {s₀ s : Store} {J : List (Note ε)} (h : Follows s₀ J s)
    (c : CellId) : (s.cell? c).isSome = (s₀.cell? c).isSome := by
  induction h with
  | start => rfl
  | revised _ hs ih => exact (hs.isSome c).trans ih
  | noted _ n hn ih => exact ih
  | pushed _ t d ih => exact (Store.isSome_push _ t d c).trans ih
  | popped _ hs ih => exact (Store.isSome_pop hs c).trans ih

/-- Notes of frames of variables that are there lead from reachable stores to reachable stores. -/
theorem Follows.reachable {ε : Type} {s₀ s : Store} {J : List (Note ε)} (h : Follows s₀ J s)
    (h₀ : s₀.Reachable)
    (hJ : ∀ t c frame, Note.pushed t c frame ∈ J → (s₀.cell? c).isSome = true) :
    s.Reachable := by
  induction h with
  | start => exact h₀
  | revised _ hs ih => exact (ih hJ).tail (.revised hs)
  | noted _ n hn ih => exact ih fun t c frame hmem => hJ t c frame (List.mem_cons_of_mem _ hmem)
  | pushed h t c ih =>
    have hc := hJ t c _ List.mem_cons_self
    rw [← h.isSome c] at hc
    have ih := ih fun u d frame hmem => hJ u d frame (List.mem_cons_of_mem _ hmem)
    exact ih.tail (.pushed t c hc)
  | popped _ hs ih =>
    have ih := ih fun u d frame hmem => hJ u d frame (List.mem_cons_of_mem _ hmem)
    exact ih.tail (.popped hs)

/-- In every reachable store a dynamic variable is bound on exactly the threads that have frames of
it, and all others see its root. The frames of a stack have increasing numbers, outermost first, below
the number of the next frame, and no number is on two stacks. Bindings are of variables with numbers
that were given out. A destroyed variable takes along the binding of the thread that destroys it and
nothing else; a new one is bound by nobody. Programs lead from reachable stores to reachable stores,
with any watches and however they end, as long as they override variables that are there.

The number of the next frame is one more than the count of the frames before. As a word it is greater
than theirs while there is such a word: after `2 ^ 64 - 1` frames it is zero. -/
theorem bindings_follow_frames :
    (∀ {υ ε α : Type} (rules : Rules υ ε) (depth : Nat) (p : Program υ ε α) (ctx : Context)
        (w : World (Hands υ) ε), w.store.Reachable →
      ∃ J, (p.act (rules.deliver depth) ctx w).2.journal = J ++ w.journal ∧
        ((∀ t c frame, Note.pushed t c frame ∈ J → (w.store.cell? c).isSome = true) →
          (p.act (rules.deliver depth) ctx w).2.store.Reachable)) ∧
    ∀ s : Store, s.Reachable → s.framesIssued < 2 ^ 64 →
      (∀ t c, s.kind c = .dynamic →
        (s.isBound t c = true ↔ 0 < s.depth t c) ∧
          (s.isBound t c = false → s.read t c = s.root c)) ∧
      (∀ t c,
        (s.stack t c).frames.reverse.Pairwise (fun outer inner => outer.id.val < inner.id.val) ∧
          ∀ frame ∈ (s.stack t c).frames, frame.id.val.toNat < s.framesIssued + 1 ∧
            (s.framesIssued + 1 < 2 ^ 64 →
              frame.id.val < (FrameId.afterIssued s.framesIssued).val)) ∧
      (∀ t c u d, ∀ frame ∈ (s.stack t c).frames, ∀ other ∈ (s.stack u d).frames,
        frame.id = other.id → c = d ∧ s.SameStack c t u ∧ frame = other) ∧
      (∀ t c, s.isBound t c = true → c.index < s.cellsIssued) ∧
      (∀ t c, s.kind c = .dynamic →
        (∀ u d, (s.destroy t c).binding? u d =
            if (u, d) = (t, c) then none else s.binding? u d) ∧
          ∀ d, (s.destroy t c).cell? d = if d = c then none else s.cell? d) ∧
      ∀ symbol init t,
        let (c, s') := s.create symbol .dynamic init
        s'.kind c = .dynamic ∧ s'.isBound t c = false ∧ s'.depth t c = 0 ∧ s'.read t c = init := by
  constructor
  · intro υ ε α rules depth p ctx w hw
    obtain ⟨J, hJ, hfollows⟩ := p.recorded rules depth ctx w
    exact ⟨J, hJ, fun hlive => hfollows.reachable hw hlive⟩
  intro s hs hn
  have h := hs.numbered hn
  refine ⟨?_, ?_, ?_, h.bindings, ?_, ?_⟩
  · intro t c hk
    refine ⟨?_, Store.read_of_not_bound⟩
    rw [h.wellFormed.isBound_iff hk]
    simp [Store.depth, FrameStack.depth, FrameStack.isEmpty, List.length_pos_iff]
  · intro t c
    constructor
    · rw [List.pairwise_reverse]
      exact h.ordered t c
    · intro frame hframe
      have hissued := (h.wellFormed c).issued t frame hframe
      exact ⟨Nat.lt_succ_of_le hissued.toNat_le, hissued.val_lt⟩
  · intro t c u d frame hframe other hother hid
    obtain ⟨rfl, hsame⟩ := h.apart t c u d frame hframe other hother hid
    rw [hsame.stack_eq] at hother
    exact ⟨rfl, hsame, h.frame_eq hframe hother hid⟩
  · intro t c _
    exact ⟨fun u d => s.binding?_destroy t u c d, s.cell?_destroy t c⟩
  · intro symbol init t
    have hcell : (s.create symbol .dynamic init).2.cell? ⟨s.cellsIssued⟩ =
        some ⟨symbol, .perThread, init, false, ∅⟩ := by
      rw [Store.cell?_create, if_pos rfl]
    have hbound : (s.create symbol .dynamic init).2.isBound t ⟨s.cellsIssued⟩ = false := by
      unfold Store.isBound
      rw [show (s.create symbol .dynamic init).2.binding? t ⟨s.cellsIssued⟩ = none from
        h.unbound_next t]
      rfl
    refine ⟨?_, hbound, ?_, ?_⟩
    · show (s.create symbol .dynamic init).2.kind ⟨s.cellsIssued⟩ = .dynamic
      simp [Store.kind, hcell, Cell.kind]
    · show (s.create symbol .dynamic init).2.depth t ⟨s.cellsIssued⟩ = 0
      unfold Store.depth
      rw [h.stack_create]
      rfl
    · show (s.create symbol .dynamic init).2.read t ⟨s.cellsIssued⟩ = init
      rw [Store.read_of_not_bound hbound]
      simp [Store.root, hcell]

/-- A store with one dynamic variable, which nobody has bound. -/
def Store.single : Store :=
  ((∅ : Store).create ⟨0, "x", none⟩ .dynamic (.int 1)).2

/-- The example comes about by creating its variable. -/
theorem Store.single_reachable : single.Reachable :=
  .single (.created ⟨0, "x", none⟩ .dynamic (.int 1))

/-- A store in which two threads bound a variable and one of them destroyed it. -/
def Store.leftBehind : Store :=
  (((single.push ⟨0⟩ ⟨0⟩).2.push ⟨1⟩ ⟨0⟩).2.destroy ⟨0⟩ ⟨0⟩)

/-- The example comes about step by step. -/
theorem Store.leftBehind_reachable : leftBehind.Reachable := by
  have hbound : (single.push ⟨0⟩ ⟨0⟩).2.Reachable :=
    single_reachable.tail (.pushed ⟨0⟩ ⟨0⟩ (by decide +kernel))
  have htwice : ((single.push ⟨0⟩ ⟨0⟩).2.push ⟨1⟩ ⟨0⟩).2.Reachable :=
    hbound.tail (.pushed ⟨1⟩ ⟨0⟩ (by decide +kernel))
  exact htwice.tail (.destroyed ⟨0⟩ ⟨0⟩)

/-- There the other thread's binding is left behind, and the next variable is not bound by it. A
program that binds the only variable of a store leads to a reachable store. -/
theorem leftBehind_unbound_next :
    Store.leftBehind.isBound ⟨1⟩ ⟨0⟩ = true ∧
      (Store.leftBehind.create ⟨1, "y", none⟩ .dynamic (.int 2)).2.isBound ⟨1⟩ ⟨1⟩ = false ∧
      (Store.leftBehind.create ⟨1, "y", none⟩ .dynamic (.int 2)).2.depth ⟨1⟩ ⟨1⟩ = 0 ∧
      ((Program.call (.push ⟨0⟩) : Program Unit Unit FrameId).act
        (Rules.deliver (fun _ _ => .call .halt) 0) ⟨⟨0⟩, false⟩
        (World.start Store.single ())).2.store.Reachable := by
  obtain ⟨-, -, -, -, -, hnew⟩ := bindings_follow_frames.2 Store.leftBehind
    Store.leftBehind_reachable (by decide +kernel)
  obtain ⟨-, hbound, hdepth, -⟩ := hnew ⟨1, "y", none⟩ (.int 2) ⟨1⟩
  refine ⟨by decide +kernel, hbound, hdepth, ?_⟩
  obtain ⟨J, hJ, hreachable⟩ := bindings_follow_frames.1 (fun _ _ => .call .halt) 0
    (Program.call (.push ⟨0⟩) : Program Unit Unit FrameId) ⟨⟨0⟩, false⟩
    (World.start Store.single ()) Store.single_reachable
  apply hreachable
  intro t c frame hmem
  -- The only note of the run tells of a frame of the only variable.
  have hnote : [Note.pushed ⟨0⟩ ⟨0⟩ (Store.single.push ⟨0⟩ ⟨0⟩).1] = J ++ [] := hJ
  rw [List.append_nil] at hnote
  rw [← hnote, List.mem_singleton] at hmem
  cases hmem
  show (Store.single.cell? ⟨0⟩).isSome = true
  decide +kernel

end ScopedBinding
