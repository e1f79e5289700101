import ScopedBinding.Proofs.Lifo
import ScopedBinding.Proofs.Reach

/-!
# Guards and their frames

In a run where frames are closed only through guards, a guard that a program holds is acquired
exactly while its frame is open, with one exception. A release closes the frame first, then tells the
watches, and only then sets the state. If a watch panics the state is never set: the guard stays
acquired and its frame is gone (`HeldGuard.interrupted`). `Agreement` says this of all guards in a
program's hands, and that they have frames of their own. The relations here say of a step that it
keeps the agreement, beside sparing the frames that are out of reach.
-/

set_option autoImplicit false

namespace ScopedBinding

open Act (Leads)

/-- Whether a frame is open on the stack that a thread sees of a variable. -/
def Store.isOpen (s : Store) (t : ThreadId) (c : CellId) (f : FrameId) : Bool :=
  (s.stack t c).contains f

namespace Store

variable {s s' : Store} {t u : ThreadId} {c d : CellId} {f f' : FrameId}

/-- A frame is open if the stack has its number. -/
theorem isOpen_iff : s.isOpen t c f = true ↔ f ∈ (s.stack t c).frames.map Frame.id := by
  simp [isOpen, FrameStack.contains]

/-- Keeping all stacks keeps every frame open or closed. -/
theorem isOpen_of_keepsStacks (h : KeepsStacks s s') : s'.isOpen t c f = s.isOpen t c f := by
  unfold isOpen
  rw [h.stack]

/-- Opening a frame leaves all others as they are. -/
theorem isOpen_push (h : f ≠ (s.push t c).1.id) :
    (s.push t c).2.isOpen u d f = s.isOpen u d f := by
  unfold isOpen
  rw [stack_push]
  split
  · simp [FrameStack.contains, FrameStack.push, Ne.symm h]
  · rfl

/-- A frame just opened is open. -/
theorem isOpen_push_self (s : Store) (t : ThreadId) (c : CellId) :
    (s.push t c).2.isOpen t c (s.push t c).1.id = true := by
  unfold isOpen
  rw [stack_push, if_pos ⟨rfl, .inr rfl⟩]
  simp [FrameStack.contains, FrameStack.push]

/-- Closing a frame leaves all others as they are. -/
theorem isOpen_pop {r : Replaced} (hpop : s.pop t c f' = .ok (r, s')) (h : f ≠ f') :
    s'.isOpen u d f = s.isOpen u d f := by
  obtain ⟨frame, rest, rfl, htop, hstack⟩ := stack_pop hpop
  unfold isOpen
  rw [hstack]
  split
  · next hd =>
    obtain ⟨rfl, hu⟩ := hd
    rw [hu.stack_eq, htop]
    simp [FrameStack.contains, FrameStack.push, Ne.symm h]
  · rfl

/-- Only an open frame can be closed. -/
theorem isOpen_of_pop {r : Replaced} (hpop : s.pop t c f = .ok (r, s')) :
    s.isOpen t c f = true := by
  obtain ⟨frame, rest, rfl, htop, -⟩ := stack_pop hpop
  unfold isOpen
  rw [htop]
  simp [FrameStack.contains, FrameStack.push]

/-- A frame just closed is not open, as no other frame has its number. -/
theorem not_isOpen_pop {r : Replaced} (hnodup : ((s.stack t c).frames.map Frame.id).Nodup)
    (hpop : s.pop t c f = .ok (r, s')) : s'.isOpen t c f = false := by
  obtain ⟨frame, rest, rfl, htop, hstack⟩ := stack_pop hpop
  rw [Bool.eq_false_iff]
  intro hopen
  rw [isOpen_iff, hstack, if_pos ⟨rfl, .inr rfl⟩] at hopen
  rw [htop] at hnodup
  exact (List.nodup_cons.1 hnodup).1 hopen

/-- A frame that is not open cannot be closed. -/
theorem pop_of_not_isOpen (h : s.isOpen t c f = false) :
    s.pop t c f = .error (.outOfOrder (s.symbol c).display f ((s.stack t c).top?.map Frame.id)) := by
  refine pop_of_not_top fun htop => ?_
  obtain ⟨frame, hhead, rfl⟩ := Option.map_eq_some_iff.1 htop
  have hmem : frame ∈ (s.stack t c).frames := List.mem_of_head? hhead
  rw [isOpen_iff.2 (List.mem_map.2 ⟨frame, hmem, rfl⟩)] at h
  cases h

/-- A frame that is spared stays open or closed. -/
theorem isOpen_of_outward (h : s'.outward [f] t c = s.outward [f] t c) :
    s'.isOpen t c f = s.isOpen t c f := by
  have hopen : ∀ s : Store, s.isOpen t c f = !(s.outward [f] t c).isEmpty := by
    intro s
    unfold isOpen outward FrameStack.contains
    induction (s.stack t c).frames with
    | nil => rfl
    | cons frame rest ih =>
      by_cases hf : frame.id = f
      · simp [hf]
      · simp [hf, ih]
  rw [hopen, hopen, h]

end Store

/-- A guard of a thread is acquired exactly if its frame is open. -/
def Guard.Agrees (g : Guard) (t : ThreadId) (s : Store) : Prop :=
  g.state = .acquired ↔ s.isOpen t g.cell g.frame = true

/-- How the state of a guard goes with the stack. It agrees, unless a release of the guard was cut
short; then the guard is acquired and its frame is not open. -/
structure HeldGuard.InOrder (h : HeldGuard) (s : Store) : Prop where
  kept : h.guard.state ≠ .abandoned
  agrees : h.interrupted = false → h.guard.Agrees h.thread s
  gone : h.interrupted = true →
    h.guard.state = .acquired ∧ s.isOpen h.thread h.guard.cell h.guard.frame = false

namespace HeldGuard.InOrder

variable {h : HeldGuard} {s s' : Store}

/-- A guard is in order in another store in which its frame is open or not as before. -/
theorem of_isOpen (hs : h.InOrder s) (hopen : s'.isOpen h.thread h.guard.cell h.guard.frame =
    s.isOpen h.thread h.guard.cell h.guard.frame) : h.InOrder s' := by
  refine ⟨hs.kept, fun hi => ?_, fun hi => ?_⟩
  · unfold Guard.Agrees
    rw [hopen]
    exact hs.agrees hi
  · rw [hopen]
    exact hs.gone hi

/-- The state of a guard tells whether its frame is open exactly if no release was cut short. -/
theorem agrees_iff (hs : h.InOrder s) : h.guard.Agrees h.thread s ↔ h.interrupted = false := by
  refine ⟨fun hagrees => ?_, hs.agrees⟩
  cases hi : h.interrupted with
  | false => rfl
  | true =>
    obtain ⟨hstate, hgone⟩ := hs.gone hi
    rw [hagrees.1 hstate] at hgone
    cases hgone

end HeldGuard.InOrder

section Worlds

variable {υ ε : Type}

/-- The world with a guard taken out of the program's hands. -/
def World.without (w : World (Hands υ) ε) (n : Nat) : World (Hands υ) ε :=
  { w with host := { w.host with guards := w.host.guards.erase n } }

/-- The world with a guard put into the program's hands. -/
def World.withGuard (w : World (Hands υ) ε) (n : Nat) (h : HeldGuard) : World (Hands υ) ε :=
  { w with host := { w.host with guards := w.host.guards.insert n h } }

/-- A guard put in hand is there. -/
theorem World.get?_withGuard (w : World (Hands υ) ε) (n : Nat) (h : HeldGuard) :
    (w.withGuard n h).host.guards.get? n = some h := by
  show (w.host.guards.insert n h).get? n = some h
  rw [Table.get?_insert, if_pos rfl]

/-- A guard that is left in the program's hands was there before. -/
theorem World.of_get?_without {w : World (Hands υ) ε} {n m : Nat} {h : HeldGuard}
    (hget : (w.without n).host.guards.get? m = some h) :
    m ≠ n ∧ w.host.guards.get? m = some h := by
  change (w.host.guards.erase n).get? m = some h at hget
  rw [Table.get?_erase] at hget
  split at hget
  · cases hget
  · next hm => exact ⟨hm, hget⟩

/-- A guard in the program's hands is the one that was put there, or it was there before. -/
theorem World.of_get?_withGuard {w : World (Hands υ) ε} {n m : Nat} {h k : HeldGuard}
    (hget : (w.withGuard n k).host.guards.get? m = some h) :
    (m = n ∧ h = k) ∨ (m ≠ n ∧ w.host.guards.get? m = some h) := by
  change (w.host.guards.insert n k).get? m = some h at hget
  rw [Table.get?_insert] at hget
  split at hget
  · next hm => exact .inl ⟨hm, (Option.some.inj hget).symm⟩
  · next hm => exact .inr ⟨hm, hget⟩

/-- The guards in a program's hands have frames of their own and agree with the stacks. -/
structure Agreement (w : World (Hands υ) ε) : Prop where
  wellFormed : w.store.WellFormed
  nodup : ∀ t c, ((w.store.stack t c).frames.map Frame.id).Nodup
  issued : ∀ n h, w.host.guards.get? n = some h → h.guard.frame.Issued w.store.framesIssued
  distinct : ∀ n m h k, w.host.guards.get? n = some h → w.host.guards.get? m = some k →
    h.guard.frame = k.guard.frame → n = m
  inOrder : ∀ n h, w.host.guards.get? n = some h → h.InOrder w.store

namespace Agreement

variable {w w' : World (Hands υ) ε}

/-- A program that starts with nothing overridden and no guard. -/
theorem start (hs : w.store.Fresh) (hg : ∀ n, w.host.guards.get? n = none) : Agreement w := by
  refine ⟨hs.wellFormed, fun t c => by simp [hs.empty], ?_, ?_, ?_⟩
  · intro n h hget
    rw [hg] at hget
    cases hget
  · intro n m h k hget
    rw [hg] at hget
    cases hget
  · intro n h hget
    rw [hg] at hget
    cases hget

/-- A step that keeps the stacks and gives the program no guard. -/
theorem of_keepsStacks (h : Agreement w) (hwf : w'.store.WellFormed)
    (hs : Store.KeepsStacks w.store w'.store)
    (hn : w.store.framesIssued ≤ w'.store.framesIssued)
    (hg : ∀ n k, w'.host.guards.get? n = some k → w.host.guards.get? n = some k) :
    Agreement w' := by
  refine ⟨hwf, fun t c => ?_, fun n k hget => (h.issued n k (hg n k hget)).mono hn, ?_, ?_⟩
  · rw [hs.stack]
    exact h.nodup t c
  · exact fun n m k k' hget hget' => h.distinct n m k k' (hg n k hget) (hg m k' hget')
  · exact fun n k hget => (h.inOrder n k (hg n k hget)).of_isOpen (Store.isOpen_of_keepsStacks hs)

/-- Opening a frame. Its number is new, so it is the frame of no guard in the program's hands. -/
theorem opened (h : Agreement w) (t : ThreadId) (c : CellId)
    (hn : w.store.framesIssued + 1 ≤ 2 ^ 64) :
    Agreement (w.opened t c) ∧ OutOfReach [(w.store.push t c).1.id] (w.opened t c) := by
  have hissued : (w.opened t c).store.framesIssued = w.store.framesIssued + 1 :=
    Store.framesIssued_push w.store t c
  have hnew : ∀ f : FrameId, f.Issued w.store.framesIssued → f ≠ (w.store.push t c).1.id := by
    intro f hf
    rw [Store.push_fst_id]
    exact FrameId.ne_afterIssued hf (by omega)
  refine ⟨⟨h.wellFormed.push t c, fun u d => ?_, fun n k hget => ?_, h.distinct, ?_⟩, ?_⟩
  · show (((w.store.push t c).2.stack u d).frames.map Frame.id).Nodup
    rw [Store.stack_push]
    split
    · refine List.nodup_cons.2 ⟨fun hmem => ?_, h.nodup u d⟩
      obtain ⟨frame, hframe, hid⟩ := List.mem_map.1 hmem
      exact hnew _ ((h.wellFormed d).issued u frame hframe) hid
    · exact h.nodup u d
  · exact (h.issued n k hget).mono (by omega)
  · intro n k hget
    exact (h.inOrder n k hget).of_isOpen (Store.isOpen_push (hnew _ (h.issued n k hget)))
  · refine ⟨fun f hf => ?_, fun n k hget hmem => ?_⟩
    · obtain rfl := List.mem_singleton.1 hf
      rw [Store.push_fst_id, hissued]
      exact ⟨_, Nat.lt_succ_self _, rfl⟩
    · exact hnew _ (h.issued n k hget) (List.mem_singleton.1 hmem)

/-- Closing a frame that is the frame of no guard in the program's hands. -/
theorem closed (h : Agreement w) {t : ThreadId} {c : CellId} {f : FrameId} {r : Replaced}
    {s : Store} (hf : OutOfReach [f] w) (hpop : w.store.pop t c f = .ok (r, s)) :
    Agreement (w.closed t c f s) ∧ OutOfReach [f] (w.closed t c f s) := by
  have hissued : (w.closed t c f s).store.framesIssued = w.store.framesIssued :=
    Store.framesIssued_pop hpop
  refine ⟨⟨h.wellFormed.pop hpop, fun u d => ?_, fun n k hget => ?_, h.distinct, ?_⟩, ?_⟩
  · obtain ⟨frame, rest, -, htop, hstack⟩ := Store.stack_pop hpop
    show ((s.stack u d).frames.map Frame.id).Nodup
    rw [hstack]
    split
    · have hnodup := h.nodup t c
      rw [htop] at hnodup
      exact (List.nodup_cons.1 hnodup).2
    · exact h.nodup u d
  · rw [hissued]
    exact h.issued n k hget
  · intro n k hget
    have hne : k.guard.frame ≠ f := fun heq => hf.unheld n k hget (List.mem_singleton.2 heq)
    exact (h.inOrder n k hget).of_isOpen (Store.isOpen_pop hpop hne)
  · exact hf.mono (Nat.le_of_eq hissued.symm) fun _ _ hget => hget

/-- The program's hands lose a guard, and its frame is then out of reach. -/
theorem taken (h : Agreement w) {n : Nat} {k : HeldGuard} (hget : w.host.guards.get? n = some k) :
    Agreement (w.without n) ∧ OutOfReach [k.guard.frame] (w.without n) := by
  refine ⟨h.of_keepsStacks h.wellFormed (.refl _) (Nat.le_refl _)
    fun m k' hk => (World.of_get?_without hk).2, fun f hf => ?_, fun m k' hk hmem => ?_⟩
  · obtain rfl := List.mem_singleton.1 hf
    exact h.issued n k hget
  · obtain ⟨hm, hk'⟩ := World.of_get?_without hk
    exact hm (h.distinct m n k' k hk' hget (List.mem_singleton.1 hmem))

/-- The program's hands get a guard that is in order and has a frame of its own. -/
theorem put (h : Agreement w) {n : Nat} {k : HeldGuard} (hf : OutOfReach [k.guard.frame] w)
    (hk : k.InOrder w.store) : Agreement (w.withGuard n k) := by
  have hother : ∀ m k', w.host.guards.get? m = some k' → k'.guard.frame ≠ k.guard.frame :=
    fun m k' hget heq => hf.unheld m k' hget (List.mem_singleton.2 heq)
  refine ⟨h.wellFormed, h.nodup, fun m k' hget => ?_, fun m m' k' k'' hget hget' heq => ?_,
    fun m k' hget => ?_⟩
  · rcases World.of_get?_withGuard hget with ⟨-, rfl⟩ | ⟨-, hget⟩
    · exact hf.issued _ (List.mem_singleton.2 rfl)
    · exact h.issued m k' hget
  · rcases World.of_get?_withGuard hget with ⟨rfl, rfl⟩ | ⟨-, hold⟩
    · rcases World.of_get?_withGuard hget' with ⟨rfl, -⟩ | ⟨-, hold'⟩
      · rfl
      · exact absurd heq.symm (hother m' k'' hold')
    · rcases World.of_get?_withGuard hget' with ⟨rfl, rfl⟩ | ⟨-, hold'⟩
      · exact absurd heq (hother m k' hold)
      · exact h.distinct m m' k' k'' hold hold' heq
  · rcases World.of_get?_withGuard hget with ⟨-, rfl⟩ | ⟨-, hget⟩
    · exact hk
    · exact h.inOrder m k' hget

end Agreement

/-- What happens between two worlds keeps the agreement of the guards in the program's hands, and
spares all frames that are out of reach. -/
structure Agreeing (w w' : World (Hands υ) ε) : Prop where
  spares : SparesAll w w'
  agreement : Agreement w → w'.store.framesIssued ≤ 2 ^ 64 → Agreement w'

/-- The same while a guard is held that the program does not have in its hands. -/
structure AgreeingWith (g : Guard) (w w' : World (Hands υ) ε) : Prop where
  spares : SparesOthers g w w'
  agreement : Agreement w → OutOfReach [g.frame] w → w'.store.framesIssued ≤ 2 ^ 64 →
    Agreement w' ∧ OutOfReach [g.frame] w'

/-- What is spared gives no frame number back. -/
theorem Spares.framesIssued_le {X : List FrameId} {w w' : World (Hands υ) ε} (h : Spares X w w') :
    w.store.framesIssued ≤ w'.store.framesIssued := by
  obtain ⟨J, -, hfollows⟩ := h.recorded
  exact hfollows.framesIssued_le

namespace Agreeing

variable {w w' w'' : World (Hands υ) ε}

/-- A step that keeps the stacks and gives the program no guard. -/
theorem of_keepsStacks (h : Recorded w w') (hs : Store.KeepsStacks w.store w'.store)
    (hn : w.store.framesIssued ≤ w'.store.framesIssued)
    (hg : ∀ n k, w'.host.guards.get? n = some k → w.host.guards.get? n = some k) :
    Agreeing w w' := by
  refine ⟨fun X => .of_keepsStacks h hs hn hg, fun hw _ => ?_⟩
  obtain ⟨J, -, hfollows⟩ := h
  exact hw.of_keepsStacks (hfollows.wellFormed hw.wellFormed) hs hn hg

/-- Agreement that is kept twice is kept. -/
theorem trans (h : Agreeing w w') (h' : Agreeing w' w'') : Agreeing w w'' := by
  refine ⟨fun X => (h.spares X).trans (h'.spares X), fun hw hn => ?_⟩
  exact h'.agreement (h.agreement hw (Nat.le_trans (h'.spares []).framesIssued_le hn)) hn

/-- Whatever opens and closes no frame keeps the agreement. -/
theorem revising : Revising (@Agreeing υ ε) where
  refl w := of_keepsStacks (.refl w) (.refl _) (Nat.le_refl _) fun _ _ h => h
  trans := trans
  settings w s :=
    of_keepsStacks (Recorded.revising.settings w s) (.refl _) (Nat.le_refl _) fun _ _ h => h
  note w n hn :=
    of_keepsStacks (Recorded.revising.note w n hn) (.refl _) (Nat.le_refl _) fun _ _ h => h
  store w s hs :=
    of_keepsStacks (Recorded.revising.store w s hs) hs.keepsStacks hs.framesIssued_le
      fun _ _ h => h

/-- What agrees without a guard being held agrees with it, because it spares the frame. -/
theorem weaken (h : Agreeing w w') (g : Guard) : AgreeingWith g w w' :=
  ⟨fun X _ => h.spares X, fun hw hf hn =>
    ⟨h.agreement hw hn, ((h.spares [g.frame]).spared hf hn).1⟩⟩

end Agreeing

/-- Agreement that is kept twice beside a guard is kept. -/
theorem AgreeingWith.trans {g : Guard} {w w' w'' : World (Hands υ) ε} (h : AgreeingWith g w w')
    (h' : AgreeingWith g w' w'') : AgreeingWith g w w'' := by
  refine ⟨fun X hX => (h.spares X hX).trans (h'.spares X hX), fun hw hf hn => ?_⟩
  have hle := (h'.spares [] (by simp)).framesIssued_le
  obtain ⟨hw', hf'⟩ := h.agreement hw hf (Nat.le_trans hle hn)
  exact h'.agreement hw' hf' hn

/-- Whatever opens and closes no frame keeps the agreement beside a guard. -/
theorem AgreeingWith.revising (g : Guard) : Revising (@AgreeingWith υ ε g) where
  refl w := (Agreeing.revising.refl w).weaken g
  trans := trans
  settings w s := (Agreeing.revising.settings w s).weaken g
  note w n hn := (Agreeing.revising.note w n hn).weaken g
  store w s hs := (Agreeing.revising.store w s hs).weaken g

/-- The frame of a scope is new when it is opened, and is closed by the guard of the scope only. -/
theorem Agreeing.scoping : Scoping (@Agreeing υ ε) AgreeingWith where
  toRevising := revising
  revising_held := AgreeingWith.revising
  weaken g _ _ h := h.weaken g
  opened w t c w' h := by
    refine ⟨SparesAll.scoping.opened w t c w' h.spares, fun hw hn => ?_⟩
    have hle := (h.spares [] (by simp)).framesIssued_le
    rw [show (w.opened t c).store.framesIssued = w.store.framesIssued + 1 from
      Store.framesIssued_push w.store t c] at hle
    obtain ⟨hopened, hf⟩ := hw.opened t c (Nat.le_trans hle hn)
    exact (h.agreement hopened hf hn).1
  closed g w t r s h := by
    refine ⟨SparesAll.scoping.closed g w t r s h, fun hw hf _ => ?_⟩
    exact hw.closed hf h

end Worlds

end ScopedBinding
