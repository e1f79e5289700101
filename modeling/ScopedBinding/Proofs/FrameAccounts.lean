import ScopedBinding.Proofs.Scenes

/-!
# An account of the open frames

`Store.Accounts opened closed` says that two lists tell which frames are open: `opened` has all
frames that have ever been opened, newest first, and `closed` those of them that have been closed.
The frames on the stacks of all threads are the others, each on a single stack, and every stack has
its frames in the order in which they were opened.

The account goes on when a frame is opened (`Accounts.pushed`), when one is closed
(`Accounts.popped`), and when the store changes in another way (`Accounts.of_keepsFrames`).
-/

set_option autoImplicit false

namespace ScopedBinding.Store

variable {s s' : Store} {t u : ThreadId} {c d : CellId} {f g : FrameId}

/-- The numbers of the frames that a thread sees of a variable, innermost first. -/
def frameIds (s : Store) (t : ThreadId) (c : CellId) : List FrameId :=
  (s.stack t c).frames.map Frame.id

/-- Opening a frame puts its number on the stacks that are one with the thread's. -/
theorem frameIds_push (s : Store) (t u : ThreadId) (c d : CellId) :
    (s.push t c).2.frameIds u d =
      if d = c ∧ s.SameStack c t u then .afterIssued s.framesIssued :: s.frameIds u d
      else s.frameIds u d := by
  unfold frameIds
  rw [stack_push]
  split
  · rw [← push_fst_id s t c]
    rfl
  · rfl

/-- Closing a frame takes its number, the innermost, off the stacks that are one with the thread's. -/
theorem frameIds_pop {r : Replaced} (h : s.pop t c f = .ok (r, s')) :
    ∃ rest, s.frameIds t c = f :: rest ∧ ∀ u d, s'.frameIds u d =
      if d = c ∧ s.SameStack c t u then rest else s.frameIds u d := by
  obtain ⟨frame, rest, rfl, htop, hstack⟩ := stack_pop h
  refine ⟨rest.frames.map Frame.id, ?_, fun u d => ?_⟩
  · unfold frameIds
    rw [htop]
    rfl
  · unfold frameIds
    rw [hstack]
    split <;> rfl

/-- Only a frame that is open can be closed. -/
theorem mem_frameIds_of_pop {r : Replaced} (h : s.pop t c f = .ok (r, s')) :
    f ∈ s.frameIds t c := by
  obtain ⟨rest, htop, -⟩ := frameIds_pop h
  rw [htop]
  exact List.mem_cons_self

/-- All threads that share a stack see the same frames. -/
theorem SameStack.frameIds_eq (h : s.SameStack c t u) : s.frameIds u c = s.frameIds t c := by
  unfold frameIds
  rw [h.stack_eq]

/-- Who shares a stack depends on the kind of the variable only. -/
theorem sameStack_iff_of_kind (h : s'.kind c = s.kind c) :
    s'.SameStack c t u ↔ s.SameStack c t u := by
  unfold SameStack
  rw [h]

/-- An open frame is the new one, where it was opened, or it was open there before. -/
theorem mem_frameIds_push : f ∈ (s.push t c).2.frameIds u d ↔
    (f = .afterIssued s.framesIssued ∧ d = c ∧ s.SameStack c t u) ∨ f ∈ s.frameIds u d := by
  rw [frameIds_push]
  split
  · next hat => simp [hat]
  · next hat => simp [hat]

/-! ## Changes that open and close no frame -/

/-- A change of the store after which all stacks are as before, and every variable with a frame is of
the same kind. -/
structure KeepsFrames (s s' : Store) : Prop where
  stack : ∀ t c, s'.stack t c = s.stack t c
  kind : ∀ t c, s.stack t c ≠ ∅ → s'.kind c = s.kind c
  issued : s.framesIssued ≤ s'.framesIssued

/-- A change that opens and closes no frame keeps the frames of all stacks. -/
theorem Revises.keepsFrames (h : s.Revises s') : KeepsFrames s s' :=
  ⟨h.keepsStacks.stack, fun _ c _ => h.keepsStacks.kind c, h.framesIssued_le⟩

/-- The stacks of a variable that does not exist are those of bindings, if there are any. -/
theorem stack_of_not_exists (hcell : s.cell? c = none) (hfree : s.binding? t c = none) :
    s.stack t c = ∅ := by
  unfold stack
  rw [hcell, hfree]
  rfl

/-- A new variable, which no thread has bound before it exists. -/
theorem keepsFrames_create (symbol : Symbol) (kind : CellKind) (init : Value)
    (hcell : s.cell? ⟨s.cellsIssued⟩ = none) (hfree : ∀ t, s.binding? t ⟨s.cellsIssued⟩ = none) :
    KeepsFrames s (s.create symbol kind init).2 := by
  have hother : ∀ c, c ≠ ⟨s.cellsIssued⟩ → SameAt c s (s.create symbol kind init).2 :=
    fun c hc => s.sameAt_create symbol kind init hc
  have hnone : ∀ t, s.stack t ⟨s.cellsIssued⟩ = ∅ := fun t => stack_of_not_exists hcell (hfree t)
  refine ⟨fun t c => ?_, fun t c hc => ?_, Nat.le_refl _⟩
  · by_cases hc : c = ⟨s.cellsIssued⟩
    · subst hc
      have hbinding : (s.create symbol kind init).2.binding? t ⟨s.cellsIssued⟩ = none := hfree t
      rw [hnone]
      unfold stack
      rw [cell?_create, if_pos rfl, hbinding]
      cases kind <;> rfl
    · exact (hother c hc).stack t
  · refine (hother c ?_).kind
    rintro rfl
    exact hc (hnone t)

/-- The end of a thread that has no frame of its own open. -/
theorem keepsFrames_endThread (h : ∀ c, s.kind c = .dynamic → s.stack u c = ∅) :
    KeepsFrames s (s.endThread u) := by
  have hkind : ∀ c, (s.endThread u).kind c = s.kind c := fun _ => rfl
  refine ⟨fun t c => ?_, fun _ c _ => hkind c, Nat.le_refl _⟩
  by_cases hother : s.kind c = .root ∨ u ≠ t
  · exact s.stack_endThread hother
  · -- What the thread had bound is gone, and it had no frames.
    obtain ⟨hroot, hu⟩ := not_or.1 hother
    obtain rfl := not_not.1 hu
    have hk : s.kind c = .dynamic := by
      cases hs : s.kind c with
      | root => exact absurd hs hroot
      | dynamic => rfl
    rw [h c hk, stack_of_dynamic ((hkind c).trans hk), binding?_endThread, if_pos rfl]
    rfl

/-! ## The account -/

/-- An account of the open frames, by the frames that have been opened, newest first, and those of
them that have been closed. -/
structure Accounts (s : Store) (opened closed : List FrameId) : Prop where
  nodup : opened.Nodup
  issued : ∀ f ∈ opened, f.Issued s.framesIssued
  once : closed.Nodup
  known : ∀ f ∈ closed, f ∈ opened
  live : ∀ f, (∃ t c, f ∈ s.frameIds t c) ↔ f ∈ opened ∧ f ∉ closed
  alone : ∀ f t u c d, f ∈ s.frameIds t c → f ∈ s.frameIds u d → d = c ∧ s.SameStack c t u
  ordered : ∀ t c, (s.frameIds t c).Sublist opened

namespace Accounts

variable {opened closed closed' : List FrameId}

/-- Nothing has been opened. -/
theorem fresh (h : s.Fresh) : s.Accounts [] [] := by
  have hnone : ∀ t c, s.frameIds t c = [] := by
    intro t c
    unfold frameIds
    rw [h.empty]
    rfl
  refine ⟨.nil, nofun, .nil, nofun, ?_, ?_, fun t c => hnone t c ▸ .slnil⟩
  · simp [hnone]
  · intro f t u c d hf
    rw [hnone] at hf
    cases hf

/-- The order in which frames have been closed does not matter. -/
theorem perm (h : s.Accounts opened closed) (hperm : closed.Perm closed') :
    s.Accounts opened closed' where
  nodup := h.nodup
  issued := h.issued
  once := hperm.nodup_iff.1 h.once
  known f hf := h.known f (hperm.mem_iff.2 hf)
  live f := by rw [h.live, hperm.mem_iff]
  alone := h.alone
  ordered := h.ordered

/-- The accounts of frames stay right while the stacks keep theirs. -/
theorem of_keepsFrames (h : s.Accounts opened closed) (hs : KeepsFrames s s') :
    s'.Accounts opened closed := by
  have hids : ∀ t c, s'.frameIds t c = s.frameIds t c := by
    intro t c
    unfold frameIds
    rw [hs.stack]
  refine ⟨h.nodup, fun f hf => (h.issued f hf).mono hs.issued, h.once, h.known, fun f => ?_,
    fun f t u c d ht hu => ?_, fun t c => ?_⟩
  · rw [← h.live]
    simp only [hids]
  · rw [hids] at ht hu
    obtain ⟨hdc, hsame⟩ := h.alone f t u c d ht hu
    refine ⟨hdc, (sameStack_iff_of_kind (hs.kind t c fun hnone => ?_)).2 hsame⟩
    unfold frameIds at ht
    rw [hnone] at ht
    cases ht
  · rw [hids]
    exact h.ordered t c

/-- An open frame has been opened. -/
theorem opened_of_mem (h : s.Accounts opened closed) (hf : f ∈ s.frameIds t c) : f ∈ opened :=
  ((h.live f).1 ⟨t, c, hf⟩).1

/-- The next frame number has not been used. -/
theorem next_notMem (h : s.Accounts opened closed) (hn : s.framesIssued < 2 ^ 64) :
    .afterIssued s.framesIssued ∉ opened :=
  fun hmem => FrameId.ne_afterIssued (h.issued _ hmem) hn rfl

/-- A frame is opened, under a new number. -/
theorem pushed (h : s.Accounts opened closed) (hn : s.framesIssued < 2 ^ 64) (t : ThreadId)
    (c : CellId) :
    (s.push t c).2.Accounts (.afterIssued s.framesIssued :: opened) closed := by
  have hnew := h.next_notMem hn
  have hissued : (s.push t c).2.framesIssued = s.framesIssued + 1 := framesIssued_push s t c
  refine ⟨List.nodup_cons.2 ⟨hnew, h.nodup⟩, fun f hf => ?_, h.once,
    fun f hf => List.mem_cons_of_mem _ (h.known f hf), fun f => ⟨?_, ?_⟩, ?_, fun u d => ?_⟩
  · rw [hissued]
    rcases List.mem_cons.1 hf with rfl | hf
    · exact ⟨_, Nat.lt_succ_self _, rfl⟩
    · exact (h.issued f hf).mono (Nat.le_succ _)
  · rintro ⟨u, d, hf⟩
    rcases mem_frameIds_push.1 hf with ⟨rfl, -, -⟩ | hf
    · exact ⟨List.mem_cons_self, fun hc => hnew (h.known _ hc)⟩
    · obtain ⟨hopened, hclosed⟩ := (h.live f).1 ⟨u, d, hf⟩
      exact ⟨List.mem_cons_of_mem _ hopened, hclosed⟩
  · rintro ⟨hopened, hclosed⟩
    rcases List.mem_cons.1 hopened with rfl | hopened
    · exact ⟨t, c, mem_frameIds_push.2 (.inl ⟨rfl, rfl, .inr rfl⟩)⟩
    · obtain ⟨u, d, hf⟩ := (h.live f).2 ⟨hopened, hclosed⟩
      exact ⟨u, d, mem_frameIds_push.2 (.inr hf)⟩
  · intro f u v d e hu hv
    rw [sameStack_iff_of_kind (kind_push s t c d)]
    rcases mem_frameIds_push.1 hu with ⟨rfl, rfl, htu⟩ | hu
    · rcases mem_frameIds_push.1 hv with ⟨-, rfl, htv⟩ | hv
      · refine ⟨rfl, ?_⟩
        rcases htu with hk | rfl
        · exact .inl hk
        · exact htv
      · exact absurd (h.opened_of_mem hv) hnew
    · rcases mem_frameIds_push.1 hv with ⟨rfl, -, -⟩ | hv
      · exact absurd (h.opened_of_mem hu) hnew
      · exact h.alone f u v d e hu hv
  · rw [frameIds_push]
    split
    · exact (h.ordered u d).cons_cons _
    · exact (h.ordered u d).cons _

/-- The frames that are open after one was closed are the others, since it was on a single stack. -/
theorem mem_frameIds_popped (h : s.Accounts opened closed) {r : Replaced}
    (hpop : s.pop t c f = .ok (r, s')) : g ∈ s'.frameIds u d ↔ g ∈ s.frameIds u d ∧ g ≠ f := by
  obtain ⟨rest, htop, hids⟩ := frameIds_pop hpop
  have hopen := mem_frameIds_of_pop hpop
  have hnot : f ∉ rest := by
    have hall := h.nodup.sublist (h.ordered t c)
    rw [htop] at hall
    exact (List.nodup_cons.1 hall).1
  rw [hids]
  split
  · next hat =>
    obtain ⟨rfl, hsame⟩ := hat
    rw [hsame.frameIds_eq, htop, List.mem_cons]
    refine ⟨fun hg => ⟨.inr hg, fun heq => hnot (heq ▸ hg)⟩, fun ⟨hg, hne⟩ => ?_⟩
    exact hg.resolve_left hne
  · next hat =>
    refine ⟨fun hg => ⟨hg, ?_⟩, And.left⟩
    rintro rfl
    exact hat (h.alone g t u c d hopen hg)

/-- A frame is closed. It was open, and it is on no other stack. -/
theorem popped (h : s.Accounts opened closed) {r : Replaced} (hpop : s.pop t c f = .ok (r, s')) :
    f ∈ opened ∧ f ∉ closed ∧ s'.Accounts opened (f :: closed) := by
  obtain ⟨rest, htop, hids⟩ := frameIds_pop hpop
  have hopen := mem_frameIds_of_pop hpop
  obtain ⟨hopened, hclosed⟩ := (h.live f).1 ⟨t, c, hopen⟩
  refine ⟨hopened, hclosed, h.nodup, fun g hg => ?_, List.nodup_cons.2 ⟨hclosed, h.once⟩,
    fun g hg => ?_, fun g => ?_, fun g u v d e hu hv => ?_, fun u d => ?_⟩
  · rw [framesIssued_pop hpop]
    exact h.issued g hg
  · rcases List.mem_cons.1 hg with rfl | hg
    · exact hopened
    · exact h.known g hg
  · rw [List.mem_cons, not_or, and_left_comm, ← h.live]
    simp only [h.mem_frameIds_popped hpop]
    exact ⟨fun ⟨u, d, hg, hne⟩ => ⟨hne, u, d, hg⟩, fun ⟨hne, u, d, hg⟩ => ⟨u, d, hg, hne⟩⟩
  · rw [h.mem_frameIds_popped hpop] at hu hv
    rw [sameStack_iff_of_kind (kind_pop hpop d)]
    exact h.alone g u v d e hu.1 hv.1
  · rw [hids]
    split
    · have hsub := h.ordered t c
      rw [htop] at hsub
      exact (List.sublist_cons_self f rest).trans hsub
    · exact h.ordered u d

end Accounts

end ScopedBinding.Store
