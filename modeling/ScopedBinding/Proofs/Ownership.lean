import ScopedBinding.Proofs.Scenes

/-!
# Guards and their frames

Along a run in which frames are closed only through guards, no two guards have the same frame
(`Scene.Exclusive`). A guard gets its frame when the frame is opened, with a number that nobody has
(`Scene.Step.holds`), so a guard that goes away leaves its frame without a guard for good. Together
with what is always true of a stack this is kept by every step (`Scene.Sound.step`).
-/

set_option autoImplicit false

namespace ScopedBinding

namespace Scene

variable {υ ε : Type} {t : ThreadId} {c : CellId} {S S' : Scene υ ε} {f : FrameId}

/-- Some guard has the frame. -/
def Holds (S : Scene υ ε) (f : FrameId) : Prop :=
  (∃ n h, S.world.host.guards.get? n = some h ∧ h.guard.frame = f) ∨ ∃ g ∈ S.scopes, g.frame = f

/-- No two guards have the same frame. -/
structure Exclusive (S : Scene υ ε) : Prop where
  hands : ∀ n m h k, S.world.host.guards.get? n = some h → S.world.host.guards.get? m = some k →
    h.guard.frame = k.guard.frame → n = m
  scopes : (S.scopes.map Guard.frame).Nodup
  apart : ∀ n h, S.world.host.guards.get? n = some h → ∀ g ∈ S.scopes, h.guard.frame ≠ g.frame

/-- What is held without a guard of a scope is held with it. -/
theorem Holds.of_erase {g : Guard} (h : Holds ⟨S.world, S.scopes.erase g⟩ f) : S.Holds f := by
  rcases h with hhands | ⟨k, hk, hf⟩
  · exact .inl hhands
  · exact .inr ⟨k, List.mem_of_mem_erase hk, hf⟩

/-- A frame that a guard has after a step had a guard before, or it is the one opened next. -/
theorem Step.holds (hs : Step t c S S') (h : S'.Holds f) :
    S.Holds f ∨ f = .afterIssued S.store.framesIssued ∧
      S.store.framesIssued < S'.store.framesIssued := by
  cases hs with
  | minded hguards =>
    rcases h with ⟨n, k, hget, hf⟩ | hscopes
    · exact .inl (.inl ⟨n, k, hguards ▸ hget, hf⟩)
    · exact .inl (.inr hscopes)
  | entered u d =>
    rcases h with hhands | ⟨g, hg, rfl⟩
    · exact .inl (.inl hhands)
    · rcases List.mem_cons.1 hg with rfl | hg
      · have hissued := S.store.framesIssued_push u d
        exact .inr ⟨S.store.push_fst_id u d, hissued ▸ Nat.lt_succ_self _⟩
      · exact .inl (.inr ⟨g, hg, rfl⟩)
  | left g => exact .inl h.of_erase
  | @taken n k hget =>
    rcases h with ⟨m, k', hget', rfl⟩ | ⟨g, hg, rfl⟩
    · exact .inl (.inl ⟨m, k', (World.of_get?_without hget').2, rfl⟩)
    · rcases List.mem_cons.1 hg with rfl | hg
      · exact .inl (.inl ⟨n, k, hget, rfl⟩)
      · exact .inl (.inr ⟨g, hg, rfl⟩)
  | @returned g hg n k hf =>
    rcases h with ⟨m, k', hget', rfl⟩ | ⟨g', hg', rfl⟩
    · rcases World.of_get?_withGuard hget' with ⟨-, rfl⟩ | ⟨-, hold⟩
      · exact .inl (.inr ⟨g, hg, hf.symm⟩)
      · exact .inl (.inl ⟨m, k', hold, rfl⟩)
    · exact .inl (.inr ⟨g', List.mem_of_mem_erase hg', rfl⟩)
  | revised | noted | configured | opened | closed | created | destroyed | ended => exact .inl h

namespace Exclusive

/-- The frames of the other guards differ from that of a guard which goes away. -/
theorem notMem_erase (h : S.Exclusive) {g : Guard} (hg : g ∈ S.scopes) :
    g.frame ∉ (S.scopes.erase g).map Guard.frame := by
  have hperm := (List.perm_cons_erase hg).map Guard.frame
  have hnodup := hperm.nodup_iff.1 h.scopes
  exact (List.nodup_cons.1 hnodup).1

/-- A guard that goes away leaves its frame without a guard. -/
theorem not_holds_erase (h : S.Exclusive) {g : Guard} (hg : g ∈ S.scopes) :
    ¬Holds ⟨S.world, S.scopes.erase g⟩ g.frame := by
  rintro (⟨n, k, hget, hf⟩ | ⟨k, hk, hf⟩)
  · exact h.apart n k hget g hg hf
  · exact h.notMem_erase hg (List.mem_map.2 ⟨k, hk, hf⟩)

/-- No other guard has the frame of a guard that is taken out of the program's hands. -/
theorem not_holds_without (h : S.Exclusive) {n : Nat} {k : HeldGuard}
    (hget : S.world.host.guards.get? n = some k) :
    ¬Holds ⟨S.world.without n, S.scopes⟩ k.guard.frame := by
  rintro (⟨m, k', hget', hf⟩ | ⟨g, hg, hf⟩)
  · obtain ⟨hm, hold⟩ := World.of_get?_without hget'
    exact hm (h.hands m n k' k hold hget hf)
  · exact h.apart n k hget g hg hf.symm

/-- A guard of a new frame has it for itself. -/
theorem entered (h : S.Exclusive) {u : ThreadId} {d : CellId}
    (hnew : ¬S.Holds (S.store.push u d).1.id) :
    Exclusive ⟨S.world.opened u d, .next S.store u d :: S.scopes⟩ := by
  refine ⟨h.hands, ?_, ?_⟩
  · refine List.nodup_cons.2 ⟨fun hmem => ?_, h.scopes⟩
    obtain ⟨g, hg, hf⟩ := List.mem_map.1 hmem
    exact hnew (.inr ⟨g, hg, hf⟩)
  · intro n k hget g hg
    rcases List.mem_cons.1 hg with rfl | hg
    · exact fun hf => hnew (.inl ⟨n, k, hget, hf⟩)
    · exact h.apart n k hget g hg

/-- A guard less leaves the others what they have. -/
theorem left (h : S.Exclusive) (g : Guard) : Exclusive ⟨S.world, S.scopes.erase g⟩ where
  hands := h.hands
  scopes := (List.erase_sublist.map Guard.frame).nodup h.scopes
  apart n k hget g' hg' := h.apart n k hget g' (List.mem_of_mem_erase hg')

/-- A guard that is taken out of the hands of the program has its frame for itself. -/
theorem taken (h : S.Exclusive) {n : Nat} {k : HeldGuard}
    (hget : S.world.host.guards.get? n = some k) :
    Exclusive ⟨S.world.without n, k.guard :: S.scopes⟩ := by
  have hgone := h.not_holds_without hget
  refine ⟨?_, ?_, ?_⟩
  · intro m m' k' k'' hget' hget''
    exact h.hands m m' k' k'' (World.of_get?_without hget').2 (World.of_get?_without hget'').2
  · refine List.nodup_cons.2 ⟨fun hmem => ?_, h.scopes⟩
    obtain ⟨g, hg, hf⟩ := List.mem_map.1 hmem
    exact hgone (.inr ⟨g, hg, hf⟩)
  · intro m k' hget' g hg
    rcases List.mem_cons.1 hg with rfl | hg
    · exact fun hf => hgone (.inl ⟨m, k', hget', hf⟩)
    · exact h.apart m k' (World.of_get?_without hget').2 g hg

/-- A guard that is put back into the hands of the program has its frame for itself. -/
theorem returned (h : S.Exclusive) {g : Guard} (hg : g ∈ S.scopes) (n : Nat) {k : HeldGuard}
    (hf : k.guard.frame = g.frame) :
    Exclusive ⟨S.world.withGuard n k, S.scopes.erase g⟩ := by
  have hother : ∀ m k', S.world.host.guards.get? m = some k' →
      k'.guard.frame ≠ k.guard.frame := by
    intro m k' hget
    rw [hf]
    exact h.apart m k' hget g hg
  refine ⟨?_, (h.left g).scopes, ?_⟩
  · intro m m' k' k'' hget hget' heq
    rcases World.of_get?_withGuard hget with ⟨rfl, rfl⟩ | ⟨-, hold⟩
    · rcases World.of_get?_withGuard hget' with ⟨rfl, -⟩ | ⟨-, hold'⟩
      · rfl
      · exact absurd heq.symm (hother m' k'' hold')
    · rcases World.of_get?_withGuard hget' with ⟨rfl, rfl⟩ | ⟨-, hold'⟩
      · exact absurd heq (hother m k' hold)
      · exact h.hands m m' k' k'' hold hold' heq
  · intro m k' hget g' hg' heq
    rcases World.of_get?_withGuard hget with ⟨-, rfl⟩ | ⟨-, hold⟩
    · apply h.notMem_erase hg
      rw [← hf, heq]
      exact List.mem_map_of_mem hg'
    · exact h.apart m k' hold g' (List.mem_of_mem_erase hg') heq

/-- Every step leaves each frame with one holder, if the number of a new frame is nobody's. -/
theorem step (h : S.Exclusive) (hs : Step t c S S')
    (hnew : S.store.framesIssued < S'.store.framesIssued →
      ¬S.Holds (.afterIssued S.store.framesIssued)) : S'.Exclusive := by
  cases hs with
  | minded hguards => exact ⟨hguards ▸ h.hands, h.scopes, hguards ▸ h.apart⟩
  | entered u d =>
    apply h.entered
    rw [S.store.push_fst_id u d]
    apply hnew
    have hissued := S.store.framesIssued_push u d
    exact hissued ▸ Nat.lt_succ_self _
  | left g => exact h.left g
  | taken hget => exact h.taken hget
  | returned hg n hf => exact h.returned hg n hf
  | revised | noted | configured | opened | closed | created | destroyed | ended =>
    exact ⟨h.hands, h.scopes, h.apart⟩

end Exclusive

/-! ## The invariant -/

/-- What holds at every moment of a run, of a stack and of all guards. -/
structure Sound (t : ThreadId) (c : CellId) (S : Scene υ ε) : Prop where
  wellFormed : S.store.WellFormedAt c
  nodup : ((S.store.stack t c).frames.map Frame.id).Nodup
  issued : ∀ f, S.Holds f → f.Issued S.store.framesIssued
  exclusive : S.Exclusive

namespace Sound

/-- A program that starts with guards in agreement, as it does without any. -/
theorem start {w : World (Hands υ) ε} (h : Agreement w) (t : ThreadId) (c : CellId) :
    Sound t c ⟨w, []⟩ where
  wellFormed := h.wellFormed c
  nodup := h.nodup t c
  issued f hf := by
    rcases hf with ⟨n, k, hget, rfl⟩ | ⟨g, hg, -⟩
    · exact h.issued n k hget
    · cases hg
  exclusive := ⟨h.distinct, .nil, fun _ _ _ => nofun⟩

/-- An open frame has a number that was given out. -/
theorem issued_of_isOpen (h : Sound t c S) (hopen : S.store.isOpen t c f = true) :
    f.Issued S.store.framesIssued := by
  obtain ⟨frame, hframe, rfl⟩ := List.mem_map.1 (Store.isOpen_iff.1 hopen)
  exact h.wellFormed.issued t frame hframe

/-- Every step keeps a scene sound. -/
theorem step (h : Sound t c S) (hs : Step t c S S') (hn : S'.store.framesIssued ≤ 2 ^ 64) :
    Sound t c S' := by
  have hle := hs.framesIssued_le
  refine ⟨hs.wellFormedAt h.wellFormed, ?_, ?_, ?_⟩
  · rcases hs.stack_cases with hsame | ⟨frame, hid, hnext, hpush⟩ | ⟨g, -, frame, -, hpop⟩
    · rw [hsame]
      exact h.nodup
    · rw [hpush]
      refine List.nodup_cons.2 ⟨fun hmem => ?_, h.nodup⟩
      obtain ⟨other, hother, hsame⟩ := List.mem_map.1 hmem
      apply FrameId.ne_afterIssued (h.wellFormed.issued t other hother) (by omega)
      rw [hsame, hid]
    · have hnodup := h.nodup
      rw [hpop] at hnodup
      exact (List.nodup_cons.1 hnodup).2
  · intro f hf
    rcases hs.holds hf with hold | ⟨rfl, hlt⟩
    · exact (h.issued f hold).mono hle
    · exact ⟨_, hlt, rfl⟩
  · apply h.exclusive.step hs
    intro hlt hf
    exact FrameId.ne_afterIssued (h.issued _ hf) (by omega) rfl

/-- Steps keep a scene sound. -/
theorem steps (h : Sound t c S) (hs : Steps t c S S') (hn : S'.store.framesIssued ≤ 2 ^ 64) :
    Sound t c S' := by
  induction hs with
  | refl => exact h
  | tail _ hlast ih => exact (ih (Nat.le_trans hlast.framesIssued_le hn)).step hlast hn

end Sound

end Scene

end ScopedBinding
