import Mathlib.Algebra.Group.Nat.Defs
import ScopedBinding.Proofs.Stacks

/-!
# Well-formed stores

A store is well formed if shared variables are bound nowhere, bindings have frames, and all open
frames have numbers that were given out. Every operation keeps it so.

The numbers of frames are words of 64 bits. While no more of them have been given out than there are
words, the next one differs from all before it (`FrameId.ne_afterIssued`).
-/

set_option autoImplicit false

namespace ScopedBinding

namespace FrameId

/-- A frame number that is among the first `n` to be given out. -/
def Issued (n : Nat) (f : FrameId) : Prop :=
  ∃ i < n, f = afterIssued i

/-- A number that has been given out stays so. -/
theorem Issued.mono {n m : Nat} {f : FrameId} (h : f.Issued n) (hnm : n ≤ m) : f.Issued m := by
  obtain ⟨i, hi, rfl⟩ := h
  exact ⟨i, by omega, rfl⟩

/-- The numbers do not repeat before all of them are used up. -/
theorem afterIssued_inj {i j : Nat} (hi : i < 2 ^ 64) (hj : j < 2 ^ 64)
    (h : afterIssued i = afterIssued j) : i = j := by
  have h' := congrArg (fun f : FrameId => f.val.toNat) h
  simp only [afterIssued, UInt64.toNat_ofNat'] at h'
  omega

/-- The next number is not among those that have been given out, as long as they do not repeat. -/
theorem ne_afterIssued {n : Nat} {f : FrameId} (h : f.Issued n) (hn : n < 2 ^ 64) :
    f ≠ afterIssued n := by
  obtain ⟨i, hi, rfl⟩ := h
  intro heq
  have := afterIssued_inj (by omega) hn heq
  omega

end FrameId

namespace Store

/-- What is always true of a variable in a store. -/
structure WellFormedAt (s : Store) (c : CellId) : Prop where
  /-- No thread has bound a variable with a root for all threads. -/
  unbound : ∀ t, s.kind c = .root → s.binding? t c = none
  /-- A binding has a frame. -/
  bound : ∀ t b, s.binding? t c = some b → b.frames.isEmpty = false
  /-- Open frames have numbers that were given out. -/
  issued : ∀ t, ∀ frame ∈ (s.stack t c).frames, frame.id.Issued s.framesIssued

/-- What is always true of a store. -/
def WellFormed (s : Store) : Prop :=
  ∀ c, s.WellFormedAt c

/-- A store in which nobody has overridden anything. -/
structure Fresh (s : Store) : Prop where
  unbound : ∀ t c, s.binding? t c = none
  empty : ∀ t c, (s.stack t c).frames = []

namespace Fresh

/-- A store without frames has them in order. -/
theorem wellFormed {s : Store} (h : s.Fresh) : s.WellFormed := by
  intro c
  refine ⟨fun t _ => h.unbound t c, fun t b hb => ?_, fun t frame hf => ?_⟩
  · rw [h.unbound] at hb
    cases hb
  · rw [h.empty] at hf
    cases hf

/-- A store without frames has none after a variable was made. -/
theorem create {s : Store} (h : s.Fresh) (symbol : Symbol) (kind : CellKind) (init : Value) :
    (s.create symbol kind init).2.Fresh := by
  refine ⟨h.unbound, fun t c => ?_⟩
  by_cases hc : c = ⟨s.cellsIssued⟩
  · subst hc
    cases kind <;>
      simp [Store.stack, Store.cell?, Store.create, Table.get?_insert, Store.binding?,
        show s.bindings.get? (t, _) = none from h.unbound t _, EmptyCollection.emptyCollection]
  · have hcell : (s.create symbol kind init).2.cell? c = s.cell? c := by
      simp [Store.cell?, Store.create, Table.get?_insert, hc]
    have hsame : SameAt c s (s.create symbol kind init).2 := ⟨hcell, fun _ => rfl⟩
    rw [hsame.stack]
    exact h.empty t c

end Fresh

/-- A store with a variable of each kind: the first is dynamic, the second has a root for all. -/
def sample : Store :=
  (((∅ : Store).create ⟨0, "x", none⟩ .dynamic (.int 1)).2.create ⟨1, "y", none⟩ .root (.int 2)).2

/-- The sample has no frames. -/
theorem sample_fresh : sample.Fresh :=
  Fresh.create (Fresh.create ⟨fun _ _ => rfl, fun _ _ => rfl⟩ _ _ _) _ _ _

/-- The bindings of a well-formed variable matter only by being there. -/
theorem WellFormedAt.of_eq {s s' : Store} {c : CellId} (h : s.WellFormedAt c)
    (hk : s'.kind c = s.kind c) (hb : ∀ t, s'.binding? t c = s.binding? t c)
    (hs : ∀ t, s'.stack t c = s.stack t c) (hn : s.framesIssued ≤ s'.framesIssued) :
    s'.WellFormedAt c := by
  refine ⟨fun t hr => ?_, fun t b hbt => ?_, fun t frame hf => ?_⟩
  · rw [hb]
    exact h.unbound t (hk ▸ hr)
  · exact h.bound t b (hb t ▸ hbt)
  · rw [hs] at hf
    exact (h.issued t frame hf).mono hn

/-- The frames of a variable of which all is kept stay in order. -/
theorem WellFormedAt.of_sameAt {s s' : Store} {c : CellId} (h : s.WellFormedAt c)
    (hsame : SameAt c s s') (hn : s.framesIssued ≤ s'.framesIssued) : s'.WellFormedAt c :=
  h.of_eq hsame.kind hsame.binding hsame.stack hn

variable {s : Store}

/-- A change of a cell that leaves its frames alone keeps them in order. -/
theorem WellFormedAt.updateCell {d : CellId} (h : s.WellFormedAt d) (c : CellId)
    {change : Cell → Cell} (hc : ∀ cell, (change cell).storage = cell.storage) :
    (s.updateCell c change).WellFormedAt d := by
  have hkeep := s.keepsStacks_updateCell c hc
  exact h.of_eq (hkeep.kind d) (fun _ => rfl) (fun t => hkeep.stack t d) (Nat.le_refl _)

/-- Taking a frame number keeps the frames in order. -/
theorem WellFormedAt.issueFrame {d : CellId} (h : s.WellFormedAt d) :
    s.issueFrame.2.WellFormedAt d :=
  h.of_eq rfl (fun _ => rfl) (fun _ => rfl) (Nat.le_succ _)

/-- Setting a variable keeps the frames of each variable in order. -/
theorem WellFormedAt.write {d : CellId} (h : s.WellFormedAt d) (t : ThreadId) (c : CellId)
    (v : Value) : (s.write t c v).2.WellFormedAt d := by
  have hkeep := s.keepsStacks_write t c v
  by_cases hd : d = c
  · subst hd
    have hbind : ∀ u b', (s.write t d v).2.binding? u d = some b' →
        ∃ b, s.binding? u d = some b ∧ b.frames = b'.frames := by
      intro u b'
      unfold Store.write
      split
      · next b hb =>
        dsimp only
        rw [binding?_putBinding]
        split
        · next hu =>
          intro hb'
          cases hb'
          obtain ⟨rfl, -⟩ := Prod.mk.inj hu
          exact ⟨b, hb, rfl⟩
        · exact fun hb' => ⟨b', hb', rfl⟩
      · exact fun hb' => ⟨b', hb', rfl⟩
    refine ⟨fun u hr => ?_, fun u b' hb' => ?_, fun u frame hf => ?_⟩
    · cases hb' : (s.write t d v).2.binding? u d with
      | none => rfl
      | some b' =>
        obtain ⟨b, hb, -⟩ := hbind u b' hb'
        rw [h.unbound u (hkeep.kind d ▸ hr)] at hb
        cases hb
    · obtain ⟨b, hb, hframes⟩ := hbind u b' hb'
      rw [← hframes]
      exact h.bound u b hb
    · rw [hkeep.stack] at hf
      rw [framesIssued_write]
      exact h.issued u frame hf
  · exact h.of_sameAt (s.sameAt_write t hd v) (Nat.le_of_eq (framesIssued_write s t c v).symm)

/-- Setting a variable keeps all frames in order. -/
theorem WellFormed.write (h : s.WellFormed) (t : ThreadId) (c : CellId) (v : Value) :
    (s.write t c v).2.WellFormed :=
  fun d => (h d).write t c v

/-- Opening a frame keeps the frames of each variable in order. -/
theorem WellFormedAt.push {d : CellId} (h : s.WellFormedAt d) (t : ThreadId) (c : CellId) :
    (s.push t c).2.WellFormedAt d := by
  by_cases hd : d = c
  · subst hd
    refine ⟨fun u hr => ?_, fun u b hb => ?_, fun u frame hf => ?_⟩
    · rw [kind_push] at hr
      rw [push_of_root hr t]
      exact h.unbound u hr
    · cases hk : s.kind d with
      | root =>
        rw [push_of_root hk t] at hb
        exact h.bound u b hb
      | dynamic =>
        rw [push_of_dynamic hk] at hb
        dsimp only at hb
        rw [binding?_putBinding] at hb
        split at hb
        · cases hb
          rfl
        · exact h.bound u b hb
    · rw [stack_push] at hf
      rw [framesIssued_push]
      split at hf
      · rcases List.mem_cons.1 hf with rfl | hf
        · rw [push_fst_id]
          exact ⟨s.framesIssued, Nat.lt_succ_self _, rfl⟩
        · exact (h.issued u frame hf).mono (Nat.le_succ _)
      · exact (h.issued u frame hf).mono (Nat.le_succ _)
  · exact h.of_sameAt (s.sameAt_push t hd) (by rw [framesIssued_push]; exact Nat.le_succ _)

/-- Opening a frame keeps all frames in order. -/
theorem WellFormed.push (h : s.WellFormed) (t : ThreadId) (c : CellId) :
    (s.push t c).2.WellFormed :=
  fun d => (h d).push t c

/-- Closing a frame keeps the frames of each variable in order. -/
theorem WellFormedAt.pop {d : CellId} (h : s.WellFormedAt d) {s' : Store} {t : ThreadId}
    {c : CellId} {f : FrameId} {r : Replaced} (hpop : s.pop t c f = .ok (r, s')) :
    s'.WellFormedAt d := by
  have hkind := kind_pop hpop
  obtain ⟨frame, rest, -, htop, hstack⟩ := stack_pop hpop
  by_cases hd : d = c
  · subst hd
    refine ⟨fun u hr => ?_, fun u b hb => ?_, fun u g hg => ?_⟩
    · rw [hkind] at hr
      obtain ⟨_, _, -, -, ⟨-, -, rfl⟩ | ⟨hk, -⟩ | ⟨hk, -⟩⟩ := pop_ok_cases hpop
      · exact h.unbound u hr
      · rw [hk] at hr
        cases hr
      · rw [hk] at hr
        cases hr
    · obtain ⟨_, _, -, -, ⟨-, -, rfl⟩ | ⟨-, -, -, rfl⟩ | ⟨-, he, -, rfl⟩⟩ := pop_ok_cases hpop
      · exact h.bound u b hb
      · rw [binding?_eraseBinding] at hb
        split at hb
        · cases hb
        · exact h.bound u b hb
      · rw [binding?_putBinding] at hb
        split at hb
        · cases hb
          exact he
        · exact h.bound u b hb
    · rw [hstack] at hg
      rw [framesIssued_pop hpop]
      split at hg
      · refine h.issued t g ?_
        rw [htop]
        exact List.mem_cons_of_mem _ hg
      · exact h.issued u g hg
  · exact h.of_sameAt (sameAt_pop hd hpop) (Nat.le_of_eq (framesIssued_pop hpop).symm)

/-- Closing a frame keeps all frames in order. -/
theorem WellFormed.pop (h : s.WellFormed) {s' : Store} {t : ThreadId} {c : CellId} {f : FrameId}
    {r : Replaced} (hpop : s.pop t c f = .ok (r, s')) : s'.WellFormed :=
  fun d => (h d).pop hpop

/-- Only dynamic variables are bound, so a thread sees the root of every other variable. -/
theorem WellFormedAt.read_of_root {c : CellId} (h : s.WellFormedAt c) (hk : s.kind c = .root)
    (t : ThreadId) : s.read t c = s.root c := by
  unfold read
  rw [h.unbound t hk]

/-- A frame saves what the thread that opens it sees. -/
theorem WellFormedAt.saved_push {c : CellId} (h : s.WellFormedAt c) (t : ThreadId) :
    (s.push t c).1.saved = s.read t c := by
  cases hk : s.kind c with
  | root =>
    rw [push_of_root hk t, h.read_of_root hk]
    rfl
  | dynamic =>
    rw [push_of_dynamic hk]
    rfl

/-- What a thread sees of a variable when it has closed a frame of it. A variable with a root for all
threads has the value that was saved, and so has a dynamic variable as long as the thread has another
frame. Without one it is not bound any more, and its root stays. -/
theorem WellFormedAt.read_pop {c : CellId} (h : s.WellFormedAt c) {s' : Store} {t : ThreadId}
    {frame : Frame} {rest : FrameStack} {r : Replaced} (hs : s.stack t c = rest.push frame)
    (hpop : s.pop t c frame.id = .ok (r, s')) :
    (s.kind c = .root ∨ rest.isEmpty = false → s'.read t c = frame.saved) ∧
      (s.kind c = .dynamic → rest.isEmpty = true →
        s'.isBound t c = false ∧ s'.root c = s.root c) := by
  obtain ⟨frame', rest', -, hs', hcases⟩ := pop_ok_cases hpop
  obtain ⟨rfl, rfl⟩ := FrameStack.push_inj (hs.symm.trans hs')
  obtain ⟨hk, -, rfl⟩ | ⟨hk, he, -, rfl⟩ | ⟨hk, he, -, rfl⟩ := hcases
  · refine ⟨fun _ => ?_, fun hdyn => ?_⟩
    · have hbind := h.unbound t hk
      obtain ⟨cell, hcell, -⟩ := Option.map_eq_some_iff.1 (storage_of_root hk t)
      unfold read
      rw [show (s.updateCell c _).binding? t c = s.binding? t c from rfl, hbind]
      simp [root, cell?_updateCell, hcell]
    · rw [hk] at hdyn
      cases hdyn
  · refine ⟨fun hvis => ?_, fun _ _ => ⟨?_, rfl⟩⟩
    · rw [hk, he] at hvis
      simp at hvis
    · unfold isBound
      rw [binding?_eraseBinding, if_pos rfl]
      rfl
  · refine ⟨fun _ => ?_, fun _ hempty => ?_⟩
    · rw [read_putBinding, if_pos rfl]
    · rw [he] at hempty
      cases hempty

/-- A thread has bound a dynamic variable as long as it has frames of it. -/
theorem WellFormed.isBound_iff (h : s.WellFormed) {c : CellId} (hk : s.kind c = .dynamic)
    (t : ThreadId) : s.isBound t c = true ↔ (s.stack t c).isEmpty = false := by
  rw [stack_of_dynamic hk]
  unfold isBound
  cases hb : s.binding? t c with
  | none => simp [FrameStack.isEmpty, EmptyCollection.emptyCollection]
  | some b => simpa using (h c).bound t b hb

/-- A variable that is shared, or that the thread has bound, is shared or has a frame there. -/
theorem WellFormed.has_frame (h : s.WellFormed) {c : CellId} {t : ThreadId}
    (hvis : s.kind c = .root ∨ s.isBound t c = true) :
    s.kind c = .root ∨ (s.stack t c).isEmpty = false := by
  cases hk : s.kind c with
  | root => exact .inl rfl
  | dynamic =>
    rw [hk] at hvis
    refine .inr ((h.isBound_iff hk t).1 ?_)
    simpa using hvis

end Store

end ScopedBinding
