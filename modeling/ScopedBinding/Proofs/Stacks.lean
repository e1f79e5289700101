import ScopedBinding.Store

/-!
# Stacks of frames in the store

What a thread sees of a variable depends on the variable's cell and on the thread's own binding, so
an operation on one variable leaves every other variable as it is (`Store.SameAt`). Of the variable
itself, opening a frame changes the stack it is opened on and nothing that anybody reads, and closing
one undoes that. Two threads see the same stack of a variable if it is shared, and otherwise each has
its own (`Store.SameStack`).
-/

set_option autoImplicit false

namespace ScopedBinding

namespace Store

/-! ## One variable at a time -/

/-- Two stores agree on a variable: on its cell and on every thread's binding of it. -/
structure SameAt (d : CellId) (s s' : Store) : Prop where
  cell : s'.cell? d = s.cell? d
  binding : ∀ t, s'.binding? t d = s.binding? t d

namespace SameAt

variable {d : CellId} {s s' s'' : Store}

/-- A store keeps what it has of a variable. -/
theorem refl (d : CellId) (s : Store) : SameAt d s s :=
  ⟨rfl, fun _ => rfl⟩

/-- What is kept twice is kept. -/
theorem trans (h : SameAt d s s') (h' : SameAt d s' s'') : SameAt d s s'' :=
  ⟨h'.cell.trans h.cell, fun t => (h'.binding t).trans (h.binding t)⟩

/-- Which of two stores comes first does not matter. -/
theorem symm (h : SameAt d s s') : SameAt d s' s :=
  ⟨h.cell.symm, fun t => (h.binding t).symm⟩

/-- The frames that a thread sees are kept. -/
theorem stack (h : SameAt d s s') (t : ThreadId) : s'.stack t d = s.stack t d := by
  simp only [Store.stack, h.cell, h.binding]

/-- The root is kept. -/
theorem root (h : SameAt d s s') : s'.root d = s.root d := by
  simp only [Store.root, h.cell]

/-- The kind is kept. -/
theorem kind (h : SameAt d s s') : s'.kind d = s.kind d := by
  simp only [Store.kind, h.cell]

/-- The value that a thread sees is kept. -/
theorem read (h : SameAt d s s') (t : ThreadId) : s'.read t d = s.read t d := by
  simp only [Store.read, h.binding, h.root]

/-- Whether a thread has bound the variable is kept. -/
theorem isBound (h : SameAt d s s') (t : ThreadId) : s'.isBound t d = s.isBound t d := by
  simp only [Store.isBound, h.binding]

/-- The same change of the cell in two stores that agree on the variable. -/
theorem updateCell (h : SameAt d s s') (change : Cell → Cell) :
    SameAt d (s.updateCell d change) (s'.updateCell d change) := by
  refine ⟨?_, h.binding⟩
  rw [cell?_updateCell, cell?_updateCell, h.cell]

/-- The same binding put in place in two stores that agree on the variable. -/
theorem putBinding (h : SameAt d s s') (t : ThreadId) (b : Binding) :
    SameAt d (s.putBinding t d b) (s'.putBinding t d b) := by
  refine ⟨h.cell, fun u => ?_⟩
  rw [binding?_putBinding, binding?_putBinding, h.binding]

/-- The same binding erased in two stores that agree on the variable. -/
theorem eraseBinding (h : SameAt d s s') (t : ThreadId) :
    SameAt d (s.eraseBinding t d) (s'.eraseBinding t d) := by
  refine ⟨h.cell, fun u => ?_⟩
  rw [binding?_eraseBinding, binding?_eraseBinding, h.binding]

end SameAt

/-- Changing the cell of another variable. -/
theorem sameAt_updateCell (s : Store) {c d : CellId} (h : d ≠ c) (change : Cell → Cell) :
    SameAt d s (s.updateCell c change) :=
  ⟨by rw [cell?_updateCell, if_neg h], fun _ => rfl⟩

/-- Putting a binding of another variable. -/
theorem sameAt_putBinding (s : Store) (t : ThreadId) {c d : CellId} (h : d ≠ c) (b : Binding) :
    SameAt d s (s.putBinding t c b) :=
  ⟨rfl, fun u => by rw [binding?_putBinding, if_neg (fun heq => h (Prod.mk.inj heq).2)]⟩

/-- Erasing a binding of another variable. -/
theorem sameAt_eraseBinding (s : Store) (t : ThreadId) {c d : CellId} (h : d ≠ c) :
    SameAt d s (s.eraseBinding t c) :=
  ⟨rfl, fun u => by rw [binding?_eraseBinding, if_neg (fun heq => h (Prod.mk.inj heq).2)]⟩

/-- Setting the root of another variable. -/
theorem sameAt_setRoot (s : Store) {c d : CellId} (h : d ≠ c) (v : Value) :
    SameAt d s (s.setRoot c v).2 :=
  s.sameAt_updateCell h _

/-- Setting another variable. -/
theorem sameAt_write (s : Store) (t : ThreadId) {c d : CellId} (h : d ≠ c) (v : Value) :
    SameAt d s (s.write t c v).2 := by
  unfold write
  split
  · exact s.sameAt_putBinding t h _
  · exact s.sameAt_setRoot h v

/-- A thread that has not bound a variable sees its root. -/
theorem read_of_not_bound {s : Store} {t : ThreadId} {c : CellId} (h : s.isBound t c = false) :
    s.read t c = s.root c := by
  unfold isBound at h
  unfold read
  cases hb : s.binding? t c with
  | none => rfl
  | some b => simp [hb] at h

/-! ## The operations by the kind of the variable -/

/-- The kind of a variable that keeps its frames in some way. -/
def storageKind : Storage → CellKind
  | .perThread => .dynamic
  | .shared _ => .root

/-- The kind of a variable is that of its storage. -/
theorem kind_eq_storage (s : Store) (c : CellId) :
    s.kind c = (((s.cell? c).map Cell.storage).map storageKind).getD .dynamic := by
  unfold kind Cell.kind storageKind
  rcases s.cell? c with _ | ⟨_, _ | _, _, _⟩ <;> rfl

/-- A shared variable has its frames in its cell. -/
theorem storage_of_root {s : Store} {c : CellId} (h : s.kind c = .root) (t : ThreadId) :
    (s.cell? c).map Cell.storage = some (.shared (s.stack t c)) := by
  unfold kind at h
  unfold stack
  cases hc : s.cell? c with
  | none => simp [hc] at h
  | some cell =>
    cases hs : cell.storage with
    | perThread => simp [hc, Cell.kind, hs] at h
    | shared frames => simp [hs]

/-- All threads see the same frames of a shared variable. -/
theorem stack_of_root {s : Store} {c : CellId} (h : s.kind c = .root) (t u : ThreadId) :
    s.stack t c = s.stack u c := by
  simpa using (storage_of_root h t).symm.trans (storage_of_root h u)

/-- A dynamic variable has no frames in its cell. -/
theorem storage_of_dynamic {s : Store} {c : CellId} (h : s.kind c = .dynamic)
    (frames : FrameStack) : (s.cell? c).map Cell.storage ≠ some (.shared frames) := by
  intro hs
  obtain ⟨cell, hc, hcs⟩ := Option.map_eq_some_iff.1 hs
  simp [kind, hc, Cell.kind, hcs] at h

/-- The frames of a dynamic variable are those of the thread's binding. -/
theorem stack_of_dynamic {s : Store} {c : CellId} (h : s.kind c = .dynamic) (t : ThreadId) :
    s.stack t c = ((s.binding? t c).map Binding.frames).getD ∅ := by
  unfold stack
  split
  · next hs => exact absurd hs (storage_of_dynamic h _)
  · rfl

/-- The frame that is opened next. -/
def nextFrame (s : Store) (v : Value) : Frame :=
  ⟨.afterIssued s.framesIssued, v⟩

/-- Opening a frame of a shared variable saves its root. -/
theorem push_of_root {s : Store} {c : CellId} (h : s.kind c = .root) (t : ThreadId) :
    s.push t c = (s.nextFrame (s.root c), s.issueFrame.2.updateCell c fun cell =>
      { cell with storage := .shared ((s.stack t c).push (s.nextFrame (s.root c))) }) := by
  unfold push
  dsimp only
  rw [show s.issueFrame.2.cell? c = s.cell? c from rfl, storage_of_root h t]
  rfl

/-- Opening a frame of a dynamic variable saves what the thread sees, in a binding of its own. -/
theorem push_of_dynamic {s : Store} {c : CellId} (h : s.kind c = .dynamic) (t : ThreadId) :
    s.push t c = (s.nextFrame (s.read t c), s.issueFrame.2.putBinding t c
      ⟨s.read t c, (s.stack t c).push (s.nextFrame (s.read t c))⟩) := by
  unfold push
  dsimp only
  rw [show s.issueFrame.2.cell? c = s.cell? c from rfl]
  split
  · next hs => exact absurd hs (storage_of_dynamic h _)
  · rw [stack_of_dynamic h t, show s.issueFrame.2.binding? t c = s.binding? t c from rfl,
      show s.issueFrame.2.read t c = s.read t c from rfl]
    unfold read
    cases s.binding? t c <;> rfl

/-- Closing a frame of a shared variable goes by the one stack that it has. -/
theorem pop_of_root {s : Store} {c : CellId} (h : s.kind c = .root) (t : ThreadId) (f : FrameId) :
    s.pop t c f =
      match (s.stack t c).pop? f with
      | .error top => .error (.outOfOrder (s.symbol c).display f top)
      | .ok (frame, rest) => .ok (⟨s.root c, frame.saved⟩,
          s.updateCell c fun cell => { cell with root := frame.saved, storage := .shared rest }) := by
  have hs := storage_of_root h t
  unfold pop
  cases hpop : (s.stack t c).pop? f <;> simp only [hs, hpop]

/-- Closing a frame of a dynamic variable goes by the stack of the thread, and the outermost frame
takes the binding with it. -/
theorem pop_of_dynamic {s : Store} {c : CellId} (h : s.kind c = .dynamic) (t : ThreadId)
    (f : FrameId) :
    s.pop t c f =
      match (s.stack t c).pop? f with
      | .error top => .error (.outOfOrder (s.symbol c).display f top)
      | .ok (frame, rest) =>
        if rest.isEmpty then .ok (⟨s.read t c, s.root c⟩, s.eraseBinding t c)
        else .ok (⟨s.read t c, frame.saved⟩, s.putBinding t c ⟨frame.saved, rest⟩) := by
  unfold pop
  dsimp only
  split
  · next hs => exact absurd hs (storage_of_dynamic h _)
  · rw [stack_of_dynamic h t]
    unfold read
    cases s.binding? t c <;> rfl

/-- Opening a frame of another variable. -/
theorem sameAt_push (s : Store) (t : ThreadId) {c d : CellId} (h : d ≠ c) :
    SameAt d s (s.push t c).2 := by
  have hissue : SameAt d s s.issueFrame.2 := ⟨rfl, fun _ => rfl⟩
  cases hk : s.kind c with
  | root =>
    rw [push_of_root hk]
    exact hissue.trans (sameAt_updateCell _ h _)
  | dynamic =>
    rw [push_of_dynamic hk]
    exact hissue.trans (sameAt_putBinding _ t h _)

/-- What closing a frame can do. Any frame but the innermost is rejected; the innermost goes, and its
saved value becomes the root of a variable with a root for all threads, or the value of the thread's
binding, unless no frame is left and the binding goes too. -/
theorem pop_ok_cases {s s' : Store} {t : ThreadId} {c : CellId} {f : FrameId} {r : Replaced}
    (h : s.pop t c f = .ok (r, s')) :
    ∃ frame rest, frame.id = f ∧ s.stack t c = FrameStack.push rest frame ∧
      ((s.kind c = .root ∧ r = ⟨s.root c, frame.saved⟩ ∧
          s' = s.updateCell c fun cell =>
            { cell with root := frame.saved, storage := .shared rest }) ∨
        (s.kind c = .dynamic ∧ rest.isEmpty = true ∧ r = ⟨s.read t c, s.root c⟩ ∧
          s' = s.eraseBinding t c) ∨
        (s.kind c = .dynamic ∧ rest.isEmpty = false ∧ r = ⟨s.read t c, frame.saved⟩ ∧
          s' = s.putBinding t c ⟨frame.saved, rest⟩)) := by
  cases hk : s.kind c with
  | root =>
    rw [pop_of_root hk] at h
    split at h
    · cases h
    · next frame rest hp =>
      obtain ⟨hid, hstack⟩ := FrameStack.pop?_eq_ok_iff.1 hp
      cases h
      exact ⟨frame, rest, hid, hstack, .inl ⟨rfl, rfl, rfl⟩⟩
  | dynamic =>
    rw [pop_of_dynamic hk] at h
    split at h
    · cases h
    · next frame rest hp =>
      obtain ⟨hid, hstack⟩ := FrameStack.pop?_eq_ok_iff.1 hp
      refine ⟨frame, rest, hid, hstack, ?_⟩
      split at h
      · next he =>
        cases h
        exact .inr (.inl ⟨rfl, he, rfl, rfl⟩)
      · next he =>
        cases h
        exact .inr (.inr ⟨rfl, by simpa using he, rfl, rfl⟩)

/-- The innermost frame can be closed. -/
theorem pop_of_top {s : Store} {t : ThreadId} {c : CellId} {frame : Frame} {rest : FrameStack}
    (h : s.stack t c = rest.push frame) : ∃ r s', s.pop t c frame.id = .ok (r, s') := by
  have hp : (s.stack t c).pop? frame.id = .ok (frame, rest) := by rw [h, FrameStack.pop?_push]
  cases hk : s.kind c with
  | root => exact ⟨_, _, by rw [pop_of_root hk, hp]⟩
  | dynamic =>
    rw [pop_of_dynamic hk, hp]
    dsimp only
    split
    · exact ⟨_, _, rfl⟩
    · exact ⟨_, _, rfl⟩

/-- Any other frame is rejected, and the fault tells which one is innermost. -/
theorem pop_of_not_top {s : Store} {t : ThreadId} {c : CellId} {f : FrameId}
    (h : (s.stack t c).top?.map Frame.id ≠ some f) :
    s.pop t c f =
      .error (.outOfOrder (s.symbol c).display f ((s.stack t c).top?.map Frame.id)) := by
  have hp : (s.stack t c).pop? f = .error ((s.stack t c).top?.map Frame.id) := by
    generalize s.stack t c = stack at h
    obtain ⟨_ | ⟨g, gs⟩⟩ := stack
    · rfl
    · have hne : g.id ≠ f := fun heq => h (by simp [FrameStack.top?, heq])
      simp [FrameStack.pop?, FrameStack.top?, hne]
  cases hk : s.kind c with
  | root => rw [pop_of_root hk, hp]
  | dynamic => rw [pop_of_dynamic hk, hp]

/-- Closing a frame of another variable. -/
theorem sameAt_pop {s s' : Store} {t : ThreadId} {c d : CellId} {f : FrameId} {r : Replaced}
    (h : d ≠ c) (hpop : s.pop t c f = .ok (r, s')) : SameAt d s s' := by
  obtain ⟨frame, rest, -, -, ⟨-, -, rfl⟩ | ⟨-, -, -, rfl⟩ | ⟨-, -, -, rfl⟩⟩ := pop_ok_cases hpop
  · exact s.sameAt_updateCell h _
  · exact s.sameAt_eraseBinding t h
  · exact s.sameAt_putBinding t h _

/-- Closing a frame goes the same way in two stores that agree on its variable. -/
theorem SameAt.pop {s s' s₁ : Store} {t : ThreadId} {c : CellId} {f : FrameId} {r : Replaced}
    (h : SameAt c s s') (hpop : s.pop t c f = .ok (r, s₁)) :
    ∃ s₁', s'.pop t c f = .ok (r, s₁') ∧ SameAt c s₁ s₁' := by
  obtain ⟨frame, rest, rfl, hstack, hcases⟩ := pop_ok_cases hpop
  have htop : (s'.stack t c).pop? frame.id = .ok (frame, rest) := by
    rw [h.stack, hstack, FrameStack.pop?_push]
  obtain ⟨hk, rfl, rfl⟩ | ⟨hk, hempty, rfl, rfl⟩ | ⟨hk, hempty, rfl, rfl⟩ := hcases
  · rw [← h.kind] at hk
    refine ⟨_, ?_, h.updateCell _⟩
    rw [pop_of_root hk, htop, h.root]
  · rw [← h.kind] at hk
    refine ⟨_, ?_, h.eraseBinding t⟩
    rw [pop_of_dynamic hk, htop, h.root, h.read]
    exact if_pos hempty
  · rw [← h.kind] at hk
    refine ⟨_, ?_, h.putBinding t _⟩
    rw [pop_of_dynamic hk, htop, h.root, h.read]
    exact if_neg (Bool.eq_false_iff.1 hempty)

/-! ## What becomes of the stacks -/

/-- Two stores have the same stacks, of variables of the same kinds. -/
structure KeepsStacks (s s' : Store) : Prop where
  stack : ∀ t c, s'.stack t c = s.stack t c
  kind : ∀ c, s'.kind c = s.kind c

namespace KeepsStacks

variable {s s' s'' : Store}

/-- A store keeps its stacks. -/
theorem refl (s : Store) : KeepsStacks s s :=
  ⟨fun _ _ => rfl, fun _ => rfl⟩

/-- Stacks that are kept twice are kept. -/
theorem trans (h : KeepsStacks s s') (h' : KeepsStacks s' s'') : KeepsStacks s s'' :=
  ⟨fun t c => (h'.stack t c).trans (h.stack t c), fun c => (h'.kind c).trans (h.kind c)⟩

end KeepsStacks

/-- A change of a cell that leaves its frames alone keeps all stacks. -/
theorem keepsStacks_updateCell (s : Store) (c : CellId) {change : Cell → Cell}
    (h : ∀ cell, (change cell).storage = cell.storage) : KeepsStacks s (s.updateCell c change) := by
  have hcell : ∀ d, ((s.updateCell c change).cell? d).map Cell.storage =
      (s.cell? d).map Cell.storage := by
    intro d
    rw [cell?_updateCell]
    split
    · next hd => cases hc : s.cell? c <;> simp [hd, hc, h]
    · rfl
  refine ⟨fun t d => ?_, fun d => ?_⟩
  · unfold stack
    rw [hcell]
    rfl
  · rw [kind_eq_storage, kind_eq_storage, hcell]

/-- Setting a root keeps all stacks. -/
theorem keepsStacks_setRoot (s : Store) (c : CellId) (v : Value) :
    KeepsStacks s (s.setRoot c v).2 :=
  s.keepsStacks_updateCell c fun _ => rfl

/-- Taking a lock opens and closes no frame. -/
theorem keepsStacks_lock (s : Store) (c : CellId) : KeepsStacks s (s.lock c) :=
  s.keepsStacks_updateCell c fun _ => rfl

/-- Giving back a lock opens and closes no frame. -/
theorem keepsStacks_unlock (s : Store) (c : CellId) : KeepsStacks s (s.unlock c) :=
  s.keepsStacks_updateCell c fun _ => rfl

/-- Registering a watch keeps all stacks. -/
theorem keepsStacks_watch (s : Store) (c : CellId) (key : String) (w : WatchId) :
    KeepsStacks s (s.watch c key w) :=
  s.keepsStacks_updateCell c fun _ => rfl

/-- Removing a watch keeps all stacks. -/
theorem keepsStacks_unwatch (s : Store) (c : CellId) (key : String) :
    KeepsStacks s (s.unwatch c key).2 :=
  s.keepsStacks_updateCell c fun _ => rfl

/-- Taking a frame number keeps all stacks. -/
theorem keepsStacks_issueFrame (s : Store) : KeepsStacks s s.issueFrame.2 :=
  ⟨fun _ _ => rfl, fun _ => rfl⟩

/-- The frames of a dynamic variable after a binding was put in place. -/
theorem stack_putBinding {s : Store} {c : CellId} (h : s.kind c = .dynamic) (t u : ThreadId)
    (b : Binding) : (s.putBinding t c b).stack u c = if u = t then b.frames else s.stack u c := by
  have h' : (s.putBinding t c b).kind c = .dynamic := h
  rw [stack_of_dynamic h', stack_of_dynamic h, binding?_putBinding]
  by_cases hu : u = t
  · simp [hu]
  · simp [hu]

/-- The frames of a dynamic variable after a binding was erased. -/
theorem stack_eraseBinding {s : Store} {c : CellId} (h : s.kind c = .dynamic) (t u : ThreadId) :
    (s.eraseBinding t c).stack u c = if u = t then ∅ else s.stack u c := by
  have h' : (s.eraseBinding t c).kind c = .dynamic := h
  rw [stack_of_dynamic h', stack_of_dynamic h, binding?_eraseBinding]
  by_cases hu : u = t
  · simp [hu]
  · simp [hu]

/-- The frames of a shared variable after its cell was given others. -/
theorem stack_updateCell {s : Store} {c : CellId} (h : s.kind c = .root) {change : Cell → Cell}
    {frames : FrameStack} (hc : ∀ cell, (change cell).storage = .shared frames) (t : ThreadId) :
    (s.updateCell c change).stack t c = frames := by
  obtain ⟨cell, hcell, -⟩ := Option.map_eq_some_iff.1 (storage_of_root h t)
  simp [stack, cell?_updateCell, hcell, hc]

/-- Giving a shared variable other frames changes no kind. -/
theorem kind_updateCell {s : Store} {c : CellId} (h : s.kind c = .root) {change : Cell → Cell}
    {frames : FrameStack} (hc : ∀ cell, (change cell).storage = .shared frames) (d : CellId) :
    (s.updateCell c change).kind d = s.kind d := by
  by_cases hd : d = c
  · subst hd
    obtain ⟨cell, hcell, -⟩ := Option.map_eq_some_iff.1 (storage_of_root h ⟨0⟩)
    rw [h]
    simp [kind, cell?_updateCell, hcell, Cell.kind, hc]
  · exact (s.sameAt_updateCell hd change).kind

/-- Setting a variable keeps all stacks. -/
theorem keepsStacks_write (s : Store) (t : ThreadId) (c : CellId) (v : Value) :
    KeepsStacks s (s.write t c v).2 := by
  unfold write
  split
  · next b hb =>
    refine ⟨fun u d => ?_, fun _ => rfl⟩
    by_cases hd : d = c
    · subst hd
      cases hk : s.kind d with
      | root =>
        have hs := storage_of_root hk u
        unfold stack
        rw [show (s.putBinding t d { b with value := v }).cell? d = s.cell? d from rfl, hs]
      | dynamic =>
        rw [stack_putBinding hk, stack_of_dynamic hk]
        split
        · next hu => rw [hu, hb]; rfl
        · rfl
    · exact (s.sameAt_putBinding t hd _).stack u
  · exact s.keepsStacks_setRoot c v

/-- Whether a stack that one thread sees of a variable is also the one that another thread sees. -/
def SameStack (s : Store) (c : CellId) (t u : ThreadId) : Prop :=
  s.kind c = .root ∨ u = t

instance (s : Store) (c : CellId) (t u : ThreadId) : Decidable (s.SameStack c t u) :=
  inferInstanceAs (Decidable (_ ∨ _))

/-- Threads that share a stack see the same frames. -/
theorem SameStack.stack_eq {s : Store} {c : CellId} {t u : ThreadId} (h : s.SameStack c t u) :
    s.stack u c = s.stack t c := by
  rcases h with hk | rfl
  · exact stack_of_root hk u t
  · rfl

/-- Sharing a stack goes both ways. -/
theorem SameStack.symm {s : Store} {c : CellId} {t u : ThreadId} (h : s.SameStack c t u) :
    s.SameStack c u t :=
  h.imp_right Eq.symm

/-- Opening a frame changes no kind. -/
theorem kind_push (s : Store) (t : ThreadId) (c d : CellId) : (s.push t c).2.kind d = s.kind d := by
  cases hk : s.kind c with
  | root =>
    rw [push_of_root hk t]
    exact kind_updateCell (s := s.issueFrame.2) hk (fun _ => rfl) d
  | dynamic =>
    rw [push_of_dynamic hk]
    rfl

/-- A frame is opened on the stack of its variable that the thread sees, and all other stacks stay. -/
theorem stack_push (s : Store) (t u : ThreadId) (c d : CellId) :
    (s.push t c).2.stack u d =
      if d = c ∧ s.SameStack c t u then (s.stack u d).push (s.push t c).1 else s.stack u d := by
  by_cases hd : d = c
  · subst hd
    cases hk : s.kind d with
    | root =>
      rw [push_of_root hk t, if_pos ⟨rfl, .inl hk⟩, stack_of_root hk u t]
      exact stack_updateCell (s := s.issueFrame.2) hk (fun _ => rfl) u
    | dynamic =>
      rw [push_of_dynamic hk]
      dsimp only
      rw [stack_putBinding (s := s.issueFrame.2) hk]
      by_cases hu : u = t
      · rw [if_pos hu, if_pos ⟨rfl, .inr hu⟩, hu]
      · rw [if_neg hu, if_neg]
        · rfl
        · rintro ⟨-, h | h⟩
          · rw [hk] at h
            cases h
          · exact hu h
  · rw [if_neg (fun h => hd h.1)]
    exact (s.sameAt_push t hd).stack u

/-- A frame has the next number. -/
theorem push_fst_id (s : Store) (t : ThreadId) (c : CellId) :
    (s.push t c).1.id = .afterIssued s.framesIssued := by
  cases hk : s.kind c with
  | root => rw [push_of_root hk]; rfl
  | dynamic => rw [push_of_dynamic hk]; rfl

/-- Opening a frame takes one number. -/
theorem framesIssued_push (s : Store) (t : ThreadId) (c : CellId) :
    (s.push t c).2.framesIssued = s.framesIssued + 1 := by
  cases hk : s.kind c with
  | root => rw [push_of_root hk t]; rfl
  | dynamic => rw [push_of_dynamic hk]; rfl

/-- Closing a frame takes it off the stack that the thread sees, and all other stacks stay. -/
theorem stack_pop {s s' : Store} {t : ThreadId} {c : CellId} {f : FrameId} {r : Replaced}
    (h : s.pop t c f = .ok (r, s')) :
    ∃ frame rest, frame.id = f ∧ s.stack t c = FrameStack.push rest frame ∧
      ∀ u d, s'.stack u d = if d = c ∧ s.SameStack c t u then rest else s.stack u d := by
  obtain ⟨frame, rest, hid, hstack, hcases⟩ := pop_ok_cases h
  refine ⟨frame, rest, hid, hstack, fun u d => ?_⟩
  by_cases hd : d = c
  · subst hd
    obtain ⟨hk, -, rfl⟩ | ⟨hk, he, -, rfl⟩ | ⟨hk, -, -, rfl⟩ := hcases
    · rw [if_pos ⟨rfl, .inl hk⟩]
      exact stack_updateCell hk (fun _ => rfl) u
    · have hrest : rest = ∅ := by
        obtain ⟨frames⟩ := rest
        simpa [FrameStack.isEmpty, EmptyCollection.emptyCollection] using he
      rw [stack_eraseBinding hk, hrest]
      simp [SameStack, hk]
    · rw [stack_putBinding hk]
      simp [SameStack, hk]
  · rw [if_neg (fun h => hd h.1)]
    exact (sameAt_pop hd h).stack u

/-- Closing the frame on top of a stack gives back the stack without it. -/
theorem stack_pop_top {s s' : Store} {t : ThreadId} {c : CellId} {frame : Frame}
    {below : FrameStack} {r : Replaced} (htop : s.stack t c = below.push frame)
    (h : s.pop t c frame.id = .ok (r, s')) {u : ThreadId} (hu : s.SameStack c t u) :
    s'.stack u c = below := by
  obtain ⟨frame', rest, -, hstack, hafter⟩ := stack_pop h
  rw [hafter, if_pos ⟨rfl, hu⟩]
  exact (FrameStack.push_inj (hstack.symm.trans htop)).1

/-- Closing a frame changes no kind. -/
theorem kind_pop {s s' : Store} {t : ThreadId} {c : CellId} {f : FrameId} {r : Replaced}
    (h : s.pop t c f = .ok (r, s')) (d : CellId) : s'.kind d = s.kind d := by
  obtain ⟨frame, rest, -, -, ⟨hk, -, rfl⟩ | ⟨-, -, -, rfl⟩ | ⟨-, -, -, rfl⟩⟩ := pop_ok_cases h
  · exact kind_updateCell hk (fun _ => rfl) d
  · rfl
  · rfl

/-- A change of a cell that keeps its symbol changes no symbol. -/
theorem symbol_updateCell (s : Store) (c d : CellId) {change : Cell → Cell}
    (h : ∀ cell, (change cell).symbol = cell.symbol) :
    (s.updateCell c change).symbol d = s.symbol d := by
  unfold symbol
  rw [cell?_updateCell]
  split
  · next hd => cases hc : s.cell? c <;> simp [hd, hc, h]
  · rfl

/-- Closing a frame changes no symbol. -/
theorem symbol_pop {s s' : Store} {t : ThreadId} {c : CellId} {f : FrameId} {r : Replaced}
    (h : s.pop t c f = .ok (r, s')) (d : CellId) : s'.symbol d = s.symbol d := by
  obtain ⟨frame, rest, -, -, ⟨-, -, rfl⟩ | ⟨-, -, -, rfl⟩ | ⟨-, -, -, rfl⟩⟩ := pop_ok_cases h
  · exact s.symbol_updateCell c d fun _ => rfl
  · rfl
  · rfl

/-- Setting a variable takes no frame number. -/
theorem framesIssued_write (s : Store) (t : ThreadId) (c : CellId) (v : Value) :
    (s.write t c v).2.framesIssued = s.framesIssued := by
  unfold write
  split <;> rfl

/-- Closing a frame takes no frame number. -/
theorem framesIssued_pop {s s' : Store} {t : ThreadId} {c : CellId} {f : FrameId} {r : Replaced}
    (h : s.pop t c f = .ok (r, s')) : s'.framesIssued = s.framesIssued := by
  obtain ⟨frame, rest, -, -, ⟨-, -, rfl⟩ | ⟨-, -, -, rfl⟩ | ⟨-, -, -, rfl⟩⟩ := pop_ok_cases h <;> rfl

end Store

end ScopedBinding
