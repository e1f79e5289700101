import ScopedBinding.Proofs.Runs

/-!
# The lock of an alteration

An alteration has the lock of its variable from before its function is shown the root until after the
root is set, and gives it back where the function panics (`CellId.alterRoot_of_done`,
`CellId.alterRoot_of_panicked`). While it has the lock no other alteration of the variable goes ahead
(`CellId.alterRoot_of_taken`).

Locks are no part of what anybody reads. An alteration may as well be taken as one that gives its lock
back just before it sets the root (`CellId.alterRoot_eq`).
-/

set_option autoImplicit false

namespace ScopedBinding

/-! ## Locks in the store -/

namespace Store

/-- A lock says nothing of the root. -/
@[simp] theorem root_lock (s : Store) (c d : CellId) : (s.lock c).root d = s.root d :=
  s.root_updateCell c d fun _ => rfl

/-- A lock says nothing of the root. -/
@[simp] theorem root_unlock (s : Store) (c d : CellId) : (s.unlock c).root d = s.root d :=
  s.root_updateCell c d fun _ => rfl

/-- Whether a lock is taken after a change of a cell. -/
theorem altering_updateCell (s : Store) (c d : CellId) (change : Cell → Cell) :
    (s.updateCell c change).altering d =
      if d = c then (((s.cell? c).map change).map Cell.altering).getD false else s.altering d := by
  unfold altering
  rw [cell?_updateCell]
  split <;> rfl

/-- A change of a cell that leaves its lock alone leaves all locks alone. -/
theorem altering_updateCell_of_keeps (s : Store) (c d : CellId) {change : Cell → Cell}
    (h : ∀ cell, (change cell).altering = cell.altering) :
    (s.updateCell c change).altering d = s.altering d := by
  rw [altering_updateCell]
  split
  · next hd =>
    rw [hd]
    unfold altering
    cases s.cell? c with
    | none => rfl
    | some cell => exact h cell
  · rfl

/-- All locks are free if no cell says otherwise. -/
theorem altering_of_all {s : Store} (h : (s.cells.values.all fun cell => !cell.altering) = true)
    (c : CellId) : s.altering c = false := by
  unfold altering cell? Table.get?
  cases hfind : s.cells.entries.find? fun e => e.1 = c with
  | none => rfl
  | some e =>
    have hmem : e.2 ∈ s.cells.values := List.mem_map_of_mem (List.mem_of_find?_eq_some hfind)
    simpa using List.all_eq_true.1 h e.2 hmem

/-- The lock of a variable that exists has been taken. -/
theorem altering_lock {s : Store} {c : CellId} (h : (s.cell? c).isSome = true) :
    (s.lock c).altering c = true := by
  obtain ⟨cell, hcell⟩ := Option.isSome_iff_exists.1 h
  unfold lock
  rw [altering_updateCell, if_pos rfl, hcell]
  rfl

/-- A lock that was given back is free. -/
theorem altering_unlock (s : Store) (c : CellId) : (s.unlock c).altering c = false := by
  unfold unlock
  rw [altering_updateCell, if_pos rfl]
  cases s.cell? c <;> rfl

/-- The locks of other variables stay as they are. -/
theorem altering_lock_of_ne (s : Store) {c d : CellId} (h : d ≠ c) :
    (s.lock c).altering d = s.altering d := by
  unfold lock
  rw [altering_updateCell, if_neg h]

/-- The locks of other variables stay as they are. -/
theorem altering_unlock_of_ne (s : Store) {c d : CellId} (h : d ≠ c) :
    (s.unlock c).altering d = s.altering d := by
  unfold unlock
  rw [altering_updateCell, if_neg h]

/-- Setting a root takes and frees no lock. -/
theorem altering_setRoot (s : Store) (c d : CellId) (v : Value) :
    (s.setRoot c v).2.altering d = s.altering d :=
  s.altering_updateCell_of_keeps c d fun _ => rfl

/-- Setting a variable takes and frees no lock. -/
theorem altering_write (s : Store) (t : ThreadId) (c d : CellId) (v : Value) :
    (s.write t c v).2.altering d = s.altering d := by
  unfold write
  split
  · rfl
  · exact s.altering_setRoot c d v

/-- Opening a frame takes and frees no lock. -/
theorem altering_push (s : Store) (t : ThreadId) (c d : CellId) :
    (s.push t c).2.altering d = s.altering d := by
  unfold push issueFrame
  dsimp only
  split
  · exact altering_updateCell_of_keeps _ c d fun _ => rfl
  · rfl

/-- Closing a frame takes and frees no lock. -/
theorem altering_pop {s s' : Store} {t : ThreadId} {c : CellId} {f : FrameId} {r : Replaced}
    (h : s.pop t c f = .ok (r, s')) (d : CellId) : s'.altering d = s.altering d := by
  unfold pop at h
  dsimp only at h
  split at h
  · split at h
    · cases h
    · cases h
      exact s.altering_updateCell_of_keeps c d fun _ => rfl
  · split at h
    · cases h
    · split at h
      · cases h
      · split at h <;> cases h <;> rfl

/-- Setting a root and giving back the lock may change places. -/
theorem setRoot_unlock (s : Store) (c : CellId) (v : Value) :
    (s.unlock c).setRoot c v = ((s.setRoot c v).1, (s.setRoot c v).2.unlock c) := by
  have hroot : (s.unlock c).root c = s.root c := s.root_unlock c c
  unfold setRoot
  rw [hroot]
  unfold unlock
  rw [updateCell_updateCell, updateCell_updateCell]

end Store

namespace World

variable {η ε : Type}

/-- The world after the lock of a variable was taken. -/
def locked (w : World η ε) (c : CellId) : World η ε :=
  { w with store := w.store.lock c }

/-- The world after the lock of a variable was given back. -/
def unlocked (w : World η ε) (c : CellId) : World η ε :=
  { w with store := w.store.unlock c }

end World

namespace CellId

variable {η ε α : Type} {deliver : Delivery η ε} {c : CellId} {f : Value → Act η ε Value}
  {m : Act η ε α} {ctx : Context} {w u : World η ε} {x : Value} {message : String}

/-! ## Actions that have a lock -/

/-- Who finds a lock taken goes no further, and otherwise takes it. -/
theorem lock_run (c : CellId) (ctx : Context) (w : World η ε) :
    c.lock ctx w =
      if w.store.altering c = true then (.halted, w) else (.done (), w.locked c) := by
  show (if w.store.altering c = true then Act.halt else Act.onStore _ : Act η ε Unit) ctx w = _
  split <;> rfl

/-- An action does not start while somebody else has the lock. -/
theorem alone_of_taken (h : w.store.altering c = true) : c.alone m ctx w = (.halted, w) :=
  Act.bind_of_halted (by rw [lock_run, if_pos h])

/-- An alteration as one that gives its lock back just before it sets the root. -/
theorem alterRoot_eq (deliver : Delivery η ε) (c : CellId) (f : Value → Act η ε Value) :
    c.alterRoot deliver f = (do
      c.lock
      let x ← Act.onUnwind (do f ((← Act.store).root c)) c.unlock
      c.unlock
      c.setRoot deliver x
      pure x) := by
  have hset : ∀ x : Value, Act.onUnwind (do
      let r ← Act.onStore fun s => s.setRoot c x
      pure (x, r)) c.unlock = (do
      let r ← Act.onStore fun s => s.setRoot c x
      pure (x, r) : Act η ε (Value × Replaced)) := fun x =>
    funext fun ctx => funext fun w => Act.onUnwind_of_done rfl
  unfold alterRoot alone
  rw [← bind_assoc (Act.store) (fun s : Store => f (s.root c)), Act.onUnwind_bind]
  simp only [hset, bind_assoc, pure_bind]
  congr 1
  funext _
  congr 1
  funext x
  -- The new root is there before the lock is given back, and both before the watches are told.
  funext ctx w
  show (c.announce deliver .write (w.store.setRoot c x).1 >>= fun _ => pure x : Act η ε Value) ctx
      { w with store := (w.store.setRoot c x).2.unlock c } =
    (c.announce deliver .write ((w.store.unlock c).setRoot c x).1 >>= fun _ => pure x :
      Act η ε Value) ctx { w with store := ((w.store.unlock c).setRoot c x).2 }
  rw [Store.setRoot_unlock]

/-! ## Alterations -/

/-- An alteration waits while another one has the lock, and is never through. -/
theorem alterRoot_of_taken (h : w.store.altering c = true) :
    c.alterRoot deliver f ctx w = (.halted, w) :=
  Act.bind_of_halted (alone_of_taken h)

/-- The function of an alteration runs while the alteration has the lock. -/
theorem alterRoot_of_free (h : w.store.altering c = false) :
    c.alterRoot deliver f ctx w = (do
      let x ← Act.onUnwind (f (w.store.root c)) c.unlock
      c.unlock
      c.setRoot deliver x
      pure x : Act η ε Value) ctx (w.locked c) := by
  have hlock : c.lock ctx w = (.done (), w.locked c) := by rw [lock_run, if_neg (by simp [h])]
  have hroot : (w.locked c).store.root c = w.store.root c := Store.root_lock _ _ _
  rw [alterRoot_eq, Act.bind_of_done hlock, ← hroot]
  rfl

/-- When the function is through, the root is set, and its lock is free. -/
theorem alterRoot_of_done (h : w.store.altering c = false)
    (hf : f (w.store.root c) ctx (w.locked c) = (.done x, u)) :
    c.alterRoot deliver f ctx w =
      (do c.setRoot deliver x; pure x : Act η ε Value) ctx (u.unlocked c) := by
  rw [alterRoot_of_free h, Act.bind_of_done (Act.onUnwind_of_done hf)]
  rfl

/-- A function that panics leaves the lock free. -/
theorem alterRoot_of_panicked (h : w.store.altering c = false)
    (hf : f (w.store.root c) ctx (w.locked c) = (.panicked message, u)) :
    c.alterRoot deliver f ctx w = (.panicked message, u.unlocked c) := by
  have hcleaned : Act.onUnwind (f (w.store.root c)) c.unlock ctx (w.locked c) =
      (.panicked message, u.unlocked c) := Act.onUnwind_of_panicked hf rfl
  rw [alterRoot_of_free h, Act.bind_of_panicked hcleaned]

/-- A function that is cut off cuts off the alteration. -/
theorem alterRoot_of_halted (h : w.store.altering c = false)
    (hf : f (w.store.root c) ctx (w.locked c) = (.halted, u)) :
    c.alterRoot deliver f ctx w = (.halted, u) := by
  rw [alterRoot_of_free h, Act.bind_of_halted (Act.onUnwind_of_halted hf)]

end CellId

end ScopedBinding
