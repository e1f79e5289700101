import ScopedBinding.Proofs.Runs

/-!
# The loop over a set of overrides and scopes inside scopes

`Overrides.enter` puts a whole set of overrides around a body: a loop acquires the guards, another one
releases them after the body, and when a panic passes, the guards that are left by then are dropped one
after another.

`Overrides.around` does the same by scopes inside scopes. Each scope has one guard, which it ends by
itself on every way out, and the scopes of the other pairs are inside it. The two take the same steps in
the same order (`Overrides.enter_eq`), also where a watch panics half way through one of the loops, and
what is proved of overrides goes by the second form.
-/

set_option autoImplicit false

namespace ScopedBinding

namespace Overrides

variable {η ε α β : Type} {deliver : Delivery η ε} {discard : α → Act η ε Unit}

/-- Runs a body inside a scope for each pair, each inside the one before. If a watch panics while a scope
ends, the guard of that scope is dropped and the result of the body goes away, before the scopes around
it are left. -/
def around (deliver : Delivery η ε) (discard : α → Act η ε Unit) :
    Overrides → Act η ε α → Act η ε (α × Option Fault)
  | [], body => do
    return (← body, none)
  | (cell, value) :: rest, body => do
    let guard ← Guard.acquire cell
    let (a, inner) ← Act.onUnwind
      (do cell.write deliver value; around deliver discard rest body) (guard.drop deliver)
    return (a, inner.or (← Act.onUnwind (finish deliver guard) (discard a)))

/-- What becomes of the result of a body whose scopes ended with or without a fault. -/
def result : α × Option Fault → Except Fault α
  | (a, none) => .ok a
  | (_, some fault) => .error fault

/-- What is made of the result of a body, which goes away if there is a rejected release. -/
def settle (discard : α → Act η ε Unit) : α × Option Fault → Act η ε (Except Fault α)
  | (a, none) => pure (.ok a)
  | (a, some fault) => do
    discard a
    pure (.error fault)

/-- What is made of the result of a body that may fail and of a rejected release. -/
def trySettle (discard : Except β α → Act η ε Unit) (ofFault : Fault → β) (policy : ReleasePolicy) :
    Except β α × Option Fault → Act η ε (Except β α)
  | (result, none) => pure result
  | (.ok a, some fault) => do
    discard (.ok a)
    pure (.error (ofFault fault))
  | (.error failure, some fault) => do
    Act.log ⟨.error, source, "restoration failed after body error: " ++ fault.message, []⟩
    Act.onUnwind (Guard.failRelease policy fault) (discard (.error failure))
    pure (.error failure)

/-- A run inside overrides is the entering and then what is made of its result. -/
theorem run_eq (deliver : Delivery η ε) (discard : α → Act η ε Unit) (set : Overrides)
    (body : Act η ε α) :
    run deliver discard set body = enter deliver discard set body >>= settle discard := by
  rfl

/-- A run of a body that may fail asks for the policy first. -/
theorem tryRun_eq (deliver : Delivery η ε) (discard : Except β α → Act η ε Unit)
    (ofFault : Fault → β) (set : Overrides) (body : Act η ε (Except β α)) :
    tryRun deliver discard ofFault set body = (do
      let policy ← Settings.current
      enter deliver discard set body >>= trySettle discard ofFault policy) := by
  rfl

/-- A result that goes away without a step may be thrown away. -/
theorem settle_of_gone {a : α} (h : discard a = pure ()) (fault : Option Fault) :
    settle discard (a, fault) = pure (result (a, fault)) := by
  obtain _ | fault := fault
  · rfl
  · show (do discard a; pure (Except.error fault)) = _
    rw [h]
    rfl

/-- A result that owns no guard may be thrown away. -/
theorem settle_skip (ends : α × Option Fault) :
    settle (Act.skip : α → Act η ε Unit) ends = pure (result ends) := by
  obtain ⟨a, fault⟩ := ends
  have hskip : (Act.skip a : Act η ε Unit) = pure () := rfl
  exact settle_of_gone hskip fault

/-- A run of a body whose result owns no guard. -/
theorem run_skip (deliver : Delivery η ε) (set : Overrides) (body : Act η ε α) :
    run deliver Act.skip set body = (do return result (← enter deliver Act.skip set body)) := by
  rw [run_eq]
  congr 1
  funext ends
  exact settle_skip ends

/-! ## The two forms -/

/-- Opening a frame cannot panic, so a cleanup around it does not run. -/
theorem onUnwind_acquire (c : CellId) (cleanup : Act η ε Unit) :
    Act.onUnwind (Guard.acquire c) cleanup = (Guard.acquire c : Act η ε Guard) := by
  funext ctx w
  exact Act.onUnwind_of_done rfl

/-- Guards are dropped one after another. -/
theorem dropAll_cons (deliver : Delivery η ε) (guard : Guard) (rest : List Guard) :
    dropAll deliver (guard :: rest) = (do guard.drop deliver; dropAll deliver rest) :=
  List.forM_cons

/-- The loop with other guards around it. Scopes inside scopes come to the same if they are surrounded by
the drops of these guards and followed by the releases of them. -/
theorem acquireAll_eq (deliver : Delivery η ε) (discard : α → Act η ε Unit) (set : Overrides)
    (body : Act η ε α) (outer : List Guard) :
    (do
      let guards ← acquireAll deliver set outer
      let a ← Act.onUnwind body (dropAll deliver guards)
      return (a, ← releaseAll deliver (discard a) none guards)) =
    (do
      let (a, first) ← Act.onUnwind (around deliver discard set body) (dropAll deliver outer)
      return (a, ← releaseAll deliver (discard a) first outer)) := by
  induction set generalizing outer with
  | nil =>
    have hinside : Act.onUnwind (around deliver discard [] body) (dropAll deliver outer) =
        (do return (← Act.onUnwind body (dropAll deliver outer), none)) :=
      Act.onUnwind_map (·, none) body _
    simp only [acquireAll, hinside, bind_assoc, pure_bind]
  | cons pair rest ih =>
    obtain ⟨c, v⟩ := pair
    simp only [acquireAll, around, bind_assoc, ih]
    rw [Act.onUnwind_bind, onUnwind_acquire, bind_assoc]
    congr 1
    funext guard
    -- The guard of this pair is dropped before those around it, and released before them.
    rw [Act.onUnwind_bind, Act.onUnwind_onUnwind, ← dropAll_cons, Act.onUnwind_bind]
    simp only [bind_assoc]
    congr 1
    funext _
    congr 1
    funext ends
    simp only [releaseAll, bind_assoc]
    rw [Act.onUnwind_map, Act.onUnwind_onUnwind]
    simp only [bind_assoc, pure_bind]

/-- The loop over a set of overrides is scopes inside scopes. -/
theorem enter_eq (deliver : Delivery η ε) (discard : α → Act η ε Unit) (set : Overrides)
    (body : Act η ε α) :
    enter deliver discard set body = around deliver discard set (do
      logEntering set.length
      body) := by
  have houter : ∀ m : Act η ε (α × Option Fault), Act.onUnwind m (dropAll deliver []) = m :=
    Act.onUnwind_nothing
  unfold enter
  rw [acquireAll_eq, houter]
  simp only [releaseAll, pure_bind]
  exact bind_pure _

end Overrides

end ScopedBinding
