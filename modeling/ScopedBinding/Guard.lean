import ScopedBinding.Access
import ScopedBinding.Settings

/-!
# Guards

A guard holds a frame that it opened and closes it once. `Guard.release` closes the frame and
reports a fault if it cannot. `Guard.drop` is for a guard that goes away: it releases a guard that
is still acquired, and what happens to a fault is up to the release policy. Every attempt is logged.
-/

set_option autoImplicit false

namespace ScopedBinding

/-- What has become of the frame of a guard. -/
inductive GuardState where
  /-- The frame is open. -/
  | acquired
  /-- The frame was closed. -/
  | released
  /-- The frame was given up and stays open. -/
  | abandoned
  deriving DecidableEq

/-- The name of a state. -/
def GuardState.distinct : GuardState → String
  | .acquired => "Acquired"
  | .released => "Released"
  | .abandoned => "Abandoned"

/-- The holder of a frame of a variable. -/
structure Guard where
  cell : CellId
  frame : FrameId
  state : GuardState
  deriving DecidableEq

namespace Guard

variable {η ε : Type}

/-- The part of the library that guard messages come from. -/
def source : String := "rebind::guard"

/-- Opens a frame and holds it. The value of the variable stays what it is. -/
def acquire (c : CellId) : Act η ε Guard := do
  let frame ← c.push
  let s ← Act.store
  Act.log ⟨.debug, source, "acquired",
    [("symbol", (s.symbol c).display), ("frame", frame.display), ("kind", (s.kind c).word)]⟩
  pure ⟨c, frame, .acquired⟩

/-- Closes the frame of a guard. A guard whose frame was closed or given up has nothing to release,
and a frame that is not innermost cannot be closed; then the guard stays as it is. -/
def release (deliver : Delivery η ε) (g : Guard) : Act η ε (Except Fault Guard) := do
  let symbol := ((← Act.store).symbol g.cell).display
  let closed ←
    match g.state with
    | .acquired => g.cell.pop deliver g.frame
    | .released => pure (.error (.doubleRelease symbol))
    | .abandoned => pure (.error (.abandoned symbol g.frame))
  match closed with
  | .error fault =>
    Act.log ⟨.error, source, fault.message, [("frame", g.frame.display)]⟩
    pure (.error fault)
  | .ok () =>
    Act.log ⟨.debug, source, "released", [("symbol", symbol), ("frame", g.frame.display)]⟩
    pure (.ok { g with state := .released })

/-- Gives up the frame of a guard that is still acquired. -/
def abandon (g : Guard) : Act η ε Guard := do
  match g.state with
  | .acquired =>
    let symbol := ((← Act.store).symbol g.cell).display
    Act.log ⟨.warn, source, "abandoned without restoring",
      [("symbol", symbol), ("frame", g.frame.display)]⟩
    pure { g with state := .abandoned }
  | _ => pure g

/-- What becomes of a release that failed where nobody is told: under the panic policy a panic with
the wording of the fault, unless the thread is unwinding already. -/
def failRelease (policy : ReleasePolicy) (fault : Fault) : Act η ε Unit := do
  if ← Act.isUnwinding then pure ()
  else
    match policy with
    | .panic => Act.panic fault.message
    | .log => pure ()

/-- Ends the life of a guard. A guard that is still acquired is released, under the policy of the
process. -/
def drop (deliver : Delivery η ε) (g : Guard) : Act η ε Unit := do
  match g.state with
  | .acquired =>
    let policy ← Settings.current
    match ← g.release deliver with
    | .ok _ => pure ()
    | .error fault => failRelease policy fault
  | _ => pure ()

/-- The text of a guard with its fields. -/
def distinct (s : Store) (g : Guard) : String :=
  "ScopeGuard \x7b symbol: " ++ (s.symbol g.cell).distinct ++ ", frame: " ++ g.frame.distinct ++
    ", state: " ++ g.state.distinct ++ " \x7d"

end Guard

end ScopedBinding
