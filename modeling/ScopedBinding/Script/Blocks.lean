import ScopedBinding.Script.Cells
import ScopedBinding.Script.Values

/-!
# Operations that run operations

What scripts do around lists of operations: watches and alterations, scopes, overrides, snapshots
and threads. How a list is run is a parameter here, since the operations in it may contain lists
again.
-/

set_option autoImplicit false

namespace ScopedBinding.Script

/-- Notes an entry of the report. -/
def enter (e : Entry) : Doing Unit :=
  Act.note (.entered e)

/-- Runs operations whose failure goes no further. It is reported as ignored. -/
def runIgnoring (run : Runner) (x : Extent) (ops : List Op) : Doing Unit := do
  match ← run x ops with
  | .ok () => pure ()
  | .error failure => enter (.failed "ignored" failure)

/-- How the watches of a script learn of an event: it is counted and reported, the operations of the
watch run up to its limit, and the watch may panic at one event, unless the thread is unwinding. -/
def deliver (run : Runner) (x : Extent) : Delivery Session Entry := fun w e => do
  let some watching := (← session).watches.get? w | pure ()
  let rule := watching.rule
  if rule.change.all (· == changeWord e.change) then
    let count := watching.seen + 1
    update fun s => { s with watches := s.watches.modify w fun k => { k with seen := count } }
    let text : Fields := if rule.debug then [("debug", .text (eventText e))] else []
    enter (.event ([("ev", .text watching.key), ("sym", .text e.symbol.display),
      ("old", .value e.old), ("new", .value e.new), ("change", .text (changeWord e.change)),
      ("now", ← stateOf e.cell)] ++ text))
    if count ≤ rule.limit then runIgnoring run x watching.ops
    if rule.panicAt = some count then
      if !(← (Act.isUnwinding : Doing Bool)) then
        Act.panic ("watch " ++ watching.key ++ " panicked")

/-- The root with a number added. A root that is no integer counts as zero. -/
def addTo (current : Value) (n : Int64) : Value :=
  .int (current.int?.getD 0 + n)

/-- What an alteration makes of a root with its number, its value and its text. -/
def Alteration.apply (f : Alteration) (n : Int64) (v : Value) (t : String) (current : Value) :
    Doing Value :=
  match f with
  | .add => pure (addTo current n)
  | .const => pure v
  | .same => pure current
  | .append => pure (.text (current.display ++ t))
  | .panic => Act.panic ("alter " ++ t)

/-- Refuses an operation that alters a cell which is being altered. -/
def needUnaltered (handle : Arg String) (c : CellId) : Step Unit := do
  if (← extent).altering.contains c then throw (.alterBusy (← need handle))

/-- Alters a root. Operations may run before the alteration is known. -/
def performAlter (run : Runner) (handle : Arg String) (fields : AlterFields) (ops : List Op) :
    Step Reply := do
  let c ← cell handle
  let f ← need fields.alteration
  let n ← need fields.number
  let v ← value fields.value
  needUnaltered handle c
  let x ← extent
  let x := { x with altering := c :: x.altering }
  let root ← c.alterRoot (deliver run x) fun current => do
    runIgnoring run x ops
    f.apply n v fields.text current
  done [("r", .value root), ("s", ← stateOf c)]

/-- How many events of a watch run its operations if nothing else is said. -/
def usualLimit : Nat := 1

/-- Registers a watch of the script, with a count of its own. -/
def performWatch (handle key : Arg String) (fields : WatchFields) (ops : List Op) :
    Step Reply := do
  let c ← cell handle
  let key ← need key
  let panicAt ← fields.panicAt.mapM need
  let limit ← fields.limit.mapM need
  let rule : WatchRule := ⟨fields.change, panicAt, limit.getD usualLimit, fields.debug⟩
  let w : WatchId := ⟨(← session).watches.entries.length⟩
  update fun s => { s with watches := s.watches.insert w ⟨key, rule, ops, 0⟩ }
  (c.watch key w : Doing Unit)
  done succeeded

/-- Drops guards in the order given. If one panics the others are dropped while unwinding. -/
def dropAll (deliver : Delivery Session Entry) : List Guard → Doing Unit
  | [] => pure ()
  | guard :: rest => do
    Act.onUnwind (guard.drop deliver) (dropAll deliver rest)
    dropAll deliver rest

/-- Ends a scope: the guards it owns are dropped, newest first. -/
def closeScope (deliver : Delivery Session Entry) (scope : Serial) : Doing Unit := do
  let own := (← session).guards.filter fun h => h.scope == scope
  update fun s => { s with guards := s.guards.filter fun h => h.scope != scope }
  dropAll deliver (own.map Held.guard)

/-- Runs operations in a scope of their own. -/
def performScope (run : Runner) (ops : List Op) : Step Reply := do
  let scope ← freshSerial
  let x ← extent
  let close := closeScope (deliver run x) scope
  let flow ← Act.onUnwind (run { x with scopes := scope :: x.scopes } ops) close
  close
  blockAnswer false (.ok flow) []

/-- How operations ended that were run for somebody who takes any end. -/
def endFields : Except String Flow → Fields
  | .ok (.ok ()) => succeeded
  | .ok (.error failure) => [("err", .failure failure)]
  | .error message => [("panic", .text message)]

/-- Runs operations and stops their failure or panic. -/
def performAttempt (run : Runner) (ops : List Op) : Step Reply := do
  let result ← Act.attempt (run (← extent) ops)
  done (endFields result)

/-- Runs operations a number of times, until they fail. -/
def runTimes (run : Doing Flow) : Nat → Doing Flow
  | 0 => pure (.ok ())
  | count + 1 => do
    match ← run with
    | .ok () => runTimes run count
    | .error failure => pure (.error failure)

/-- Runs operations a number of times. A failure ends that without a report. -/
def performLoop (run : Runner) (count : Arg Nat) (ops : List Op) : Step Reply := do
  let count ← need count
  match ← runTimes (run (← extent) ops) count with
  | .ok () => done succeeded
  | .error failure => pure ⟨none, .error failure⟩

/-- Runs operations inside overrides. -/
def performRun (run : Runner) (set : SetSource) (propagate : Bool) (ops : List Op) :
    Step Reply := do
  let set ← set.overrides
  let x ← extent
  let result ← Overrides.run (deliver run x) Act.skip set (run x ops)
  blockAnswer propagate result []

/-- Runs operations inside overrides and stops their failure, unless it is to be passed on. -/
def performTryRun (run : Runner) (set : SetSource) (propagate : Bool) (ops : List Op) :
    Step Reply := do
  let set ← set.overrides
  let x ← extent
  match ← Overrides.tryRun (deliver run x) Act.skip Failure.fault set (run x ops) with
  | .ok () => done succeeded
  | .error failure =>
    pure ⟨some [("err", .failure failure)], if propagate then .error failure else .ok ()⟩

/-- Runs a body inside one override of a cell for each value, each inside the one before. The states
of the cell are taken before each override ends, innermost first. -/
def nested (deliver : Delivery Session Entry) (c : CellId) (body : Doing Flow) :
    List Value → Doing (Except Fault Flow × List Datum)
  | [] => do
    return (.ok (← body), [])
  | v :: rest => do
    let ((inner, seen), rejected) ← Overrides.enter deliver Act.skip [(c, v)] do
      let (inner, seen) ← nested deliver c body rest
      return (inner, seen ++ [← stateOf c])
    match rejected with
    | some fault => return (.error fault, seen)
    | none => return (inner, seen)

/-- The values of a list of literals. -/
def valuesOf (values : Arg (List (Arg Literal))) : Step (List Value) := do
  (← need values).mapM value

/-- Runs operations inside nested overrides of one cell. -/
def performNest (run : Runner) (handle : Arg String) (values : Arg (List (Arg Literal)))
    (propagate : Bool) (ops : List Op) : Step Reply := do
  let c ← cell handle
  let values ← valuesOf values
  let x ← extent
  let (result, seen) ← nested (deliver run x) c (run x ops) values
  blockAnswer propagate result [("seen", .list seen), ("s", ← stateOf c)]

/-- Runs operations inside the bindings of a snapshot. -/
def performConvey (run : Runner) (handle : Arg String) (propagate : Bool) (ops : List Op) :
    Step Reply := do
  let snapshot ← lookUp .snapshot Session.snapshots handle
  let x ← extent
  let result ← snapshot.run (deliver run x) Act.skip (run x ops)
  blockAnswer propagate result []

/-- Makes a task of operations and the bindings of now. -/
def performBind (as : Arg String) (cells : CellList) (ops : List Op) : Step Reply := do
  let handle ← need as
  let cells ← cells.cells
  let snapshot ← (Snapshot.capture cells : Doing Snapshot)
  update fun s => { s with tasks := s.tasks.insert handle ⟨snapshot, ops⟩ }
  done succeeded

/-- Runs a task, which is used up by that. -/
def performCall (run : Runner) (handle : Arg String) (propagate : Bool) : Step Reply := do
  let task ← lookUp .task Session.tasks handle
  let handle ← need handle
  update fun s => { s with tasks := s.tasks.erase handle }
  let x ← extent
  let result ← task.snapshot.run (deliver run x) Act.skip (run x task.ops)
  blockAnswer propagate result []

/-- A thread that runs nothing else, which is a new one if the name is new. -/
def worker (name : String) : Doing Worker := do
  match (← session).workers.get? name with
  | some w => pure w
  | none =>
    let n ← freshSerial
    let w : Worker := ⟨⟨n⟩, n⟩
    update fun s => { s with workers := s.workers.insert name w }
    pure w

/-- The name of a thread that is not in use. -/
def idleThread (name : Arg String) : Step String := do
  let name ← need name
  if (← extent).busy.contains name then throw (.threadBusy name) else pure name

/-- Runs operations on a thread and stops their failure or panic. -/
def performOn (run : Runner) (name : Arg String) (ops : List Op) : Step Reply := do
  let name ← idleThread name
  let w ← worker name
  let x ← extent
  let x := { x with scopes := [w.scope], busy := name :: x.busy }
  let result ← Act.onThread w.thread (Act.attempt (run x ops))
  done (endFields result ++ [("thread", .text name)])

/-- Takes away the bindings of a thread that has ended. -/
def endThread (t : ThreadId) : Doing Unit :=
  Act.onStore fun s => ((), s.endThread t)

/-- Ends a thread: its bindings go, and nobody holds its guards any more. -/
def performJoin (name : Arg String) : Step Reply := do
  let name ← idleThread name
  match (← session).workers.get? name with
  | none => done [("r", .null)]
  | some w =>
    endThread w.thread
    update fun s =>
      { s with workers := s.workers.erase name
               guards := s.guards.filter fun h => h.scope != w.scope }
    done [("r", .bool true)]

/-- A thread that exists only for one operation. Its name is known to nobody. -/
def newWorker : Doing Worker := do
  let n ← freshSerial
  pure ⟨⟨n⟩, n⟩

/-- What is in progress around what such a thread does. -/
def Worker.extent (w : Worker) (x : Extent) : Extent :=
  { x with scopes := [w.scope] }

/-- Repeats an action. -/
def times (body : Doing Unit) : Nat → Doing Unit
  | 0 => pure ()
  | count + 1 => do
    body
    times body count

/-- Adds one to the root of a cell a number of times on a thread of its own. -/
def countOn (run : Runner) (x : Extent) (c : CellId) (count : Nat) : Doing Unit := do
  let w ← newWorker
  let addOne : Doing Unit := do
    let _ ← c.alterRoot (deliver run (w.extent x)) fun current => pure (addTo current 1)
  Act.onThread w.thread (times addOne count)
  endThread w.thread

/-- Alters a root by adding one, a number of times on each of a number of threads. -/
def performAlterInParallel (run : Runner) (handle : Arg String) (threads count : Arg Nat) :
    Step Reply := do
  let c ← cell handle
  let threads ← need threads
  let count ← need count
  needUnaltered handle c
  times (countOn run (← extent) c count) threads
  done (succeeded ++ [("s", ← stateOf c)])

/-- Binds a cell to a value on a thread of its own. -/
def bindOn (run : Runner) (x : Extent) (c : CellId) (v : Value) : Doing (Worker × Guard) := do
  let w ← newWorker
  let deliver := deliver run (w.extent x)
  let guard ← Act.onThread w.thread do
    let guard ← Guard.acquire c
    Act.onUnwind (c.write deliver v) (guard.drop deliver)
    Overrides.logEntering 1
    pure guard
  pure (w, guard)

/-- Ends the binding that a thread has made, and then the thread. The state of the cell is taken in
between. -/
def unbindOn (run : Runner) (x : Extent) (w : Worker) (guard : Guard) : Doing Datum := do
  let state ← Act.onThread w.thread do
    let _ ← Overrides.finish (deliver run (w.extent x)) guard
    stateOf guard.cell
  endThread w.thread
  pure state

/-- Binds a cell on several threads at the same time. They begin and end in the order of the values,
and each tells the state of the cell while all are bound and after its own end. -/
def performBindInParallel (run : Runner) (handle : Arg String)
    (values : Arg (List (Arg Literal))) : Step Reply := do
  let c ← dynamicCell "par_bind" handle
  let values ← valuesOf values
  let x ← extent
  let bound ← (values.mapM (bindOn run x c) : Doing _)
  let inside ← (bound.mapM fun p => Act.onThread p.1.thread (stateOf c) : Doing _)
  let after ← (bound.mapM fun p => unbindOn run x p.1 p.2 : Doing _)
  done [("r", .list ((inside.zip after).map fun p => .list [p.1, p.2])), ("s", ← stateOf c)]

end ScopedBinding.Script
