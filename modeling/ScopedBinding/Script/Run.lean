import ScopedBinding.Script.Blocks

/-!
# Running scripts

`run` performs the operations of a list in order until one ends the list. Operations that run
others may be nested up to a depth, and a script that goes deeper is halted. `Script.report` runs a
whole script from a fresh world. A failure or a panic that leaves an operation at the top is
reported there, and the next one still runs.
-/

set_option autoImplicit false

namespace ScopedBinding.Script

/-- Performs one operation, given how the lists inside it are run. -/
def perform (run : Runner) : Op → Step Reply
  | .value op => performValue op
  | .symbol op => performSymbol op
  | .stack op => performStack op
  | .fault fields => performFault fields
  | .policy op => performPolicy op
  | .cell op => performCell (deliver run) op
  | .guard op => performGuard (deliver run) op
  | .space op => performSpace (deliver run) op
  | .snapshot op => performSnapshot op
  | .set op => performSet op
  | .alter handle fields ops => performAlter run handle fields ops
  | .watch handle key fields ops => performWatch handle key fields ops
  | .scope ops => performScope run ops
  | .attempt ops => performAttempt run ops
  | .loop count ops => performLoop run count ops
  | .panic message => (Act.panic message : Doing Reply)
  | .fail message => pure ⟨none, .error (.body message)⟩
  | .run set propagate ops => performRun run set propagate ops
  | .tryRun set propagate ops => performTryRun run set propagate ops
  | .nest handle values propagate ops => performNest run handle values propagate ops
  | .convey handle propagate ops => performConvey run handle propagate ops
  | .bind as cells ops => performBind as cells ops
  | .call handle propagate => performCall run handle propagate
  | .on name ops => performOn run name ops
  | .join name => performJoin name
  | .alterInParallel handle threads count => performAlterInParallel run handle threads count
  | .bindInParallel handle values => performBindInParallel run handle values
  | .unknown name => throw (.unknownOp name)

/-- Performs one operation and reports it. A mistake does not end the list. -/
def performAndReport (run : Runner) (x : Extent) (op : Op) : Doing Flow := do
  match ← (perform run op).run.run x with
  | .error mistake =>
    enter (.mistake op.name mistake)
    pure (.ok ())
  | .ok reply =>
    if let some fields := reply.fields then enter (.reply op.name fields)
    pure reply.flow

/-- Performs operations in order until one ends the list. -/
def performAll (run : Runner) (x : Extent) : List Op → Doing Flow
  | [] => pure (.ok ())
  | op :: rest => do
    match ← performAndReport run x op with
    | .ok () => performAll run x rest
    | .error failure => pure (.error failure)

/-- Runs operations that nest others at most `depth` levels deep. -/
def run : Nat → Runner
  | 0 => fun _ _ => Act.halt
  | depth + 1 => performAll (run depth)

/-- How deeply operations may be nested, counting those that watches run. -/
def maxDepth : Nat := 100000

/-- Runs one operation at the top and reports what leaves it. -/
def runTop (op : Op) : Doing Unit := do
  match ← Act.attempt (run maxDepth .initial [op]) with
  | .ok (.ok ()) => pure ()
  | .ok (.error failure) => enter (.failed "top" failure)
  | .error message => enter (.reply "top" [("panic", .text message)])

/-- A piece of the report of a script: an entry, or a log message. -/
inductive Line where
  | entry (e : Entry)
  | message (m : LogMessage)

/-- The lines that a note gives, with log messages only if they are asked for. -/
def lineOf (log : Bool) : Note Entry → Option Line
  | .entered e => some (.entry e)
  | .logged m => if log then some (.message m) else none
  | .pushed _ _ _ | .popped _ _ _ | .changed _ _ => none

end ScopedBinding.Script

namespace ScopedBinding

/-- A script. Without an environment of its own it cannot look at the process it runs in. -/
structure Script where
  ops : List Script.Op
  log : Bool
  environment : Option Script.Content

namespace Script

/-- The world in which a script starts. -/
def start (s : Script) : World Session Entry where
  store := ∅
  settings := ⟨s.environment.getD none, none⟩
  journal := []
  host := .initial s.environment.isSome

/-- What a script reports, in the order of time. -/
def report (s : Script) : List Line :=
  let (_, w) := (s.ops.forM runTop : Doing Unit) ⟨⟨0⟩, false⟩ s.start
  w.journal.reverse.filterMap (lineOf s.log)

end Script

end ScopedBinding
