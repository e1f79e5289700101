import ScopedBinding.Namespace
import ScopedBinding.Script.Report
import ScopedBinding.Snapshot

/-!
# The state of a running script

A session remembers what the handles of a script stand for, the guards that the script holds, and
what its watches do. What is in progress around an operation is kept apart, in its `Extent`: the
scopes that are open on the thread, the threads that are busy, and the things that cannot be used
again before the operation on them ends.
-/

set_option autoImplicit false

namespace ScopedBinding.Script

/-- A number that the session gave out: of a scope, a guard, a name space or a thread. -/
abbrev Serial : Type := Nat

/-- A guard that the script holds, in the scope that owns it. -/
structure Held where
  serial : Serial
  scope : Serial
  name : String
  guard : Guard

/-- A watch of the script, and how many events it has counted. -/
structure Watching where
  key : String
  rule : WatchRule
  ops : List Op
  seen : Nat

/-- A name space of the script. -/
structure Space where
  serial : Serial
  names : Namespace

/-- Operations to be run inside the bindings of a snapshot. -/
structure Task where
  snapshot : Snapshot
  ops : List Op

/-- A thread of the script, and the scope that owns the guards acquired outside all others. -/
structure Worker where
  thread : ThreadId
  scope : Serial

/-- What the handles of a script stand for. Guards are listed newest first. -/
structure Session where
  labels : Table String Sealed
  tables : Table String SymbolTable
  frameStacks : Table String FrameStack
  cells : Table String CellId
  guards : List Held
  watches : Table WatchId Watching
  sets : Table String Overrides
  spaces : Table String Space
  snapshots : Table String Snapshot
  tasks : Table String Task
  workers : Table String Worker
  issued : Serial
  environment : Bool

/-- What is in progress around an operation. Scopes are listed innermost first and end with that of
the thread. -/
structure Extent where
  scopes : List Serial
  busy : List String
  altering : List CellId
  releasing : List Serial
  declaring : List Serial

/-- The name of the thread that a script starts on. -/
def mainThread : String := "main"

/-- A session in which nothing has been named. Serial 0 is the first thread and its scope. -/
def Session.initial (environment : Bool) : Session where
  labels := ∅
  tables := ∅
  frameStacks := ∅
  cells := ∅
  guards := []
  watches := ∅
  sets := ∅
  spaces := ∅
  snapshots := ∅
  tasks := ∅
  workers := ∅
  issued := 1
  environment := environment

/-- The surroundings of the operations of a whole script. -/
def Extent.initial : Extent where
  scopes := [0]
  busy := [mainThread]
  altering := []
  releasing := []
  declaring := []

/-- An action of a script. -/
abbrev Doing (α : Type) : Type :=
  Act Session Entry α

/-- An action of an operation, which knows what is in progress and may find a mistake. -/
abbrev Step (α : Type) : Type :=
  ExceptT Mistake (ReaderT Extent (Act Session Entry)) α

/-- How a list of operations is run. -/
abbrev Runner : Type :=
  Extent → List Op → Doing Flow

/-- What the handles stand for now. -/
def session : Doing Session :=
  Act.host

/-- Changes what the handles stand for. -/
def update (change : Session → Session) : Doing Unit :=
  Act.modifyHost change

/-- The store now. -/
def store : Doing Store :=
  Act.store

/-- The acting thread. -/
def thread : Doing ThreadId :=
  Act.thread

/-- What is in progress around an operation. -/
def extent : Step Extent :=
  read

/-- Takes the next serial. -/
def freshSerial : Doing Serial := do
  let n := (← session).issued
  update fun s => { s with issued := n + 1 }
  pure n

/-- An argument that has to be there. -/
def need {α : Type} (a : Arg α) : Step α :=
  match a with
  | .ok a => pure a
  | .error field => throw (.badInput field)

/-- What a handle stands for. -/
def lookUp {α : Type} (noun : Noun) (table : Session → Table String α) (handle : Arg String) :
    Step α := do
  let handle ← need handle
  match (table (← session)).get? handle with
  | some a => pure a
  | none => throw (.missing noun handle)

/-- The cell of a handle. -/
def cell (handle : Arg String) : Step CellId :=
  lookUp .cell Session.cells handle

/-- The dynamic cell of a handle, for an operation that other cells do not have. -/
def dynamicCell (op : String) (handle : Arg String) : Step CellId := do
  let c ← cell handle
  match (← store).kind c with
  | .dynamic => pure c
  | .root => throw (.notDynamic op)

/-- The name space of a handle, which must not be in the middle of a declaration. -/
def space (handle : Arg String) : Step Space := do
  let ns ← lookUp .space Session.spaces handle
  if (← extent).declaring.contains ns.serial then throw (.spaceBusy (← need handle))
  else pure ns

/-- The newest guard that has a name in the innermost scope that has one. -/
def findGuard (scopes : List Serial) (guards : List Held) (name : String) : Option Held :=
  scopes.findSome? fun scope => guards.find? fun h => h.scope == scope && h.name == name

/-- The guard of a name, which must not be in the middle of its release. -/
def held (name : Arg String) : Step Held := do
  let name ← need name
  match findGuard (← extent).scopes (← session).guards name with
  | none => throw (.missing .guard name)
  | some h => if (← extent).releasing.contains h.serial then throw (.guardBusy name) else pure h

/-- The object of a label, which is a new one if the label is new. A new object holds its label. -/
def sealedOf (label : String) : Doing Sealed := do
  match (← session).labels.get? label with
  | some o => pure o
  | none =>
    let o : Sealed := ⟨label, .text label⟩
    update fun s => { s with labels := s.labels.insert label o }
    pure o

/-- The value of a literal. -/
def evaluate : Literal → Doing Value
  | .nil => pure .nil
  | .bool b => pure (.bool b)
  | .int n => pure (.int n)
  | .float x => pure (.float x)
  | .text s => pure (.text s)
  | .object label => return .object (← sealedOf label)

/-- The value of a literal argument. -/
def value (v : Arg Literal) : Step Value := do
  let l ← need v
  evaluate l

/-- A cell as the acting thread sees it. -/
def stateOf (c : CellId) : Doing Datum := do
  return .state (← store) (← thread) c

/-- The overrides of pairs of cell handles and values. -/
def overridesOf (pairs : Pairs) : Step Overrides := do
  (← need pairs).mapM fun pair => do
    let (handle, v) ← need pair
    return (← cell (.ok handle), ← value v)

/-- Pairs of names and values. -/
def namedValues (pairs : Pairs) : Step (List (String × Value)) := do
  (← need pairs).mapM fun pair => do
    let (name, v) ← need pair
    return (name, ← value v)

/-- The overrides that an operation is given. -/
def SetSource.overrides : SetSource → Step Overrides
  | .stored handle => lookUp .set Session.sets handle
  | .listed pairs => overridesOf pairs

/-- The dynamic cells that an operation is given. -/
def CellList.cells : CellList → Step (List CellId)
  | .ofNamespace handle => do
    let ns ← space handle
    return ns.names.dynamicCells (← store)
  | .listed handles => do
    (← need handles).mapM fun handle => do
      let c ← cell handle
      match (← store).kind c with
      | .dynamic => pure c
      | .root => throw (.badInput "cells")

/-- What an operation reports, if anything, and how the list it is in goes on. -/
structure Reply where
  fields : Option Fields
  flow : Flow

/-- A reply after which the list goes on. -/
def done (fields : Fields) : Step Reply :=
  pure ⟨some fields, .ok ()⟩

/-- The reply of an operation that has nothing to tell. -/
def succeeded : Fields := [("r", .text "ok")]

/-- The reply of an operation that may have met a fault. The fault ends the list if it is passed on,
and then nothing else is reported. -/
def answer {α : Type} (propagate : Bool) (result : Except Fault α) (fields : α → Fields)
    (more : Fields) : Step Reply :=
  match result with
  | .ok a => done (fields a ++ more)
  | .error f =>
    if propagate then pure ⟨some [("err", .fault f)], .error (.fault f)⟩
    else done (("err", .fault f) :: more)

/-- The reply of a block: a failure of its operations goes on outward, and a fault of its own is met
as in `answer`. -/
def blockAnswer (propagate : Bool) (result : Except Fault Flow) (more : Fields) : Step Reply :=
  match result with
  | .ok (.ok ()) => done (succeeded ++ more)
  | .ok (.error failure) => pure ⟨some [("body_err", .failure failure)], .error failure⟩
  | .error f => answer propagate (.error f : Except Fault Unit) (fun _ => []) more

end ScopedBinding.Script
