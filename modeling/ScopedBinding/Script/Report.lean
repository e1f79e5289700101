import ScopedBinding.Overrides
import ScopedBinding.Script.Op

/-!
# What a script reports

Each operation reports one entry when it finishes, and each event that a watch is told of reports
one too. The contents of entries are `Datum` trees under field names. A mistake of the script itself
is reported as such and does not stop it.
-/

set_option autoImplicit false

namespace ScopedBinding.Script

/-- A piece of a report. -/
inductive Datum where
  | null
  | bool (b : Bool)
  | count (n : Nat)
  | text (s : String)
  | value (v : Value)
  | list (items : List Datum)
  | record (fields : List (String × Datum))

/-- Named pieces of a report. -/
abbrev Fields : Type :=
  List (String × Datum)

/-- The things that scripts name. -/
inductive Noun where
  | cell
  | guard
  | table
  | stack
  | set
  | snapshot
  | task
  | space

/-- A mistake of the script. -/
inductive Mistake where
  | badInput (field : String)
  | unknownOp (name : String)
  | missing (noun : Noun) (handle : String)
  | notDynamic (op : String)
  | threadBusy (name : String)
  | guardBusy (handle : String)
  | spaceBusy (handle : String)
  | alterBusy (handle : String)
  | needsEnvironment (op : String)

namespace Mistake

/-- The name of the kind of a mistake. -/
def kindName : Mistake → String
  | badInput _ => "BadInput"
  | unknownOp _ => "UnknownOp"
  | missing .cell _ => "NoSuchCell"
  | missing .guard _ => "NoSuchGuard"
  | missing .table _ => "NoSuchTable"
  | missing .stack _ => "NoSuchStack"
  | missing .set _ => "NoSuchSet"
  | missing .snapshot _ => "NoSuchSnapshot"
  | missing .task _ => "NoSuchTask"
  | missing .space _ => "NoSuchNamespace"
  | notDynamic _ => "NotDynamicCell"
  | threadBusy _ => "ThreadBusy"
  | guardBusy _ => "GuardBusy"
  | spaceBusy _ => "NamespaceBusy"
  | alterBusy _ => "AlterBusy"
  | needsEnvironment _ => "NeedsEnv"

/-- What a mistake is about. -/
def subject : Mistake → String
  | badInput s | unknownOp s | missing _ s | notDynamic s | threadBusy s | guardBusy s
  | spaceBusy s | alterBusy s | needsEnvironment s => s

end Mistake

/-- Why a list of operations ended early. -/
inductive Failure where
  /-- The script failed by itself. -/
  | body (message : String)
  /-- A fault was passed on. -/
  | fault (fault : Fault)

/-- How a list of operations ended. -/
abbrev Flow : Type :=
  Except Failure Unit

/-- One entry of a report. -/
inductive Entry where
  | event (fields : Fields)
  | reply (op : String) (fields : Fields)
  | mistake (op : String) (mistake : Mistake)

namespace Datum

/-- A missing piece is null. -/
def orNull {α : Type} (f : α → Datum) : Option α → Datum
  | some a => f a
  | none => null

/-- A frame number. -/
def frame (f : FrameId) : Datum :=
  count f.val.toNat

/-- A symbol with its parts and texts. -/
def symbol (s : Symbol) : Datum :=
  record [("id", count s.id.toNat), ("name", text s.name), ("ns", orNull text s.space),
    ("display", text s.display), ("debug", text s.distinct)]

/-- A fault with its parts and wording. -/
def fault (f : Fault) : Datum :=
  let parts : Fields :=
    match f with
    | .doubleRelease symbol => [("symbol", text symbol)]
    | .outOfOrder symbol id top =>
      [("symbol", text symbol), ("frame", frame id), ("top", orNull frame top)]
    | .abandoned symbol id => [("symbol", text symbol), ("frame", frame id)]
    | .undefined name => [("name", text name)]
    | .notDynamic symbol => [("symbol", text symbol)]
    | .conflict symbol declared requested =>
      [("symbol", text symbol), ("declared", text declared.word),
        ("requested", text requested.word)]
  record ([("kind", text f.kindName), ("msg", text f.message),
    ("restoration", bool f.isRestoration)] ++ parts)

/-- Why a list of operations ended early. -/
def failure : Failure → Datum
  | .body message => record [("body", text message)]
  | .fault f => fault f

/-- A cell as a thread sees it. -/
def state (s : Store) (t : ThreadId) (c : CellId) : Datum :=
  let seen := [value (s.read t c), count (s.depth t c)]
  match s.kind c with
  | .root => list seen
  | .dynamic => list (seen ++ [value (s.root c), bool (s.isBound t c)])

/-- A release policy. -/
def policy (p : ReleasePolicy) : Datum :=
  record [("policy", text p.word), ("debug", text p.settingsText)]

/-- A set of overrides. -/
def overrides (s : Store) (set : Overrides) : Datum :=
  record [("len", count set.length), ("empty", bool set.isEmpty),
    ("symbols", list (set.map fun p => text (s.symbol p.1).display)),
    ("items", list (set.map fun p => list [text (s.symbol p.1).display, value p.2])),
    ("debug", text (Overrides.distinct s set))]

end Datum

/-- The entry of an operation that the report is free of otherwise. -/
def Entry.failed (op : String) (f : Failure) : Entry :=
  .reply op [("err", .failure f)]

/-- The word for a change. -/
def changeWord : Change → String
  | .write => "write"
  | .restore => "restore"

/-- The name of a change in texts that list fields. -/
def changeName : Change → String
  | .write => "Write"
  | .restore => "Restore"

/-- The text of an event with its fields. -/
def eventText (e : Event) : String :=
  "WatchEvent \x7b symbol: " ++ e.symbol.distinct ++ ", old: " ++ e.old.distinct ++ ", new: " ++
    e.new.distinct ++ ", change: " ++ changeName e.change ++ " \x7d"

end ScopedBinding.Script
