import ScopedBinding.Fault

/-!
# The operations of a script

A script is a list of operations on named things: cells, guards, symbol tables, stacks, sets of
overrides, name spaces, snapshots, tasks and threads. Operations that run other operations hold them
in a list. An argument that could not be read stays in the operation as the name of its field, since
the operation reports it only when the arguments before it have been looked up.
-/

set_option autoImplicit false

namespace ScopedBinding.Script

/-- An argument, or the name of the field that has no usable one. -/
abbrev Arg (α : Type) : Type :=
  Except String α

/-- A value as a script writes it. An object is named by one of its labels. -/
inductive Literal where
  | nil
  | bool (b : Bool)
  | int (n : Int64)
  | float (x : Binary64)
  | text (s : String)
  | object (label : String)

/-- Operations on values. -/
inductive ValueOp where
  | describe (v : Arg Literal)
  | compare (a b : Arg Literal)
  | convert (type : Arg String) (v : Arg Literal)
  | register (label : Arg String) (same : Option String) (data : Arg Literal)
  | inspect (v : Arg Literal) (type : Arg String)

/-- A symbol by the table and the name. -/
abbrev SymbolRef : Type :=
  Arg (String × String)

/-- Operations on symbol tables. -/
inductive SymbolOp where
  | new (as : Arg String) (space : Option String)
  | intern (table name : Arg String)
  | symbol (table name : Arg String)
  | resolve (table : Arg String) (id : Arg UInt32)
  | name (table : Arg String) (id : Arg UInt32)
  | get (table name : Arg String)
  | info (table : Arg String)
  | internMany (table stem : Arg String) (count : Arg Nat)
  | compare (a b : SymbolRef)

/-- Operations on stacks of frames, and on the numbering of frames. -/
inductive StackOp where
  | new (as : Arg String)
  | push (stack : Arg String) (id : Arg FrameId) (v : Arg Literal)
  | pop (stack : Arg String) (space : Option String) (name : Arg String) (id : Arg FrameId)
  | contains (stack : Arg String) (id : Arg FrameId)
  | info (stack : Arg String)
  | issue

/-- The content of the environment variable as a script gives it. -/
abbrev Content : Type :=
  Option (List UInt8)

/-- Operations on the release policy. -/
inductive PolicyOp where
  | parse (spec : Arg String)
  | initial
  | current
  | fromVariable
  | setVariable (content : Arg Content)
  | install (spec : Arg String)

/-- Operations on cells that run no others. -/
inductive CellOp where
  | new (table : Option (Arg String)) (space : Option String) (name : Arg String)
      (init : Arg Literal) (kind : Arg CellKind) (as : Option String)
  | forget (cell : Arg String)
  | read (cell : Arg String)
  | kind (cell : Arg String)
  | symbol (cell : Arg String)
  | debug (cell : Arg String)
  | state (cell : Arg String)
  | write (cell : Arg String) (v : Arg Literal)
  | root (cell : Arg String)
  | setRoot (cell : Arg String) (v : Arg Literal)
  | push (cell : Arg String)
  | pop (cell : Arg String) (frame : Arg FrameId) (propagate : Bool)
  | unwatch (cell key : Arg String)

/-- Operations on guards. -/
inductive GuardOp where
  | acquire (cell : Arg String) (as : Option String)
  | release (guard : Arg String) (propagate : Bool)
  | info (guard : Arg String)
  | drop (guard : Arg String)
  | forget (guard : Arg String)

/-- The pairs of a set: a name or handle with a value each. -/
abbrev Pairs : Type :=
  Arg (List (Arg (String × Arg Literal)))

/-- How a set of overrides is built from names. -/
inductive SetMode where
  | any
  | dynamicOnly

/-- Operations on name spaces. -/
inductive NamespaceOp where
  | new (name : Arg String) (as : Option String)
  | forget (space : Arg String)
  | declare (kind : CellKind) (name : Arg String) (v : Arg Literal) (space : Arg String)
      (as : Option String) (propagate : Bool)
  | info (space : Arg String)
  | resolve (name space : Arg String) (as : Option String)
  | read (space name : Arg String) (propagate : Bool)
  | write (name : Arg String) (v : Arg Literal) (space : Arg String) (propagate : Bool)
  | overrides (space : Arg String) (mode : Arg SetMode) (pairs : Pairs) (as : Arg String)
      (propagate : Bool)

/-- Which dynamic cells an operation is about. -/
inductive CellList where
  | ofNamespace (space : Arg String)
  | listed (cells : Arg (List (Arg String)))

/-- Operations on snapshots that run no others. -/
inductive SnapshotOp where
  | capture (as : Arg String) (cells : CellList)
  | none (as : Arg String)
  | info (snapshot : Arg String) (cells : CellList)

/-- Where an operation has its overrides from. -/
inductive SetSource where
  | stored (handle : Arg String)
  | listed (pairs : Pairs)

/-- Operations on stored sets of overrides. -/
inductive SetOp where
  | new (as : Arg String) (pairs : Pairs)
  | info (handle : Arg String)

/-- The fields of an error that a script builds. -/
structure FaultFields where
  kind : Arg String
  space : Option String
  name : Option String
  frame : Arg FrameId
  top : Option (Arg FrameId)
  declared : Arg String
  requested : Arg String

/-- What an alteration makes of the current root. -/
inductive Alteration where
  | add
  | const
  | same
  | append
  | panic

/-- An alteration with the number, the value and the text that it may use. -/
structure AlterFields where
  alteration : Arg Alteration
  number : Arg Int64
  value : Arg Literal
  text : String

/-- What a watch does with the events it counts. -/
structure WatchRule where
  change : Option String
  panicAt : Option Nat
  limit : Nat
  debug : Bool

/-- The fields that the rule of a watch is given by. -/
structure WatchFields where
  change : Option String
  panicAt : Option (Arg Nat)
  limit : Option (Arg Nat)
  debug : Bool

/-- The operations of scripts. -/
inductive Op where
  | value (op : ValueOp)
  | symbol (op : SymbolOp)
  | stack (op : StackOp)
  | fault (fields : FaultFields)
  | policy (op : PolicyOp)
  | cell (op : CellOp)
  | guard (op : GuardOp)
  | space (op : NamespaceOp)
  | snapshot (op : SnapshotOp)
  | set (op : SetOp)
  | alter (cell : Arg String) (fields : AlterFields) (ops : List Op)
  | watch (cell key : Arg String) (fields : WatchFields) (ops : List Op)
  | scope (ops : List Op)
  | attempt (ops : List Op)
  | loop (count : Arg Nat) (ops : List Op)
  | panic (message : String)
  | fail (message : String)
  | run (set : SetSource) (propagate : Bool) (ops : List Op)
  | tryRun (set : SetSource) (propagate : Bool) (ops : List Op)
  | nest (cell : Arg String) (values : Arg (List (Arg Literal))) (propagate : Bool) (ops : List Op)
  | convey (snapshot : Arg String) (propagate : Bool) (ops : List Op)
  | bind (as : Arg String) (cells : CellList) (ops : List Op)
  | call (task : Arg String) (propagate : Bool)
  | on (thread : Arg String) (ops : List Op)
  | join (thread : Arg String)
  | alterInParallel (cell : Arg String) (threads count : Arg Nat)
  | bindInParallel (cell : Arg String) (values : Arg (List (Arg Literal)))
  | unknown (name : String)

instance : Inhabited Op := ⟨.unknown "?"⟩

/-- The name under which an operation is reported. -/
def Op.name : Op → String
  | .value (.describe _) => "val"
  | .value (.compare _ _) => "eq"
  | .value (.convert _ _) => "from"
  | .value (.register _ _ _) => "opaque"
  | .value (.inspect _ _) => "downcast"
  | .symbol (.new _ _) => "table_new"
  | .symbol (.intern _ _) => "intern"
  | .symbol (.symbol _ _) => "symbol"
  | .symbol (.resolve _ _) => "sym_resolve"
  | .symbol (.name _ _) => "sym_name"
  | .symbol (.get _ _) => "sym_get"
  | .symbol (.info _) => "table_info"
  | .symbol (.internMany _ _ _) => "intern_many"
  | .symbol (.compare _ _) => "sym_eq"
  | .stack (.new _) => "stack_new"
  | .stack (.push _ _ _) => "stack_push"
  | .stack (.pop _ _ _ _) => "stack_pop"
  | .stack (.contains _ _) => "stack_contains"
  | .stack (.info _) => "stack_info"
  | .stack .issue => "frame_next"
  | .fault _ => "error"
  | .policy (.parse _) => "policy_parse"
  | .policy .initial => "config_default"
  | .policy .current => "config_current"
  | .policy .fromVariable => "config_from_env"
  | .policy (.setVariable _) => "config_setenv"
  | .policy (.install _) => "config_install"
  | .cell (.new _ _ _ _ _ _) => "cell_new"
  | .cell (.forget _) => "cell_drop"
  | .cell (.read _) => "read"
  | .cell (.kind _) => "kind"
  | .cell (.symbol _) => "symbol_of"
  | .cell (.debug _) => "debug"
  | .cell (.state _) => "state"
  | .cell (.write _ _) => "write"
  | .cell (.root _) => "root"
  | .cell (.setRoot _ _) => "set_root"
  | .cell (.push _) => "push"
  | .cell (.pop _ _ _) => "pop"
  | .cell (.unwatch _ _) => "unwatch"
  | .guard (.acquire _ _) => "acquire"
  | .guard (.release _ _) => "release"
  | .guard (.info _) => "guard_info"
  | .guard (.drop _) => "drop"
  | .guard (.forget _) => "forget"
  | .space (.new _ _) => "ns_new"
  | .space (.forget _) => "ns_drop"
  | .space (.declare kind _ _ _ _ _) => kind.declarator
  | .space (.info _) => "ns_info"
  | .space (.resolve _ _ _) => "ns_resolve"
  | .space (.read _ _ _) => "ns_read"
  | .space (.write _ _ _ _) => "ns_write"
  | .space (.overrides _ _ _ _ _) => "ns_set"
  | .snapshot (.capture _ _) => "capture"
  | .snapshot (.none _) => "snap_default"
  | .snapshot (.info _ _) => "snap_info"
  | .set (.new _ _) => "set_new"
  | .set (.info _) => "set_info"
  | .alter _ _ _ => "alter"
  | .watch _ _ _ _ => "watch"
  | .scope _ => "scope"
  | .attempt _ => "catch"
  | .loop _ _ => "repeat"
  | .panic _ => "panic"
  | .fail _ => "fail"
  | .run _ _ _ => "with"
  | .tryRun _ _ _ => "try_with"
  | .nest _ _ _ _ => "nest"
  | .convey _ _ _ => "snap_run"
  | .bind _ _ _ => "bound_fn"
  | .call _ _ => "call"
  | .on _ _ => "on"
  | .join _ => "join"
  | .alterInParallel _ _ _ => "par_alter"
  | .bindInParallel _ _ => "par_bind"
  | .unknown name => name

end ScopedBinding.Script
