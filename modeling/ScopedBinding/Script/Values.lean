import ScopedBinding.Script.Session

/-!
# Operations on values, symbols, stacks, faults and the policy

These operations use no variables. They make and inspect the things that variables are built from.
-/

set_option autoImplicit false

namespace ScopedBinding.Script

/-- The literal that a conversion from a type makes of a literal, if that is of the type. -/
def convert? (type : String) (v : Literal) : Option Literal :=
  match type, v with
  | "i64", .int n => some (.int n)
  | "i32", .int n => if -2147483648 ≤ n.toInt ∧ n.toInt ≤ 2147483647 then some (.int n) else none
  | "f64", .float x => some (.float x)
  | "bool", .bool b => some (.bool b)
  | "str", .text s => some (.text s)
  | "string", .text s => some (.text s)
  | "opaque", .text label => some (.object label)
  | _, _ => none

/-- The literal that a type stands for by itself. -/
def constant? : String → Option Literal
  | "default" => some .nil
  | "NIL" => some .nil
  | "TRUE" => some (.bool true)
  | "FALSE" => some (.bool false)
  | _ => none

/-- The types that literals are converted from. -/
def sourceTypes : List String :=
  ["i64", "i32", "f64", "bool", "str", "string", "opaque"]

/-- What an object holds, as an inspection for a type finds it. -/
def inspect? (type : String) (o : Option Sealed) : Option Datum :=
  match type, o.map Sealed.payload with
  | "bool", some (.bool b) => some (.bool b)
  | "int", some (.int n) => some (.value (.int n))
  | "string", some (.text s) => some (.text s)
  | "unit", some .unit => some (.text "unit")
  | "bool", _ | "int", _ | "string", _ | "unit", _ => some .null
  | _, _ => none

/-- What an object registered with a literal holds. -/
def payload? : Literal → Option Payload
  | .nil => some .unit
  | .bool b => some (.bool b)
  | .int n => some (.int n)
  | .text s => some (.text s)
  | _ => none

/-- A value with everything that can be asked of it. -/
def describe (v : Value) : Fields :=
  let number (x : Binary64) : Datum := .value (.float x)
  [("type", .text v.kindName), ("display", .text v.display), ("debug", .text v.distinct),
    ("nil", .bool v.isNil), ("bool", .orNull .bool v.bool?),
    ("int", .orNull (fun n => .value (.int n)) v.int?), ("float", .orNull number v.float?),
    ("number", .orNull number v.number?), ("str", .orNull .text v.text?),
    ("opaque", .orNull (fun o => .text o.display) v.object?), ("self_eq", .bool (v.equals v))]

/-- Performs an operation on values. -/
def performValue : ValueOp → Step Reply
  | .describe v => do
    done (describe (← value v))
  | .compare a b => do
    let a ← value a
    let b ← value b
    done [("eq", .bool (a.equals b)), ("ne", .bool !(a.equals b))]
  | .convert type v => do
    let type ← need type
    let literal ←
      match constant? type with
      | some literal => pure literal
      | none =>
        if !sourceTypes.contains type then throw (.badInput "type")
        match convert? type (← need v) with
        | some literal => pure literal
        | none => throw (.badInput "v")
    let v ← evaluate literal
    done [("v", .value v), ("type", .text v.kindName), ("debug", .text v.distinct)]
  | .register label same data => do
    let label ← need label
    if (← session).labels.contains label then throw (.badInput "label")
    let object : Sealed ←
      match same with
      | some other => sealedOf other
      | none =>
        match payload? (← need data) with
        | some payload => pure ⟨label, payload⟩
        | none => throw (.badInput "data")
    update fun s => { s with labels := s.labels.insert label object }
    done succeeded
  | .inspect v type => do
    let v ← value v
    match inspect? (← need type) v.object? with
    | some found => done [("r", found)]
    | none => throw (.badInput "type")

/-- The symbol table of a handle. -/
def symbolTable (handle : Arg String) : Step SymbolTable :=
  lookUp .table Session.tables handle

/-- Puts a symbol table back under its handle. -/
def putTable (handle : String) (t : SymbolTable) : Doing Unit :=
  update fun s => { s with tables := s.tables.insert handle t }

/-- The symbol of a name in the table of a handle. -/
def symbolIn (handle name : String) : Doing Symbol := do
  let t := ((← session).tables.get? handle).getD (.new none)
  let (symbol, t) := t.symbol name
  putTable handle t
  pure symbol

/-- The table and the name that a reference to a symbol consists of. -/
def symbolRef (ref : SymbolRef) : Step (String × String) := do
  let (table, name) ← need ref
  let _ ← symbolTable (.ok table)
  pure (table, name)

/-- Numbers `count` names that end in the numbers from `next` on. -/
def internFrom (stem : String) (t : SymbolTable) (next : Nat) : Nat → SymbolTable
  | 0 => t
  | count + 1 => internFrom stem (t.intern (stem ++ toString next)).2 (next + 1) count

/-- The word for an order. -/
def orderWord : Ordering → String
  | .lt => "Less"
  | .eq => "Equal"
  | .gt => "Greater"

/-- Performs an operation on symbol tables. -/
def performSymbol : SymbolOp → Step Reply
  | .new as space => do
    putTable (← need as) (.new space)
    done succeeded
  | .intern table name => do
    let t ← symbolTable table
    let (id, t) := t.intern (← need name)
    putTable (← need table) t
    done [("r", .count id.toNat)]
  | .symbol table name => do
    let _ ← symbolTable table
    let symbol ← symbolIn (← need table) (← need name)
    done [("r", .symbol symbol)]
  | .resolve table id => do
    let t ← symbolTable table
    done [("r", .orNull .symbol (t.resolve? (← need id)))]
  | .name table id => do
    let t ← symbolTable table
    done [("r", .orNull .text (t.name? (← need id)))]
  | .get table name => do
    let t ← symbolTable table
    done [("r", .orNull (fun id => .count id.toNat) (t.get? (← need name)))]
  | .info table => do
    let t ← symbolTable table
    done [("r", .record [("len", .count t.size), ("empty", .bool (t.size == 0)),
      ("ns", .orNull .text t.space)])]
  | .internMany table stem count => do
    let t ← symbolTable table
    let stem ← need stem
    let count ← need count
    let t := internFrom stem t 0 count
    putTable (← need table) t
    let id (n : Nat) : Datum :=
      .orNull (fun id => .count id.toNat) (t.get? (stem ++ toString n))
    done [("r", .list [if count = 0 then .null else id 0,
      if count = 0 then .null else id (count - 1), .count t.size])]
  | .compare a b => do
    let a ← symbolRef a
    let b ← symbolRef b
    let x ← symbolIn a.1 a.2
    let y ← symbolIn b.1 b.2
    done [("r", .bool (x.same y)), ("ids", .bool (x.id == y.id)),
      ("order", .text (orderWord (compare x.id.toNat y.id.toNat)))]

/-- The stack of a handle. -/
def stack (handle : Arg String) : Step FrameStack :=
  lookUp .stack Session.frameStacks handle

/-- Puts a stack back under its handle. -/
def putStack (handle : String) (s : FrameStack) : Doing Unit :=
  update fun session => { session with frameStacks := session.frameStacks.insert handle s }

/-- A frame as a pair of number and value. -/
def framePair (f : Frame) : Datum :=
  .list [.frame f.id, .value f.saved]

/-- Performs an operation on stacks. -/
def performStack : StackOp → Step Reply
  | .new as => do
    putStack (← need as) ∅
    done succeeded
  | .push handle id v => do
    let s ← stack handle
    let id ← need id
    let s := s.push ⟨id, ← value v⟩
    putStack (← need handle) s
    done [("r", .count s.depth)]
  | .pop handle space name id => do
    let s ← stack handle
    let symbol := Symbol.alone space (← need name)
    let id ← need id
    match s.pop? id with
    | .ok (frame, rest) =>
      putStack (← need handle) rest
      done [("r", framePair frame), ("depth", .count rest.depth)]
    | .error top =>
      done [("err", .fault (.outOfOrder symbol.display id top)), ("depth", .count s.depth)]
  | .contains handle id => do
    let s ← stack handle
    done [("r", .bool (s.contains (← need id)))]
  | .info handle => do
    let s ← stack handle
    done [("depth", .count s.depth), ("empty", .bool s.isEmpty),
      ("top", .orNull framePair s.top?), ("debug", .text s.distinct)]
  | .issue => do
    let id ← (FrameId.issue : Doing FrameId)
    done [("r", .frame id)]

/-- The kind of cell that a field names. -/
def kindField (word : Arg String) : Step CellKind := do
  match CellKind.ofWord? (← need word) with
  | some kind => pure kind
  | none => throw (.badInput "kind")

/-- The fault that a script builds from its fields. -/
def FaultFields.build (f : FaultFields) : Step Fault := do
  let name := f.name.getD "x"
  let symbol := (Symbol.alone f.space name).display
  match ← need f.kind with
  | "DoubleRelease" => pure (.doubleRelease symbol)
  | "OutOfOrderRelease" =>
    let frame ← need f.frame
    let top ← f.top.mapM need
    pure (.outOfOrder symbol frame top)
  | "AbandonedRelease" => return .abandoned symbol (← need f.frame)
  | "UndefinedVariable" => pure (.undefined name)
  | "NotDynamic" => pure (.notDynamic symbol)
  | "StrategyConflict" =>
    let declared ← kindField f.declared
    return .conflict symbol declared (← kindField f.requested)
  | _ => throw (.badInput "kind")

/-- Reports the fault that a script builds. -/
def performFault (f : FaultFields) : Step Reply := do
  let fault ← f.build
  done [("err", .fault fault), ("display", .text fault.message), ("debug", .text fault.distinct),
    ("string", .text fault.message)]

/-- Refuses an operation on the process in a script that has no process of its own. -/
def needEnvironment (op : String) : Step Unit := do
  if (← session).environment then pure () else throw (.needsEnvironment op)

/-- Performs an operation on the release policy. -/
def performPolicy (op : PolicyOp) : Step Reply :=
  let name := (Op.policy op).name
  match op with
  | .parse spec => do
    let policy (p : ReleasePolicy) : Datum :=
      .record [("display", .text p.word), ("debug", .text p.distinct)]
    done [("r", .orNull policy (ReleasePolicy.parse? (← need spec)))]
  | .initial => done [("r", .policy (ReleasePolicy.ofVariable none).1)]
  | .current => do
    needEnvironment name
    let policy ← (Settings.current : Doing ReleasePolicy)
    done [("r", .policy policy)]
  | .fromVariable => do
    needEnvironment name
    let policy ← (Settings.fromVariable : Doing ReleasePolicy)
    done [("r", .policy policy)]
  | .setVariable content => do
    needEnvironment name
    let content ← need content
    (Settings.setVariable content : Doing Unit)
    done succeeded
  | .install spec => do
    needEnvironment name
    match ReleasePolicy.parse? (← need spec) with
    | none => throw (.badInput "policy")
    | some policy =>
      match ← (Settings.install policy : Doing _) with
      | .ok () => done succeeded
      | .error active => done [("active", .policy active)]

end ScopedBinding.Script
