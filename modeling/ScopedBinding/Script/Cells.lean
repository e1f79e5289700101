import ScopedBinding.Script.Session

/-!
# Operations on cells, guards, name spaces and snapshots

These operations use variables and run no others of the script, except through the watches that
they set off. They take how an event reaches the watches of the script.
-/

set_option autoImplicit false

namespace ScopedBinding.Script

/-- How events reach the watches of a script, by what is in progress. -/
abbrev Deliverer : Type :=
  Extent → Delivery Session Entry

/-- Lets a handle stand for a cell. -/
def nameCell (handle : String) (c : CellId) : Doing Unit :=
  update fun s => { s with cells := s.cells.insert handle c }

/-- Removes a handle from one of the tables of the session, and says whether it was there. -/
def forgetHandle {α : Type} (table : Session → Table String α)
    (put : Session → Table String α → Session) (handle : Arg String) : Step Reply := do
  let handle ← need handle
  let t := table (← session)
  update fun s => put s (t.erase handle)
  done [("r", .bool (t.contains handle))]

/-- The symbol of a new cell: from a table of the script, or else from a table of its own. -/
def newSymbol (table : Option String) (space : Option String) (name : String) : Doing Symbol := do
  match table with
  | none => pure (.alone space name)
  | some handle =>
    let t := ((← session).tables.get? handle).getD (.new none)
    let (symbol, t) := t.symbol name
    update fun s => { s with tables := s.tables.insert handle t }
    pure symbol

/-- Performs an operation on cells. -/
def performCell (deliver : Deliverer) : CellOp → Step Reply
  | .new table space name init kind as => do
    let table ← table.mapM need
    if let some handle := table then
      let _ ← lookUp .table Session.tables (.ok handle)
    let name ← need name
    let init ← value init
    let kind ← need kind
    let symbol ← newSymbol table space name
    let c ← (symbol.create kind init : Doing CellId)
    nameCell (as.getD name) c
    done [("r", .symbol symbol), ("s", ← stateOf c)]
  | .forget handle => forgetHandle Session.cells (fun s t => { s with cells := t }) handle
  | .read handle => do
    let c ← cell handle
    let v ← (c.read : Doing Value)
    done [("r", .value v)]
  | .kind handle => do
    let kind := (← store).kind (← cell handle)
    done [("r", .text kind.word), ("debug", .text kind.distinct)]
  | .symbol handle => do
    done [("r", .symbol ((← store).symbol (← cell handle)))]
  | .debug handle => do
    let c ← cell handle
    let t ← thread
    done [("r", .text ((← store).distinct t c))]
  | .state handle => do
    done [("s", ← stateOf (← cell handle))]
  | .write handle v => do
    let c ← cell handle
    let v ← value v
    c.write (deliver (← extent)) v
    done (succeeded ++ [("s", ← stateOf c)])
  | .root handle => do
    let c ← dynamicCell "root" handle
    done [("r", .value ((← store).root c))]
  | .setRoot handle v => do
    let c ← dynamicCell "set_root" handle
    let v ← value v
    c.setRoot (deliver (← extent)) v
    done (succeeded ++ [("s", ← stateOf c)])
  | .push handle => do
    let c ← cell handle
    let frame ← (c.push : Doing FrameId)
    done [("r", .frame frame), ("s", ← stateOf c)]
  | .pop handle frame propagate => do
    let c ← cell handle
    let frame ← need frame
    let result ← c.pop (deliver (← extent)) frame
    answer propagate result (fun _ => succeeded) [("s", ← stateOf c)]
  | .unwatch handle key => do
    let c ← cell handle
    let key ← need key
    let was ← (c.unwatch key : Doing Bool)
    done [("r", .bool was)]

/-- A guard, and the cell it is for as the acting thread sees it. -/
def guardFields (g : Guard) : Doing Fields := do
  return [("state", .text g.state.distinct), ("s", ← stateOf g.cell)]

/-- Takes a guard out of the session. -/
def takeHeld (h : Held) : Doing Unit :=
  update fun s => { s with guards := s.guards.filter fun k => k.serial != h.serial }

/-- Performs an operation on guards. A guard that is being released is in use until that ends. -/
def performGuard (deliver : Deliverer) : GuardOp → Step Reply
  | .acquire handle as => do
    let c ← cell handle
    let guard ← (Guard.acquire c : Doing Guard)
    let serial ← freshSerial
    let h : Held := ⟨serial, (← extent).scopes.headD 0, as.getD "g", guard⟩
    update fun s => { s with guards := h :: s.guards }
    done (("frame", .frame guard.frame) :: (← guardFields guard))
  | .release name propagate => do
    let h ← held name
    let x ← extent
    let result ← h.guard.release (deliver { x with releasing := h.serial :: x.releasing })
    let guard := match result with
      | .ok guard => guard
      | .error _ => h.guard
    update fun s =>
      { s with guards := s.guards.map fun k => if k.serial = h.serial then { k with guard } else k }
    answer propagate result (fun _ => succeeded) (← guardFields guard)
  | .info name => do
    let guard := (← held name).guard
    let s ← store
    done ([("frame", .frame guard.frame), ("symbol", .text (s.symbol guard.cell).display),
      ("kind", .text (s.kind guard.cell).word), ("debug", .text (guard.distinct s))] ++
      (← guardFields guard))
  | .drop name => do
    let h ← held name
    takeHeld h
    h.guard.drop (deliver (← extent))
    done (succeeded ++ [("s", ← stateOf h.guard.cell)])
  | .forget name => do
    let h ← held name
    takeHeld h
    done (succeeded ++ [("s", ← stateOf h.guard.cell)])

/-- A set of overrides. -/
def overridesFields (set : Overrides) : Doing Fields := do
  return [("r", .overrides (← store) set)]

/-- Lets a handle stand for a set of overrides. -/
def nameSet (handle : String) (set : Overrides) : Doing Unit :=
  update fun s => { s with sets := s.sets.insert handle set }

/-- Performs an operation on stored sets. -/
def performSet : SetOp → Step Reply
  | .new as pairs => do
    let handle ← need as
    let set ← overridesOf pairs
    nameSet handle set
    done (← overridesFields set)
  | .info handle => do
    done (← overridesFields (← lookUp .set Session.sets handle))

/-- Puts a name space back, if the script still has it. -/
def putSpace (serial : Serial) (names : Namespace) : Doing Unit :=
  update fun s =>
    { s with spaces := ⟨s.spaces.entries.map fun e =>
        if e.2.serial = serial then (e.1, { e.2 with names }) else e⟩ }

/-- The symbol and the kind of a variable. -/
def symbolAndKind (s : Store) (c : CellId) : Datum :=
  .list [.text (s.symbol c).display, .text (s.kind c).word]

/-- Performs an operation on name spaces. -/
def performSpace (deliver : Deliverer) : NamespaceOp → Step Reply
  | .new name as => do
    let name ← need name
    let serial ← freshSerial
    update fun s =>
      { s with spaces := s.spaces.insert (as.getD name) ⟨serial, .new name⟩ }
    done succeeded
  | .forget handle => forgetHandle Session.spaces (fun s t => { s with spaces := t }) handle
  | .declare kind name v handle as propagate => do
    let name ← need name
    let v ← value v
    let ns ← space handle
    let x ← extent
    let (result, names) ← ns.names.declare
      (deliver { x with declaring := ns.serial :: x.declaring }) kind name v
    putSpace ns.serial names
    match result with
    | .error _ => answer propagate result (fun _ => []) []
    | .ok c =>
      let handle := as.getD name
      let before := (← session).cells.get? handle
      nameCell handle c
      let symbol := (← store).symbol c
      done [("r", .text symbol.display), ("id", .count symbol.id.toNat),
        ("same", .orNull (fun b => .bool (b = c)) before), ("s", ← stateOf c)]
  | .info handle => do
    let names := (← space handle).names
    let s ← store
    done [("name", .text names.name), ("vars", .list (names.cells.map (symbolAndKind s))),
      ("dynamic", .list ((names.dynamicCells s).map fun c => .text (s.symbol c).display))]
  | .resolve name handle as => do
    let name ← need name
    let names := (← space handle).names
    let s ← store
    let found := names.resolve? name
    if let (some handle, some c) := (as, found) then nameCell handle c
    let t ← thread
    done [("r", .orNull (symbolAndKind s) found),
      ("v", .orNull (fun c => .value (s.read t c)) found),
      ("depth", .orNull (fun c => .count (s.depth t c)) found),
      ("dynamic", .bool (names.resolveKind? s .dynamic name).isSome),
      ("root", .bool (names.resolveKind? s .root name).isSome)]
  | .read handle name propagate => do
    let ns ← space handle
    let result ← (ns.names.read (← need name) : Doing _)
    answer propagate result (fun v => [("r", .value v)]) []
  | .write name v handle propagate => do
    let name ← need name
    let v ← value v
    let ns ← space handle
    let x ← extent
    let result ← ns.names.write (deliver { x with declaring := ns.serial :: x.declaring }) name v
    answer propagate result (fun _ => succeeded) []
  | .overrides handle mode pairs as propagate => do
    let names := (← space handle).names
    let mode ← need mode
    let pairs ← namedValues pairs
    let handle ← need as
    let s ← store
    let result :=
      match mode with
      | .any => names.overrides pairs
      | .dynamicOnly => names.dynamicOverrides s pairs
    match result with
    | .error _ => answer propagate result (fun _ => []) []
    | .ok set =>
      nameSet handle set
      done (← overridesFields set)

/-- Lets a handle stand for a snapshot. -/
def nameSnapshot (handle : String) (snapshot : Snapshot) : Doing Unit :=
  update fun s => { s with snapshots := s.snapshots.insert handle snapshot }

/-- The size of a snapshot. -/
def sizeFields (snapshot : Snapshot) : Fields :=
  [("len", .count snapshot.size), ("empty", .bool (snapshot.size == 0))]

/-- Performs an operation on snapshots. -/
def performSnapshot : SnapshotOp → Step Reply
  | .capture as cells => do
    let handle ← need as
    let cells ← cells.cells
    let snapshot ← (Snapshot.capture cells : Doing Snapshot)
    nameSnapshot handle snapshot
    done [("r", .record (sizeFields snapshot))]
  | .none as => do
    nameSnapshot (← need as) .empty
    done succeeded
  | .info handle cells => do
    let snapshot ← lookUp .snapshot Session.snapshots handle
    let cells ← cells.cells
    let t ← thread
    let found (c : CellId) : Datum :=
      match snapshot.get? c with
      | some v => .list [.value v]
      | none => .text "absent"
    done (sizeFields snapshot ++ [("get", .list (cells.map found)),
      ("debug", .text (snapshot.distinct (← store) t))])

end ScopedBinding.Script
