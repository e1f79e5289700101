import ScopedBinding.Overrides

/-!
# Declaring variables and finding them by name

A name space owns a symbol table and the variables declared in it. How a variable is stored is fixed
when it is first declared. Declaring it again in the same way keeps the variable and sets its root;
declaring it in the other way is a conflict and changes nothing. Overrides are built from names by
`Namespace.overrides` and, for dynamic variables only, by `Namespace.dynamicOverrides`.
-/

set_option autoImplicit false

namespace ScopedBinding

/-- A name space: its symbols, and the declared variables by symbol number in the order of their
declaration. -/
structure Namespace where
  symbols : SymbolTable
  vars : Table UInt32 CellId

namespace Namespace

variable {η ε : Type}

/-- The part of the library that messages about declarations come from. -/
def source : String := "rebind::namespace"

/-- A name space without variables. -/
def new (name : String) : Namespace :=
  ⟨.new (some name), ∅⟩

/-- The name of a name space. -/
def name (ns : Namespace) : String :=
  ns.symbols.space.getD ""

/-- The variable declared under a name. -/
def resolve? (ns : Namespace) (name : String) : Option CellId := do
  ns.vars.get? (← ns.symbols.get? name)

/-- The variable declared under a name, if it is of a kind. -/
def resolveKind? (ns : Namespace) (s : Store) (kind : CellKind) (name : String) : Option CellId :=
  (ns.resolve? name).filter fun c => s.kind c = kind

/-- The declared variables in the order of their declaration. -/
def cells (ns : Namespace) : List CellId :=
  ns.vars.values

/-- The dynamic variables in the order of their declaration. -/
def dynamicCells (ns : Namespace) (s : Store) : List CellId :=
  ns.cells.filter fun c => s.kind c = .dynamic

/-- The fault of a name under which nothing is declared. -/
def undefined (ns : Namespace) (name : String) : Fault :=
  .undefined (ns.name ++ "/" ++ name)

/-- Sets the root of a variable that is declared again. -/
def redeclare (deliver : Delivery η ε) (kind : CellKind) (c : CellId) (init : Value) :
    Act η ε Unit :=
  match kind with
  | .dynamic => c.setRoot deliver init
  | .root => c.write deliver init

/-- Declares a variable of a kind under a name. -/
def declare (deliver : Delivery η ε) (ns : Namespace) (kind : CellKind) (name : String)
    (init : Value) : Act η ε (Except Fault CellId × Namespace) := do
  let (symbol, symbols) := ns.symbols.symbol name
  let ns := { ns with symbols }
  match ns.vars.get? symbol.id with
  | some c =>
    let declared := (← Act.store).kind c
    if declared = kind then
      redeclare deliver kind c init
      pure (.ok c, ns)
    else
      pure (.error (.conflict symbol.display declared kind), ns)
  | none =>
    let c ← symbol.create kind init
    Act.log ⟨.debug, source, kind.declarator, [("symbol", symbol.display)]⟩
    pure (.ok c, { ns with vars := ns.vars.insert symbol.id c })

/-- The value of the variable declared under a name. -/
def read (ns : Namespace) (name : String) : Act η ε (Except Fault Value) := do
  match ns.resolve? name with
  | some c => return .ok (← c.read)
  | none => return .error (ns.undefined name)

/-- Sets the value of the variable declared under a name. -/
def write (deliver : Delivery η ε) (ns : Namespace) (name : String) (v : Value) :
    Act η ε (Except Fault Unit) := do
  match ns.resolve? name with
  | some c => return .ok (← c.write deliver v)
  | none => return .error (ns.undefined name)

/-- The variable that an override of a name is for. -/
def target (ns : Namespace) (name : String) : Except Fault CellId :=
  match ns.resolve? name with
  | some c => .ok c
  | none => .error (ns.undefined name)

/-- The dynamic variable that an override of a name is for. -/
def dynamicTarget (ns : Namespace) (s : Store) (name : String) : Except Fault CellId := do
  let c ← ns.target name
  match s.kind c with
  | .dynamic => .ok c
  | .root => .error (.notDynamic (s.symbol c).display)

/-- Overrides for names, or the fault of the first name that has no target. -/
def overridesBy (target : String → Except Fault CellId) :
    List (String × Value) → Except Fault Overrides
  | [] => .ok []
  | (name, value) :: rest => do
    let c ← target name
    let set ← overridesBy target rest
    .ok ((c, value) :: set)

/-- Overrides for names of declared variables. -/
def overrides (ns : Namespace) (pairs : List (String × Value)) : Except Fault Overrides :=
  overridesBy ns.target pairs

/-- Overrides for names of dynamic variables. -/
def dynamicOverrides (ns : Namespace) (s : Store) (pairs : List (String × Value)) :
    Except Fault Overrides :=
  overridesBy (ns.dynamicTarget s) pairs

end Namespace

end ScopedBinding
