import Std.Data.HashMap

/-!
# Symbols and their tables

A symbol is the name of a variable within a name space. A `SymbolTable` numbers the names it is
given in the order of their first use (`SymbolTable.intern`), and the number of a name identifies
the symbol. Numbers have 32 bits: a table of `2 ^ 32` names would start again at 0.
-/

set_option autoImplicit false

namespace ScopedBinding

/-- A numbered name, within a name space or in none. -/
structure Symbol where
  id : UInt32
  name : String
  space : Option String
  deriving DecidableEq

namespace Symbol

/-- A symbol as it is written: the name, after its name space if it has one. -/
def display (s : Symbol) : String :=
  match s.space with
  | some space => space ++ "/" ++ s.name
  | none => s.name

/-- The text that shows the number of a symbol too. -/
def distinct (s : Symbol) : String :=
  "Symbol(" ++ s.display ++ "#" ++ toString s.id.toNat ++ ")"

/-- Whether two symbols are the same: equal numbers in equal name spaces. -/
def same (a b : Symbol) : Bool :=
  a.id == b.id && a.space == b.space

instance : Inhabited Symbol := ⟨⟨0, "", none⟩⟩

end Symbol

/-- The names of one name space, each with its number. `ids` finds the number of a name, which is
its position in `names`. -/
structure SymbolTable where
  space : Option String
  names : Array String
  ids : Std.HashMap String UInt32

namespace SymbolTable

/-- The table of a name space that has no names yet. -/
def new (space : Option String) : SymbolTable :=
  ⟨space, #[], ∅⟩

/-- The number of a name that the table has. -/
def get? (t : SymbolTable) (name : String) : Option UInt32 :=
  t.ids[name]?

/-- The name that has a number. -/
def name? (t : SymbolTable) (id : UInt32) : Option String :=
  t.names[id.toNat]?

/-- The symbol that has a number. -/
def resolve? (t : SymbolTable) (id : UInt32) : Option Symbol :=
  (t.name? id).map fun name => ⟨id, name, t.space⟩

/-- How many names the table has. -/
def size (t : SymbolTable) : Nat :=
  t.names.size

/-- The number of a name, which is the next one if the name is new. -/
def intern (t : SymbolTable) (name : String) : UInt32 × SymbolTable :=
  match t.get? name with
  | some id => (id, t)
  | none =>
    let id := UInt32.ofNat t.names.size
    (id, { t with names := t.names.push name, ids := t.ids.insert name id })

/-- The symbol of a name, which is numbered if it is new. -/
def symbol (t : SymbolTable) (name : String) : Symbol × SymbolTable :=
  let (id, t) := t.intern name
  (⟨id, (t.name? id).getD name, t.space⟩, t)

end SymbolTable

/-- The symbol that a name gets in a table of its own. -/
def Symbol.alone (space : Option String) (name : String) : Symbol :=
  ((SymbolTable.new space).symbol name).1

end ScopedBinding
