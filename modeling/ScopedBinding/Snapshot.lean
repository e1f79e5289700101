import ScopedBinding.Overrides

/-!
# Carrying bindings to other threads

The binding of a dynamic variable is private to its thread. A snapshot takes the values that a
thread has bound variables to, and `Snapshot.run` overrides the same variables with them on
whatever thread it runs.
-/

set_option autoImplicit false

namespace ScopedBinding

/-- The variables that a thread had bound, with their values, in the order in which they were
asked for. -/
structure Snapshot where
  bindings : Overrides
  deriving DecidableEq

namespace Snapshot

variable {η ε α : Type}

/-- The part of the library that messages about snapshots come from. -/
def source : String := "rebind::conveyance"

/-- The snapshot of no variable. -/
def empty : Snapshot := ⟨[]⟩

/-- The bindings that a thread has among some variables. -/
def ofStore (s : Store) (t : ThreadId) (cells : List CellId) : Snapshot :=
  ⟨(cells.filter (s.isBound t)).map fun c => (c, s.read t c)⟩

/-- Takes the acting thread's bindings among some variables. -/
def capture (cells : List CellId) : Act η ε Snapshot := do
  let snapshot := ofStore (← Act.store) (← Act.thread) cells
  Act.log ⟨.debug, source, "captured thread bindings",
    [("captured", toString snapshot.bindings.length), ("candidates", toString cells.length)]⟩
  pure snapshot

/-- How many bindings a snapshot has. -/
def size (s : Snapshot) : Nat :=
  s.bindings.length

/-- The value that a snapshot has for a variable. -/
def get? (s : Snapshot) (c : CellId) : Option Value :=
  (s.bindings.find? fun p => p.1 = c).map Prod.snd

/-- Runs a body inside the bindings of a snapshot. -/
def run (deliver : Delivery η ε) (discard : α → Act η ε Unit) (s : Snapshot) (body : Act η ε α) :
    Act η ε (Except Fault α) :=
  Overrides.run deliver discard s.bindings body

/-- The text of a snapshot as a thread sees its variables. -/
def distinct (store : Store) (t : ThreadId) (s : Snapshot) : String :=
  "BindingSnapshot \x7b bindings: [" ++
    ", ".intercalate (s.bindings.map fun p =>
      "(" ++ store.distinct t p.1 ++ ", " ++ p.2.distinct ++ ")") ++ "] \x7d"

end Snapshot

end ScopedBinding
