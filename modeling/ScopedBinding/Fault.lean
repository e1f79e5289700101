import ScopedBinding.Frame
import ScopedBinding.Symbol

/-!
# Faults

What can go wrong when variables are declared, looked up and bound. A fault names the variable by
its written symbol. `Fault.message` is the wording; `Fault.isRestoration` singles out the faults of
giving back a saved value.
-/

set_option autoImplicit false

namespace ScopedBinding

/-- How a variable is stored: with bindings private to a thread, or with one root for all. -/
inductive CellKind where
  | dynamic
  | root
  deriving DecidableEq

namespace CellKind

/-- The word for a kind. -/
def word : CellKind → String
  | dynamic => "dynamic"
  | root => "root"

/-- The name of a kind in texts that list fields. -/
def distinct : CellKind → String
  | dynamic => "Dynamic"
  | root => "Root"

/-- The word that declares a variable of a kind. -/
def declarator : CellKind → String
  | dynamic => "defdynamic"
  | root => "def"

/-- The kind that a word names. -/
def ofWord? (w : String) : Option CellKind :=
  [dynamic, root].find? fun k => k.word == w

end CellKind

/-- The faults of declaring, finding and binding variables. -/
inductive Fault where
  /-- A guard was released a second time. -/
  | doubleRelease (symbol : String)
  /-- A frame was closed that is not innermost; `top` is the frame that is, if any is open. -/
  | outOfOrder (symbol : String) (frame : FrameId) (top : Option FrameId)
  /-- A guard was released after its frame had been given up. -/
  | abandoned (symbol : String) (frame : FrameId)
  /-- No variable has the name. -/
  | undefined (name : String)
  /-- A variable with a root for all threads cannot be bound on one of them. -/
  | notDynamic (symbol : String)
  /-- A variable was declared again with the other kind. -/
  | conflict (symbol : String) (declared requested : CellKind)
  deriving DecidableEq

namespace Fault

/-- The wording of a fault. -/
def message : Fault → String
  | doubleRelease symbol => "Binding error: guard for " ++ symbol ++ " was already released"
  | outOfOrder symbol frame (some top) =>
    "Binding error: release of frame " ++ frame.display ++ " for " ++ symbol ++ " while frame " ++
      top.display ++ " is still bound"
  | outOfOrder symbol frame none =>
    "Binding error: release of frame " ++ frame.display ++ " for " ++ symbol ++
      " with no frames bound"
  | abandoned symbol frame =>
    "Binding error: guard for " ++ symbol ++ " was abandoned with frame " ++ frame.display ++
      " unrestored"
  | undefined name => "Reference error: undefined variable '" ++ name ++ "'"
  | notDynamic symbol => "Binding error: can't dynamically bind non-dynamic var " ++ symbol
  | conflict symbol declared requested =>
    "Declaration error: " ++ symbol ++ " is declared " ++ declared.word ++
      " and cannot be redeclared " ++ requested.word

/-- Whether a fault arises from giving back a saved value. -/
def isRestoration : Fault → Bool
  | doubleRelease _ | outOfOrder _ _ _ | abandoned _ _ => true
  | undefined _ | notDynamic _ | conflict _ _ _ => false

/-- The name of a fault's kind. -/
def kindName : Fault → String
  | doubleRelease _ => "DoubleRelease"
  | outOfOrder _ _ _ => "OutOfOrderRelease"
  | abandoned _ _ => "AbandonedRelease"
  | undefined _ => "UndefinedVariable"
  | notDynamic _ => "NotDynamic"
  | conflict _ _ _ => "StrategyConflict"

/-- The fields of a fault by name, with their texts. -/
def fieldTexts : Fault → List (String × String)
  | doubleRelease symbol => [("symbol", Text.quote symbol)]
  | outOfOrder symbol frame top =>
    [("symbol", Text.quote symbol), ("frame", frame.distinct),
      ("top", match top with
        | some top => "Some(" ++ top.distinct ++ ")"
        | none => "None")]
  | abandoned symbol frame => [("symbol", Text.quote symbol), ("frame", frame.distinct)]
  | undefined name => [("name", Text.quote name)]
  | notDynamic symbol => [("symbol", Text.quote symbol)]
  | conflict symbol declared requested =>
    [("symbol", Text.quote symbol), ("declared", declared.distinct),
      ("requested", requested.distinct)]

/-- The text of a fault with its fields. -/
def distinct (f : Fault) : String :=
  f.kindName ++ " \x7b " ++ ", ".intercalate (f.fieldTexts.map fun p => p.1 ++ ": " ++ p.2) ++ " \x7d"

end Fault

end ScopedBinding
