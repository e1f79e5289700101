import ScopedBinding.Guard

/-!
# Overriding variables around a body

`Overrides.run` gives variables other values while a body runs. Each pair is acquired and written
in order, and released in the opposite order on every way out of the body. After a normal end each
guard gets one release; one that is rejected is abandoned, and the first rejection is the result.
When a panic passes, the guards that are left are dropped on its way, newest first.

`Overrides.tryRun` runs a body that may fail. A failure of the body is never replaced by a rejected
release: such a rejection is logged and treated by the release policy as it was before the body.

A result of the body that nobody gets goes away, and the guards that it owns are dropped. What this
does is up to the program: whatever runs a body takes it as `discard`. It is `Act.skip` for results that
own no guard.
-/

set_option autoImplicit false

namespace ScopedBinding

/-- Variables with the values they are to have, in the order in which they are overridden. A
variable may occur more than once. -/
abbrev Overrides : Type :=
  List (CellId × Value)

namespace Overrides

variable {η ε α β : Type}

/-- The part of the library that messages about overrides come from. -/
def source : String := "rebind"

/-- Ends one override after its body: releases the guard, and abandons it if that is rejected. -/
def finish (deliver : Delivery η ε) (guard : Guard) : Act η ε (Option Fault) := do
  match ← Act.onUnwind (guard.release deliver) (guard.drop deliver) with
  | .ok _ => pure none
  | .error fault =>
    let _ ← guard.abandon
    pure (some fault)

/-- Drops guards, newest first. -/
def dropAll (deliver : Delivery η ε) (guards : List Guard) : Act η ε Unit :=
  guards.forM fun guard => guard.drop deliver

/-- Acquires a guard of each variable and gives the variable its value. The guards are listed newest
first, before those that there were already. If a watch panics, all of them are dropped. -/
def acquireAll (deliver : Delivery η ε) : Overrides → List Guard → Act η ε (List Guard)
  | [], guards => pure guards
  | (cell, value) :: rest, guards => do
    let guard ← Guard.acquire cell
    Act.onUnwind (cell.write deliver value) (dropAll deliver (guard :: guards))
    acquireAll deliver rest (guard :: guards)

/-- Ends overrides after their body, newest first. The first rejected release is the result. If a watch
panics, the result of the body goes away, and then the guards that are left. -/
def releaseAll (deliver : Delivery η ε) (discarded : Act η ε Unit) :
    Option Fault → List Guard → Act η ε (Option Fault)
  | first, [] => pure first
  | first, guard :: rest => do
    let fault ← Act.onUnwind (finish deliver guard) do
      discarded
      dropAll deliver rest
    releaseAll deliver discarded (first.or fault) rest

/-- Logs that the body inside a number of overrides is entered. -/
def logEntering (size : Nat) : Act η ε Unit :=
  Act.log ⟨.trace, source, "entering body", [("bindings", toString size)]⟩

/-- Runs a body inside overrides. The first rejected release comes back beside the body's result. -/
def enter (deliver : Delivery η ε) (discard : α → Act η ε Unit) (set : Overrides)
    (body : Act η ε α) : Act η ε (α × Option Fault) := do
  let guards ← acquireAll deliver set []
  let a ← Act.onUnwind
    (do
      logEntering set.length
      body)
    (dropAll deliver guards)
  return (a, ← releaseAll deliver (discard a) none guards)

/-- Runs a body inside overrides. The result is the first rejected release, if there is one, and then
that of the body goes away. -/
def run (deliver : Delivery η ε) (discard : α → Act η ε Unit) (set : Overrides)
    (body : Act η ε α) : Act η ε (Except Fault α) := do
  match ← enter deliver discard set body with
  | (a, none) => pure (.ok a)
  | (a, some fault) =>
    discard a
    pure (.error fault)

/-- Runs a body that may fail inside overrides, under the policy that holds before the body. -/
def tryRun (deliver : Delivery η ε) (discard : Except β α → Act η ε Unit) (ofFault : Fault → β)
    (set : Overrides) (body : Act η ε (Except β α)) : Act η ε (Except β α) := do
  let policy ← Settings.current
  match ← enter deliver discard set body with
  | (result, none) => pure result
  | (.ok a, some fault) =>
    discard (.ok a)
    pure (.error (ofFault fault))
  | (.error failure, some fault) =>
    Act.log ⟨.error, source, "restoration failed after body error: " ++ fault.message, []⟩
    Act.onUnwind (Guard.failRelease policy fault) (discard (.error failure))
    pure (.error failure)

/-- The text of overrides as pairs of symbol and value. -/
def distinct (s : Store) (set : Overrides) : String :=
  "\x7b" ++ ", ".intercalate (set.map fun p => (s.symbol p.1).distinct ++ ": " ++ p.2.distinct) ++
    "\x7d"

end Overrides

end ScopedBinding
