import ScopedBinding.Snapshot

/-!
# Programs

A `Program` is any program over the library: it calls the operations on variables, frames, guards,
watches and settings, looks at the whole world between them, and nests scopes, cleanups, caught
panics and work on other threads. What it does next may depend on everything it has seen.
`Program.act` is the action of a program.

The guards that a program acquires are in its hands by number, each on the thread that acquired it,
and nobody else reaches a guard while it is being released. The guards of the scopes that it opens
are not among them. A body that is run inside overrides may end with the numbers of guards that are to
go with its result; what becomes of them when nobody gets the result is a program of its own.

Watches are programs too. `Rules.deliver` lets their own changes be delivered to watches in turn, down to
a depth at which the run is cut off.
-/

set_option autoImplicit false

namespace ScopedBinding

/-- A guard in the hands of a program: on which thread, and whether a release of it has been cut
short by a panic. -/
structure HeldGuard where
  thread : ThreadId
  guard : Guard
  interrupted : Bool

/-- The guards that a program has in its hands by number, and a state of its own. -/
structure Hands (υ : Type) where
  guards : Table Nat HeldGuard
  issued : Nat
  own : υ

namespace Hands

variable {υ ε : Type}

/-- The guard of a number, if it belongs to the acting thread. -/
def find (n : Nat) : Act (Hands υ) ε (Option HeldGuard) := do
  let t ← Act.thread
  return ((← Act.host).guards.get? n).filter fun h => h.thread = t

/-- Takes a guard out of the program's hands. -/
def take (n : Nat) : Act (Hands υ) ε Unit :=
  Act.modifyHost fun hands => { hands with guards := hands.guards.erase n }

/-- Puts a guard into the program's hands. -/
def put (n : Nat) (h : HeldGuard) : Act (Hands υ) ε Unit :=
  Act.modifyHost fun hands => { hands with guards := hands.guards.insert n h }

/-- Acquires a guard under the next number. -/
def acquire (c : CellId) : Act (Hands υ) ε Nat := do
  let guard ← Guard.acquire c
  let t ← Act.thread
  let n := (← Act.host).issued
  put n ⟨t, guard, false⟩
  Act.modifyHost fun hands => { hands with issued := n + 1 }
  pure n

/-- Releases a guard. It is out of everybody's reach until the release ends, by a result or by a
panic. -/
def release (deliver : Delivery (Hands υ) ε) (n : Nat) :
    Act (Hands υ) ε (Option (Except Fault Unit)) := do
  match ← find n with
  | none => pure none
  | some h =>
    take n
    match ← Act.onUnwind (h.guard.release deliver) (put n { h with interrupted := true }) with
    | .ok guard =>
      put n { h with guard }
      pure (some (.ok ()))
    | .error fault =>
      put n h
      pure (some (.error fault))

/-- Lets a guard go out of scope. -/
def drop (deliver : Delivery (Hands υ) ε) (n : Nat) : Act (Hands υ) ε Unit := do
  match ← find n with
  | none => pure ()
  | some h =>
    take n
    h.guard.drop deliver

/-- Forgets a guard, whose frame stays open. -/
def forget (n : Nat) : Act (Hands υ) ε Unit := do
  match ← find n with
  | none => pure ()
  | some _ => take n

end Hands

/-- Holds a guard of a variable around a body, and drops it on every way out. -/
def Guard.hold {η ε α : Type} (deliver : Delivery η ε) (c : CellId) (body : Act η ε α) :
    Act η ε α := do
  let guard ← Guard.acquire c
  let a ← Act.onUnwind body (guard.drop deliver)
  guard.drop deliver
  pure a

/-- What a program can do in one call, without a body to run. -/
inductive Call (υ ε : Type) : Type → Type 1 where
  | look {α : Type} (see : Context → World (Hands υ) ε → α) : Call υ ε α
  | own (change : υ → υ) : Call υ ε Unit
  | panic {α : Type} (message : String) : Call υ ε α
  | halt {α : Type} : Call υ ε α
  | write (c : CellId) (v : Value) : Call υ ε Unit
  | setRoot (c : CellId) (v : Value) : Call υ ε Unit
  | push (c : CellId) : Call υ ε FrameId
  | pop (c : CellId) (frame : FrameId) : Call υ ε (Except Fault Unit)
  | issueFrame : Call υ ε FrameId
  | watch (c : CellId) (key : String) (w : WatchId) : Call υ ε Unit
  | unwatch (c : CellId) (key : String) : Call υ ε Bool
  | acquire (c : CellId) : Call υ ε Nat
  | release (n : Nat) : Call υ ε (Option (Except Fault Unit))
  | drop (n : Nat) : Call υ ε Unit
  | forget (n : Nat) : Call υ ε Unit
  | capture (cells : List CellId) : Call υ ε Snapshot
  | policy : Call υ ε ReleasePolicy
  | policyFromVariable : Call υ ε ReleasePolicy
  | install (decided : ReleasePolicy) : Call υ ε (Except ReleasePolicy Unit)
  | setVariable (content : Option (List UInt8)) : Call υ ε Unit

/-- The action of a call. -/
def Call.act {υ ε : Type} (deliver : Delivery (Hands υ) ε) :
    {α : Type} → Call υ ε α → Act (Hands υ) ε α
  | _, .look see => fun ctx w => (.done (see ctx w), w)
  | _, .own change => Act.modifyHost fun hands => { hands with own := change hands.own }
  | _, .panic message => Act.panic message
  | _, .halt => Act.halt
  | _, .write c v => c.write deliver v
  | _, .setRoot c v => c.setRoot deliver v
  | _, .push c => c.push
  | _, .pop c frame => c.pop deliver frame
  | _, .issueFrame => FrameId.issue
  | _, .watch c key w => c.watch key w
  | _, .unwatch c key => c.unwatch key
  | _, .acquire c => Hands.acquire c
  | _, .release n => Hands.release deliver n
  | _, .drop n => Hands.drop deliver n
  | _, .forget n => Hands.forget n
  | _, .capture cells => Snapshot.capture cells
  | _, .policy => Settings.current
  | _, .policyFromVariable => Settings.fromVariable
  | _, .install decided => Settings.install decided
  | _, .setVariable content => Settings.setVariable content

/-- Programs that end with a value of type `α`. A program that may fail has an `Except` for its
value. Where overrides are put around a body, `discard` is what happens to its result if nobody gets
it. -/
inductive Program (υ ε : Type) : Type → Type 1 where
  | call {α : Type} (op : Call υ ε α) : Program υ ε α
  | bind {α β : Type} (first : Program υ ε α) (next : α → Program υ ε β) : Program υ ε β
  | attempt {α : Type} (body : Program υ ε α) : Program υ ε (Except String α)
  | onUnwind {α : Type} (body : Program υ ε α) (cleanup : Program υ ε Unit) : Program υ ε α
  | onThread {α : Type} (t : ThreadId) (body : Program υ ε α) : Program υ ε (Except String α)
  | alterRoot (c : CellId) (f : Value → Program υ ε Value) : Program υ ε Value
  | hold {α : Type} (c : CellId) (body : Program υ ε α) : Program υ ε α
  | override {α : Type} (discard : α → Program υ ε Unit) (set : Overrides)
      (body : Program υ ε α) : Program υ ε (Except Fault α)
  | tryOverride {α β : Type} (discard : Except β α → Program υ ε Unit) (ofFault : Fault → β)
      (set : Overrides) (body : Program υ ε (Except β α)) : Program υ ε (Except β α)
  | convey {α : Type} (discard : α → Program υ ε Unit) (snapshot : Snapshot)
      (body : Program υ ε α) : Program υ ε (Except Fault α)

namespace Program

variable {υ ε : Type}

/-- The action of a program. Work on another thread is waited for, and a panic there is a result. -/
def act (deliver : Delivery (Hands υ) ε) : {α : Type} → Program υ ε α → Act (Hands υ) ε α
  | _, .call op => op.act deliver
  | _, .bind first next => first.act deliver >>= fun a => (next a).act deliver
  | _, .attempt body => Act.attempt (body.act deliver)
  | _, .onUnwind body cleanup => Act.onUnwind (body.act deliver) (cleanup.act deliver)
  | _, .onThread t body => Act.onThread t (Act.attempt (body.act deliver))
  | _, .alterRoot c f => c.alterRoot deliver fun v => (f v).act deliver
  | _, .hold c body => Guard.hold deliver c (body.act deliver)
  | _, .override discard set body =>
    Overrides.run deliver (fun a => (discard a).act deliver) set (body.act deliver)
  | _, .tryOverride discard ofFault set body =>
    Overrides.tryRun deliver (fun a => (discard a).act deliver) ofFault set (body.act deliver)
  | _, .convey discard snapshot body =>
    snapshot.run deliver (fun a => (discard a).act deliver) (body.act deliver)

/-- Programs that make only calls of some kind. Whether they have cleanups of their own is a
condition apart. -/
def Uses (allowed : {β : Type} → Call υ ε β → Prop) (cleanups : Prop) :
    {α : Type} → Program υ ε α → Prop
  | _, .call op => allowed op
  | _, .bind first next => first.Uses allowed cleanups ∧ ∀ a, (next a).Uses allowed cleanups
  | _, .attempt body => body.Uses allowed cleanups
  | _, .onUnwind body cleanup =>
    cleanups ∧ body.Uses allowed cleanups ∧ cleanup.Uses allowed cleanups
  | _, .onThread _ body => body.Uses allowed cleanups
  | _, .alterRoot _ f => ∀ v, (f v).Uses allowed cleanups
  | _, .hold _ body => body.Uses allowed cleanups
  | _, .override discard _ body =>
    (∀ a, (discard a).Uses allowed cleanups) ∧ body.Uses allowed cleanups
  | _, .tryOverride discard _ _ body =>
    (∀ a, (discard a).Uses allowed cleanups) ∧ body.Uses allowed cleanups
  | _, .convey discard _ body =>
    (∀ a, (discard a).Uses allowed cleanups) ∧ body.Uses allowed cleanups

instance : Monad (Program υ ε) where
  pure a := .call (.look fun _ _ => a)
  bind := .bind

/-- Does nothing with a result, which owns no guard. -/
def skip {α : Type} (_ : α) : Program υ ε Unit :=
  pure ()

end Program

/-- The world in which a program starts, with nothing in its hands. -/
def World.start {υ ε : Type} (s : Store) (own : υ) : World (Hands υ) ε :=
  ⟨s, ⟨none, none⟩, [], ⟨∅, 0, own⟩⟩

/-- What the watches of a program do with an event. -/
abbrev Rules (υ ε : Type) : Type 1 :=
  WatchId → Event → Program υ ε Unit

/-- How events reach watches that are programs themselves. Watches that set each other off more than
`depth` deep cut the run off. -/
def Rules.deliver {υ ε : Type} (rules : Rules υ ε) : Nat → Delivery (Hands υ) ε
  | 0 => fun _ _ => Act.halt
  | depth + 1 => fun w e => (rules w e).act (rules.deliver depth)

end ScopedBinding
