import ScopedBinding.Policy
import ScopedBinding.Store

/-!
# Actions

An action runs on a thread in a world. The world is the store, the settings, the journal of what
has happened, and the state of the program that uses the library (`World.host`), which the library
never looks at. An action ends with a value or with a panic, and what it did to the world stays
done in either case.

A panic unwinds: `Act.onUnwind` runs a cleanup on its way out and passes it on, and `Act.attempt`
stops it. While a cleanup runs the thread is *unwinding*, and a panic that leaves a cleanup halts
the run. `Act.halt` also ends a run that is nested too deeply.
-/

set_option autoImplicit false

namespace ScopedBinding

/-- What made a value change: a new value, or the return of a saved one. -/
inductive Change where
  | write
  | restore
  deriving DecidableEq

/-- A change of a variable, as its watches are told of it. -/
structure Event where
  cell : CellId
  symbol : Symbol
  old : Value
  new : Value
  change : Change
  deriving DecidableEq

/-- One step that the journal records. Programs add notes of their own. -/
inductive Note (ε : Type) where
  | pushed (thread : ThreadId) (cell : CellId) (frame : Frame)
  | popped (thread : ThreadId) (cell : CellId) (frame : FrameId)
  | changed (thread : ThreadId) (event : Event)
  | logged (message : LogMessage)
  | entered (entry : ε)

/-- The settings of a process: the content of the environment variable, and the release policy once
it is decided. -/
structure Settings where
  content : Option (List UInt8)
  active : Option ReleasePolicy

/-- Everything that actions change. The journal has its newest note first. -/
structure World (η ε : Type) where
  store : Store
  settings : Settings
  journal : List (Note ε)
  host : η

/-- Where an action runs: on which thread, and whether that thread is unwinding. -/
structure Context where
  thread : ThreadId
  unwinding : Bool

/-- How an action ends. -/
inductive Outcome (α : Type) where
  | done (value : α)
  | panicked (message : String)
  | halted

/-- An action that ends with a value of type `α`, for programs with state `η` and notes `ε`. -/
def Act (η ε α : Type) : Type :=
  Context → World η ε → Outcome α × World η ε

namespace Act

variable {η ε α β : Type}

/-- Ends with a value and does nothing. -/
protected def pure (a : α) : Act η ε α :=
  fun _ w => (.done a, w)

/-- Runs an action and then the one that its value selects. -/
protected def bind (m : Act η ε α) (next : α → Act η ε β) : Act η ε β :=
  fun ctx w =>
    match m ctx w with
    | (.done a, w) => next a ctx w
    | (.panicked message, w) => (.panicked message, w)
    | (.halted, w) => (.halted, w)

instance : Monad (Act η ε) where
  pure := Act.pure
  bind := Act.bind

instance : LawfulMonad (Act η ε) :=
  LawfulMonad.mk' (Act η ε)
    (fun m => by
      funext ctx w
      show Act.bind m (fun a => Act.pure a) ctx w = m ctx w
      unfold Act.bind Act.pure
      split <;> simp [*])
    (fun _ _ => rfl)
    (fun m f g => by
      funext ctx w
      show Act.bind (Act.bind m f) g ctx w = Act.bind m (fun a => Act.bind (f a) g) ctx w
      unfold Act.bind
      rcases m ctx w with ⟨_ | _ | _, w'⟩ <;> rfl)

/-- Starts to unwind. -/
def panic (message : String) : Act η ε α :=
  fun _ w => (.panicked message, w)

/-- Ends the whole run. -/
def halt : Act η ε α :=
  fun _ w => (.halted, w)

/-- Does nothing with a value. -/
def skip (_ : α) : Act η ε Unit :=
  pure ()

/-- Runs an action and turns its panic into a value. -/
def attempt (m : Act η ε α) : Act η ε (Except String α) :=
  fun ctx w =>
    match m ctx w with
    | (.done a, w) => (.done (.ok a), w)
    | (.panicked message, w) => (.done (.error message), w)
    | (.halted, w) => (.halted, w)

/-- Runs an action, and a cleanup if the action panics; the panic then goes on. -/
def onUnwind (m : Act η ε α) (cleanup : Act η ε Unit) : Act η ε α :=
  fun ctx w =>
    match m ctx w with
    | (.panicked message, w) =>
      match cleanup { ctx with unwinding := true } w with
      | (.done _, w) => (.panicked message, w)
      | (.panicked _, w) => (.halted, w)
      | (.halted, w) => (.halted, w)
    | result => result

/-- Runs an action on another thread, which is not unwinding. -/
def onThread (t : ThreadId) (m : Act η ε α) : Act η ε α :=
  fun _ w => m ⟨t, false⟩ w

/-- The thread that the action runs on. -/
def thread : Act η ε ThreadId :=
  fun ctx w => (.done ctx.thread, w)

/-- Whether the thread is unwinding. -/
def isUnwinding : Act η ε Bool :=
  fun ctx w => (.done ctx.unwinding, w)

/-- The store. -/
def store : Act η ε Store :=
  fun _ w => (.done w.store, w)

/-- Puts another store in place. -/
def setStore (s : Store) : Act η ε Unit :=
  fun _ w => (.done (), { w with store := s })

/-- Changes the store by a function that also gives a value. -/
def onStore (change : Store → α × Store) : Act η ε α :=
  fun _ w =>
    let (a, s) := change w.store
    (.done a, { w with store := s })

/-- The state of the program. -/
def host : Act η ε η :=
  fun _ w => (.done w.host, w)

/-- Changes the state of the program. -/
def modifyHost (change : η → η) : Act η ε Unit :=
  fun _ w => (.done (), { w with host := change w.host })

/-- The settings. -/
def settings : Act η ε Settings :=
  fun _ w => (.done w.settings, w)

/-- Puts other settings in place. -/
def setSettings (s : Settings) : Act η ε Unit :=
  fun _ w => (.done (), { w with settings := s })

/-- Adds a note to the journal. -/
def note (n : Note ε) : Act η ε Unit :=
  fun _ w => (.done (), { w with journal := n :: w.journal })

/-- Logs a message. -/
def log (message : LogMessage) : Act η ε Unit :=
  note (.logged message)

end Act

/-- What a program does with an event for one of its watches. -/
abbrev Delivery (η ε : Type) : Type :=
  WatchId → Event → Act η ε Unit

end ScopedBinding
