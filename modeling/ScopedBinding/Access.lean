import ScopedBinding.Act

/-!
# Using variables

Reading and changing variables on the acting thread. A change is complete before anybody is told
of it: each operation first changes the store, notes the change in the journal, and then delivers
the event to the watches that are registered at that moment, in their order. A watch that panics
keeps the later ones from being told, and leaves the change in place.

How an event reaches a watch is up to the program; every operation that changes a variable takes
that as its `deliver`.
-/

set_option autoImplicit false

namespace ScopedBinding

variable {η ε α : Type}

/-- Delivers an event to the watches that its variable has now. -/
def Event.deliver (deliver : Delivery η ε) (e : Event) : Act η ε Unit := do
  let s ← Act.store
  (s.watches e.cell).values.forM fun w => deliver w e

namespace CellId

/-- Makes a change known: notes it in the journal and tells the watches. -/
def announce (deliver : Delivery η ε) (c : CellId) (change : Change) (r : Replaced) :
    Act η ε Unit := do
  let e : Event := ⟨c, (← Act.store).symbol c, r.old, r.new, change⟩
  Act.note (.changed (← Act.thread) e)
  e.deliver deliver

/-- The value of a variable. -/
def read (c : CellId) : Act η ε Value := do
  return (← Act.store).read (← Act.thread) c

/-- Sets the value of a variable: that of the thread's binding if there is one, or the root. -/
def write (deliver : Delivery η ε) (c : CellId) (v : Value) : Act η ε Unit := do
  let t ← Act.thread
  let r ← Act.onStore fun s => s.write t c v
  c.announce deliver .write r

/-- Sets the root of a variable. -/
def setRoot (deliver : Delivery η ε) (c : CellId) (v : Value) : Act η ε Unit := do
  let r ← Act.onStore fun s => s.setRoot c v
  c.announce deliver .write r

/-- Takes the lock of a variable. Who finds it taken waits for it. An action that is part of what the
holder itself waits for would wait for ever, and the run goes no further. -/
def lock (c : CellId) : Act η ε Unit := do
  if (← Act.store).altering c then Act.halt
  else Act.onStore fun s => ((), s.lock c)

/-- Gives back the lock of a variable. -/
def unlock (c : CellId) : Act η ε Unit :=
  Act.onStore fun s => ((), s.unlock c)

/-- Runs an action that has the lock of a variable, which it gives back on every way out. -/
def alone (c : CellId) (m : Act η ε α) : Act η ε α := do
  c.lock
  let a ← Act.onUnwind m c.unlock
  c.unlock
  pure a

/-- Sets the root of a variable to what a function makes of it, and returns the new root. No other
alteration of the variable comes between what the function is shown and the new root. If the function
panics the root stays. The watches are told when the lock has been given back. -/
def alterRoot (deliver : Delivery η ε) (c : CellId) (f : Value → Act η ε Value) :
    Act η ε Value := do
  let (v, r) ← c.alone do
    let v ← f ((← Act.store).root c)
    let r ← Act.onStore fun s => s.setRoot c v
    pure (v, r)
  c.announce deliver .write r
  pure v

/-- Opens a frame that saves the value of a variable. -/
def push (c : CellId) : Act η ε FrameId := do
  let t ← Act.thread
  let frame ← Act.onStore fun s => s.push t c
  Act.note (.pushed t c frame)
  pure frame.id

/-- Closes the innermost frame of a variable and gives back the value it saved. Any other frame is
rejected, and nothing happens. -/
def pop (deliver : Delivery η ε) (c : CellId) (frame : FrameId) :
    Act η ε (Except Fault Unit) := do
  let t ← Act.thread
  match (← Act.store).pop t c frame with
  | .error fault => pure (.error fault)
  | .ok (r, s) =>
    Act.setStore s
    Act.note (.popped t c frame)
    c.announce deliver .restore r
    pure (.ok ())

/-- Registers a watch under a key, in place of the one that has it. -/
def watch (c : CellId) (key : String) (w : WatchId) : Act η ε Unit :=
  Act.onStore fun s => ((), s.watch c key w)

/-- Removes the watch that has a key, and says whether there was one. -/
def unwatch (c : CellId) (key : String) : Act η ε Bool :=
  Act.onStore fun s => s.unwatch c key

end CellId

/-- A new variable. -/
def Symbol.create (symbol : Symbol) (kind : CellKind) (init : Value) : Act η ε CellId :=
  Act.onStore fun s => s.create symbol kind init

/-- The next frame number, taken without opening a frame. -/
def FrameId.issue : Act η ε FrameId :=
  Act.onStore Store.issueFrame

end ScopedBinding
