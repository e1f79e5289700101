import ScopedBinding.Fault
import ScopedBinding.Table

/-!
# The store of variables

The store holds the cells of all variables and the bindings that threads have made. A cell has a
root. A variable with a root for all threads keeps its frames beside the root, so every thread sees
an override. A dynamic variable has a binding of its own on each thread that has overridden it; the
binding holds a value and the thread's frames, hides the root on that thread only, and goes away
with its outermost frame.

The functions here change the store and nothing else. They take the acting thread, and they report
the value they replaced.
-/

set_option autoImplicit false

namespace ScopedBinding

/-- A variable, by the number of its cell. -/
structure CellId where
  index : Nat
  deriving DecidableEq

/-- A thread, by its number. -/
structure ThreadId where
  index : Nat
  deriving DecidableEq

/-- A watch, by its number. -/
structure WatchId where
  index : Nat
  deriving DecidableEq

/-- Where a variable keeps its frames. -/
inductive Storage where
  /-- With the bindings of each thread. -/
  | perThread
  /-- In one stack for all threads. -/
  | shared (frames : FrameStack)
  deriving DecidableEq

/-- What the store keeps of a variable. An alteration of the root has the lock of the variable while it
is under way. -/
structure Cell where
  symbol : Symbol
  storage : Storage
  root : Value
  altering : Bool
  watches : Table String WatchId

/-- The kind of a variable. -/
def Cell.kind (c : Cell) : CellKind :=
  match c.storage with
  | .perThread => .dynamic
  | .shared _ => .root

/-- What a thread has bound a dynamic variable to, and the frames it has opened for that. -/
structure Binding where
  value : Value
  frames : FrameStack
  deriving DecidableEq

/-- All cells and bindings, and how many cells and frames there have been. -/
structure Store where
  cells : Table CellId Cell
  bindings : Table (ThreadId × CellId) Binding
  cellsIssued : Nat
  framesIssued : Nat

/-- The value that a change replaced and the one that is visible after it. -/
structure Replaced where
  old : Value
  new : Value
  deriving DecidableEq

namespace Store

instance : EmptyCollection Store := ⟨⟨∅, ∅, 0, 0⟩⟩

/-- The cell of a variable. -/
def cell? (s : Store) (c : CellId) : Option Cell :=
  s.cells.get? c

/-- The symbol of a variable. -/
def symbol (s : Store) (c : CellId) : Symbol :=
  ((s.cell? c).map Cell.symbol).getD default

/-- The kind of a variable. -/
def kind (s : Store) (c : CellId) : CellKind :=
  ((s.cell? c).map Cell.kind).getD .dynamic

/-- The root of a variable. -/
def root (s : Store) (c : CellId) : Value :=
  ((s.cell? c).map Cell.root).getD .nil

/-- Whether an alteration has the lock of a variable. -/
def altering (s : Store) (c : CellId) : Bool :=
  ((s.cell? c).map Cell.altering).getD false

/-- The watches of a variable by their keys. -/
def watches (s : Store) (c : CellId) : Table String WatchId :=
  ((s.cell? c).map Cell.watches).getD ∅

/-- The binding that a thread has made for a variable. -/
def binding? (s : Store) (t : ThreadId) (c : CellId) : Option Binding :=
  s.bindings.get? (t, c)

/-- Whether a thread has bound a variable. -/
def isBound (s : Store) (t : ThreadId) (c : CellId) : Bool :=
  (s.binding? t c).isSome

/-- The frames that a thread sees of a variable. -/
def stack (s : Store) (t : ThreadId) (c : CellId) : FrameStack :=
  match (s.cell? c).map Cell.storage with
  | some (.shared frames) => frames
  | _ => ((s.binding? t c).map Binding.frames).getD ∅

/-- How many frames of a variable a thread sees. -/
def depth (s : Store) (t : ThreadId) (c : CellId) : Nat :=
  (s.stack t c).depth

/-- The value that a thread sees: its binding if it has one, and otherwise the root. -/
def read (s : Store) (t : ThreadId) (c : CellId) : Value :=
  match s.binding? t c with
  | some b => b.value
  | none => s.root c

/-- The store with the cell of a variable changed. -/
def updateCell (s : Store) (c : CellId) (change : Cell → Cell) : Store :=
  { s with cells := s.cells.modify c change }

/-- The store with another binding of a thread. -/
def putBinding (s : Store) (t : ThreadId) (c : CellId) (b : Binding) : Store :=
  { s with bindings := s.bindings.insert (t, c) b }

/-- The store without a binding of a thread. -/
def eraseBinding (s : Store) (t : ThreadId) (c : CellId) : Store :=
  { s with bindings := s.bindings.erase (t, c) }

/-- A new variable, which no thread has bound. -/
def create (s : Store) (symbol : Symbol) (kind : CellKind) (init : Value) : CellId × Store :=
  let c : CellId := ⟨s.cellsIssued⟩
  let storage : Storage :=
    match kind with
    | .dynamic => .perThread
    | .root => .shared ∅
  (c, { s with cells := s.cells.insert c ⟨symbol, storage, init, false, ∅⟩
               cellsIssued := s.cellsIssued + 1 })

/-- Removes a variable. Only the binding of the thread that does it can be reached, and goes too. -/
def destroy (s : Store) (t : ThreadId) (c : CellId) : Store :=
  { s.eraseBinding t c with cells := s.cells.erase c }

/-- Removes the bindings of a thread that has ended. -/
def endThread (s : Store) (t : ThreadId) : Store :=
  { s with bindings := s.bindings.filterKeys fun key => !decide (key.1 = t) }

/-- Takes the next frame number. -/
def issueFrame (s : Store) : FrameId × Store :=
  (.afterIssued s.framesIssued, { s with framesIssued := s.framesIssued + 1 })

/-- Sets the root of a variable, whoever has bound it. -/
def setRoot (s : Store) (c : CellId) (v : Value) : Replaced × Store :=
  (⟨s.root c, v⟩, s.updateCell c fun cell => { cell with root := v })

/-- Takes the lock of a variable. -/
def lock (s : Store) (c : CellId) : Store :=
  s.updateCell c fun cell => { cell with altering := true }

/-- Gives back the lock of a variable. -/
def unlock (s : Store) (c : CellId) : Store :=
  s.updateCell c fun cell => { cell with altering := false }

/-- Sets the value that a thread sees: its binding if it has one, and otherwise the root. -/
def write (s : Store) (t : ThreadId) (c : CellId) (v : Value) : Replaced × Store :=
  match s.binding? t c with
  | some b => (⟨b.value, v⟩, s.putBinding t c { b with value := v })
  | none => s.setRoot c v

/-- Opens a frame that saves the value the thread sees. -/
def push (s : Store) (t : ThreadId) (c : CellId) : Frame × Store :=
  let (id, s) := s.issueFrame
  match (s.cell? c).map Cell.storage with
  | some (.shared frames) =>
    let frame : Frame := ⟨id, s.root c⟩
    (frame, s.updateCell c fun cell => { cell with storage := .shared (frames.push frame) })
  | _ =>
    let frame : Frame := ⟨id, s.read t c⟩
    let b := (s.binding? t c).getD ⟨frame.saved, ∅⟩
    (frame, s.putBinding t c { b with frames := b.frames.push frame })

/-- Closes a frame and gives back the value it saved. The outermost frame of a dynamic variable takes
the thread's binding with it, so that the root is seen again, whatever it is by then. -/
def pop (s : Store) (t : ThreadId) (c : CellId) (id : FrameId) : Except Fault (Replaced × Store) :=
  let rejected (top : Option FrameId) : Fault := .outOfOrder (s.symbol c).display id top
  match (s.cell? c).map Cell.storage with
  | some (.shared frames) =>
    match frames.pop? id with
    | .error top => .error (rejected top)
    | .ok (frame, rest) =>
      .ok (⟨s.root c, frame.saved⟩,
        s.updateCell c fun cell => { cell with root := frame.saved, storage := .shared rest })
  | _ =>
    match s.binding? t c with
    | none => .error (rejected none)
    | some b =>
      match b.frames.pop? id with
      | .error top => .error (rejected top)
      | .ok (frame, rest) =>
        if rest.isEmpty then .ok (⟨b.value, s.root c⟩, s.eraseBinding t c)
        else .ok (⟨b.value, frame.saved⟩, s.putBinding t c ⟨frame.saved, rest⟩)

/-- Registers a watch under a key, in place of the one that has it. -/
def watch (s : Store) (c : CellId) (key : String) (w : WatchId) : Store :=
  s.updateCell c fun cell => { cell with watches := cell.watches.insert key w }

/-- Removes the watch that has a key, and says whether there was one. -/
def unwatch (s : Store) (c : CellId) (key : String) : Bool × Store :=
  ((s.watches c).contains key,
    s.updateCell c fun cell => { cell with watches := cell.watches.erase key })

/-- A changed cell has been changed, and every other cell is as before. -/
theorem cell?_updateCell (s : Store) (c d : CellId) (change : Cell → Cell) :
    (s.updateCell c change).cell? d = if d = c then (s.cell? c).map change else s.cell? d :=
  s.cells.get?_modify c d change

/-- Two changes of one cell are one change. -/
theorem updateCell_updateCell (s : Store) (c : CellId) (first last : Cell → Cell) :
    (s.updateCell c first).updateCell c last = s.updateCell c fun cell => last (first cell) :=
  congrArg (fun cells => { s with cells }) (s.cells.modify_modify c first last)

/-- A binding that was put in place is there, and every other binding is as before. -/
theorem binding?_putBinding (s : Store) (t u : ThreadId) (c d : CellId) (b : Binding) :
    (s.putBinding t c b).binding? u d = if (u, d) = (t, c) then some b else s.binding? u d :=
  s.bindings.get?_insert (t, c) (u, d) b

/-- An erased binding is gone, and every other binding is as before. -/
theorem binding?_eraseBinding (s : Store) (t u : ThreadId) (c d : CellId) :
    (s.eraseBinding t c).binding? u d = if (u, d) = (t, c) then none else s.binding? u d :=
  s.bindings.get?_erase (t, c) (u, d)

/-- A change of a cell that keeps its root changes no root. -/
theorem root_updateCell (s : Store) (c d : CellId) {change : Cell → Cell}
    (h : ∀ cell, (change cell).root = cell.root) : (s.updateCell c change).root d = s.root d := by
  unfold root
  rw [cell?_updateCell]
  split
  · next hd => cases hc : s.cell? c <;> simp [hd, hc, h]
  · rfl

/-- A change of a cell that keeps its root changes no value that any thread sees. -/
theorem read_updateCell (s : Store) (u : ThreadId) (c d : CellId) {change : Cell → Cell}
    (h : ∀ cell, (change cell).root = cell.root) :
    (s.updateCell c change).read u d = s.read u d := by
  have hroot := s.root_updateCell c d h
  unfold read
  rw [hroot]
  rfl

/-- A binding is what its thread sees, and all else is seen as before. -/
theorem read_putBinding (s : Store) (t u : ThreadId) (c d : CellId) (b : Binding) :
    (s.putBinding t c b).read u d = if (u, d) = (t, c) then b.value else s.read u d := by
  unfold read
  rw [binding?_putBinding]
  by_cases h : (u, d) = (t, c)
  · rw [if_pos h, if_pos h]
  · rw [if_neg h, if_neg h]
    rfl

/-- Opening a frame changes no value that any thread sees. -/
theorem read_push (s : Store) (t u : ThreadId) (c d : CellId) :
    (s.push t c).2.read u d = s.read u d := by
  unfold push issueFrame
  dsimp only
  split
  · exact read_updateCell _ u c d (fun _ => rfl)
  · dsimp only
    rw [read_putBinding]
    split
    · next h =>
      obtain ⟨rfl, rfl⟩ := Prod.mk.inj h
      unfold Store.read binding?
      dsimp only
      cases s.bindings.get? (u, d) <;> rfl
    · rfl

end Store

/-- The text of a dynamic or shared variable as a thread sees it, with its fields. -/
def Store.distinct (s : Store) (t : ThreadId) (c : CellId) : String :=
  let common := "symbol: " ++ (s.symbol c).distinct ++ ", root: " ++ (s.root c).distinct
  match s.kind c with
  | .dynamic =>
    let own :=
      match s.binding? t c with
      | some b => "Some(" ++ b.value.distinct ++ ")"
      | none => "None"
    "DynamicCell \x7b " ++ common ++ ", thread_value: " ++ own ++ " \x7d"
  | .root => "RootCell \x7b " ++ common ++ ", depth: " ++ toString (s.depth t c) ++ " \x7d"

end ScopedBinding
