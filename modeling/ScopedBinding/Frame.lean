import ScopedBinding.Value.Text

/-!
# Frames and stacks of frames

A frame saves the value that a variable had when the frame was opened. Frames of one variable form
a stack, and only the innermost may be closed: `FrameStack.pop?` gives the saved value back, and
otherwise reports which frame is innermost.
-/

set_option autoImplicit false

namespace ScopedBinding

/-- The number of a frame. Frames are numbered from 1 in the order in which they are opened. -/
structure FrameId where
  val : UInt64
  deriving DecidableEq

namespace FrameId

/-- The number of the frame that is opened after `issued` others. -/
def afterIssued (issued : Nat) : FrameId :=
  ⟨UInt64.ofNat (issued + 1)⟩

/-- A frame number for readers. -/
def display (f : FrameId) : String :=
  "#" ++ toString f.val.toNat

/-- The text that marks a number as a frame number. -/
def distinct (f : FrameId) : String :=
  "FrameId(" ++ toString f.val.toNat ++ ")"

end FrameId

/-- A saved value under its frame number. -/
structure Frame where
  id : FrameId
  saved : Value
  deriving DecidableEq

/-- The text of a frame with its fields. -/
def Frame.distinct (f : Frame) : String :=
  "BindingFrame \x7b id: " ++ f.id.distinct ++ ", saved: " ++ f.saved.distinct ++ " \x7d"

/-- The open frames of a variable, innermost first. -/
structure FrameStack where
  frames : List Frame
  deriving DecidableEq

namespace FrameStack

instance : EmptyCollection FrameStack := ⟨⟨[]⟩⟩

/-- The stack with a frame opened inside all others. -/
def push (s : FrameStack) (f : Frame) : FrameStack :=
  ⟨f :: s.frames⟩

/-- The innermost frame. -/
def top? (s : FrameStack) : Option Frame :=
  s.frames.head?

/-- How many frames are open. -/
def depth (s : FrameStack) : Nat :=
  s.frames.length

/-- Whether no frame is open. -/
def isEmpty (s : FrameStack) : Bool :=
  s.frames.isEmpty

/-- Whether a frame with this number is open. -/
def contains (s : FrameStack) (id : FrameId) : Bool :=
  s.frames.any fun f => f.id = id

/-- Closes the frame with this number if it is the innermost. The failure carries the number of the
frame that is innermost instead. -/
def pop? (s : FrameStack) (id : FrameId) : Except (Option FrameId) (Frame × FrameStack) :=
  match s.frames with
  | [] => .error none
  | f :: rest => if f.id = id then .ok (f, ⟨rest⟩) else .error (some f.id)

/-- The text of a stack, outermost frame first. -/
def distinct (s : FrameStack) : String :=
  "BindingStack \x7b frames: [" ++ ", ".intercalate (s.frames.reverse.map Frame.distinct) ++ "] \x7d"

/-- A frame just opened can be closed, which gives back the stack from before. -/
theorem pop?_push (s : FrameStack) (f : Frame) : (s.push f).pop? f.id = .ok (f, s) := by
  simp [push, pop?]

/-- A stack with a frame opened inside tells what it was and which frame it is. -/
theorem push_inj {s s' : FrameStack} {f f' : Frame} (h : s.push f = s'.push f') :
    s = s' ∧ f = f' := by
  obtain ⟨hf, hframes⟩ := List.cons.inj (FrameStack.mk.inj h)
  exact ⟨congrArg FrameStack.mk hframes, hf⟩

/-- A stack with an innermost frame has been made by opening it. -/
theorem eq_push_of_top {s : FrameStack} {id : FrameId} (h : s.top?.map Frame.id = some id) :
    ∃ f rest, f.id = id ∧ s = push rest f := by
  obtain ⟨f, htop, hid⟩ := Option.map_eq_some_iff.1 h
  obtain ⟨rest, hframes⟩ := List.head?_eq_some_iff.1 htop
  exact ⟨f, ⟨rest⟩, hid, congrArg FrameStack.mk hframes⟩

/-- Closing succeeds on the innermost frame and on no other. -/
theorem pop?_eq_ok_iff {s rest : FrameStack} {id : FrameId} {f : Frame} :
    s.pop? id = .ok (f, rest) ↔ f.id = id ∧ s = rest.push f := by
  obtain ⟨frames⟩ := s
  obtain ⟨below⟩ := rest
  cases frames with
  | nil => simp [pop?, push]
  | cons g gs =>
    simp only [pop?, push, FrameStack.mk.injEq, List.cons.injEq]
    by_cases h : g.id = id
    · simp only [h, if_true, Except.ok.injEq, Prod.mk.injEq, FrameStack.mk.injEq]
      constructor
      · rintro ⟨rfl, rfl⟩
        exact ⟨h, rfl, rfl⟩
      · rintro ⟨_, rfl, rfl⟩
        exact ⟨rfl, rfl⟩
    · simp only [h, if_false, reduceCtorEq, false_iff]
      rintro ⟨hf, rfl, _⟩
      exact h hf

end FrameStack

end ScopedBinding
