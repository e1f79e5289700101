import ScopedBinding.Binary64.Basic

/-!
# Values

What a variable can hold. Values are compared by `Value.equals`: kind and payload must agree, with
no conversion between integers and floating-point numbers, a NaN differs from itself, and two
sealed objects are equal only if they are the same object.
-/

set_option autoImplicit false

namespace ScopedBinding

/-- What a sealed object holds. -/
inductive Payload where
  | unit
  | bool (b : Bool)
  | int (n : Int64)
  | text (s : String)
  deriving DecidableEq

/-- An object that other code hands through without looking inside. Its label is its identity. -/
structure Sealed where
  label : String
  payload : Payload
  deriving DecidableEq

/-- Whether two sealed objects are the same object. -/
def Sealed.same (a b : Sealed) : Bool :=
  a.label == b.label

/-- The values of variables. -/
inductive Value where
  | nil
  | bool (b : Bool)
  | int (n : Int64)
  | float (x : Binary64)
  | text (s : String)
  | object (o : Sealed)
  deriving DecidableEq

namespace Value

instance : Inhabited Value := ⟨nil⟩

/-- The name of a value's kind. -/
def kindName : Value → String
  | nil => "nil"
  | bool _ => "boolean"
  | int _ => "integer"
  | float _ => "float"
  | text _ => "string"
  | object _ => "opaque"

/-- Equality as programs see it. -/
def equals : Value → Value → Bool
  | nil, nil => true
  | bool a, bool b => a == b
  | int a, int b => a == b
  | float a, float b => a.equals b
  | text a, text b => a == b
  | object a, object b => a.same b
  | _, _ => false

/-- Whether a value is nil. -/
def isNil : Value → Bool
  | nil => true
  | _ => false

/-- The truth value of a boolean. -/
def bool? : Value → Option Bool
  | bool b => some b
  | _ => none

/-- The integer of an integer value. -/
def int? : Value → Option Int64
  | int n => some n
  | _ => none

/-- The number of a floating-point value. -/
def float? : Value → Option Binary64
  | float x => some x
  | _ => none

/-- The number of a numeric value; an integer goes to the nearest floating-point number. -/
def number? : Value → Option Binary64
  | int n => some (Binary64.ofInt n.toInt)
  | float x => some x
  | _ => none

/-- The text of a textual value. -/
def text? : Value → Option String
  | text s => some s
  | _ => none

/-- The object of an opaque value. -/
def object? : Value → Option Sealed
  | object o => some o
  | _ => none

end Value

end ScopedBinding
