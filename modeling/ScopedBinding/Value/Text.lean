import ScopedBinding.Binary64.Shortest
import ScopedBinding.Text.Quoted
import ScopedBinding.Value.Basic

/-!
# The texts of a value

A value has a plain text for readers (`Value.display`) and a distinct text (`Value.distinct`),
which quotes strings and marks floating-point numbers, so that `"1"`, `1` and `1.0` differ. An
object is shown by its label.
-/

set_option autoImplicit false

namespace ScopedBinding

/-- The text of a sealed object. -/
def Sealed.display (o : Sealed) : String :=
  "<opaque " ++ o.label ++ ">"

namespace Value

/-- The text of a value for readers. -/
def display : Value → String
  | nil => "nil"
  | bool b => if b then "true" else "false"
  | int n => toString n.toInt
  | float x => x.text
  | text s => s
  | object o => o.display

/-- The text of a value that tells it from values of other kinds. -/
def distinct : Value → String
  | text s => Text.quote s
  | float x => x.distinctText
  | v => v.display

end Value

end ScopedBinding
