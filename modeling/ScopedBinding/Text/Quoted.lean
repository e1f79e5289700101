import ScopedBinding.Text.Hidden

/-!
# Quoted text

`quote` writes a text between double quotes so that it can be told from every other text and from
anything that is not text. The quote and the backslash follow a backslash, four control characters
have a letter, and every other hidden character is written by its code point.
-/

set_option autoImplicit false

namespace ScopedBinding.Text

/-- One character as it stands between double quotes. -/
def quoteChar (c : Char) : List Char :=
  if c = '"' then ['\\', '"']
  else if c = '\\' then ['\\', '\\']
  else if c = '\t' then ['\\', 't']
  else if c = '\n' then ['\\', 'n']
  else if c = '\r' then ['\\', 'r']
  else if c.toNat = 0 then ['\\', '0']
  else if isHidden c then ['\\', 'u', '\x7b'] ++ Nat.toDigits 16 c.toNat ++ ['\x7d']
  else [c]

/-- A text between double quotes. -/
def quote (s : String) : String :=
  String.ofList ('"' :: s.toList.flatMap quoteChar ++ ['"'])

end ScopedBinding.Text
