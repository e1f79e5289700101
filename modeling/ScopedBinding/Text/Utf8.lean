/-!
# Text from bytes

`decodeLossy` reads bytes as UTF-8. Each longest run of bytes that starts a character but does not
finish it, and each byte that starts none, is read as one replacement character, so bytes that are
not UTF-8 still have a text and that text shows where they are broken.
-/

set_option autoImplicit false

namespace ScopedBinding.Text

/-- The character that stands for bytes that are not UTF-8. -/
def replacement : Char := '\uFFFD'

/-- What the first byte of a character announces: the bits it contributes, the bytes that still
follow, and the range that the next of them must lie in. Every later one is a plain
continuation byte. -/
structure Lead where
  bits : Nat
  following : Nat
  low : Nat
  high : Nat

/-- The announcement of a first byte, or nothing if no character starts with it. The ranges
exclude overlong forms, surrogates and code points above `10FFFF`. -/
def lead? (b : Nat) : Option Lead :=
  if b ≤ 0x7F then some ⟨b, 0, 0, 0⟩
  else if 0xC2 ≤ b ∧ b ≤ 0xDF then some ⟨b - 0xC0, 1, 0x80, 0xBF⟩
  else if b = 0xE0 then some ⟨0, 2, 0xA0, 0xBF⟩
  else if b = 0xED then some ⟨0xD, 2, 0x80, 0x9F⟩
  else if 0xE1 ≤ b ∧ b ≤ 0xEF then some ⟨b - 0xE0, 2, 0x80, 0xBF⟩
  else if b = 0xF0 then some ⟨0, 3, 0x90, 0xBF⟩
  else if 0xF1 ≤ b ∧ b ≤ 0xF3 then some ⟨b - 0xF0, 3, 0x80, 0xBF⟩
  else if b = 0xF4 then some ⟨4, 3, 0x80, 0x8F⟩
  else none

/-- A byte read as the first of a character: what it writes, and what is then owed. -/
def start (b : UInt8) : List Char × Option Lead :=
  match lead? b.toNat with
  | none => ([replacement], none)
  | some l => if l.following = 0 then ([Char.ofNat l.bits], none) else ([], some l)

/-- A byte read while `pending` says what an unfinished character still owes. A byte that does not
continue it ends it as a replacement character and is itself read as a first byte. -/
def advance (pending : Option Lead) (b : UInt8) : List Char × Option Lead :=
  match pending with
  | none => start b
  | some l =>
    if l.low ≤ b.toNat ∧ b.toNat ≤ l.high then
      let bits := l.bits * 64 + (b.toNat - 0x80)
      if l.following = 1 then ([Char.ofNat bits], none)
      else ([], some ⟨bits, l.following - 1, 0x80, 0xBF⟩)
    else (replacement :: (start b).1, (start b).2)

/-- The characters of the bytes that follow an unfinished character. -/
def decodeFrom (pending : Option Lead) : List UInt8 → List Char
  | [] => if pending.isSome then [replacement] else []
  | b :: rest =>
    let read := advance pending b
    read.1 ++ decodeFrom read.2 rest

/-- The text of some bytes, with a replacement character for each broken piece. -/
def decodeLossy (bytes : List UInt8) : String :=
  String.ofList (decodeFrom none bytes)

/-- The bytes that a text is written with. -/
def encode (s : String) : List UInt8 :=
  s.toUTF8.toList

end ScopedBinding.Text
