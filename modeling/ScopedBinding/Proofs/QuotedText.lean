import Mathlib.Data.List.TakeWhile
import ScopedBinding.Text.Quoted

/-!
# Reading quoted text

A quoted text can be read back character by character (`Text.unquoteChar_quoteChar`), whatever it holds: a
character after a backslash is told from the character itself, and a code point ends with its brace. So
different texts have different quoted forms (`Text.quote_injective`).
-/

set_option autoImplicit false

namespace ScopedBinding.Text

/-- The value of a digit, of which the letters follow the ten figures. -/
def hexValue (c : Char) : Nat :=
  if c.toNat < 0x61 then c.toNat - 0x30 else c.toNat - 0x61 + 10

/-- The number that hexadecimal digits stand for. -/
def readHex (cs : List Char) : Nat :=
  cs.foldl (fun n c => 16 * n + hexValue c) 0

/-- What follows a backslash: a letter for a control character, a code point between braces, or a
character that stands for itself. -/
def unescape : List Char → Option (Char × List Char)
  | [] => none
  | c :: rest =>
    if c = 'u' then
      let inside := rest.drop 1
      some (Char.ofNat (readHex (inside.takeWhile (· != '\x7d'))),
        (inside.dropWhile (· != '\x7d')).drop 1)
    else
      let meant :=
        if c = 't' then '\t' else if c = 'n' then '\n' else if c = 'r' then '\r'
        else if c = '0' then Char.ofNat 0 else c
      some (meant, rest)

/-- The first character of quoted text, and the quoted text after it. -/
def unquoteChar : List Char → Option (Char × List Char)
  | [] => none
  | c :: rest => if c = '\\' then unescape rest else some (c, rest)

/-- A digit of a number to the base sixteen is read back. -/
theorem hexValue_digitChar {d : Nat} (hd : d < 16) : hexValue d.digitChar = d := by
  have hall : ∀ d : Fin 16, hexValue d.val.digitChar = d.val := by decide
  exact hall ⟨d, hd⟩

/-- No digit is the brace that ends a number. -/
theorem digitChar_ne_brace {d : Nat} (hd : d < 16) : d.digitChar ≠ '\x7d' := by
  have hall : ∀ d : Fin 16, d.val.digitChar ≠ '\x7d' := by decide
  exact hall ⟨d, hd⟩

/-- Hexadecimal digits are read back, and none of them is a brace. -/
theorem toDigits_hex (n : Nat) :
    readHex (Nat.toDigits 16 n) = n ∧ ∀ c ∈ Nat.toDigits 16 n, c ≠ '\x7d' := by
  induction n using Nat.strongRecOn with
  | ind n ih =>
    by_cases hn : n < 16
    · rw [Nat.toDigits_of_lt_base hn]
      refine ⟨?_, fun c hc => ?_⟩
      · simp [readHex, hexValue_digitChar hn]
      · rw [List.mem_singleton.1 hc]
        exact digitChar_ne_brace hn
    · have hlast : n % 16 < 16 := Nat.mod_lt n (by decide)
      obtain ⟨hread, hbrace⟩ := ih (n / 16) (by omega)
      rw [Nat.toDigits_of_base_le (by decide) (by omega)]
      refine ⟨?_, fun c hc => ?_⟩
      · unfold readHex at hread ⊢
        rw [List.foldl_append, hread, List.foldl_cons, List.foldl_nil, hexValue_digitChar hlast]
        omega
      · rcases List.mem_append.1 hc with hc | hc
        · exact hbrace c hc
        · rw [List.mem_singleton.1 hc]
          exact digitChar_ne_brace hlast

/-- A code point between braces is read back, and the reading stops behind it. -/
theorem unescape_codePoint (c : Char) (rest : List Char) :
    unescape ('u' :: '\x7b' :: (Nat.toDigits 16 c.toNat ++ '\x7d' :: rest)) = some (c, rest) := by
  obtain ⟨hread, hbrace⟩ := toDigits_hex c.toNat
  have hinside : ∀ d ∈ Nat.toDigits 16 c.toNat, (d != '\x7d') = true := fun d hd => by
    simpa using hbrace d hd
  unfold unescape
  simp only [if_true, List.drop_one, List.tail_cons]
  rw [List.takeWhile_append_of_pos hinside, List.dropWhile_append_of_pos hinside,
    List.takeWhile_cons_of_neg (by simp), List.dropWhile_cons_of_neg (by simp), List.append_nil,
    hread, Char.ofNat_toNat, List.tail_cons]

/-- Every character is read back from its quoted form. -/
theorem unquoteChar_quoteChar (c : Char) (rest : List Char) :
    unquoteChar (quoteChar c ++ rest) = some (c, rest) := by
  unfold quoteChar
  split_ifs with hquote hslash htab hline hreturn hzero hhidden
  · subst hquote
    rfl
  · subst hslash
    rfl
  · subst htab
    rfl
  · subst hline
    rfl
  · subst hreturn
    rfl
  · have hc : c = Char.ofNat 0 := by rw [← hzero, Char.ofNat_toNat]
    rw [hc]
    rfl
  · simp only [List.cons_append, List.append_assoc, List.nil_append]
    exact unescape_codePoint c rest
  · unfold unquoteChar
    simp only [List.singleton_append]
    rw [if_neg hslash]

/-- Every character has some text. -/
theorem quoteChar_ne_nil (c : Char) : quoteChar c ≠ [] := by
  intro hnil
  have hread := unquoteChar_quoteChar c []
  rw [hnil] at hread
  cases hread

/-- Texts whose characters are quoted alike are the same. -/
theorem flatMap_quoteChar_injective {cs ds : List Char}
    (h : cs.flatMap quoteChar = ds.flatMap quoteChar) : cs = ds := by
  induction cs generalizing ds with
  | nil =>
    cases ds with
    | nil => rfl
    | cons d ds =>
      have hnil := (List.append_eq_nil_iff.1 h.symm).1
      exact absurd hnil (quoteChar_ne_nil d)
  | cons c cs ih =>
    cases ds with
    | nil =>
      have hnil := (List.append_eq_nil_iff.1 h).1
      exact absurd hnil (quoteChar_ne_nil c)
    | cons d ds =>
      rw [List.flatMap_cons, List.flatMap_cons] at h
      have hread := congrArg unquoteChar h
      rw [unquoteChar_quoteChar, unquoteChar_quoteChar] at hread
      simp only [Option.some.injEq, Prod.mk.injEq] at hread
      rw [hread.1, ih hread.2]

/-- Different texts have different quoted forms. -/
theorem quote_injective {s s' : String} (h : quote s = quote s') : s = s' := by
  unfold quote at h
  have hlist := String.ofList_injective h
  simp only [List.cons_append, List.cons.injEq, List.append_cancel_right_eq, true_and] at hlist
  exact String.toList_injective (flatMap_quoteChar_injective hlist)

end ScopedBinding.Text
