import Std.Data.String.ToInt
import ScopedBinding.Proofs.NumberText
import ScopedBinding.Proofs.QuotedText
import ScopedBinding.Value.Text

/-!
# Distinct texts identify values

The distinct text of a value tells its kind, by characters that only texts of that kind have
(`Value.kindOf_distinct`), and within its kind the value (`distinct_identifies`). The exception are the
NaNs, which have one text for all of them.
-/

set_option autoImplicit false

namespace ScopedBinding

namespace Value

/-- The kind of value that a text shows, by characters that only the texts of that kind have. -/
def kindOf (cs : List Char) : String :=
  if '"' ∈ cs then "string"
  else if 'e' ∈ cs then "boolean"
  else if 'l' ∈ cs then "nil"
  else if '.' ∈ cs ∨ 'f' ∈ cs ∨ 'N' ∈ cs then "float"
  else "integer"

/-- The text of an integer has only digits and a minus. -/
theorem mem_intText {n : Int} {c : Char} (hc : c ∈ (toString n).toList) :
    c.isDigit = true ∨ c = '-' := by
  have htext : toString n = n.repr := rfl
  have hnat : ∀ {m : Nat}, c ∈ m.repr.toList → c.isDigit = true := by
    intro m hm
    rw [Nat.toList_repr] at hm
    exact Decimal.isDigit_of_mem_toDigits hm
  rw [htext] at hc
  cases n with
  | ofNat m => exact .inl (hnat hc)
  | negSucc m =>
    have hneg : (Int.negSucc m).repr = "-" ++ (m + 1).repr := rfl
    rw [hneg, String.toList_append, List.mem_append] at hc
    rcases hc with hc | hc
    · exact .inr (List.mem_singleton.1 hc)
    · exact .inl (hnat hc)

/-- The text of a number has only digits and these marks. -/
theorem mem_floatText {x : Binary64} {c : Char} (hc : c ∈ x.distinctText.toList) :
    c.isDigit = true ∨ c ∈ ['-', '.', 'i', 'n', 'f', 'N', 'a'] := by
  cases hnan : x.isNaN with
  | true =>
    rw [Binary64.distinctText_nan hnan] at hc
    have hall : "NaN".toList ⊆ ['-', '.', 'i', 'n', 'f', 'N', 'a'] := by decide
    exact .inr (hall hc)
  | false =>
    rw [Binary64.toList_distinctText hnan, List.mem_append] at hc
    rcases hc with hc | hc
    · unfold Binary64.sign at hc
      split at hc
      · rw [List.mem_singleton.1 hc]
        exact .inr (by decide)
      · cases hc
    · rcases Binary64.mem_body hc with hdigit | hmem
      · exact .inl hdigit
      · have hall : ['.', 'i', 'n', 'f'] ⊆ ['-', '.', 'i', 'n', 'f', 'N', 'a'] := by decide
        exact .inr (hall hmem)

/-- The text of a number has a point, or it shows that the number is not finite. -/
theorem floatText_marked (x : Binary64) :
    '.' ∈ x.distinctText.toList ∨ 'f' ∈ x.distinctText.toList ∨ 'N' ∈ x.distinctText.toList := by
  cases hnan : x.isNaN with
  | true =>
    rw [Binary64.distinctText_nan hnan]
    decide
  | false =>
    rw [Binary64.toList_distinctText hnan]
    by_cases hfinite : x.isFinite = true
    · exact .inl (List.mem_append_right _ (Binary64.point_mem_body hfinite))
    · right
      left
      apply List.mem_append_right
      unfold Binary64.body
      rw [if_neg hfinite]
      decide

/-- No other character is in the text of an integer. -/
theorem not_mem_intText {n : Int} {c : Char} (hdigit : c.isDigit = false) (hminus : c ≠ '-') :
    c ∉ (toString n).toList := by
  intro hc
  rcases mem_intText hc with h | h
  · rw [hdigit] at h
    cases h
  · exact hminus h

/-- No other character is in the text of a number. -/
theorem not_mem_floatText {x : Binary64} {c : Char} (hdigit : c.isDigit = false)
    (hmark : c ∉ ['-', '.', 'i', 'n', 'f', 'N', 'a']) : c ∉ x.distinctText.toList := by
  intro hc
  rcases mem_floatText hc with h | h
  · rw [hdigit] at h
    cases h
  · exact hmark h

/-- The distinct text shows the kind of a value that is not opaque. -/
theorem kindOf_distinct {v : Value} (hv : v.object? = none) : kindOf v.distinct.toList = v.kindName := by
  cases v with
  | nil => decide
  | bool b => cases b <;> decide
  | int n =>
    have htext : (int n).distinct = toString n.toInt := rfl
    unfold kindOf
    rw [htext, if_neg (not_mem_intText (by decide) (by decide)),
      if_neg (not_mem_intText (by decide) (by decide)),
      if_neg (not_mem_intText (by decide) (by decide)), if_neg]
    · rfl
    · rintro (h | h | h)
      · exact not_mem_intText (by decide) (by decide) h
      · exact not_mem_intText (by decide) (by decide) h
      · exact not_mem_intText (by decide) (by decide) h
  | float x =>
    have htext : (float x).distinct = x.distinctText := rfl
    unfold kindOf
    rw [htext, if_neg (not_mem_floatText (by decide) (by decide)),
      if_neg (not_mem_floatText (by decide) (by decide)),
      if_neg (not_mem_floatText (by decide) (by decide)), if_pos (floatText_marked x)]
    rfl
  | text s =>
    have hquote : '"' ∈ (text s).distinct.toList := by
      have htext : (text s).distinct = Text.quote s := rfl
      unfold Text.quote at htext
      rw [htext, String.toList_ofList]
      exact List.mem_cons_self
    unfold kindOf
    rw [if_pos hquote]
    rfl
  | object o => cases hv

/-- Both values are NaNs. -/
def BothNaN (v w : Value) : Prop :=
  ∃ x y : Binary64, v = .float x ∧ w = .float y ∧ x.isNaN = true ∧ y.isNaN = true

/-- One value is the positive zero and the other the negative one. -/
def OppositeZeros (v w : Value) : Prop :=
  v = .float ⟨0⟩ ∧ w = .float ⟨0x8000000000000000⟩ ∨ v = .float ⟨0x8000000000000000⟩ ∧ w = .float ⟨0⟩

/-- Values that are not opaque have the same distinct text exactly if they are the same or both NaNs. -/
theorem distinct_eq_iff {v w : Value} (hv : v.object? = none) (hw : w.object? = none) :
    v.distinct = w.distinct ↔ BothNaN v w ∨ v = w := by
  constructor
  · intro h
    have hkind : v.kindName = w.kindName := by
      rw [← kindOf_distinct hv, ← kindOf_distinct hw, h]
    -- Only values of one kind are left.
    cases v <;> cases w <;> simp [kindName] at hkind
    case nil.nil => exact .inr rfl
    case bool.bool a b =>
      right
      revert h
      cases a <;> cases b <;> decide
    case int.int m n =>
      right
      have hint : m.toInt = n.toInt := Int.repr_injective h
      rw [Int64.toInt_inj.1 hint]
    case float.float x y =>
      rcases Binary64.distinctText_eq_iff.1 h with ⟨hx, hy⟩ | rfl
      · exact .inl ⟨x, y, rfl, rfl, hx, hy⟩
      · exact .inr rfl
    case text.text s t => exact .inr (congrArg text (Text.quote_injective h))
    case object.object o o' => cases hv
  · rintro (⟨x, y, rfl, rfl, hx, hy⟩ | rfl)
    · exact (Binary64.distinctText_nan hx).trans (Binary64.distinctText_nan hy).symm
    · rfl

/-- A value equals itself, unless it is a NaN. -/
theorem equals_self {v : Value} (hv : ¬ BothNaN v v) : v.equals v = true := by
  cases v with
  | float x =>
    have hx : x.isNaN = false := by
      by_contra hnan
      rw [Bool.not_eq_false] at hnan
      exact hv ⟨x, x, rfl, rfl, hnan, hnan⟩
    simp [equals, Binary64.equals, hx]
  | _ => simp [equals, Sealed.same]

/-- Values that are equal are not both no numbers. -/
theorem not_bothNaN_of_equals {v w : Value} (h : v.equals w = true) : ¬ BothNaN v w := by
  rintro ⟨x, y, rfl, rfl, hx, -⟩
  simp [equals, Binary64.equals, hx] at h

/-- Equal values are the same, or they are the two zeros. -/
theorem equals_cases {v w : Value} (hv : v.object? = none) (h : v.equals w = true) :
    v = w ∨ OppositeZeros v w := by
  cases v <;> cases w <;> simp only [equals, Bool.false_eq_true, beq_iff_eq] at h
  case nil.nil => exact .inl rfl
  case bool.bool a b => exact .inl (congrArg bool h)
  case int.int m n => exact .inl (congrArg int h)
  case text.text s t => exact .inl (congrArg text h)
  case float.float x y =>
    obtain rfl | ⟨rfl, rfl⟩ | ⟨rfl, rfl⟩ := Binary64.equals_cases h
    · exact .inl rfl
    · exact .inr (.inl ⟨rfl, rfl⟩)
    · exact .inr (.inr ⟨rfl, rfl⟩)
  case object.object o o' => cases hv

/-- Zeros of opposite sign are different values. -/
theorem ne_of_oppositeZeros {v w : Value} (h : OppositeZeros v w) : v ≠ w := by
  rcases h with ⟨rfl, rfl⟩ | ⟨rfl, rfl⟩ <;> decide

end Value

/-- Distinct texts identify values. Two values of any kinds but opaque objects have the same distinct text
exactly if they are both NaNs, or are of the same kind with the same payload, which for numbers is the
word. So

* values with the same text are equal, exactly unless both are NaNs;
* equal values have the same text, exactly unless one is the positive and the other the negative zero. -/
theorem distinct_identifies (v w : Value) (hv : v.object? = none) (hw : w.object? = none) :
    (v.distinct = w.distinct ↔ v.BothNaN w ∨ v = w) ∧
    (v.distinct = w.distinct → (v.equals w = true ↔ ¬ v.BothNaN w)) ∧
    (v.equals w = true → (v.distinct = w.distinct ↔ ¬ v.OppositeZeros w)) := by
  have hiff := Value.distinct_eq_iff hv hw
  refine ⟨hiff, fun htext => ⟨Value.not_bothNaN_of_equals, fun hnan => ?_⟩, fun hequals => ⟨?_, ?_⟩⟩
  · obtain rfl := (hiff.1 htext).resolve_left hnan
    exact Value.equals_self hnan
  · intro htext hzeros
    rcases hiff.1 htext with hnan | heq
    · exact Value.not_bothNaN_of_equals hequals hnan
    · exact Value.ne_of_oppositeZeros hzeros heq
  · intro hzeros
    exact hiff.2 (.inr ((Value.equals_cases hv hequals).resolve_right hzeros))

/-- Texts that look alike: a number with the digits of an integer, a string that looks like a number, two
NaNs with different words, and the two zeros. -/
theorem lookalikes_identified :
    (Value.float ⟨0x3FF0000000000000⟩).distinct ≠ (Value.int 1).distinct ∧
    (Value.text "1.0").distinct ≠ (Value.float ⟨0x3FF0000000000000⟩).distinct ∧
    (Value.float ⟨0x7FF8000000000000⟩).distinct = (Value.float ⟨0xFFF8000000000001⟩).distinct ∧
    (Value.float ⟨0⟩).distinct ≠ (Value.float ⟨0x8000000000000000⟩).distinct := by
  refine ⟨fun h => ?_, fun h => ?_, ?_, fun h => ?_⟩
  · rcases (distinct_identifies _ _ rfl rfl).1.1 h with ⟨x, y, -, hint, -⟩ | h
    · cases hint
    · cases h
  · rcases (distinct_identifies _ _ rfl rfl).1.1 h with ⟨x, y, htext, -⟩ | h
    · cases htext
    · cases h
  · exact (distinct_identifies _ _ rfl rfl).1.2 (.inl ⟨_, _, rfl, rfl, by decide, by decide⟩)
  · exact ((distinct_identifies _ _ rfl rfl).2.2 (by decide)).1 h (.inl ⟨rfl, rfl⟩)

end ScopedBinding
