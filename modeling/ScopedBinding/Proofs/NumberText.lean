import Mathlib.Data.Nat.Cast.Field
import ScopedBinding.Proofs.ShortestDecimal

/-!
# The text of a number tells its word

The distinct text of a finite number is its sign and digits with a point. The digits are read as a point of
the rounding interval of the number (`Binary64.body_read_has`), exactly the number if it has no fractional
part, and no point lies in the interval of another magnitude. So two numbers that are no NaNs have the same
text only if they have the same word (`Binary64.distinctText_eq_iff`).
-/

set_option autoImplicit false

namespace ScopedBinding

namespace Binary64

variable {x y : Binary64}

/-- The value of a number that is not zero lies above the lower end of its interval. -/
theorem low_lt_value (h : x.mantissa ≠ 0) : x.interval.low < x.interval.value := by
  unfold interval
  dsimp only
  split <;> omega

/-- The number itself lies in its rounding interval. -/
theorem has_center (x : Binary64) : x.interval.Has (x.mantissa * 2 ^ x.exponent) := by
  have hcenter : (x.mantissa * 2 ^ x.exponent : ℚ) = x.interval.value * 2 ^ x.interval.unit := by
    have hunit : x.exponent = x.interval.unit + 2 := by
      simp only [interval]
      ring
    have hvalue : x.interval.value = 4 * x.mantissa := rfl
    rw [hvalue, hunit, zpow_add₀ two_ne_zero]
    push_cast
    ring
  have hpos : (0 : ℚ) < 2 ^ x.interval.unit := zpow_pos two_pos _
  rw [hcenter]
  refine ⟨?_, .inl ?_⟩
  · by_cases hzero : x.mantissa = 0
    · -- The interval of zero begins at zero.
      right
      simp [interval, RoundingInterval.lowEnd, hzero]
    · left
      exact mul_lt_mul_of_pos_right (by exact_mod_cast low_lt_value hzero) hpos
  · have hlt : x.interval.value < x.interval.high := by
      simp only [interval]
      omega
    exact mul_lt_mul_of_pos_right (by exact_mod_cast hlt) hpos

/-- When a finite number is an integer, by its exponent and its mantissa. -/
theorem isIntegral_iff (h : x.isFinite = true) : x.isIntegral = true ↔
    0 ≤ x.exponent ∨ 2 ^ (-x.exponent).toNat ∣ x.mantissa := by
  unfold isIntegral
  simp only [h, Bool.true_and, Bool.or_eq_true, decide_eq_true_eq, beq_iff_eq, Nat.pow_eq,
    Nat.dvd_iff_mod_eq_zero]

/-- The absolute value of a finite number without fractional part. -/
theorem integralPart_eq (hfinite : x.isFinite = true) (h : x.isIntegral = true) :
    (x.integralPart : ℚ) = x.mantissa * 2 ^ x.exponent := by
  have hdvd : 2 ^ (-x.exponent).toNat ∣ x.mantissa * 2 ^ x.exponent.toNat := by
    rcases (isIntegral_iff hfinite).1 h with hexponent | hdvd
    · have hzero : (-x.exponent).toNat = 0 := by omega
      rw [hzero]
      exact one_dvd _
    · exact hdvd.mul_right _
  unfold integralPart
  simp only [Nat.pow_eq]
  rw [Nat.cast_div hdvd (by positivity)]
  push_cast
  rw [pow_toNat two_ne_zero x.exponent, ← mul_assoc, mul_div_cancel_right₀ _ (by positivity)]

/-- Only a number without fractional part has a whole number in its rounding interval. -/
theorem isIntegral_of_has {n : Nat} (hfinite : x.isFinite = true) (h : x.interval.Has n) :
    x.isIntegral = true := by
  rw [isIntegral_iff hfinite]
  by_cases hexponent : 0 ≤ x.exponent
  · exact .inl hexponent
  · right
    let k := (-x.exponent).toNat
    have hunit : (2 : ℚ) ^ x.interval.unit * (4 * 2 ^ k) = 1 := by
      have hsum : x.interval.unit = -((k + 2 : Nat) : Int) := by
        simp only [interval, k]
        omega
      rw [hsum, zpow_neg, zpow_natCast, pow_add, inv_mul_eq_one₀ (by positivity)]
      ring
    have hpos : (0 : ℚ) < 4 * 2 ^ k := by positivity
    have hscale : ∀ a : Nat, (a : ℚ) * 2 ^ x.interval.unit * (4 * 2 ^ k) = a := by
      intro a
      rw [mul_assoc, hunit, mul_one]
    have hlow : x.interval.low ≤ n * (4 * 2 ^ k) := by
      have hle := mul_le_mul_of_nonneg_right h.lowEnd_le hpos.le
      rw [RoundingInterval.lowEnd, hscale] at hle
      exact_mod_cast hle
    have hhigh : n * (4 * 2 ^ k) ≤ x.interval.high := by
      have hle := mul_le_mul_of_nonneg_right h.le_highEnd hpos.le
      rw [RoundingInterval.highEnd, hscale] at hle
      exact_mod_cast hle
    -- The ends are half a unit of the mantissa away from it, so the whole number is the mantissa.
    have hbelow : 4 * x.mantissa - 2 ≤ x.interval.low := by
      simp only [interval]
      split <;> omega
    have habove : x.interval.high = 4 * x.mantissa + 2 := rfl
    have hexact : x.mantissa = n * 2 ^ k := by
      have hassoc : n * (4 * 2 ^ k) = 4 * (n * 2 ^ k) := by ring
      omega
    exact ⟨n, by rw [hexact, mul_comm]⟩

/-- The text of a number other than a NaN without its sign. -/
def body (x : Binary64) : List Char :=
  if x.isFinite then
    if x.isIntegral then Nat.toDigits 10 x.integralPart ++ ['.', '0']
    else x.interval.shortest.positional
  else ['i', 'n', 'f']

/-- An integer is finite. -/
theorem isFinite_of_isIntegral (h : x.isIntegral = true) : x.isFinite = true := by
  unfold isIntegral at h
  rw [Bool.and_eq_true] at h
  exact h.1

/-- What is finite is a number. -/
theorem isNaN_of_isFinite (h : x.isFinite = true) : x.isNaN = false := by
  unfold isFinite at h
  unfold isNaN
  simp_all

/-- Zero is an integer. -/
theorem isIntegral_of_isZero (h : x.isZero = true) : x.isIntegral = true := by
  unfold isZero at h
  rw [Bool.and_eq_true, beq_iff_eq, beq_iff_eq] at h
  have hfinite : x.isFinite = true := by
    unfold isFinite
    rw [h.1]
    rfl
  rw [isIntegral_iff hfinite]
  right
  unfold mantissa
  rw [if_pos h.1, h.2]
  exact dvd_zero _

/-- The text of a number is its sign and then its body. -/
theorem toList_distinctText (h : x.isNaN = false) : x.distinctText.toList = x.sign ++ x.body := by
  unfold distinctText body
  by_cases hintegral : x.isIntegral = true
  · rw [if_pos hintegral, if_pos (isFinite_of_isIntegral hintegral), if_pos hintegral,
      String.toList_ofList, List.append_assoc]
  · rw [if_neg hintegral, if_neg hintegral]
    unfold text
    rw [String.toList_ofList, h]
    by_cases hfinite : x.isFinite = true
    · have hzero : x.isZero ≠ true := fun hzero => hintegral (isIntegral_of_isZero hzero)
      simp [hfinite, hzero]
    · simp [hfinite]

/-- The text of what is no number. -/
theorem distinctText_nan (h : x.isNaN = true) : x.distinctText = "NaN" := by
  have hintegral : ¬ x.isIntegral = true := by
    intro hintegral
    have hnot := isNaN_of_isFinite (isFinite_of_isIntegral hintegral)
    rw [h] at hnot
    cases hnot
  unfold distinctText text
  rw [if_neg hintegral, if_pos h]

/-- The shortest decimal of a number with a fractional part lies in its rounding interval. -/
theorem shortest_has (hfinite : x.isFinite = true) (h : ¬ x.isIntegral = true) :
    x.interval.Has x.interval.shortest.value := by
  have hmantissa : x.mantissa ≠ 0 := by
    intro hzero
    rw [isIntegral_iff hfinite, hzero] at h
    exact h (.inr (dvd_zero _))
  have hlt : x.mantissa < 2 ^ 53 := by
    rw [mantissa_eq]
    exact mantissaAt_lt _
  refine RoundingInterval.shortest_has (low_lt_value hmantissa) rfl ?_
  simp only [interval]
  omega

/-- The digits of a finite number are read as a point of its rounding interval. -/
theorem body_read_has (h : x.isFinite = true) : x.interval.Has (Decimal.read x.body) := by
  unfold body
  rw [if_pos h]
  by_cases hintegral : x.isIntegral = true
  · have hread : Decimal.read (Nat.toDigits 10 x.integralPart ++ ['.', '0']) = x.integralPart := by
      rw [Decimal.read_places fun c hc => Decimal.isDigit_of_mem_toDigits hc, Nat.ofDigitChars_append,
        Nat.ofDigitChars_ten_toDigits]
      simp [Nat.ofDigitChars]
    rw [if_pos hintegral, hread, integralPart_eq h hintegral]
    exact x.has_center
  · rw [if_neg hintegral, Decimal.read_positional]
    exact shortest_has h hintegral

/-- The digits of a finite number have a point, since a whole number in the rounding interval would be
the number itself. -/
theorem point_mem_body (h : x.isFinite = true) : '.' ∈ x.body := by
  unfold body
  rw [if_pos h]
  by_cases hintegral : x.isIntegral = true
  · rw [if_pos hintegral]
    simp
  · rw [if_neg hintegral]
    apply Decimal.point_mem_positional
    by_contra hscale
    have hhas := shortest_has h hintegral
    have hwhole : x.interval.shortest.value =
        (x.interval.shortest.digits * 10 ^ x.interval.shortest.scale.toNat : Nat) := by
      unfold Decimal.value
      rw [← Int.toNat_of_nonneg (not_lt.1 hscale), zpow_natCast]
      push_cast
      rfl
    rw [hwhole] at hhas
    exact hintegral (isIntegral_of_has h hhas)

/-- The body has only digits and these marks. -/
theorem mem_body {c : Char} (hc : c ∈ x.body) : c.isDigit = true ∨ c ∈ ['.', 'i', 'n', 'f'] := by
  unfold body at hc
  split_ifs at hc
  · rcases List.mem_append.1 hc with hc | hc
    · exact .inl (Decimal.isDigit_of_mem_toDigits hc)
    · have hplaces : ∀ c ∈ ['.', '0'], c.isDigit = true ∨ c ∈ ['.', 'i', 'n', 'f'] := by simp
      exact hplaces c hc
  · rcases Decimal.isDigit_of_mem_positional hc with hc | rfl
    · exact .inl hc
    · exact .inr (by decide)
  · exact .inr (List.mem_cons_of_mem _ hc)

/-- There is no minus in the body. -/
theorem minus_not_mem_body : '-' ∉ x.body := by
  intro hminus
  rcases mem_body hminus with hdigit | hmem
  · exact absurd hdigit (by decide)
  · exact absurd hmem (by decide)

/-- Sign and body are told apart by the minus. -/
theorem sign_append_inj {cs ds : List Char} (hcs : '-' ∉ cs) (hds : '-' ∉ ds)
    (h : x.sign ++ cs = y.sign ++ ds) : x.isNegative = y.isNegative ∧ cs = ds := by
  unfold sign at h
  cases hx : x.isNegative <;> cases hy : y.isNegative <;>
    simp only [hx, hy, if_true, Bool.false_eq_true, if_false, List.nil_append, List.cons_append] at h
  · exact ⟨rfl, h⟩
  · exact absurd (h ▸ List.mem_cons_self) hcs
  · exact absurd (h ▸ List.mem_cons_self) hds
  · exact ⟨rfl, (List.cons.inj h).2⟩

/-- The magnitude of an infinite number. -/
theorem magnitude_of_infinite (hx : x.isNaN = false) (hfinite : ¬ x.isFinite = true) :
    x.magnitude = 2047 * 2 ^ 52 := by
  have hfield : x.exponentField = 2047 := by
    unfold isFinite at hfinite
    simpa using hfinite
  have hfraction : x.fraction = 0 := by
    unfold isNaN at hx
    simpa [hfield] using hx
  rw [exponentField_eq] at hfield
  rw [fraction_eq] at hfraction
  omega

/-- Numbers that are no NaNs are identified by their texts. -/
theorem eq_of_distinctText (hx : x.isNaN = false) (hy : y.isNaN = false)
    (h : x.distinctText = y.distinctText) : x = y := by
  have htext := congrArg String.toList h
  rw [toList_distinctText hx, toList_distinctText hy] at htext
  obtain ⟨hsign, hbody⟩ := sign_append_inj minus_not_mem_body minus_not_mem_body htext
  refine eq_of_magnitude hsign ?_
  by_cases hfinite : x.isFinite = true
  · have hfinite' : y.isFinite = true := by
      by_contra hnot
      have hpoint := point_mem_body hfinite
      rw [hbody, body, if_neg hnot] at hpoint
      exact absurd hpoint (by decide)
    have hhas := body_read_has hfinite'
    rw [← hbody] at hhas
    exact magnitude_eq_of_has (body_read_has hfinite) hhas
  · have hfinite' : ¬ y.isFinite = true := by
      intro hfinite'
      have hpoint := point_mem_body hfinite'
      rw [← hbody, body, if_neg hfinite] at hpoint
      exact absurd hpoint (by decide)
    -- Both are infinite, and their words have no fraction.
    rw [magnitude_of_infinite hx hfinite, magnitude_of_infinite hy hfinite']

/-- A number that is no NaN has another text than a NaN. -/
theorem distinctText_ne_nan (hx : x.isNaN = false) : x.distinctText ≠ "NaN" := by
  intro h
  have hmem : 'N' ∈ x.sign ++ x.body := by
    rw [← toList_distinctText hx, h]
    decide
  rcases List.mem_append.1 hmem with hsign | hbody
  · unfold sign at hsign
    split at hsign
    · exact absurd hsign (by decide)
    · cases hsign
  · rcases mem_body hbody with hdigit | hmark
    · exact absurd hdigit (by decide)
    · exact absurd hmark (by decide)

/-- Numbers have the same text exactly if they are both NaNs or have the same word. -/
theorem distinctText_eq_iff :
    x.distinctText = y.distinctText ↔ x.isNaN = true ∧ y.isNaN = true ∨ x = y := by
  constructor
  · intro h
    cases hx : x.isNaN <;> cases hy : y.isNaN
    · exact .inr (eq_of_distinctText hx hy h)
    · exact absurd (h.trans (distinctText_nan hy)) (distinctText_ne_nan hx)
    · exact absurd (h.symm.trans (distinctText_nan hx)) (distinctText_ne_nan hy)
    · exact .inl ⟨rfl, rfl⟩
  · rintro (⟨hx, hy⟩ | rfl)
    · rw [distinctText_nan hx, distinctText_nan hy]
    · rfl

/-- There are two zeros, one for each sign. -/
theorem eq_of_isZero (h : x.isZero = true) : x = ⟨0⟩ ∨ x = ⟨0x8000000000000000⟩ := by
  unfold isZero at h
  rw [Bool.and_eq_true, beq_iff_eq, beq_iff_eq, exponentField_eq, fraction_eq] at h
  have hmagnitude : x.magnitude = 0 := by omega
  cases hsign : x.isNegative with
  | false => exact .inl (eq_of_magnitude hsign hmagnitude)
  | true => exact .inr (eq_of_magnitude hsign hmagnitude)

/-- Equal numbers are the same, or they are the two zeros. -/
theorem equals_cases (h : x.equals y = true) :
    x = y ∨ x = ⟨0⟩ ∧ y = ⟨0x8000000000000000⟩ ∨ x = ⟨0x8000000000000000⟩ ∧ y = ⟨0⟩ := by
  simp only [equals, Bool.and_eq_true, Bool.or_eq_true, beq_iff_eq] at h
  obtain ⟨-, hbits | ⟨hzero, hzero'⟩⟩ := h
  · left
    cases x
    cases y
    exact congrArg Binary64.mk hbits
  · rcases eq_of_isZero hzero with rfl | rfl <;> rcases eq_of_isZero hzero' with rfl | rfl
    · exact .inl rfl
    · exact .inr (.inl ⟨rfl, rfl⟩)
    · exact .inr (.inr ⟨rfl, rfl⟩)
    · exact .inl rfl

end Binary64

end ScopedBinding
