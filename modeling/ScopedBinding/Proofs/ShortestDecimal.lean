import Mathlib.Data.List.TakeWhile
import ScopedBinding.Proofs.Rounding

/-!
# The shortest decimal lies in the interval

The search for the shortest decimal ends with a point of the rounding interval: whatever grid gives a
point, it is one of the interval (`RoundingInterval.onGrid?_has`), and of the 19 grids that are tried the
last is finer than the interval is wide (`RoundingInterval.shortest_has`). In positional notation the
decimal can be read back (`Decimal.read_positional`).
-/

set_option autoImplicit false

namespace ScopedBinding

/-- A power with an integral exponent, by the two natural exponents of which one is 0. -/
theorem pow_toNat {b : ℚ} (hb : b ≠ 0) (z : Int) : b ^ z.toNat = b ^ z * b ^ (-z).toNat := by
  rw [← zpow_natCast, ← zpow_natCast, ← zpow_add₀ hb]
  congr 1
  omega

/-- The number that a decimal stands for. -/
def Decimal.value (d : Decimal) : ℚ :=
  d.digits * 10 ^ d.scale

namespace RoundingInterval

variable {i : RoundingInterval} {scale : Int} {d : Decimal}

/-- The order of the interval's ends and points, of numbers that were scaled by a common factor. -/
theorem precedes_iff {a b : Nat} {p q k : ℚ} (hk : 0 < k) (ha : (a : ℚ) = p * k) (hb : (b : ℚ) = q * k) :
    i.precedes a b = true ↔ p < q ∨ i.closed = true ∧ p = q := by
  have hlt : a < b ↔ p < q := by
    rw [← Nat.cast_lt (α := ℚ), ha, hb, mul_lt_mul_iff_left₀ hk]
  have heq : a = b ↔ p = q := by
    rw [← Nat.cast_inj (R := ℚ), ha, hb, mul_left_inj' hk.ne']
  simp only [precedes, Bool.or_eq_true, Bool.and_eq_true, decide_eq_true_eq, beq_iff_eq, hlt, heq]

/-- The factors that take the interval and the grid to whole numbers differ by the two units. -/
theorem scaled_units (unit scale : Int) : ∃ k : ℚ, 0 < k ∧
    ((Nat.pow 2 unit.toNat * Nat.pow 10 (-scale).toNat : Nat) : ℚ) = 2 ^ unit * k ∧
    ((Nat.pow 10 scale.toNat * Nat.pow 2 (-unit).toNat : Nat) : ℚ) = 10 ^ scale * k := by
  refine ⟨2 ^ (-unit).toNat * 10 ^ (-scale).toNat, by positivity, ?_, ?_⟩
  · simp only [Nat.pow_eq]
    push_cast
    rw [pow_toNat two_ne_zero unit, mul_assoc]
  · simp only [Nat.pow_eq]
    push_cast
    rw [pow_toNat (by norm_num) scale]
    ring

/-- A point that is found on a grid lies in the interval. -/
theorem onGrid?_has (hlow : i.low < i.value) (hhigh : i.value < i.high)
    (h : i.onGrid? scale = some d) : i.Has d.value := by
  obtain ⟨k, hk, htoGrid, hstep⟩ := scaled_units i.unit scale
  unfold onGrid? at h
  extract_lets toGrid step floor down up upperHalf at h
  have hstepPos : 0 < step := Nat.cast_pos.1 (lt_of_lt_of_eq (by positivity) hstep.symm)
  have htoGridPos : 0 < toGrid := Nat.cast_pos.1 (lt_of_lt_of_eq (by positivity) htoGrid.symm)
  have hbelow : floor * step ≤ i.value * toGrid := Nat.div_mul_le_self _ _
  have habove : i.value * toGrid < (floor + 1) * step := by
    rw [mul_comm _ step]
    exact Nat.lt_mul_div_succ _ hstepPos
  have hlowGrid : i.low * toGrid < i.value * toGrid := Nat.mul_lt_mul_of_pos_right hlow htoGridPos
  have hhighGrid : i.value * toGrid < i.high * toGrid := Nat.mul_lt_mul_of_pos_right hhigh htoGridPos
  -- The point is one of the neighbours of the value, and its far end was tested.
  have hpoint : ∃ n : Nat, d = ⟨n, scale⟩ ∧ i.precedes (i.low * toGrid) (n * step) = true ∧
      i.precedes (n * step) (i.high * toGrid) = true := by
    split_ifs at h with hup hdown
    · rw [Bool.and_eq_true] at hup
      refine ⟨floor + 1, (Option.some.inj h).symm, ?_, hup.1⟩
      simp only [precedes, Bool.or_eq_true, decide_eq_true_eq]
      exact .inl (hlowGrid.trans habove)
    · refine ⟨floor, (Option.some.inj h).symm, hdown, ?_⟩
      simp only [precedes, Bool.or_eq_true, decide_eq_true_eq]
      exact .inl (hbelow.trans_lt hhighGrid)
  obtain ⟨n, rfl, hfrom, hto⟩ := hpoint
  have hn : ((n * step : Nat) : ℚ) = (Decimal.mk n scale).value * k := by
    rw [Nat.cast_mul, hstep, Decimal.value]
    ring
  have hlowEnd : ((i.low * toGrid : Nat) : ℚ) = i.lowEnd * k := by
    rw [Nat.cast_mul, htoGrid, lowEnd]
    ring
  have hhighEnd : ((i.high * toGrid : Nat) : ℚ) = i.highEnd * k := by
    rw [Nat.cast_mul, htoGrid, highEnd]
    ring
  exact ⟨(precedes_iff hk hlowEnd hn).1 hfrom, (precedes_iff hk hn hhighEnd).1 hto⟩

/-- A grid that is finer than the upper half of the interval has a point in it. -/
theorem onGrid?_isSome (hhigh : i.high = i.value + 2) (hfine : (10 : ℚ) ^ scale < 2 * 2 ^ i.unit) :
    (i.onGrid? scale).isSome = true := by
  obtain ⟨k, hk, htoGrid, hstep⟩ := scaled_units i.unit scale
  unfold onGrid?
  extract_lets toGrid step floor down up upperHalf
  have hstepLt : step < 2 * toGrid := by
    have hscaled : (10 : ℚ) ^ scale * k < 2 * 2 ^ i.unit * k := mul_lt_mul_of_pos_right hfine hk
    rw [← hstep, mul_assoc, ← htoGrid] at hscaled
    exact_mod_cast hscaled
  have hbelow : floor * step ≤ i.value * toGrid := Nat.div_mul_le_self _ _
  have hup : up = true := by
    simp only [up, precedes, Bool.or_eq_true, decide_eq_true_eq]
    left
    calc (floor + 1) * step = floor * step + step := by ring
      _ < i.value * toGrid + 2 * toGrid := by omega
      _ = i.high * toGrid := by rw [hhigh]; ring
  split_ifs with hnear hdown
  · rfl
  · rfl
  · simp [hup, hdown] at hnear

/-- The search ends at a grid that has a point, if one of those that are tried has. -/
theorem firstOnGrid_found (count : Nat) {j : Nat} (hj : j < count)
    (h : (i.onGrid? (scale - j)).isSome = true) :
    ∃ s, i.onGrid? s = some (i.firstOnGrid count scale) := by
  induction count generalizing scale j with
  | zero => exact absurd hj (Nat.not_lt_zero j)
  | succ count ih =>
    unfold firstOnGrid
    cases hpoint : i.onGrid? scale with
    | some d => exact ⟨scale, hpoint⟩
    | none =>
      cases j with
      | zero =>
        rw [Nat.cast_zero, sub_zero, hpoint] at h
        cases h
      | succ j =>
        refine ih (Nat.lt_of_succ_lt_succ hj) ?_
        rw [show scale - 1 - (j : Int) = scale - (j + 1 : Nat) by push_cast; ring]
        exact h

/-- The digits of a number tell the powers of ten between which it lies. -/
theorem pow_length_le {n : Nat} (hn : 0 < n) :
    10 ^ ((Nat.toDigits 10 n).length - 1) ≤ n ∧ n < 10 ^ (Nat.toDigits 10 n).length := by
  have hpos : 0 < (Nat.toDigits 10 n).length := Nat.length_toDigits_pos
  refine ⟨?_, (Nat.length_toDigits_le_iff (by decide) hpos).1 le_rfl⟩
  by_cases hone : (Nat.toDigits 10 n).length = 1
  · rw [hone]
    exact hn
  · by_contra hlt
    have hle := (Nat.length_toDigits_le_iff (b := 10) (n := n)
      (k := (Nat.toDigits 10 n).length - 1) (by decide) (by omega)).2 (by omega)
    omega

/-- The value as a fraction of whole numbers, one of whose powers of two is 1. -/
theorem value_eq_div :
    (i.value * 2 ^ i.unit : ℚ) = i.value * 2 ^ i.unit.toNat / 2 ^ (-i.unit).toNat := by
  have hpow : (2 : ℚ) ^ (-i.unit).toNat ≠ 0 := by positivity
  rw [pow_toNat two_ne_zero i.unit, ← mul_assoc, mul_div_cancel_right₀ _ hpow]

/-- The digits of the inverse of a value below 1 tell how small the value may be. -/
theorem inverse_pow_le (hvalue : 0 < i.value)
    (hsmall : i.value * Nat.pow 2 i.unit.toNat < Nat.pow 2 (-i.unit).toNat) :
    (10 : ℚ) ^ (-((Nat.toDigits 10 (Nat.pow 2 (-i.unit).toNat / i.value)).length : Int)) ≤
      i.value * 2 ^ i.unit := by
  have hle : i.value ≤ Nat.pow 2 (-i.unit).toNat :=
    (Nat.le_mul_of_pos_right _ (Nat.pow_pos (by decide))).trans hsmall.le
  have hdigits := (pow_length_le (Nat.div_pos hle hvalue)).2
  generalize (Nat.toDigits 10 (Nat.pow 2 (-i.unit).toNat / i.value)).length = len at hdigits ⊢
  have hinverse : Nat.pow 2 (-i.unit).toNat ≤ i.value * 10 ^ len := by
    rw [mul_comm]
    exact ((Nat.div_lt_iff_lt_mul hvalue).1 hdigits).le
  rw [value_eq_div, zpow_neg, zpow_natCast, le_div_iff₀ (by positivity),
    inv_mul_le_iff₀ (by positivity)]
  have hone : (1 : ℚ) ≤ 2 ^ i.unit.toNat := one_le_pow₀ (by norm_num)
  calc (2 : ℚ) ^ (-i.unit).toNat ≤ i.value * 10 ^ len := by exact_mod_cast hinverse
    _ ≤ i.value * 10 ^ len * 2 ^ i.unit.toNat := le_mul_of_one_le_right (by positivity) hone
    _ = 10 ^ len * (i.value * 2 ^ i.unit.toNat) := by ring

/-- The whole part of a value is not above it. -/
theorem whole_le_value :
    ((i.value * Nat.pow 2 i.unit.toNat / Nat.pow 2 (-i.unit).toNat : Nat) : ℚ) ≤
      i.value * 2 ^ i.unit := by
  rw [value_eq_div, le_div_iff₀ (by positivity)]
  have hle := Nat.div_mul_le_self (i.value * Nat.pow 2 i.unit.toNat) (Nat.pow 2 (-i.unit).toNat)
  exact_mod_cast hle

/-- The first grid is at most ten times as coarse as the value. -/
theorem pow_ceilingScale_le (hvalue : 0 < i.value) :
    (10 : ℚ) ^ (i.ceilingScale - 1) ≤ i.value * 2 ^ i.unit := by
  unfold ceilingScale
  extract_lets whole
  by_cases hwhole : whole = 0
  · -- The value is below 1, and the digits of its inverse are counted.
    have hpos : 0 < Nat.pow 2 (-i.unit).toNat := Nat.pow_pos (by decide)
    have hsmall : i.value * Nat.pow 2 i.unit.toNat < Nat.pow 2 (-i.unit).toNat :=
      (Nat.div_eq_zero_iff.1 hwhole).resolve_left hpos.ne'
    rw [if_pos hwhole, sub_sub_cancel_left]
    exact inverse_pow_le hvalue hsmall
  · have hlength : 0 < (Nat.toDigits 10 whole).length := Nat.length_toDigits_pos
    have hdigits := (pow_length_le (Nat.pos_of_ne_zero hwhole)).1
    have hexponent : ((Nat.toDigits 10 whole).length : Int) - 1 =
        ((Nat.toDigits 10 whole).length - 1 : Nat) := by omega
    rw [if_neg hwhole, hexponent, zpow_natCast]
    exact le_trans (by exact_mod_cast hdigits) whole_le_value

/-- The shortest decimal lies in the interval. -/
theorem shortest_has (hlow : i.low < i.value) (hhigh : i.high = i.value + 2)
    (hvalue : i.value < 2 ^ 55) : i.Has i.shortest.value := by
  have hpos : 0 < i.value := by omega
  have hunit : (0 : ℚ) < 2 ^ i.unit := zpow_pos two_pos _
  have hfine : (10 : ℚ) ^ (i.ceilingScale - (18 : Nat)) < 2 * 2 ^ i.unit := by
    have hceiling := pow_ceilingScale_le hpos
    have hbound : (i.value : ℚ) < 2 ^ 55 := by exact_mod_cast hvalue
    have hsplit : i.ceilingScale - (18 : Nat) = i.ceilingScale - 1 + -17 := by push_cast; ring
    rw [hsplit, zpow_add₀ (by norm_num)]
    calc (10 : ℚ) ^ (i.ceilingScale - 1) * 10 ^ (-17 : Int)
        ≤ i.value * 2 ^ i.unit * 10 ^ (-17 : Int) := by gcongr
      _ ≤ 2 ^ 55 * 2 ^ i.unit * 10 ^ (-17 : Int) := by gcongr
      _ < 2 * 2 ^ i.unit := by
        norm_num
        linarith
  obtain ⟨s, hs⟩ := firstOnGrid_found 19 (by decide) (onGrid?_isSome hhigh hfine)
  exact onGrid?_has hlow (by omega) hs

end RoundingInterval

namespace Decimal

/-- The number that digits stand for, with a point among them or none. -/
def read (cs : List Char) : ℚ :=
  let whole := cs.takeWhile (· != '.')
  let places := (cs.dropWhile (· != '.')).drop 1
  Nat.ofDigitChars 10 (whole ++ places) 0 / 10 ^ places.length

variable {cs whole places : List Char}

/-- No digit is a point. -/
theorem ne_point (h : ∀ c ∈ cs, c.isDigit = true) : ∀ c ∈ cs, (c != '.') = true := by
  intro c hc
  rw [bne_iff_ne]
  rintro rfl
  exact absurd (h _ hc) (by decide)

/-- Digits without a point are read as a whole number. -/
theorem read_whole (h : ∀ c ∈ cs, c.isDigit = true) : read cs = Nat.ofDigitChars 10 cs 0 := by
  have hplain := ne_point h
  unfold read
  rw [List.takeWhile_eq_self_iff.2 hplain, List.dropWhile_eq_nil_iff.2 hplain]
  simp

/-- Digits with a point are read as a fraction. -/
theorem read_places (h : ∀ c ∈ whole, c.isDigit = true) :
    read (whole ++ '.' :: places) = Nat.ofDigitChars 10 (whole ++ places) 0 / 10 ^ places.length := by
  have hplain := ne_point h
  unfold read
  rw [List.takeWhile_append_of_pos hplain, List.dropWhile_append_of_pos hplain,
    List.takeWhile_cons_of_neg (by simp), List.dropWhile_cons_of_neg (by simp), List.append_nil,
    List.drop_one, List.tail_cons]

/-- The decimal text of a number has only digits. -/
theorem isDigit_of_mem_toDigits {n : Nat} {c : Char} (hc : c ∈ Nat.toDigits 10 n) :
    c.isDigit = true :=
  Nat.isDigit_of_mem_toDigits (by decide) (by decide) hc

/-- Without a point a decimal has its digits and its zeros, and with one its digits after zeros. -/
theorem positional_cases (d : Decimal) :
    (0 ≤ d.scale ∧ d.positional = Nat.toDigits 10 d.digits ++ List.replicate d.scale.toNat '0') ∨
    ∃ whole places, d.scale < 0 ∧ d.positional = whole ++ '.' :: places ∧
      (places.length : Int) = -d.scale ∧
      ∃ n, whole ++ places = List.replicate n '0' ++ Nat.toDigits 10 d.digits := by
  unfold positional
  extract_lets cs places padded whole
  split_ifs with hscale
  · exact .inl ⟨hscale, rfl⟩
  · right
    have hlength : places + 1 ≤ padded.length := by
      simp only [padded, List.length_append, List.length_replicate]
      omega
    refine ⟨padded.take whole, padded.drop whole, by omega, rfl, ?_, places + 1 - cs.length, ?_⟩
    · rw [List.length_drop]
      omega
    · rw [List.take_append_drop]

/-- Zeros before the digits of a number, or none. -/
theorem isDigit_of_mem_padded {n m : Nat} {c : Char}
    (hc : c ∈ List.replicate n '0' ++ Nat.toDigits 10 m) : c.isDigit = true := by
  rcases List.mem_append.1 hc with hc | hc
  · rw [List.eq_of_mem_replicate hc]
    decide
  · exact isDigit_of_mem_toDigits hc

/-- Zeros after the digits are digits too. -/
theorem isDigit_of_mem_whole {n : Nat} {d : Decimal} {c : Char}
    (hc : c ∈ Nat.toDigits 10 d.digits ++ List.replicate n '0') : c.isDigit = true := by
  rcases List.mem_append.1 hc with hc | hc
  · exact isDigit_of_mem_toDigits hc
  · rw [List.eq_of_mem_replicate hc]
    decide

/-- A decimal without an exponent has only digits and a point. -/
theorem isDigit_of_mem_positional {d : Decimal} {c : Char} (hc : c ∈ d.positional) :
    c.isDigit = true ∨ c = '.' := by
  obtain ⟨-, hd⟩ | ⟨whole, places, -, hd, -, n, hpadded⟩ := d.positional_cases
  · rw [hd] at hc
    exact .inl (isDigit_of_mem_whole hc)
  · rw [hd, List.mem_append, List.mem_cons] at hc
    rcases hc with hc | hc | hc
    · exact .inl (isDigit_of_mem_padded (hpadded ▸ List.mem_append_left places hc))
    · exact .inr hc
    · exact .inl (isDigit_of_mem_padded (hpadded ▸ List.mem_append_right whole hc))

/-- A decimal with places has a point. -/
theorem point_mem_positional {d : Decimal} (h : d.scale < 0) : '.' ∈ d.positional := by
  obtain ⟨hscale, -⟩ | ⟨whole, places, -, hd, -⟩ := d.positional_cases
  · omega
  · rw [hd]
    simp

/-- A decimal in positional notation is read back. -/
theorem read_positional (d : Decimal) : read d.positional = d.value := by
  unfold value
  obtain ⟨hscale, hd⟩ | ⟨whole, places, hscale, hd, hlength, n, hpadded⟩ := d.positional_cases
  · have hpow : (10 : ℚ) ^ d.scale = 10 ^ d.scale.toNat := by
      rw [← zpow_natCast, Int.toNat_of_nonneg hscale]
    rw [hd, read_whole fun c hc => isDigit_of_mem_whole hc, Nat.ofDigitChars_append,
      Nat.ofDigitChars_ten_toDigits, Nat.ofDigitChars_replicate_zero, hpow]
    push_cast
    ring
  · have hplain : ∀ c ∈ whole, c.isDigit = true := fun c hc =>
      isDigit_of_mem_padded (hpadded ▸ List.mem_append_left places hc)
    have hpow : (10 : ℚ) ^ d.scale = (10 ^ places.length)⁻¹ := by
      rw [← zpow_natCast, ← zpow_neg, hlength, neg_neg]
    rw [hd, read_places hplain, hpadded, Nat.ofDigitChars_append, Nat.ofDigitChars_replicate_zero,
      Nat.mul_zero, Nat.ofDigitChars_ten_toDigits, hpow, div_eq_mul_inv]

end Decimal

end ScopedBinding
