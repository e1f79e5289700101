import Mathlib.Algebra.Order.Field.Basic
import Mathlib.Algebra.Order.Field.Power
import Mathlib.Data.Rat.Cast.Order
import Mathlib.Order.Monotone.Basic
import Mathlib.Tactic.Ring
import Mathlib.Tactic.Linarith
import ScopedBinding.Binary64.Shortest

/-!
# Rounding intervals side by side

The words of the finite numbers without the sign are numbered from 0 up, by their magnitude. The rounding
interval of each ends where that of the next begins (`Binary64.highEnd_eq`), and of two neighbours only
the even one has the common end. So no point lies in two of them (`Binary64.magnitude_eq_of_has`): a
decimal that lies in the rounding interval of a number is read as that number and no other.
-/

set_option autoImplicit false

namespace ScopedBinding

namespace RoundingInterval

/-- The lower end of an interval. -/
def lowEnd (i : RoundingInterval) : ℚ :=
  i.low * 2 ^ i.unit

/-- The upper end of an interval. -/
def highEnd (i : RoundingInterval) : ℚ :=
  i.high * 2 ^ i.unit

/-- Whether a point lies in an interval: between the ends, or at one if the interval has its ends. -/
def Has (i : RoundingInterval) (q : ℚ) : Prop :=
  (i.lowEnd < q ∨ i.closed = true ∧ i.lowEnd = q) ∧ (q < i.highEnd ∨ i.closed = true ∧ q = i.highEnd)

/-- A point of an interval is not below its lower end. -/
theorem Has.lowEnd_le {i : RoundingInterval} {q : ℚ} (h : i.Has q) : i.lowEnd ≤ q := by
  rcases h.1 with hlt | ⟨-, heq⟩
  · exact hlt.le
  · exact heq.le

/-- A point of an interval is not above its upper end. -/
theorem Has.le_highEnd {i : RoundingInterval} {q : ℚ} (h : i.Has q) : q ≤ i.highEnd := by
  rcases h.2 with hlt | ⟨-, heq⟩
  · exact hlt.le
  · exact heq.le

end RoundingInterval

namespace Binary64

/-- The word of a number without its sign. -/
def magnitude (x : Binary64) : Nat :=
  x.bits.toNat % 2 ^ 63

/-- A number is known by its sign and its magnitude. -/
theorem eq_of_magnitude {x y : Binary64} (hsign : x.isNegative = y.isNegative)
    (h : x.magnitude = y.magnitude) : x = y := by
  unfold isNegative at hsign
  unfold magnitude at h
  have hx := x.bits.toNat_lt
  have hy := y.bits.toNat_lt
  simp only [Nat.pow_eq, decide_eq_decide] at hsign
  have hbits : x.bits = y.bits := UInt64.toNat_inj.1 (by omega)
  cases x
  cases y
  simp only at hbits
  rw [hbits]

/-- The exponent field is the upper part of the magnitude. -/
theorem exponentField_eq (x : Binary64) : x.exponentField = x.magnitude / 2 ^ 52 := by
  have hx := x.bits.toNat_lt
  unfold exponentField magnitude
  simp only [Nat.pow_eq]
  omega

/-- The fraction is the lower part of the magnitude. -/
theorem fraction_eq (x : Binary64) : x.fraction = x.magnitude % 2 ^ 52 := by
  unfold fraction magnitude
  simp only [Nat.pow_eq]
  omega

/-- The mantissa of a magnitude. -/
def mantissaAt (n : Nat) : Nat :=
  if n / 2 ^ 52 = 0 then n % 2 ^ 52 else n % 2 ^ 52 + 2 ^ 52

/-- The exponent of a magnitude. -/
def exponentAt (n : Nat) : Int :=
  if n / 2 ^ 52 = 0 then -1074 else (n / 2 ^ 52 : Nat) - 1075

/-- The rounding interval of a magnitude. -/
def intervalAt (n : Nat) : RoundingInterval :=
  let below := if n % 2 ^ 52 = 0 ∧ 1 < n / 2 ^ 52 then 1 else 2
  ⟨exponentAt n - 2, 4 * mantissaAt n - below, 4 * mantissaAt n, 4 * mantissaAt n + 2,
    mantissaAt n % 2 == 0⟩

/-- The mantissa depends on the magnitude alone. -/
theorem mantissa_eq (x : Binary64) : x.mantissa = mantissaAt x.magnitude := by
  unfold mantissa mantissaAt
  rw [exponentField_eq, fraction_eq]
  rfl

/-- The exponent depends on the magnitude alone. -/
theorem exponent_eq (x : Binary64) : x.exponent = exponentAt x.magnitude := by
  unfold exponent exponentAt
  rw [exponentField_eq]

/-- The interval depends on the magnitude alone. -/
theorem interval_eq (x : Binary64) : x.interval = intervalAt x.magnitude := by
  unfold interval intervalAt
  rw [exponentField_eq, fraction_eq, exponent_eq, mantissa_eq]
  simp only [Bool.and_eq_true, decide_eq_true_eq]

/-- A mantissa has at most 53 bits. -/
theorem mantissaAt_lt (n : Nat) : mantissaAt n < 2 ^ 53 := by
  unfold mantissaAt
  split <;> omega

/-- Magnitude and mantissa have the same parity. -/
theorem intervalAt_closed {n : Nat} : (intervalAt n).closed = true ↔ n % 2 = 0 := by
  unfold intervalAt mantissaAt
  simp only [beq_iff_eq]
  split <;> omega

/-- The next magnitude has the next mantissa, or the first mantissa of the next exponent. -/
theorem succ_cases (n : Nat) :
    mantissaAt (n + 1) = mantissaAt n + 1 ∧ exponentAt (n + 1) = exponentAt n ∧
      (intervalAt (n + 1)).low = 4 * mantissaAt n + 2 ∨
    mantissaAt n + 1 = 2 ^ 53 ∧ exponentAt (n + 1) = exponentAt n + 1 ∧
      (intervalAt (n + 1)).low = 4 * 2 ^ 52 - 1 := by
  unfold intervalAt mantissaAt exponentAt
  dsimp only
  by_cases hcarry : (n + 1) % 2 ^ 52 = 0
  · have hfield' : ¬ (n + 1) / 2 ^ 52 = 0 := by omega
    by_cases hfield : n / 2 ^ 52 = 0
    · have hbelow : ¬ ((n + 1) % 2 ^ 52 = 0 ∧ 1 < (n + 1) / 2 ^ 52) := by omega
      left
      rw [if_neg hfield', if_neg hfield', if_pos hfield, if_pos hfield, if_neg hbelow]
      omega
    · have hbelow : (n + 1) % 2 ^ 52 = 0 ∧ 1 < (n + 1) / 2 ^ 52 := by omega
      right
      rw [if_neg hfield', if_neg hfield', if_neg hfield, if_neg hfield, if_pos hbelow]
      omega
  · have hbelow : ¬ ((n + 1) % 2 ^ 52 = 0 ∧ 1 < (n + 1) / 2 ^ 52) := by omega
    left
    rw [if_neg hbelow]
    by_cases hfield : n / 2 ^ 52 = 0
    · have hfield' : (n + 1) / 2 ^ 52 = 0 := by omega
      rw [if_pos hfield', if_pos hfield', if_pos hfield, if_pos hfield]
      omega
    · have hfield' : ¬ (n + 1) / 2 ^ 52 = 0 := by omega
      rw [if_neg hfield', if_neg hfield', if_neg hfield, if_neg hfield]
      omega

/-- The interval of a magnitude ends where that of the next begins. -/
theorem highEnd_eq (n : Nat) : (intervalAt n).highEnd = (intervalAt (n + 1)).lowEnd := by
  have hhigh : (intervalAt n).high = 4 * mantissaAt n + 2 := rfl
  have hunit : ∀ k, (intervalAt k).unit = exponentAt k - 2 := fun _ => rfl
  unfold RoundingInterval.highEnd RoundingInterval.lowEnd
  rw [hhigh, hunit, hunit]
  obtain ⟨-, hexponent, hlow⟩ | ⟨hlast, hexponent, hlow⟩ := succ_cases n
  · rw [hexponent, hlow]
  · have hmantissa : mantissaAt n = 2 ^ 53 - 1 := by omega
    have hnext : exponentAt n + 1 - 2 = exponentAt n - 2 + 1 := by ring
    rw [hexponent, hlow, hmantissa, hnext, zpow_add_one₀ two_ne_zero]
    push_cast
    ring

/-- An interval is not empty. -/
theorem lowEnd_lt_highEnd (n : Nat) : (intervalAt n).lowEnd < (intervalAt n).highEnd := by
  have hlt : (intervalAt n).low < (intervalAt n).high := by
    unfold intervalAt
    dsimp only
    split <;> omega
  have hunit : (0 : ℚ) < 2 ^ (intervalAt n).unit := zpow_pos two_pos _
  unfold RoundingInterval.highEnd RoundingInterval.lowEnd
  exact mul_lt_mul_of_pos_right (by exact_mod_cast hlt) hunit

/-- Larger magnitudes have intervals that begin higher. -/
theorem lowEnd_strictMono : StrictMono fun n => (intervalAt n).lowEnd := by
  refine strictMono_nat_of_lt_succ fun n => ?_
  rw [← highEnd_eq]
  exact lowEnd_lt_highEnd n

/-- No point lies in the intervals of two magnitudes. -/
theorem not_has_both {n n' : Nat} (hlt : n < n') {q : ℚ} (h : (intervalAt n).Has q)
    (h' : (intervalAt n').Has q) : False := by
  have hends : (intervalAt n).highEnd ≤ (intervalAt n').lowEnd := by
    rw [highEnd_eq]
    exact lowEnd_strictMono.monotone hlt
  have hhigh := h.le_highEnd
  have hlow := h'.lowEnd_le
  -- The point is the common end, so both intervals have their ends, and they are neighbours.
  have hcommon : (intervalAt (n + 1)).lowEnd = (intervalAt n').lowEnd := by
    rw [← highEnd_eq]
    exact hends.antisymm (hlow.trans hhigh)
  have hnext : n + 1 = n' := lowEnd_strictMono.injective hcommon
  have heven : n % 2 = 0 := by
    rcases h.2 with hbelow | ⟨hclosed, -⟩
    · exact absurd (hends.trans hlow) hbelow.not_ge
    · exact intervalAt_closed.1 hclosed
  have heven' : n' % 2 = 0 := by
    rcases h'.1 with habove | ⟨hclosed, -⟩
    · exact absurd (hhigh.trans hends) habove.not_ge
    · exact intervalAt_closed.1 hclosed
  omega

/-- A point lies in the interval of one magnitude only. -/
theorem magnitude_eq_of_has {x y : Binary64} {q : ℚ} (hx : x.interval.Has q) (hy : y.interval.Has q) :
    x.magnitude = y.magnitude := by
  rw [interval_eq] at hx hy
  rcases lt_trichotomy x.magnitude y.magnitude with hlt | heq | hlt
  · exact (not_has_both hlt hx hy).elim
  · exact heq
  · exact (not_has_both hlt hy hx).elim

end Binary64

end ScopedBinding
