import CardPayments.Proofs.Decimal.Text
import Mathlib.Data.Rat.Floor
import Mathlib.Tactic.FieldSimp
import Mathlib.Tactic.Linarith
import Mathlib.Tactic.Positivity
import Mathlib.Tactic.Ring

/-!
# Two places

The amount that is shown and hashed is the decimal's value in hundredths, rounded to a whole number
with halves away from zero. Both halves of that are settled here. The rounding looks at the
coefficient and the scale, and comes out as the rounding of the rational number that the decimal
stands for, so equal amounts of different scales are rounded alike. The text in two places gives the
rounded number away: its digits are the number's magnitude, and a leading minus its sign.
-/

namespace CardPayments

/-- The whole number nearest to a rational number; of two the one farther from zero. -/
def roundHalfAway (x : ℚ) : ℤ := if x < 0 then -⌊-x + 1 / 2⌋ else ⌊x + 1 / 2⌋

theorem cast_tenTo (n : ℕ) : (tenTo n : ℚ) = 10 ^ n := Nat.cast_pow 10 n

theorem divHalfUp_eq_floor (n : ℕ) {d : ℕ} (hd : 0 < d) :
    (divHalfUp n d : ℤ) = ⌊(n : ℚ) / d + 1 / 2⌋ := by
  have hne : (d : ℚ) ≠ 0 := Nat.cast_ne_zero.2 hd.ne'
  have hquotient : (n : ℚ) / d + 1 / 2 = ((2 * n + d : ℕ) : ℚ) / (2 * d : ℕ) := by
    push_cast
    field_simp
  rw [hquotient, Rat.floor_natCast_div_natCast, divHalfUp]
  push_cast
  rfl

namespace Decimal

/-! ### The rounded value -/

def value (d : Decimal) : ℚ := d.coefficient / 10 ^ d.scale

theorem magnitude_hundredths (n scale : ℕ) :
    (if scale ≤ 2 then n * tenTo (2 - scale) else divHalfUp n (tenTo (scale - 2))) =
      divHalfUp (100 * n) (tenTo scale) := by
  split
  · next hscale =>
    obtain rfl | rfl | rfl : scale = 0 ∨ scale = 1 ∨ scale = 2 := by omega
    all_goals
      simp only [divHalfUp, tenTo]
      norm_num
      omega
  · next hscale =>
    have hsplit : tenTo scale = tenTo (scale - 2) * 100 := by
      rw [← show tenTo 2 = 100 from rfl, ← tenTo_add]
      congr 1
      omega
    rw [hsplit, divHalfUp, divHalfUp, ← Nat.mul_div_mul_right (2 * n + tenTo (scale - 2))
      (2 * tenTo (scale - 2)) (show 0 < 100 by decide)]
    congr 1 <;> ring

theorem hundredths_eq (d : Decimal) :
    d.hundredths =
      if d.coefficient < 0 then -(divHalfUp (100 * d.coefficient.natAbs) (tenTo d.scale) : ℤ)
      else (divHalfUp (100 * d.coefficient.natAbs) (tenTo d.scale) : ℤ) := by
  rw [← magnitude_hundredths]
  rfl

theorem hundred_mul_value_neg_iff (d : Decimal) : 100 * d.value < 0 ↔ d.coefficient < 0 := by
  have hpos : (0 : ℚ) < 10 ^ d.scale := by positivity
  rw [value, mul_div_assoc', div_lt_iff₀ hpos, zero_mul]
  constructor
  · intro h
    have hcoefficient : (d.coefficient : ℚ) < 0 := by linarith
    exact Int.cast_lt_zero.1 hcoefficient
  · intro h
    have hcoefficient : (d.coefficient : ℚ) < 0 := Int.cast_lt_zero.2 h
    linarith

/-- **The hundredths of a decimal are its value in hundredths**, rounded half away from zero. -/
theorem hundredths_eq_round (d : Decimal) : d.hundredths = roundHalfAway (100 * d.value) := by
  have hmagnitude : ((100 * d.coefficient.natAbs : ℕ) : ℚ) / (tenTo d.scale : ℕ) =
      |100 * d.value| := by
    have hpos : (0 : ℚ) < 10 ^ d.scale := by positivity
    rw [value, abs_mul, abs_div, abs_of_pos hpos, abs_of_pos (show (0 : ℚ) < 100 by norm_num),
      ← Int.cast_abs, ← Nat.cast_natAbs, cast_tenTo]
    push_cast
    ring
  rw [hundredths_eq, divHalfUp_eq_floor _ (tenTo_pos d.scale), hmagnitude, roundHalfAway]
  by_cases hnegative : 100 * d.value < 0
  · have hcoefficient := d.hundred_mul_value_neg_iff.1 hnegative
    rw [if_pos hcoefficient, if_pos hnegative, abs_of_neg hnegative]
  · have hcoefficient := mt d.hundred_mul_value_neg_iff.2 hnegative
    rw [if_neg hcoefficient, if_neg hnegative, abs_of_nonneg (le_of_not_gt hnegative)]

/-! ### The text in two places -/

theorem ofDigitChars_magnitudeText (n scale : ℕ) :
    Nat.ofDigitChars 10 ((magnitudeText n scale).filter Char.isDigit) 0 = n := by
  have hwhole : Nat.ofDigitChars 10 (Text.digits (n / tenTo scale)) 0 = n / tenTo scale :=
    Nat.ofDigitChars_toDigits (by decide) (by decide)
  have hdigits : (magnitudeText n scale).filter Char.isDigit =
      Text.digits (n / tenTo scale) ++ Text.fixedDigits scale n := by
    have hfront : (Text.digits (n / tenTo scale)).filter Char.isDigit =
        Text.digits (n / tenTo scale) :=
      List.filter_eq_self.2 fun _ => Text.isDigit_of_mem_digits
    have hback : (Text.fixedDigits scale n).filter Char.isDigit = Text.fixedDigits scale n :=
      List.filter_eq_self.2 fun _ => isDigit_of_mem_fixedDigits
    rw [magnitudeText, List.filter_append, hfront]
    split
    · next hzero => rw [hzero]; rfl
    · rw [List.filter_cons_of_neg (by decide), hback]
  rw [hdigits, Nat.ofDigitChars_append, hwhole, ofDigitChars_fixedDigits, Nat.div_add_mod]

theorem minus_mem_signed (negative : Bool) (magnitude scale : ℕ) :
    '-' ∈ signText negative ++ magnitudeText magnitude scale ↔ negative = true := by
  have hmagnitude : '-' ∉ magnitudeText magnitude scale := by
    intro h
    obtain h | h := mem_magnitudeText h <;> exact absurd h (by decide)
  rw [List.mem_append, or_iff_left hmagnitude, signText]
  split <;> simp [*]

theorem filter_isDigit_signText (negative : Bool) :
    (signText negative).filter Char.isDigit = [] := by
  cases negative <;> rfl

theorem eq_of_signed {negative negative' : Bool} {m n scale : ℕ}
    (h : signText negative ++ magnitudeText m scale =
      signText negative' ++ magnitudeText n scale) : negative = negative' ∧ m = n := by
  constructor
  · rw [Bool.eq_iff_iff, ← minus_mem_signed negative m scale, h, minus_mem_signed]
  · have hdigits := congrArg (fun s => Nat.ofDigitChars 10 (s.filter Char.isDigit) 0) h
    simp only [List.filter_append, filter_isDigit_signText, List.nil_append,
      ofDigitChars_magnitudeText] at hdigits
    exact hdigits

/-- The zero that is written `-0.00`. -/
def negativeZero : Decimal := { (ofParts? 0 2).getD .zero with negative := true }

theorem hundredths_of_isSignedZero {d : Decimal} (h : d.isSignedZero = true) :
    d.hundredths = 0 := by
  rw [isSignedZero, Bool.and_eq_true, isZero_iff_coefficient] at h
  rw [hundredths_eq_round, value, h.2]
  simp [roundHalfAway]
  norm_num

/-- **Two decimals read alike in two places** exactly when they have the same hundredths, and both
or none of them is a zero with a sign. -/
theorem fixedChars_eq_iff (a b : Decimal) :
    a.fixedChars = b.fixedChars ↔
      a.hundredths = b.hundredths ∧ a.isSignedZero = b.isSignedZero := by
  constructor
  · intro h
    obtain ⟨hminus, hmagnitude⟩ := eq_of_signed h
    rw [Bool.eq_iff_iff, Bool.or_eq_true, Bool.or_eq_true, decide_eq_true_eq,
      decide_eq_true_eq] at hminus
    have ha := hundredths_of_isSignedZero (d := a)
    have hb := hundredths_of_isSignedZero (d := b)
    have hhundredths : a.hundredths = b.hundredths := by
      by_cases hzero : a.hundredths = 0
      · omega
      · have hzero' : b.hundredths ≠ 0 := by omega
        rw [or_iff_left (mt ha hzero), or_iff_left (mt hb hzero')] at hminus
        omega
    refine ⟨hhundredths, ?_⟩
    rw [Bool.eq_iff_iff]
    by_cases hnegative : a.hundredths < 0
    · exact iff_of_false (mt ha (by omega)) (mt hb (by omega))
    · rwa [or_iff_right hnegative, or_iff_right (hhundredths ▸ hnegative)] at hminus
  · rintro ⟨hhundredths, hsigned⟩
    rw [fixedChars, hhundredths, hsigned, fixedChars]

end Decimal

end CardPayments
