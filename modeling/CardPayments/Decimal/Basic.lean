import CardPayments.Rounding
import CardPayments.Text.Basic

/-!
# Decimals

A decimal is a sign, a magnitude of fewer than 96 bits and a scale, the number of its digits behind
the point, of at most 28. The scale belongs to the value as written: `1.50` and `1.5` are different
decimals of the same amount. All amounts are whole multiples of one unit in the twenty-eighth place,
so `units` is the amount in exact whole numbers, and order and sameness of amounts are read off it.

A zero may carry the sign as well. No text is read as such a zero, and a sum is one only where a
summand is, so it comes from a caller alone. It has the amount of any other zero, but is written
with its minus.
-/

namespace CardPayments

/-- Magnitudes stay below two to the power 96. -/
abbrev Decimal.coefficientBound : Nat := 79228162514264337593543950336

abbrev Decimal.maxScale : Nat := 28

structure Decimal where
  negative : Bool
  magnitude : Nat
  scale : Nat
  magnitude_lt : magnitude < Decimal.coefficientBound
  scale_le : scale ≤ Decimal.maxScale
deriving DecidableEq

namespace Decimal

def zero : Decimal := ⟨false, 0, 0, by decide, by decide⟩

instance : Inhabited Decimal := ⟨zero⟩

/-- The decimal with this coefficient and scale; zero gets no sign. -/
def ofParts (coefficient : Int) (scale : Nat) (hc : coefficient.natAbs < coefficientBound)
    (hs : scale ≤ maxScale) : Decimal :=
  ⟨coefficient < 0, coefficient.natAbs, scale, hc, hs⟩

/-- The decimal with this coefficient and scale, if both are within bounds. -/
def ofParts? (coefficient : Int) (scale : Nat) : Option Decimal :=
  if h : coefficient.natAbs < coefficientBound ∧ scale ≤ maxScale then
    some (ofParts coefficient scale h.1 h.2)
  else none

def coefficient (d : Decimal) : Int := if d.negative then -d.magnitude else d.magnitude

/-- The amount in units of the twenty-eighth decimal place. -/
def units (d : Decimal) : Int := d.coefficient * tenTo (maxScale - d.scale)

def SameAmount (a b : Decimal) : Prop := a.units = b.units

instance (a b : Decimal) : Decidable (SameAmount a b) :=
  inferInstanceAs (Decidable (a.units = b.units))

instance : LT Decimal := ⟨fun a b => a.units < b.units⟩

instance : LE Decimal := ⟨fun a b => a.units ≤ b.units⟩

instance (a b : Decimal) : Decidable (a < b) := inferInstanceAs (Decidable (a.units < b.units))

instance (a b : Decimal) : Decidable (a ≤ b) := inferInstanceAs (Decidable (a.units ≤ b.units))

def isZero (d : Decimal) : Bool := d.magnitude = 0

def isSignedZero (d : Decimal) : Bool := d.negative && d.isZero

/-- The amount with the other sign; a zero stays as it is. -/
def neg (d : Decimal) : Decimal := if d.isZero then d else { d with negative := !d.negative }

/-! ### The written form -/

/-- The digits of a whole number of units of the place `scale`: the whole part, and with a scale the
point and exactly that many digits. -/
def magnitudeText (magnitude scale : Nat) : List Char :=
  Text.digits (magnitude / tenTo scale) ++
    if scale = 0 then [] else '.' :: Text.fixedDigits scale magnitude

def signText (negative : Bool) : List Char := if negative then ['-'] else []

def chars (d : Decimal) : List Char :=
  signText d.negative ++ magnitudeText d.magnitude d.scale

def text (d : Decimal) : String := String.ofList d.chars

/-! ### Coefficients -/

theorem natAbs_coefficient (d : Decimal) : d.coefficient.natAbs = d.magnitude := by
  unfold coefficient
  split <;> simp

theorem coefficient_lt (d : Decimal) : d.coefficient.natAbs < coefficientBound :=
  d.natAbs_coefficient ▸ d.magnitude_lt

theorem isZero_iff_coefficient {d : Decimal} : d.isZero = true ↔ d.coefficient = 0 := by
  rw [isZero, decide_eq_true_eq, ← natAbs_coefficient, Int.natAbs_eq_zero]

@[simp] theorem scale_neg (d : Decimal) : d.neg.scale = d.scale := by
  unfold neg
  split <;> rfl

@[simp] theorem coefficient_neg (d : Decimal) : d.neg.coefficient = -d.coefficient := by
  unfold neg
  split
  · next hzero =>
    have hcoefficient := isZero_iff_coefficient.1 hzero
    omega
  · unfold coefficient
    cases d.negative <;> simp

section OfParts

variable {n : Int} {scale : Nat} {hc : n.natAbs < coefficientBound} {hs : scale ≤ maxScale}

@[simp] theorem coefficient_ofParts : (ofParts n scale hc hs).coefficient = n := by
  simp only [coefficient, ofParts, decide_eq_true_eq]
  split <;> omega

@[simp] theorem scale_ofParts : (ofParts n scale hc hs).scale = scale := rfl

theorem units_ofParts : (ofParts n scale hc hs).units = n * tenTo (maxScale - scale) := by
  rw [units, coefficient_ofParts, scale_ofParts]

@[simp] theorem isSignedZero_ofParts : (ofParts n scale hc hs).isSignedZero = false := by
  simp only [isSignedZero, isZero, ofParts, Bool.and_eq_false_imp, decide_eq_true_eq]
  exact fun hneg => decide_eq_false (by omega)

end OfParts

end Decimal

end CardPayments
