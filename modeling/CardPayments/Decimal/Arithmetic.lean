import CardPayments.Decimal.Basic

/-!
# Sums and roundings of decimals

Sums are exact at the larger of the two scales. Where the exact sum needs 96 bits or more it is
rounded, a half to the even neighbour, at the largest scale at which it fits, and where it fits at
none there is no sum. Amounts shown to people are rounded to two places, a half away from zero.
-/

namespace CardPayments

inductive Overflow where
  | addition
  | subtraction
deriving DecidableEq, Repr

def Overflow.message : Overflow → String
  | .addition => "Addition overflowed"
  | .subtraction => "Subtraction overflowed"

namespace Decimal

/-! ### Sums -/

/-- The decimal of scale `scale` nearest to the magnitude with its sign in units of the place `scale
+ dropped`, if it is within bounds. -/
def rounded? (negative : Bool) (magnitude dropped scale : Nat) : Option Decimal :=
  let nearest : Nat := divHalfEven magnitude (tenTo dropped)
  ofParts? (if negative then -nearest else nearest) scale

/-- The nearest decimal at the largest scale, from the given one down, at which there is one. -/
def closest? (negative : Bool) (magnitude : Nat) : (dropped scale : Nat) → Option Decimal
  | dropped, 0 => rounded? negative magnitude dropped 0
  | dropped, scale + 1 =>
    rounded? negative magnitude dropped (scale + 1) <|>
      closest? negative magnitude (dropped + 1) scale

/-- The exact sum of the coefficients once both stand at the scale `scale`. -/
def sumAt (scale : Nat) (a b : Decimal) : Int :=
  a.coefficient * tenTo (scale - a.scale) + b.coefficient * tenTo (scale - b.scale)

/-- The sum; a zero adds nothing, not even its scale. -/
def add? (a b : Decimal) : Option Decimal :=
  if a.isZero then some b
  else if b.isZero then some a
  else
    let scale := max a.scale b.scale
    let exact := sumAt scale a b
    closest? (exact < 0) exact.natAbs 0 scale

def sub? (a b : Decimal) : Option Decimal := add? a b.neg

/-! ### Two places -/

/-- The amount in hundredths, a half rounded away from zero. -/
def hundredths (d : Decimal) : Int :=
  let magnitude :=
    if d.scale ≤ 2 then d.coefficient.natAbs * tenTo (2 - d.scale)
    else divHalfUp d.coefficient.natAbs (tenTo (d.scale - 2))
  if d.coefficient < 0 then -magnitude else magnitude

/-- The amount rounded to two places, with both of them written. What is rounded to zero has no
minus, a zero keeps the one it carries. -/
def fixedChars (d : Decimal) : List Char :=
  signText (d.hundredths < 0 || d.isSignedZero) ++ magnitudeText d.hundredths.natAbs 2

def fixedText (d : Decimal) : String := String.ofList d.fixedChars

end Decimal

end CardPayments
