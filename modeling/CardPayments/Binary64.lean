import CardPayments.Rounding

/-!
# Binary floating point of 64 bits

The finite magnitudes of the 64-bit binary format: a significand of fewer than 53 bits more than
none, times a power of two. All of them are whole multiples of the smallest, two to the power -1074,
so a magnitude is counted in these units and all arithmetic is on whole numbers. Each operation
gives the magnitude nearest to the exact result, of two the one with the even significand, or
nothing where the result is too large.
-/

namespace CardPayments

/-- Significands stay below two to the power 53. -/
abbrev Binary64.significandBound : Nat := 9007199254740992

abbrev Binary64.maxPower : Nat := 2045

structure Binary64 where
  significand : Nat
  power : Nat
  significand_lt : significand < Binary64.significandBound
  power_le : power ≤ Binary64.maxPower
deriving DecidableEq

namespace Binary64

def unitsPerOne : Nat := twoTo 1074

/-- The magnitude in units of the smallest one. -/
def units (x : Binary64) : Nat := x.significand * twoTo x.power

def zero : Binary64 := ⟨0, 0, by decide, by decide⟩

def isZero (x : Binary64) : Bool := x.significand = 0

/-- The magnitude with this significand, which may be one binary digit too long, and this power. -/
def ofParts? (significand power : Nat) : Option Binary64 :=
  if h : significand < significandBound ∧ power ≤ maxPower then some ⟨significand, power, h.1, h.2⟩
  else if h : significand / 2 < significandBound ∧ power + 1 ≤ maxPower then
    some ⟨significand / 2, power + 1, h.1, h.2⟩
  else none

def bitLength (n : Nat) : Nat := if n = 0 then 0 else Nat.log2 n + 1

/-- The magnitude nearest to `num / den`: as many binary digits of the quotient as the significand
holds, rounded. -/
def nearest? (num den : Nat) : Option Binary64 :=
  let scaled := num * unitsPerOne
  let power := bitLength (scaled / den) - 53
  ofParts? (divHalfEven scaled (den * twoTo power)) power

def ofNat? (n : Nat) : Option Binary64 := nearest? n 1

def mul? (x y : Binary64) : Option Binary64 :=
  nearest? (x.units * y.units) (unitsPerOne * unitsPerOne)

def div? (x y : Binary64) : Option Binary64 := nearest? x.units y.units

def powerOfTen? (n : Nat) : Option Binary64 := nearest? (tenTo n) 1

end Binary64

end CardPayments
