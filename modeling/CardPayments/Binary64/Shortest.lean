import CardPayments.Binary64
import CardPayments.Text.Basic

/-!
# The shortest decimal of a floating-point number

Every real number closer to a magnitude than to its neighbours is read as that magnitude, and so are
the two midpoints if the significand is even. Of the decimals in this interval the shortest is
taken, and of several of that length the one nearest to the magnitude. If a decimal grid has a point
in the interval then it has one next to the magnitude, so only the two grid points around the
magnitude are looked at, on the grids of one digit, of two digits and so on; seventeen always
suffice.
-/

namespace CardPayments

namespace Binary64

structure Scientific where
  coefficient : Nat
  exponent : Int
deriving DecidableEq

/-- The two ends of the interval that is read as `x`, in quarters of a unit. -/
def interval (x : Binary64) : Nat × Nat :=
  let middle := 4 * x.units
  let below :=
    if 2 * x.significand = significandBound ∧ 0 < x.power then twoTo x.power
    else 2 * twoTo x.power
  (middle - below, middle + 2 * twoTo x.power)

def wholeDigits (x : Binary64) : Int :=
  ((Text.digits (x.units * tenTo 330 / unitsPerOne)).length : Int) - 330

/-- The quarters of a unit in one step of the grid of ten to the power `exponent`, as a quotient. -/
def gridStep (exponent : Int) : Nat × Nat :=
  if 0 ≤ exponent then (4 * unitsPerOne * tenTo exponent.toNat, 1)
  else (4 * unitsPerOne, tenTo (-exponent).toNat)

/-- The point of the grid that is read as `x`, if there is one; of two the nearer, and on a tie the
even one. -/
def onGrid? (x : Binary64) (exponent : Int) : Option Scientific :=
  let (step, parts) := gridStep exponent
  let middle := 4 * x.units * parts
  let low := x.interval.1 * parts
  let high := x.interval.2 * parts
  let isInside (c : Nat) : Bool :=
    if x.significand % 2 = 0 then low ≤ c * step && c * step ≤ high
    else low < c * step && c * step < high
  let below := middle / step
  let nearest := divHalfEven middle step
  let other := if nearest = below then below + 1 else below
  if isInside nearest then some ⟨nearest, exponent⟩
  else if isInside other then some ⟨other, exponent⟩
  else none

def Scientific.stripped : (fuel : Nat) → Scientific → Scientific
  | 0, s => s
  | fuel + 1, s =>
    if s.coefficient ≠ 0 ∧ s.coefficient % 10 = 0 then
      stripped fuel ⟨s.coefficient / 10, s.exponent + 1⟩
    else s

/-- The shortest decimal that is read as `x`. -/
def shortest (x : Binary64) : Scientific :=
  if x.isZero then ⟨0, 0⟩
  else
    let grids := (List.range 17).map fun n : Nat => x.wholeDigits - (n + 1 : Nat)
    match grids.findSome? x.onGrid? with
    | some s => s.stripped 20
    | none => ⟨0, 0⟩

namespace Scientific

def plainChars (s : Scientific) : List Char :=
  if 0 ≤ s.exponent then Text.digits (s.coefficient * tenTo s.exponent.toNat)
  else
    let places := (-s.exponent).toNat
    Text.digits (s.coefficient / tenTo places) ++ '.' :: Text.fixedDigits places s.coefficient

end Scientific

end Binary64

end CardPayments
