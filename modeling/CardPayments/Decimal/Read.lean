import CardPayments.Decimal.Basic

/-!
# Reading decimals

A written decimal has an optional sign, digits with at most one point among them, underscores
anywhere behind the first digit, and perhaps an exponent. Digits behind the point are taken as long
as the coefficient and the scale have room; the first one without room rounds what was taken, a half
upward, and whatever follows it is not looked at. Where the scale has no room left, an underscore or
a point ends the reading just as a digit does. Whole digits without room make the text unreadable.
-/

namespace CardPayments

namespace Decimal

/-- The coefficient raised by one for a half or more in the digit behind it; where that takes the
coefficient out of bounds the last digit is given up instead. -/
def roundedOn (magnitude scale digit : Nat) : Option (Nat × Nat) :=
  if digit < 5 then some (magnitude, scale)
  else if magnitude + 1 < coefficientBound then some (magnitude + 1, scale)
  else match scale with
    | 0 => none
    | scale + 1 => some ((magnitude + 5) / 10, scale)

def readFraction (magnitude scale : Nat) (seen : Bool) : List Char → Option (Nat × Nat)
  | [] => if seen then some (magnitude, scale) else none
  | c :: rest =>
    if c.isDigit then
      let next := 10 * magnitude + Text.digitValue c
      if scale < maxScale ∧ next < coefficientBound then readFraction next (scale + 1) true rest
      else roundedOn magnitude scale (Text.digitValue c)
    else if scale = maxScale then
      if c = '_' ∨ c = '.' then some (magnitude, scale) else none
    else if c = '_' ∧ seen then readFraction magnitude scale seen rest
    else none

def readWhole (magnitude : Nat) (seen : Bool) : List Char → Option (Nat × Nat)
  | [] => if seen then some (magnitude, 0) else none
  | c :: rest =>
    if c.isDigit then
      let next := 10 * magnitude + Text.digitValue c
      if next < coefficientBound then readWhole next true rest else none
    else if c = '.' then readFraction magnitude 0 seen rest
    else if c = '_' ∧ seen then readWhole magnitude seen rest
    else none

def readPlain (s : List Char) : Option Decimal := do
  let (negative, body) := match s with
    | '-' :: rest => (true, rest)
    | '+' :: rest => (false, rest)
    | _ => (false, s)
  let (magnitude, scale) ← readWhole 0 false body
  ofParts? (if negative then -magnitude else magnitude) scale

/-- A whole number of at most 32 bits, perhaps with a plus sign. -/
def readExponentSize (s : List Char) : Option Nat := do
  let n ← Text.number? (match s with | '+' :: rest => rest | _ => s)
  if n < 4294967296 then some n else none

/-- The decimal times ten to the power `n`: first the scale shrinks, then the coefficient grows. -/
def shiftUp (d : Decimal) (n : Nat) : Option Decimal :=
  if n ≤ d.scale then ofParts? d.coefficient (d.scale - n)
  else if maxScale < n then none
  else ofParts? (d.coefficient * tenTo (n - d.scale)) 0

/-- The decimal divided by ten to the power `n`, by a larger scale alone. -/
def shiftDown (d : Decimal) (n : Nat) : Option Decimal := ofParts? d.coefficient (d.scale + n)

def isExponentMark (c : Char) : Bool := c = 'e' || c = 'E'

def ofChars? (s : List Char) : Option Decimal :=
  match s.dropWhile fun c => !isExponentMark c with
  | [] => readPlain s
  | _ :: power => do
    let d ← readPlain (s.takeWhile fun c => !isExponentMark c)
    match power with
    | '-' :: rest => d.shiftDown (← readExponentSize rest)
    | _ => d.shiftUp (← readExponentSize power)

def ofText? (s : String) : Option Decimal := ofChars? s.toList

end Decimal

end CardPayments
