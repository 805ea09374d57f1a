import CardPayments.Binary64.Shortest
import CardPayments.Decimal.Read
import CardPayments.Json.Basic

/-!
# What a JSON number means

A numeral without fraction and exponent that fits 64 bits is a whole number, every other one is a
binary floating-point number. The latter is computed from as many digits as 64 bits hold: these
digits make one floating-point number, a power of ten another, and their product or quotient is the
value. So it may differ from the nearest one in its last bit. A numeral beyond the largest
floating-point number means nothing.
-/

namespace CardPayments

namespace Json

inductive Number where
  | whole (value : Int)
  | double (negative : Bool) (magnitude : Binary64)
deriving DecidableEq

/-- Digits read into 64 bits, and the power of ten still to be applied. -/
structure Significand where
  value : Nat
  exponent : Int
deriving DecidableEq

/-- The digits as long as they fit 64 bits, and those that are left. -/
def foldDigits (value : Nat) : List Char → Nat × List Char
  | [] => (value, [])
  | c :: rest =>
    let next := 10 * value + Text.digitValue c
    if next < 18446744073709551616 then foldDigits next rest else (value, c :: rest)

/-- Digits before the point that have no room count as powers of ten; digits behind it that have no
room are ignored. -/
def significand (n : Numeral) : Significand :=
  let (whole, left) := foldDigits 0 n.whole
  let digits := n.fraction.getD []
  let (value, ignored) := foldDigits whole digits
  ⟨value, (left.length : Int) - (digits.length - ignored.length : Nat)⟩

/-- The floating-point number divided by ten to the power `n`; powers beyond the format are taken in
steps. -/
def scaleDown (x : Binary64) : (fuel n : Nat) → Option Binary64
  | 0, _ => some x
  | fuel + 1, n =>
    if n ≤ 308 then do x.div? (← Binary64.powerOfTen? n)
    else if x.isZero then some x
    else do scaleDown (← x.div? (← Binary64.powerOfTen? 308)) fuel (n - 308)

def scaleUp (x : Binary64) (n : Nat) : Option Binary64 :=
  if n ≤ 308 then do x.mul? (← Binary64.powerOfTen? n)
  else if x.isZero then some x
  else none

def scaled (s : Significand) : Option Binary64 := do
  let x ← Binary64.ofNat? s.value
  if 0 ≤ s.exponent then scaleUp x s.exponent.toNat else scaleDown x 8 (-s.exponent).toNat

/-- Exponents are counted in 32 bits with a sign; beyond that a number is zero or too large. -/
abbrev exponentBound : Nat := 2147483648

/-- The magnitude of a numeral that is no whole number of 64 bits. -/
def magnitude? (n : Numeral) : Option Binary64 :=
  let s := significand n
  match n.exponent with
  | none => scaled s
  | some (negative, ds) =>
    let size := Nat.ofDigitChars 10 ds 0
    if exponentBound ≤ size then if s.value = 0 ∨ negative then some Binary64.zero else none
    else scaled ⟨s.value, if negative then s.exponent - size else s.exponent + size⟩

def Number.ofNumeral? (n : Numeral) : Option Number :=
  let double := (magnitude? n).map (Number.double n.negative)
  match n.fraction, n.exponent with
  | none, none =>
    let value := Nat.ofDigitChars 10 n.whole 0
    if n.negative then
      if 0 < value ∧ value ≤ 9223372036854775808 then some (.whole (-value)) else double
    else if value < 18446744073709551616 then some (.whole value) else double
  | _, _ => double

namespace Number

def exponentChars (s : Binary64.Scientific) : List Char :=
  let ds := Text.digits s.coefficient
  let power := s.exponent + (ds.length : Int) - 1
  let mantissa := match ds with
    | first :: second :: rest => first :: '.' :: second :: rest
    | _ => ds
  mantissa ++ 'e' :: (if power < 0 then '-' else '+') :: Text.digits power.natAbs

/-- Floating-point numbers are positional, with a digit behind the point, from one in the fifth
place up to sixteen digits before the point. -/
def chars : Number → List Char
  | .whole n => (if n < 0 then ['-'] else []) ++ Text.digits n.natAbs
  | .double negative magnitude =>
    let s := magnitude.shortest
    let size := ((Text.digits s.coefficient).length : Int) + s.exponent
    (if negative then ['-'] else []) ++
      if magnitude.isZero ∨ (-5 < size ∧ size ≤ 16) then
        s.plainChars ++ (if 0 ≤ s.exponent then ['.', '0'] else [])
      else exponentChars s

def text (n : Number) : String := String.ofList n.chars

/-- The amount that the number writes without an exponent. -/
def decimal? : Number → Option Decimal
  | .whole n => Decimal.ofParts? n 0
  | .double negative magnitude =>
    Decimal.ofChars? ((if negative then ['-'] else []) ++ magnitude.shortest.plainChars)

end Number

end Json

end CardPayments
