/-!
# Punycode

Labels of letters beyond ASCII, written in ASCII. The basic characters of a label come first; each
further one is inserted by a number that counts, through the code points in rising order, the places
at which it could stand. The numbers are written in base 36 with digits whose thresholds adapt to
what came before.
-/

namespace CardPayments

namespace Punycode

/-- The letters and digits for 0 to 35. -/
def digitOf (n : Nat) : Char :=
  if n < 26 then Char.ofNat (n + 'a'.toNat) else Char.ofNat (n - 26 + '0'.toNat)

def valueOf? (c : Char) : Option Nat :=
  if 'a' ≤ c && c ≤ 'z' then some (c.toNat - 'a'.toNat)
  else if 'A' ≤ c && c ≤ 'Z' then some (c.toNat - 'A'.toNat)
  else if c.isDigit then some (c.toNat - '0'.toNat + 26)
  else none

/-- The digit at which a number ends, for the place that is `place` digits in. -/
def threshold (place bias : Nat) : Nat := max 1 (min 26 (36 * (place + 1) - bias))

/-- Divides until the number is small, counting the divisions in steps of 36. -/
def shrink : (fuel delta steps : Nat) → Nat
  | 0, delta, steps => steps + 36 * delta / (delta + 38)
  | fuel + 1, delta, steps =>
    if 455 < delta then shrink fuel (delta / 35) (steps + 36) else steps + 36 * delta / (delta + 38)

/-- The bias after an insertion of `delta`, the first of which counts less. -/
def adapt (delta count : Nat) (isFirst : Bool) : Nat :=
  let delta := if isFirst then delta / 700 else delta / 2
  shrink 64 (delta + delta / count) 0

def numberChars (bias : Nat) : (fuel place n : Nat) → List Char
  | 0, _, _ => []
  | fuel + 1, place, n =>
    let t := threshold place bias
    if n < t then [digitOf n]
    else digitOf (t + (n - t) % (36 - t)) :: numberChars bias fuel (place + 1) ((n - t) / (36 - t))

structure Progress where
  delta : Nat
  bias : Nat
  handled : Nat
  out : List Char

/-- One character of the label while the code point `point` is inserted. -/
def insertAt (point basics : Nat) (p : Progress) (c : Char) : Progress :=
  if c.toNat < point then { p with delta := p.delta + 1 }
  else if c.toNat = point then
    { delta := 0
      bias := adapt p.delta (p.handled + 1) (p.handled == basics)
      handled := p.handled + 1
      out := p.out ++ numberChars p.bias (p.delta + 1) 0 p.delta }
  else p

def pointsOf (label : List Char) : List Nat :=
  ((label.map Char.toNat).filter fun n => 0x80 ≤ n).eraseDups.mergeSort

/-- All insertions of the points, from the code point `next` on. -/
def insertAll (label : List Char) (basics : Nat) : List Nat → Nat → Progress → Progress
  | [], _, p => p
  | point :: points, next, p =>
    let p := { p with delta := p.delta + (point - next) * (p.handled + 1) }
    let p := label.foldl (insertAt point basics) p
    insertAll label basics points (point + 1) { p with delta := p.delta + 1 }

/-- The label in ASCII, without the mark that tells such labels. -/
def encode (label : List Char) : List Char :=
  let basic := label.filter fun c => c.toNat < 0x80
  let start : Progress := ⟨0, 72, basic.length, []⟩
  (if basic.isEmpty then [] else basic ++ ['-']) ++
    (insertAll label basic.length (pointsOf label) 0x80 start).out

/-- A number off the front, added to `total` with the weight that its digits have grown to. -/
def readNumber (bias : Nat) : (place total weight : Nat) → List Char → Option (Nat × List Char)
  | _, _, _, [] => none
  | place, total, weight, c :: rest => do
    let digit ← valueOf? c
    let total := total + digit * weight
    let t := threshold place bias
    if digit < t then some (total, rest)
    else readNumber bias (place + 1) total (weight * (36 - t)) rest

def insertions :
    (fuel : Nat) → (label : List Char) → (point index bias : Nat) → List Char → Option (List Char)
  | 0, _, _, _, _, _ => none
  | _ + 1, label, _, _, _, [] => some label
  | fuel + 1, label, point, index, bias, s => do
    let (total, rest) ← readNumber bias 0 index 1 s
    let size := label.length + 1
    let point := point + total / size
    let place := total % size
    if point.isValidChar then
      insertions fuel (label.take place ++ Char.ofNat point :: label.drop place) point (place + 1)
        (adapt (total - index) size (index == 0)) rest
    else none

def decode? (s : List Char) : Option (List Char) :=
  let reversed := s.reverse
  let tail := (reversed.takeWhile fun c => c != '-').reverse
  let basic := (reversed.dropWhile fun c => c != '-').drop 1 |>.reverse
  insertions (tail.length + 1) basic 0x80 0 72 tail

end Punycode

end CardPayments
