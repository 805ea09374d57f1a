import CardPayments.Rounding
import CardPayments.Text.Basic
import CardPayments.Time.Instant

/-!
# Reading dates and times by a pattern

A pattern lists the parts of a written date or time. Blanks may stand before every number, and where
the pattern has blanks there may be any number of them. Three patterns are in use: dates alone, the
two stamps of a processor's return notification, and instants with their offset from UTC.
-/

namespace CardPayments

namespace Time

inductive Part where
  | year
  | month
  | day
  | hour
  | minute
  | second
  /-- A point and digits, which may both be missing. -/
  | fraction
  | blanks
  | mark (c : Char)
deriving DecidableEq

/-- The numbers read so far; what a pattern does not mention stays zero. -/
structure Fields where
  year : Int := 0
  month : Nat := 0
  day : Nat := 0
  hour : Nat := 0
  minute : Nat := 0
  second : Nat := 0
  nano : Nat := 0
deriving DecidableEq

/-- The digits in front, at least one and at most `width`. -/
def readNumber (width : Nat) (s : List Char) : Option (Nat × List Char) :=
  let ds := (s.takeWhile Char.isDigit).take width
  if ds.isEmpty then none else some (Nat.ofDigitChars 10 ds 0, s.drop ds.length)

/-- A year has up to four digits, with a sign any number of them. -/
def readYear : List Char → Option (Int × List Char)
  | '-' :: rest => (readNumber rest.length rest).map fun (n, rest) => (-n, rest)
  | '+' :: rest => (readNumber rest.length rest).map fun (n, rest) => (n, rest)
  | s => (readNumber 4 s).map fun (n, rest) => (n, rest)

/-- Up to nine digits behind the point as nanoseconds; more of them are passed over. -/
def readFraction : List Char → Option (Nat × List Char)
  | '.' :: rest => do
    let (n, left) ← readNumber 9 rest
    let places := rest.length - left.length
    some (n * tenTo (9 - places), left.dropWhile Char.isDigit)
  | s => some (0, s)

def readPart (f : Fields) (s : List Char) : Part → Option (Fields × List Char)
  | .year => (readYear (Text.trimStart s)).map fun (n, rest) => ({ f with year := n }, rest)
  | .month => (readNumber 2 (Text.trimStart s)).map fun (n, rest) => ({ f with month := n }, rest)
  | .day => (readNumber 2 (Text.trimStart s)).map fun (n, rest) => ({ f with day := n }, rest)
  | .hour => (readNumber 2 (Text.trimStart s)).map fun (n, rest) => ({ f with hour := n }, rest)
  | .minute => (readNumber 2 (Text.trimStart s)).map fun (n, rest) => ({ f with minute := n }, rest)
  | .second => (readNumber 2 (Text.trimStart s)).map fun (n, rest) => ({ f with second := n }, rest)
  | .fraction => (readFraction s).map fun (n, rest) => ({ f with nano := n }, rest)
  | .blanks => some (f, Text.trimStart s)
  | .mark c => match s with
    | d :: rest => if d = c then some (f, rest) else none
    | [] => none

def readParts (f : Fields) (s : List Char) : List Part → Option (Fields × List Char)
  | [] => some (f, s)
  | part :: parts => do
    let (f, rest) ← readPart f s part
    readParts f rest parts

namespace Fields

def date? (f : Fields) : Option Date := Date.ofParts? f.year f.month f.day

def instant? (f : Fields) : Option Instant := do
  Instant.ofClock? (← f.date?) f.hour f.minute f.second f.nano

end Fields

/-! ### Patterns -/

def dateParts : List Part := [.year, .blanks, .mark '-', .month, .blanks, .mark '-', .day]

def clockParts : List Part :=
  [.hour, .blanks, .mark ':', .minute, .blanks, .mark ':', .second, .fraction, .blanks]

def longStamp : List Part :=
  [.year, .mark '-', .month, .mark '-', .day, .blanks, .hour, .mark ':', .minute, .mark ':',
   .second]

def shortStamp : List Part :=
  [.year, .mark '-', .month, .mark '-', .day, .blanks, .hour, .mark ':', .minute]

/-- The fields of a text that follows the pattern to its end. -/
def readAll (parts : List Part) (s : List Char) : Option Fields :=
  match readParts {} s parts with
  | some (f, []) => some f
  | _ => none

/-- The instant that a stamp without an offset names in UTC. -/
def stamp? (parts : List Part) (s : List Char) : Option Instant :=
  readAll parts s >>= Fields.instant?

/-! ### Offsets -/

/-- Two digits of hours, any colons and blanks, and two digits of minutes, in seconds. -/
def readOffsetSize : List Char → Option (Nat × List Char)
  | a :: b :: rest =>
    match rest.dropWhile fun c => c = ':' || Text.isBlank c with
    | c :: d :: rest =>
      if [a, b, c, d].all Char.isDigit && Text.digitValue c < 6 then
        some ((Text.digitValue a * 10 + Text.digitValue b) * 3600 +
          (Text.digitValue c * 10 + Text.digitValue d) * 60, rest)
      else none
    | _ => none
  | _ => none

/-- The offset from UTC in seconds, less than a day: the letter Z, the word UTC, or a sign with
hours and minutes. -/
def readOffset (s : List Char) : Option (Int × List Char) := do
  let (offset, rest) ← match s with
    | 'Z' :: rest => some ((0 : Int), rest)
    | 'z' :: rest => some (0, rest)
    | '+' :: rest => (readOffsetSize rest).map fun (n, rest) => ((n : Int), rest)
    | '-' :: rest => (readOffsetSize rest).map fun (n, rest) => (-(n : Int), rest)
    | '−' :: rest => (readOffsetSize rest).map fun (n, rest) => (-(n : Int), rest)
    | a :: b :: c :: rest =>
      if [a, b, c].map Char.toUpper = ['U', 'T', 'C'] then some (0, rest) else none
    | _ => none
  if offset.natAbs < secondsPerDay then some (offset, rest) else none

end Time

open Time in
def Date.ofText? (s : String) : Option Date :=
  readAll (dateParts ++ [.blanks]) s.toList >>= Fields.date?

open Time in
/-- The instant of a date, a separating letter or blank, a time of day and an offset. -/
def Instant.ofChars? (s : List Char) : Option Instant := do
  let (f, rest) ← readParts {} s dateParts
  let rest ← match rest with
    | c :: rest => if c = 'T' ∨ c = 't' ∨ c = ' ' then some rest else none
    | [] => none
  let (f, rest) ← readParts f rest clockParts
  let (offset, rest) ← readOffset rest
  if (Text.trimStart rest).isEmpty then (← f.instant?).minusOffset? offset else none

def Instant.ofText? (s : String) : Option Instant := Instant.ofChars? s.toList

end CardPayments
