import CardPayments.Time.Date

/-!
# Instants

A point in time in UTC: a date, a second of the day and a fraction of that second in nanoseconds.
The last second of a minute may run on for a second more, the leap second; a fraction of a thousand
million nanoseconds or more is in it, and it is written as second 60. The instants of chrono may
have such a fraction behind any other second as well; no clock and no text gives one of those, and
they are left out.
-/

namespace CardPayments

abbrev nanosPerSecond : Nat := 1000000000

abbrev secondsPerDay : Nat := 86400

structure Instant where
  date : Date
  second : Nat
  nano : Nat
  second_lt : second < 86400
  nano_lt : nano < 2000000000
  leap_at_end : 1000000000 ≤ nano → second % 60 = 59
deriving DecidableEq

namespace Instant

def ofParts? (date : Date) (second nano : Nat) : Option Instant :=
  if h : second < 86400 ∧ nano < 2000000000 ∧ (1000000000 ≤ nano → second % 60 = 59) then
    some ⟨date, second, nano, h.1, h.2.1, h.2.2⟩
  else none

/-- The instant of a date and a time of day; second 60 of a minute is its leap second. -/
def ofClock? (date : Date) (hour minute second nano : Nat) : Option Instant :=
  if hour < 24 ∧ minute < 60 ∧ second ≤ 60 ∧ nano < nanosPerSecond then
    if second = 60 then ofParts? date (hour * 3600 + minute * 60 + 59) (nano + nanosPerSecond)
    else ofParts? date (hour * 3600 + minute * 60 + second) nano
  else none

instance : Inhabited Instant := ⟨⟨Date.epoch, 0, 0, by decide, by decide, by decide⟩⟩

/-- The instant as many seconds earlier as the offset says, which is less than a day either way. -/
def minusOffset? (t : Instant) (offset : Int) : Option Instant := do
  let second : Int := t.second - offset
  if second < 0 then ofParts? (← t.date.previous?) (second + secondsPerDay).toNat t.nano
  else if second < secondsPerDay then ofParts? t.date second.toNat t.nano
  else ofParts? (← t.date.next?) (second - secondsPerDay).toNat t.nano

/-- The milliseconds since the epoch, rounded down; those of a leap second count on from its start.
-/
def millis (t : Instant) : Int :=
  t.date.dayNumber * 86400000 + (t.second * 1000 : Nat) + (t.nano / 1000000 : Nat)

/-! ### The written form -/

/-- The fraction in three, six or nine digits, as many as it needs. -/
def fractionChars (nano : Nat) : List Char :=
  if nano = 0 then []
  else if nano % 1000000 = 0 then '.' :: Text.fixedDigits 3 (nano / 1000000)
  else if nano % 1000 = 0 then '.' :: Text.fixedDigits 6 (nano / 1000)
  else '.' :: Text.fixedDigits 9 nano

def clockChars (t : Instant) : List Char :=
  Text.fixedDigits 2 (t.second / 3600) ++ ':' :: Text.fixedDigits 2 (t.second / 60 % 60) ++
    ':' :: Text.fixedDigits 2 (t.second % 60 + t.nano / nanosPerSecond) ++
      fractionChars (t.nano % nanosPerSecond)

def chars (t : Instant) : List Char := t.date.chars ++ 'T' :: t.clockChars ++ ['Z']

def text (t : Instant) : String := String.ofList t.chars

end Instant

end CardPayments
