import CardPayments.Config.Shown
import CardPayments.Text.Basic
import CardPayments.Text.Utf8
import CardPayments.Time.Date

/-!
# Cards

Card data as a customer types it. The brand follows from the first digits, blanks aside, and decides
how long the verification code may be. A card is checked field by field and all problems are
reported together, in a fixed order.
-/

namespace CardPayments

inductive CardType where
  | visa
  | mastercard
  | amex
  | discover
  | unknown
deriving DecidableEq, Inhabited, Repr

namespace CardType

def ofDigits : List Char → CardType
  | '4' :: _ => .visa
  | '3' :: '4' :: _ => .amex
  | '3' :: '7' :: _ => .amex
  | '5' :: _ => .mastercard
  | '2' :: _ => .mastercard
  | '6' :: _ => .discover
  | _ => .unknown

def detect (number : String) : CardType := ofDigits (Text.withoutBlanks number)

def maxCvv : CardType → Nat
  | .amex => 4
  | _ => 3

/-- The name on display; an unknown brand has none. -/
def label : CardType → String
  | .visa => "visa"
  | .mastercard => "mastercard"
  | .amex => "amex"
  | .discover => "discover"
  | .unknown => ""

end CardType

/-! ### Numbers in groups -/

/-- Cuts a text into groups of four, the last of which may be shorter; `fuel` bounds their number.
-/
def groupsOfFour : (fuel : Nat) → List Char → List (List Char)
  | 0, _ => []
  | _ + 1, [] => []
  | fuel + 1, c :: rest => (c :: rest).take 4 :: groupsOfFour fuel ((c :: rest).drop 4)

/-- The number without its own blanks, in groups of four with a blank between them. -/
def formatCardNumber (number : String) : String :=
  let digits := Text.withoutBlanks number
  String.ofList ([' '].intercalate (groupsOfFour digits.length digits))

/-! ### Checks -/

structure Card where
  number : String
  expMonth : Option UInt32
  expYear : Option Int32
  cvv : String
  holderName : String
deriving DecidableEq

inductive CardProblem where
  | number
  | expiryMissing
  | expired
  | cvv
  | holderName
deriving DecidableEq, Repr

def CardProblem.message : CardProblem → String
  | .number => "Please enter a valid card number."
  | .expiryMissing => "Please select expiry month and year."
  | .expired => "Card has expired."
  | .cvv => "Please enter a valid CVV."
  | .holderName => "Please enter the cardholder name."

namespace Card

def cardType (c : Card) : CardType := .detect c.number

def last4 (c : Card) : List Char :=
  let digits := Text.withoutBlanks c.number
  digits.drop (digits.length - 4)

/-- The number as developers see it, with the expiry date and nothing else of the card. -/
def shown (c : Card) : String :=
  "CardDetails \x7b last4: " ++ Shown.quotedChars c.last4 ++
    ", exp_month: " ++ Shown.option (fun n : UInt32 => toString n.toNat) c.expMonth ++
    ", exp_year: " ++ Shown.option (fun n : Int32 => toString n.toInt) c.expYear ++ ", .. \x7d"

/-- At least thirteen digits and nothing else, blanks aside. -/
def numberProblem? (c : Card) : Option CardProblem :=
  let digits := Text.withoutBlanks c.number
  if (Text.utf8 digits).length < 13 || !digits.all Char.isDigit then some .number else none

/-- A month of the year and a year, and not before the present month. -/
def expiryProblem? (c : Card) (today : Date) : Option CardProblem :=
  match c.expMonth, c.expYear with
  | some month, some year =>
    let month := month.toNat
    let year := year.toInt
    if 1 ≤ month ∧ month ≤ 12 then
      if year < today.year ∨ (year = today.year ∧ month < today.month) then some .expired else none
    else some .expiryMissing
  | _, _ => some .expiryMissing

/-- From three digits up to as many as the brand allows, blanks around them aside. -/
def cvvProblem? (c : Card) : Option CardProblem :=
  let code := (Text.trim c.cvv).toList
  let size := (Text.utf8 code).length
  if size < 3 || c.cardType.maxCvv < size || !code.all Char.isDigit then some .cvv else none

/-- At least two characters, blanks around them aside. -/
def holderProblem? (c : Card) : Option CardProblem :=
  if (Text.trim c.holderName).toList.length < 2 then some .holderName else none

/-- All problems of the card, which is good through the last day of its month. -/
def problems (c : Card) (today : Date) : List CardProblem :=
  c.numberProblem?.toList ++ (c.expiryProblem? today).toList ++ c.cvvProblem?.toList ++
    c.holderProblem?.toList

def validate (c : Card) (today : Date) : Except (List CardProblem) Unit :=
  if (c.problems today).isEmpty then .ok () else .error (c.problems today)

end Card

/-! ### Choices -/

def monthOptions : List String :=
  (List.range 12).map fun m => String.ofList (Text.fixedDigits 2 (m + 1))

abbrev yearsAhead : Nat := 10

def yearOptions (currentYear : Int) : List Int :=
  (List.range (yearsAhead + 1)).map fun n => currentYear + (n : Nat)

end CardPayments
