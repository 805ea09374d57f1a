import CardPayments.Decimal.Arithmetic
import CardPayments.Json.Record
import CardPayments.Text.Basic

/-!
# Prices

A price is a decimal amount in a currency. Prices of two currencies are neither added nor compared.
In JSON the amount is written as a string, so that no digit of it is lost on the way.
-/

namespace CardPayments

/-- What stops an operation: an error that its caller is told of, or a sum that no decimal can hold.
-/
inductive Stop (ε : Type) where
  | error (cause : ε)
  | overflow (operation : Overflow)
deriving DecidableEq, Repr

namespace Stop

def map {ε δ : Type} (f : ε → δ) : Stop ε → Stop δ
  | .error cause => .error (f cause)
  | .overflow operation => .overflow operation

end Stop

inductive PriceError where
  | currencyMismatch (left right : String)
  | invalidNumber (written : String)
deriving DecidableEq, Repr

def PriceError.message : PriceError → String
  | .currencyMismatch left right => "Currency mismatch: " ++ left ++ " and " ++ right
  | .invalidNumber written => "Invalid amount '" ++ written ++ "'"

structure Price where
  number : Decimal
  currency : String
deriving DecidableEq, Inhabited

namespace Price

/-- The price of a written amount, blanks around it aside. -/
def parse (number currency : String) : Except PriceError Price :=
  match Decimal.ofText? (Text.trim number) with
  | some d => .ok ⟨d, currency⟩
  | none => .error (.invalidNumber number)

def zero (currency : String) : Price := ⟨Decimal.zero, currency⟩

def isZero (p : Price) : Bool := p.number.isZero

def isPositive (p : Price) : Bool := 0 < p.number.coefficient

def sameCurrency (a b : Price) : Except PriceError Unit :=
  if a.currency = b.currency then .ok () else .error (.currencyMismatch a.currency b.currency)

/-- The price of an amount that may be out of bounds. -/
def ofAmount (operation : Overflow) (currency : String) :
    Option Decimal → Except (Stop PriceError) Price
  | some d => .ok ⟨d, currency⟩
  | none => .error (.overflow operation)

def add (a b : Price) : Except (Stop PriceError) Price := do
  (a.sameCurrency b).mapError .error
  ofAmount .addition a.currency (a.number.add? b.number)

def subtract (a b : Price) : Except (Stop PriceError) Price := do
  (a.sameCurrency b).mapError .error
  ofAmount .subtraction a.currency (a.number.sub? b.number)

def lessThan (a b : Price) : Except PriceError Bool := do
  a.sameCurrency b
  return a.number < b.number

def greaterThan (a b : Price) : Except PriceError Bool := do
  a.sameCurrency b
  return b.number < a.number

/-- The same amount in the same currency. -/
def Same (a b : Price) : Prop := a.number.SameAmount b.number ∧ a.currency = b.currency

instance (a b : Price) : Decidable (Same a b) :=
  inferInstanceAs (Decidable (a.number.SameAmount b.number ∧ a.currency = b.currency))

def fixedText (p : Price) : String := p.number.fixedText

def display (p : Price) : String := p.fixedText ++ " " ++ p.currency

/-! ### The record -/

def toJson (p : Price) : Json :=
  .obj [("number", .str p.number.text), ("currency_code", .str p.currency)]

def ofJson? (j : Json) : Option Price := do
  match ← j.fields? ["number", "currency_code"] 2 with
  | [number, currency] =>
    some ⟨← Json.required Json.decimal? number, ← Json.required Json.string? currency⟩
  | _ => none

end Price

end CardPayments
