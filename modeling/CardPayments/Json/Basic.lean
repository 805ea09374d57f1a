import CardPayments.Text.Basic

/-!
# JSON documents

A document is kept as it was written: numbers as their digits, the members of an object in order and
with repetitions. What a record makes of them is decided when the record is read. A string may spell
half of a surrogate pair, which names no text; such a string, or an object with such a member name,
is `unreadable`. It does no harm where nobody reads it.
-/

namespace CardPayments

structure Numeral where
  negative : Bool
  whole : List Char
  fraction : Option (List Char)
  /-- Whether the exponent is negative, and its digits. -/
  exponent : Option (Bool × List Char)
deriving DecidableEq

namespace Numeral

def ofNat (n : Nat) : Numeral := ⟨false, Text.digits n, none, none⟩

def ofInt (n : Int) : Numeral := ⟨n < 0, Text.digits n.natAbs, none, none⟩

/-- Digits before the point without a superfluous zero, and at least one digit wherever digits
belong. -/
def WellFormed (n : Numeral) : Prop :=
  (n.whole ≠ [] ∧ (∀ c ∈ n.whole, c.isDigit = true) ∧
   (n.whole.head? = some '0' → n.whole = ['0'])) ∧
    (∀ ds ∈ n.fraction, ds ≠ [] ∧ ∀ c ∈ ds, c.isDigit = true) ∧
    ∀ e ∈ n.exponent, e.2 ≠ [] ∧ ∀ c ∈ e.2, c.isDigit = true

end Numeral

inductive Json where
  | null
  | bool (value : Bool)
  | num (value : Numeral)
  | str (value : String)
  | unreadable
  | arr (items : List Json)
  | obj (members : List (String × Json))
deriving Inhabited

namespace Json

def ofNat (n : Nat) : Json := .num (.ofNat n)

def ofInt (n : Int) : Json := .num (.ofInt n)

def ofOption {α : Type} (f : α → Json) : Option α → Json
  | some a => f a
  | none => .null

/-- The value of the first member of this name. -/
def member? (name : String) : Json → Option Json
  | .obj members => (members.find? fun m => m.1 == name).map Prod.snd
  | _ => none

def string? : Json → Option String
  | .str s => some s
  | _ => none

end Json

end CardPayments
