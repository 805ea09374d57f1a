import CardPayments.Form
import CardPayments.Json.Record

/-!
# Checkout submissions

The fields of the checkout form: the token and a summary of the card.
-/

namespace CardPayments

structure Submission where
  token : String
  cardType : Option String
  last4 : Option String
  expMonth : Option String
  expYear : Option String
deriving DecidableEq, Inhabited

namespace Submission

/-- The submission in a posted form; parts of the summary that are empty are missing. -/
def ofForm (f : Form) : Submission :=
  let optional (key : String) : Option String := (f.get? key).filter fun v => !v.isEmpty
  { token := (f.get? "helcim_token").getD ""
    cardType := optional "card_type"
    last4 := optional "last4"
    expMonth := optional "exp_month"
    expYear := optional "exp_year" }

def summaryJson (s : Submission) : List (String × Json) :=
  [("card_type", Json.ofOption Json.str s.cardType), ("last4", Json.ofOption Json.str s.last4),
   ("exp_month", Json.ofOption Json.str s.expMonth), ("exp_year", Json.ofOption Json.str s.expYear)]

def toJson (s : Submission) : Json := .obj (("helcim_token", .str s.token) :: s.summaryJson)

def ofJson? (j : Json) : Option Submission := do
  match ← j.fields? ["helcim_token", "card_type", "last4", "exp_month", "exp_year"] 0 with
  | [token, cardType, last4, expMonth, expYear] =>
    some ⟨← Json.defaulted "" Json.string? token, ← Json.optional Json.string? cardType,
      ← Json.optional Json.string? last4, ← Json.optional Json.string? expMonth,
      ← Json.optional Json.string? expYear⟩
  | _ => none

end Submission

end CardPayments
