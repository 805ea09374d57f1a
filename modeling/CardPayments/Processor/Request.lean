import CardPayments.Payment
import CardPayments.Transaction

/-!
# Requests to the processor

The five things that a gateway asks the processor for, what the processor may fail with, and the
JSON bodies of the requests.
-/

namespace CardPayments

inductive ApiError where
  /-- No complete answer, or one that reports a failure; the status is that of the answer if there
  was one. -/
  | transport (status : Option Nat) (message : String)
  /-- A successful answer that says nothing the gateway understands. -/
  | decode (detail : String)
  /-- The client could not be set up. -/
  | client (detail : String)
deriving DecidableEq

def ApiError.message : ApiError → String
  | .transport _ message => message
  | .decode detail => "Invalid JSON response from Helcim API: " ++ detail
  | .client detail => "Failed to build HTTP client: " ++ detail

/-- A charge of a checkout token, which also captures the money or leaves it authorized. -/
structure Charge where
  token : String
  amount : Decimal
  currency : String
  captures : Bool
  orderId : String
  customerCode : String
deriving DecidableEq

inductive Request where
  | process (charge : Charge)
  | capture (transactionId : String) (amount : Decimal)
  | void (transactionId : String)
  | refund (transactionId : String) (amount : Decimal)
  | get (transactionId : String)
deriving DecidableEq

namespace Request

def name : Request → String
  | .process _ => "process"
  | .capture _ _ => "capture"
  | .void _ => "void"
  | .refund _ _ => "refund"
  | .get _ => "get"

def idBody (id : String) : Json := .obj [("transactionId", .str id)]

def amountBody (id : String) (amount : Decimal) : Json :=
  .obj [("transactionId", .str id), ("amount", .str amount.text)]

def chargeBody (c : Charge) : Json :=
  .obj [("token", .str c.token), ("amount", .str c.amount.text), ("currency", .str c.currency),
    ("type", .str (if c.captures then "purchase" else "preauth")), ("orderId", .str c.orderId),
    ("customerCode", .str c.customerCode)]

/-- What is sent along; a mere look-up sends nothing. -/
def body? : Request → Option Json
  | .process c => some (chargeBody c)
  | .capture id amount => some (amountBody id amount)
  | .void id => some (idBody id)
  | .refund id amount => some (amountBody id amount)
  | .get _ => none

end Request

abbrev Processor := Request → Except ApiError Transaction

end CardPayments
