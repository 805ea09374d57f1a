import CardPayments.Card
import CardPayments.Ledger
import CardPayments.Processor.Request

/-!
# Failures of payment operations

Why an operation on a payment did not happen. Every failure has a message with all details.
Customers see that message where the cause is theirs to know, and a general one where it lies in the
processor's answer, the configuration or the storage.
-/

namespace CardPayments

inductive Operation where
  | process
  | capture
  | void
  | refund
  | refresh
deriving DecidableEq, Repr

def Operation.name : Operation → String
  | .process => "process"
  | .capture => "capture"
  | .void => "void"
  | .refund => "refund"
  | .refresh => "refresh"

/-- What speaks against an operation on the payment as it stands. -/
inductive Obstacle where
  | wrongState (state : PaymentState) (expected : List PaymentState)
  | otherOrder (own asked : String)
  | otherCurrency (asked own : String)
  | notPositive (amount : Price)
  | aboveAuthorized (amount authorized : Price)
  | aboveBalance (amount balance : Price)
  | noTransaction
  | notProcessed
deriving DecidableEq

def Obstacle.message (operation : Operation) : Obstacle → String
  | .wrongState state expected =>
    "state is '" ++ state.name ++ "', expected one of: " ++
      ", ".intercalate (expected.map PaymentState.name)
  | .otherOrder own asked => "payment belongs to order " ++ own ++ ", not " ++ asked
  | .otherCurrency asked own =>
    "amount currency " ++ asked ++ " does not match payment currency " ++ own
  | .notPositive amount => operation.name ++ " amount " ++ amount.display ++ " must be positive"
  | .aboveAuthorized amount authorized =>
    operation.name ++ " amount " ++ amount.display ++ " exceeds authorized amount " ++
      authorized.display
  | .aboveBalance amount balance =>
    operation.name ++ " amount " ++ amount.display ++ " exceeds remaining balance " ++
      balance.display
  | .noTransaction => "payment has no remote transaction id"
  | .notProcessed => "payment has not been processed yet"

inductive Failure where
  | transport (message : String)
  | decode (detail : String)
  | declined (operation : Operation) (message : String)
  | precondition (operation : Operation) (obstacle : Obstacle)
  | untrusted (orderId : String)
  | missingToken
  | mockTokenRejected
  | invalidCard (problems : List CardProblem)
  | config (cause : ConfigError)
  | price (cause : PriceError)
  | ledger (cause : LedgerError)
deriving DecidableEq

namespace Failure

def message : Failure → String
  | .transport message => message
  | .decode detail => "Invalid JSON response from Helcim API: " ++ detail
  | .declined _ message => message
  | .precondition operation obstacle =>
    "Cannot " ++ operation.name ++ " payment: " ++ obstacle.message operation
  | .untrusted _ => "Payment origin has not been verified."
  | .missingToken => "No Helcim token found for this payment."
  | .mockTokenRejected => "Mock checkout tokens are not accepted by this gateway."
  | .invalidCard problems => " ".intercalate (problems.map CardProblem.message)
  | .config cause => cause.message
  | .price cause => cause.message
  | .ledger cause => cause.message

/-- What customers read of failures that are not theirs to mend. -/
def genericMessage : String := "Payment processing failed. Please try again."

def userMessage (f : Failure) : String :=
  match f with
  | .transport _ => genericMessage
  | .decode _ => genericMessage
  | .missingToken => genericMessage
  | .ledger _ => genericMessage
  | .config _ => genericMessage
  | _ => f.message

def ofApiError (e : ApiError) : Failure :=
  match e with
  | .decode detail => .decode detail
  | _ => .transport e.message

end Failure

def Failure.stop {α : Type} (f : Failure) : Except (Stop Failure) α := .error (.error f)

/-- A price operation as a step of a payment operation. -/
def Price.step {α : Type} (result : Except (Stop PriceError) α) : Except (Stop Failure) α :=
  result.mapError (Stop.map Failure.price)

/-- A comparison of prices as a step of a payment operation. -/
def Price.check {α : Type} (result : Except PriceError α) : Except (Stop Failure) α :=
  result.mapError fun e => .error (.price e)

end CardPayments
