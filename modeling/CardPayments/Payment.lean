import CardPayments.Config
import CardPayments.Price
import CardPayments.Time.Pattern

/-!
# Payments

A payment belongs to an order and moves through six states: new, authorized, completed, refunded in
part or in whole, or its authorization voided. It carries the processor's name for the transaction
and how much of its amount was given back.
-/

namespace CardPayments

inductive PaymentState where
  | new
  | authorization
  | completed
  | partiallyRefunded
  | refunded
  | authorizationVoided
deriving DecidableEq, Inhabited, Repr

namespace PaymentState

def all : List PaymentState :=
  [.new, .authorization, .completed, .partiallyRefunded, .refunded, .authorizationVoided]

theorem mem_all (s : PaymentState) : s ∈ all := by
  cases s <;> decide

def name : PaymentState → String
  | .new => "new"
  | .authorization => "authorization"
  | .completed => "completed"
  | .partiallyRefunded => "partially_refunded"
  | .refunded => "refunded"
  | .authorizationVoided => "authorization_voided"

def ofName? (s : String) : Option PaymentState := all.find? fun state => state.name == s

/-- No operation leads out of these states. -/
def isTerminal : PaymentState → Bool
  | .refunded => true
  | .authorizationVoided => true
  | _ => false

def toJson (s : PaymentState) : Json := .str s.name

def ofJson? (j : Json) : Option PaymentState := j.choice? >>= ofName?

theorem ofJson?_toJson (s : PaymentState) : ofJson? s.toJson = some s := by
  cases s <;> decide

end PaymentState

structure Payment where
  id : Option UInt64
  orderId : String
  amount : Price
  state : PaymentState
  remoteId : Option String
  remoteState : Option String
  refundedAmount : Price
  authorizedTime : Option Instant
  capturedTime : Option Instant
  gatewayMode : Option Mode
deriving DecidableEq, Inhabited

namespace Payment

def begin (orderId : String) (amount : Price) : Payment :=
  { id := none
    orderId
    amount
    state := .new
    remoteId := none
    remoteState := none
    refundedAmount := Price.zero amount.currency
    authorizedTime := none
    capturedTime := none
    gatewayMode := none }

def withRemoteId (p : Payment) (remoteId : String) : Payment := { p with remoteId := some remoteId }

/-- What has not been given back of the amount. -/
def balance (p : Payment) : Except (Stop PriceError) Price := p.amount.subtract p.refundedAmount

/-! ### The record -/

def fieldNames : List String :=
  ["id", "order_id", "amount", "state", "remote_id", "remote_state", "refunded_amount",
   "authorized_time", "captured_time", "gateway_mode"]

def instantOfJson? (j : Json) : Option Instant := j.string? >>= Instant.ofText?

def toJson (p : Payment) : Json :=
  .obj ([("id", Json.ofOption (fun id : UInt64 => Json.ofNat id.toNat) p.id),
    ("order_id", .str p.orderId), ("amount", p.amount.toJson), ("state", p.state.toJson),
    ("remote_id", Json.ofOption Json.str p.remoteId),
    ("remote_state", Json.ofOption Json.str p.remoteState),
    ("refunded_amount", p.refundedAmount.toJson),
    ("authorized_time", Json.ofOption (fun t : Instant => .str t.text) p.authorizedTime),
    ("captured_time", Json.ofOption (fun t : Instant => .str t.text) p.capturedTime)] ++
    p.gatewayMode.toList.map fun mode => ("gateway_mode", mode.toJson))

def ofJson? (j : Json) : Option Payment := do
  match ← j.fields? fieldNames 10 with
  | [id, orderId, amount, state, remoteId, remoteState, refundedAmount, authorizedTime,
    capturedTime, gatewayMode] =>
    some ⟨← Json.optional Json.uint64? id, ← Json.required Json.string? orderId,
      ← Json.required Price.ofJson? amount, ← Json.required PaymentState.ofJson? state,
      ← Json.optional Json.string? remoteId, ← Json.optional Json.string? remoteState,
      ← Json.required Price.ofJson? refundedAmount,
      ← Json.optional instantOfJson? authorizedTime, ← Json.optional instantOfJson? capturedTime,
      ← Json.optional Mode.ofJson? gatewayMode⟩
  | _ => none

end Payment

end CardPayments
