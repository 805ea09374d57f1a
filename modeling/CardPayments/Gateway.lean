import CardPayments.Gateway.Failure
import CardPayments.Order

/-!
# The gateway

Operations on a payment. Each has a plan: checks on the payment as it stands, then one request, and
what becomes of the payment on the processor's answer. A plan is carried out in two stages. The
first ends with the request; while the operation waits for the answer, others may use the ledger.
The second makes of the answer what the plan says, and stores the changed payment in the ledger
before the caller has it.

| Operation | From | To |
|---|---|---|
| create, capturing | new | completed |
| create, authorizing | new | authorization |
| capture | authorization | completed |
| void | authorization | authorization voided |
| refund | completed, partially refunded | partially refunded, refunded |
| refresh | any but new | unchanged |
-/

namespace CardPayments

inductive NoticeLevel where
  | status
  | warning
  | error
deriving DecidableEq, Repr

def NoticeLevel.name : NoticeLevel → String
  | .status => "status"
  | .warning => "warning"
  | .error => "error"

structure Notice where
  level : NoticeLevel
  message : String
deriving DecidableEq

/-- A gateway at work: its settings, the processor, the time, and whether its build knows mock
tokens. -/
structure Gateway where
  config : Config
  processor : Processor
  now : Instant
  knowsMockTokens : Bool

/-- What an operation leaves behind: its result, the payment and the ledger after it, the requests
it made and the notices it gave. -/
structure Outcome (α : Type) where
  result : Except (Stop Failure) α
  payment : Payment
  ledger : Ledger
  requests : List Request
  notices : List Notice

namespace Outcome

def map {α β : Type} (f : α → β) (o : Outcome α) : Outcome β := { o with result := o.result.map f }

/-- Nothing has happened but the reason for it. -/
def refused {α : Type} (stop : Stop Failure) (payment : Payment) (ledger : Ledger) : Outcome α :=
  ⟨.error stop, payment, ledger, [], []⟩

end Outcome

/-- What an operation asks of the processor, and the payment to store on its answer, if there is
anything to store. -/
structure Plan where
  request : Request
  settle : Transaction → Except (Stop Failure) (Option Payment)

/-! ### Checks -/

def requireState (operation : Operation) (payment : Payment) (expected : List PaymentState) :
    Except (Stop Failure) Unit :=
  if payment.state ∈ expected then .ok ()
  else (Failure.precondition operation (.wrongState payment.state expected)).stop

/-- The id of the payment's transaction. -/
def requireTransaction (operation : Operation) (payment : Payment) : Except (Stop Failure) String :=
  match payment.remoteId with
  | some id => if id.isEmpty then (Failure.precondition operation .noTransaction).stop else .ok id
  | none => (Failure.precondition operation .noTransaction).stop

/-- The token to charge, which a payment carries in the place of the transaction's id. -/
def requireToken (payment : Payment) : Except (Stop Failure) String :=
  match payment.remoteId with
  | some token => if token.isEmpty then Failure.missingToken.stop else .ok token
  | none => Failure.missingToken.stop

def requireCurrency (operation : Operation) (payment : Payment) (amount : Price) :
    Except (Stop Failure) Unit :=
  if payment.amount.currency = amount.currency then .ok ()
  else
    let obstacle := Obstacle.otherCurrency amount.currency payment.amount.currency
    (Failure.precondition operation obstacle).stop

def requirePositive (operation : Operation) (amount : Price) : Except (Stop Failure) Unit :=
  if amount.isPositive then .ok () else (Failure.precondition operation (.notPositive amount)).stop

/-- The processor approved; otherwise its own message counts, or the given one if it has none. -/
def requireApproval (operation : Operation) (answer : Transaction) (otherwise : String) :
    Except (Stop Failure) Unit :=
  if answer.status.isApproved then .ok ()
  else
    match answer.message with
    | some message =>
      (Failure.declined operation (if message.isEmpty then otherwise else message)).stop
    | none => (Failure.declined operation otherwise).stop

/-! ### Plans -/

namespace Plan

/-- Charges the payment's token; `captures` says whether the money is captured at once. -/
def create (config : Config) (now : Instant) (payment : Payment) (order : Order) (captures : Bool) :
    Except (Stop Failure) Plan := do
  requireState .process payment [.new]
  if order.id ≠ payment.orderId then
    (Failure.precondition .process (.otherOrder payment.orderId order.id)).stop
  let token ← requireToken payment
  return {
    request := .process
      ⟨token, payment.amount.number, payment.amount.currency, captures, order.id, order.customerId⟩
    settle := fun answer => do
      requireApproval .process answer "Payment was declined."
      match answer.transactionId with
      | none => (Failure.decode "approved response without transactionId").stop
      | some id =>
        return some { payment with
          state := if captures then .completed else .authorization
          remoteId := some id
          remoteState := some answer.status.text
          authorizedTime := some now
          capturedTime := if captures then some now else payment.capturedTime
          gatewayMode := some config.mode } }

/-- Captures an authorized payment, all of it or a given part. -/
def capture (now : Instant) (payment : Payment) (amount : Option Price) :
    Except (Stop Failure) Plan := do
  requireState .capture payment [.authorization]
  let amount := amount.getD payment.amount
  requireCurrency .capture payment amount
  requirePositive .capture amount
  if ← Price.check (amount.greaterThan payment.amount) then
    (Failure.precondition .capture (.aboveAuthorized amount payment.amount)).stop
  let id ← requireTransaction .capture payment
  return {
    request := .capture id amount.number
    settle := fun answer => do
      requireApproval .capture answer "Capture failed."
      return some { payment with
        state := .completed
        amount := amount
        capturedTime := some now
        remoteState := some answer.status.text } }

def void (payment : Payment) : Except (Stop Failure) Plan := do
  requireState .void payment [.authorization]
  let id ← requireTransaction .void payment
  return {
    request := .void id
    settle := fun answer => do
      requireApproval .void answer "Void failed."
      return some { payment with
        state := .authorizationVoided, remoteState := some answer.status.text } }

/-- Gives captured money back, all that is left or a given part of it. -/
def refund (payment : Payment) (amount : Option Price) : Except (Stop Failure) Plan := do
  requireState .refund payment [.completed, .partiallyRefunded]
  let balance ← Price.step payment.balance
  let amount := amount.getD balance
  requireCurrency .refund payment amount
  requirePositive .refund amount
  if ← Price.check (amount.greaterThan balance) then
    (Failure.precondition .refund (.aboveBalance amount balance)).stop
  let id ← requireTransaction .refund payment
  return {
    request := .refund id amount.number
    settle := fun answer => do
      requireApproval .refund answer "Refund failed."
      let refunded ← Price.step (payment.refundedAmount.add amount)
      let isPartial ← Price.check (refunded.lessThan payment.amount)
      return some { payment with
        state := if isPartial then .partiallyRefunded else .refunded
        refundedAmount := refunded } }

/-- Looks up the transaction; only a status other than the recorded one is worth storing. -/
def refresh (payment : Payment) : Except (Stop Failure) Plan := do
  if payment.state = .new then (Failure.precondition .refresh .notProcessed).stop
  let id ← requireTransaction .refresh payment
  return {
    request := .get id
    settle := fun answer =>
      if payment.remoteState = some answer.status.text then .ok none
      else .ok (some { payment with remoteState := some answer.status.text }) }

end Plan

/-! ### Operations -/

/-- How far an operation has come: the caller's payment, the ledger, and the requests it made. -/
structure Progress where
  payment : Payment
  ledger : Ledger
  requests : List Request

/-- A stage of an operation. What it changed stays changed where it fails. -/
abbrev Stage := ExceptT (Stop Failure) (StateM Progress)

namespace Stage

/-- Sends a request, which stays on record whatever the processor answers. -/
def call (processor : Processor) (request : Request) : Stage (Except ApiError Transaction) := do
  modify fun s => { s with requests := s.requests ++ [request] }
  return processor request

/-- Stores the payment, and only then replaces the caller's copy. -/
def commit (updated : Payment) : Stage Unit := do
  let progress ← get
  match progress.ledger.save updated with
  | .error e => throw (.error (.ledger e))
  | .ok (stored, ledger) => set { progress with payment := stored, ledger := ledger }

/-- Goes on with a plan when the processor has answered, and stores what comes of the answer. -/
def conclude (plan : Plan) : Except ApiError Transaction → Stage Transaction
  | .error e => throw (.error (.ofApiError e))
  | .ok answer => do
    if let some updated ← MonadExcept.ofExcept (plan.settle answer) then commit updated
    return answer

def outcome {α : Type} (stage : Stage α) (before : Progress) : Outcome α :=
  let ended := stage.run.run before
  ⟨ended.1, ended.2.payment, ended.2.ledger, ended.2.requests, []⟩

end Stage

namespace Gateway

/-- Carries out a plan, if there is one. -/
def perform (g : Gateway) (payment : Payment) (ledger : Ledger)
    (plan : Except (Stop Failure) Plan) : Outcome Transaction :=
  let stage : Stage Transaction := do
    let plan ← MonadExcept.ofExcept plan
    let answer ← Stage.call g.processor plan.request
    Stage.conclude plan answer
  stage.outcome ⟨payment, ledger, []⟩

def create (g : Gateway) (payment : Payment) (ledger : Ledger) (order : Order) (captures : Bool) :
    Outcome Transaction :=
  g.perform payment ledger (Plan.create g.config g.now payment order captures)

def capture (g : Gateway) (payment : Payment) (ledger : Ledger) (amount : Option Price) :
    Outcome Transaction :=
  g.perform payment ledger (Plan.capture g.now payment amount)

def void (g : Gateway) (payment : Payment) (ledger : Ledger) : Outcome Transaction :=
  g.perform payment ledger (Plan.void payment)

def refund (g : Gateway) (payment : Payment) (ledger : Ledger) (amount : Option Price) :
    Outcome Transaction :=
  g.perform payment ledger (Plan.refund payment amount)

def refresh (g : Gateway) (payment : Payment) (ledger : Ledger) : Outcome Transaction :=
  g.perform payment ledger (Plan.refresh payment)

end Gateway

end CardPayments
