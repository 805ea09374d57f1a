import CardPayments.Checkout.Submission
import CardPayments.Checkout.Token
import CardPayments.Gateway

/-!
# The checkout form

A submitted checkout charges its token and captures the money at once. A mock token completes the
payment without the processor, in builds that know such tokens and gateways in test mode. Every
submission ends in one notice to the customer.
-/

namespace CardPayments

/-- What the script in the customer's browser is set up with. -/
structure TokenizerSettings where
  token : String
  test : Bool
  amount : Decimal
  currency : String
deriving DecidableEq

structure PaymentMethod where
  remoteId : String
  cardType : Option String
  last4 : Option String
  expMonth : Option String
  expYear : Option String
deriving DecidableEq

def TokenizerSettings.toJson (s : TokenizerSettings) : Json :=
  .obj [("token", .str s.token), ("test", .bool s.test), ("amount", .str s.amount.text),
    ("currency", .str s.currency)]

def PaymentMethod.toJson (m : PaymentMethod) : Json :=
  .obj [("remote_id", .str m.remoteId), ("card_type", Json.ofOption Json.str m.cardType),
    ("last4", Json.ofOption Json.str m.last4), ("exp_month", Json.ofOption Json.str m.expMonth),
    ("exp_year", Json.ofOption Json.str m.expYear)]

namespace Gateway

def mockTokensEnabled (g : Gateway) : Bool := g.knowsMockTokens && g.config.mode.isTest

def tokenizerSettings (g : Gateway) (payment : Payment) : TokenizerSettings :=
  ⟨g.config.secretKey, g.config.mode.isTest, payment.amount.number, payment.amount.currency⟩

/-- The payment completed at present under a mock token, if it is new. -/
def completedWithMock (g : Gateway) (payment : Payment) (token : String) :
    Except (Stop Failure) Payment := do
  if !g.mockTokensEnabled then Failure.mockTokenRejected.stop
  requireState .process payment [.new]
  return { payment with
    state := .completed
    remoteId := some token
    remoteState := some "APPROVED"
    authorizedTime := some g.now
    capturedTime := some g.now
    gatewayMode := some g.config.mode }

def submitMock (g : Gateway) (payment : Payment) (ledger : Ledger) (token : String) :
    Outcome Unit :=
  match g.completedWithMock payment token with
  | .error stop => .refused stop payment ledger
  | .ok updated =>
    match ledger.save updated with
    | .error e => .refused (.error (.ledger e)) payment ledger
    | .ok (stored, ledger) =>
      ⟨.ok (), stored, ledger, [], [⟨.status, "Payment completed successfully (Test Mode)."⟩]⟩

/-- Charges a token of the processor. The payment carries it only while it is charged. -/
def submitProvider (g : Gateway) (payment : Payment) (ledger : Ledger) (order : Order)
    (token : String) :
    Outcome Unit :=
  let charged := g.create (payment.withRemoteId token) ledger order true
  match charged.result with
  | .error stop => ⟨.error stop, payment, charged.ledger, charged.requests, charged.notices⟩
  | .ok _ =>
    ⟨.ok (), charged.payment, charged.ledger, charged.requests,
      charged.notices ++ [⟨.status, "Payment processed successfully."⟩]⟩

def submitToken (g : Gateway) (payment : Payment) (ledger : Ledger) (order : Order)
    (submission : Submission) :
    Outcome Unit :=
  match CheckoutToken.parse g.knowsMockTokens submission.token with
  | .error failure => .refused (.error failure) payment ledger
  | .ok (.provider token) => g.submitProvider payment ledger order token
  | .ok (.mock token) => g.submitMock payment ledger token

/-- Processes a submitted checkout; a failure ends in a notice to the customer. -/
def submit (g : Gateway) (payment : Payment) (ledger : Ledger) (order : Order)
    (submission : Submission) :
    Outcome Unit :=
  let outcome := g.submitToken payment ledger order submission
  match outcome.result with
  | .error (.error failure) =>
    { outcome with notices := outcome.notices ++ [⟨.error, failure.userMessage⟩] }
  | _ => outcome

def paymentMethod (g : Gateway) (s : Submission) : Except Failure PaymentMethod := do
  let remoteId ← match ← CheckoutToken.parse g.knowsMockTokens s.token with
    | .provider token => .ok token
    | .mock token => if g.mockTokensEnabled then .ok token else .error .mockTokenRejected
  return ⟨remoteId, s.cardType, s.last4, s.expMonth, s.expYear⟩

end Gateway

end CardPayments
