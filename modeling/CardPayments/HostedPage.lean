import CardPayments.Gateway
import CardPayments.Notification

/-!
# The hosted payment page

Customers pay on a page of the processor. They are sent there with a form, and the page sends them
back to one address for all orders, so the order's id travels in a cookie and among the posted
fields. A return is believed only if its amount hash is that of the order's total; then an
authorized payment is recorded.
-/

namespace CardPayments

def orderCookie : String := "commerce_helcim_order_id"

inductive CookieAction where
  | set (name value : String)
  | clear (name : String)
deriving DecidableEq

inductive ReturnTarget where
  | front
  | checkoutReturn (orderId : String) (fields : Form)
  | checkoutCancel (orderId : String)
deriving DecidableEq

structure CallbackUrls where
  returnUrl : Url
  cancelUrl : Url
deriving DecidableEq

structure RedirectForm where
  action : Url
  fields : Form
  cookie : CookieAction
deriving DecidableEq

def RedirectForm.method : String := "post"

/-- A text without the blanks around it, unless that leaves nothing. -/
def trimmed? (s : Option String) : Option String := (s.map Text.trim).filter fun id => !id.isEmpty

/-- The target of a posted return: the order named in it. -/
def routeReturn (fields : Form) : ReturnTarget :=
  match trimmed? (fields.get? "orderId") with
  | some orderId => .checkoutReturn orderId fields
  | none => .front

/-- The target of a cancelled payment: the order in the visitor's cookie. -/
def routeCancel (cookie : Option String) : ReturnTarget :=
  match trimmed? cookie with
  | some orderId => .checkoutCancel orderId
  | none => .front

namespace HostedPage

/-- The fields of the form, in the order in which they are posted. -/
def redirectFields (config : Config) (payment : Payment) (order : Order) (urls : CallbackUrls) :
    Form :=
  let billing := order.billing.getD .blank
  Form.ofPairs ([
    ("currency", payment.amount.currency),
    ("transactionType", "purchase"),
    ("amount", payment.amount.number.text),
    ("orderId", payment.orderId),
    ("customerId", order.customerId),
    ("billingcontactName", billing.contactName),
    ("billingstreet1", billing.addressLine1),
    ("billingstreet2", billing.addressLine2),
    ("billingpostalCode", billing.postalCode),
    ("billingemail", order.email),
    ("return_url", urls.returnUrl.text),
    ("cancel_url", urls.cancelUrl.text)] ++ if config.mode.isTest then [("test", "1")] else [])

def redirectForm (config : Config) (payment : Payment) (order : Order) (urls : CallbackUrls) :
    Except Failure RedirectForm := do
  let action ← config.hostedPage.mapError Failure.config
  return ⟨action, redirectFields config payment order urls, .set orderCookie payment.orderId⟩

/-! ### Returns -/

def stampChars (n : Notification) : List Char :=
  (Text.trim n.date).toList ++ ' ' :: (Text.trim n.time).toList

/-- The reported time, with seconds or without, or else the present. -/
def authorizedTime (now : Instant) (n : Notification) : Instant :=
  let stamp := stampChars n
  ((Time.stamp? Time.longStamp stamp) <|> (Time.stamp? Time.shortStamp stamp)).getD now

/-- Whether the notification may be about this order: it names it, or none. -/
def namesOrder (order : Order) (n : Notification) : Bool :=
  let reported := Text.trim n.orderId
  reported.isEmpty || reported == order.id

/-- The authorized payment that a notification reports. -/
def reportedPayment (config : Config) (now : Instant) (order : Order) (n : Notification) :
    Payment :=
  { Payment.begin order.id order.totalPrice with
    state := .authorization
    authorizedTime := some (authorizedTime now n)
    remoteId := some n.approvalCode
    remoteState := some n.response
    gatewayMode := some config.mode }

structure Arrival where
  result : Except Failure Payment
  ledger : Ledger
  notices : List Notice

/-- Records the payment of an approved return that can be trusted. -/
def onReturn (config : Config) (now : Instant) (ledger : Ledger) (order : Order)
    (n : Notification) : Arrival :=
  if namesOrder order n && isTrusted config order n then
    let notices := [⟨.status, "You have returned from " ++ config.displayLabel ++ "."⟩]
    match ledger.save (reportedPayment config now order n) with
    | .error e => ⟨.error (.ledger e), ledger, notices⟩
    | .ok (stored, ledger) => ⟨.ok stored, ledger, notices⟩
  else ⟨.error (.untrusted order.id), ledger, []⟩

/-- What becomes of the cookie when a customer comes back without having paid. -/
def onCancel : CookieAction := .clear orderCookie

end HostedPage

end CardPayments
