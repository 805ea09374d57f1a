import CardPayments.Config
import CardPayments.Form
import CardPayments.Order
import CardPayments.Sha256

/-!
# Return notifications

What the hosted page posts back when a customer returns from it. Fields that the page does not send
are empty. The processor proves that a notification is its own by a hash that only the holder of the
key can compute: the SHA-256 digest of the key followed by the amount in two places, in hexadecimal
digits.
-/

namespace CardPayments

structure Notification where
  orderId : String
  date : String
  time : String
  approvalCode : String
  response : String
  responseMessage : String
  amountHash : String
deriving DecidableEq, Inhabited

namespace Notification

def fieldNames : List String :=
  ["orderId", "date", "time", "approvalCode", "response", "responseMessage", "amountHash"]

/-- The notification in a posted form, blanks around its values aside. -/
def ofForm (f : Form) : Notification :=
  let get (key : String) : String := ((f.get? key).map Text.trim).getD ""
  { orderId := get "orderId"
    date := get "date"
    time := get "time"
    approvalCode := get "approvalCode"
    response := get "response"
    responseMessage := get "responseMessage"
    amountHash := get "amountHash" }

def toJson (n : Notification) : Json :=
  .obj [("orderId", .str n.orderId), ("date", .str n.date), ("time", .str n.time),
    ("approvalCode", .str n.approvalCode), ("response", .str n.response),
    ("responseMessage", .str n.responseMessage), ("amountHash", .str n.amountHash)]

def ofJson? (j : Json) : Option Notification := do
  let text := Json.defaulted "" Json.string?
  match ← j.fields? fieldNames 0 with
  | [orderId, date, time, approvalCode, response, responseMessage, amountHash] =>
    some ⟨← text orderId, ← text date, ← text time, ← text approvalCode, ← text response,
      ← text responseMessage, ← text amountHash⟩
  | _ => none

end Notification

/-! ### Amount hashes -/

def amountMessage (key : String) (amount : Price) : List Char :=
  key.toList ++ amount.number.fixedChars

def amountHash (key : String) (amount : Price) : String :=
  String.ofList (Sha256.hexChars (Sha256.digest (Text.utf8 (amountMessage key amount))))

def verifyAmountHash (key : String) (amount : Price) (reported : String) : Bool :=
  amountHash key amount == reported

/-- Whether the notification's hash is that of the order's total under the configured key. -/
def isTrusted (config : Config) (order : Order) (notification : Notification) : Bool :=
  verifyAmountHash config.hashKey order.totalPrice notification.amountHash

end CardPayments
