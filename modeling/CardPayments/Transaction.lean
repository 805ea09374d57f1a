import CardPayments.Json.Record

/-!
# Answers of the processor

A transaction as the processor reports it: a status, the processor's own id and perhaps a message.
Only the exact word `APPROVED` is an approval; every other status is kept as it was written. An id
may come as a string or as a number, and a number counts by its written form.
-/

namespace CardPayments

inductive RemoteStatus where
  | approved
  | declined
  | other (word : String)
deriving DecidableEq, Inhabited

namespace RemoteStatus

def text : RemoteStatus → String
  | .approved => "APPROVED"
  | .declined => "DECLINED"
  | .other word => word

def ofText (word : String) : RemoteStatus :=
  if word = "APPROVED" then .approved else if word = "DECLINED" then .declined else .other word

def isApproved : RemoteStatus → Bool
  | .approved => true
  | _ => false

theorem text_ofText (word : String) : (ofText word).text = word := by
  unfold ofText
  split
  · next h => exact h.symm
  · split
    · next h => exact h.symm
    · rfl

end RemoteStatus

structure Transaction where
  status : RemoteStatus
  transactionId : Option String
  message : Option String
deriving DecidableEq, Inhabited

namespace Transaction

/-- A string, or the written form of a number. -/
def idOfJson? : Json → Option String
  | .str s => some s
  | .num n => (Json.Number.ofNumeral? n).map Json.Number.text
  | _ => none

def toJson (t : Transaction) : Json :=
  .obj [("status", .str t.status.text), ("transactionId", Json.ofOption Json.str t.transactionId),
    ("message", Json.ofOption Json.str t.message)]

def ofJson? (j : Json) : Option Transaction := do
  match ← j.fields? ["status", "transactionId", "message"] 1 with
  | [status, transactionId, message] =>
    some ⟨RemoteStatus.ofText (← Json.required Json.string? status),
      ← Json.optional idOfJson? transactionId, ← Json.optional Json.string? message⟩
  | _ => none

end Transaction

end CardPayments
