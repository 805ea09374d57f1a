import CardPayments.Payment

/-!
# The ledger of payments

Payments by their ids, in the order in which the ids were first used. A payment without an id gets
the next number of a counter, and a payment with one replaces what stood under that id. While the
ledger refuses saves it stores nothing.
-/

namespace CardPayments

inductive LedgerError where
  | notFound (id : UInt64)
  | storage (detail : String)
deriving DecidableEq

def LedgerError.message : LedgerError → String
  | .notFound id => "Payment " ++ toString id.toNat ++ " not found"
  | .storage detail => "Payment storage failed: " ++ detail

structure Ledger where
  entries : List (UInt64 × Payment)
  lastId : UInt64
  /-- Why saves fail at present, if they do. -/
  refusal : Option String
deriving DecidableEq

namespace Ledger

def empty : Ledger := ⟨[], 0, none⟩

instance : Inhabited Ledger := ⟨empty⟩

def size (l : Ledger) : Nat := l.entries.length

def isEmpty (l : Ledger) : Bool := l.entries.isEmpty

def get? (l : Ledger) (id : UInt64) : Option Payment :=
  (l.entries.find? fun e => e.1 == id).map Prod.snd

/-- The entries with a payment under the id, at its place or at the end. -/
def insertEntry (id : UInt64) (p : Payment) : List (UInt64 × Payment) → List (UInt64 × Payment)
  | [] => [(id, p)]
  | e :: rest => if e.1 = id then (id, p) :: rest else e :: insertEntry id p rest

/-- The payment as it was stored, and the ledger that holds it. -/
def save (l : Ledger) (p : Payment) : Except LedgerError (Payment × Ledger) :=
  match l.refusal with
  | some detail => .error (.storage detail)
  | none =>
    let (id, lastId) := match p.id with
      | some id => (id, l.lastId)
      | none => (l.lastId + 1, l.lastId + 1)
    let stored := { p with id := some id }
    .ok (stored, { l with entries := insertEntry id stored l.entries, lastId := lastId })

def load (l : Ledger) (id : UInt64) : Except LedgerError Payment :=
  match l.get? id with
  | some p => .ok p
  | none => .error (.notFound id)

/-- The payments of an order, in the order of their ids' first use. -/
def loadForOrder (l : Ledger) (orderId : String) : List Payment :=
  (l.entries.map Prod.snd).filter fun p => p.orderId = orderId

end Ledger

end CardPayments
