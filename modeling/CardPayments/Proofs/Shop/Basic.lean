import CardPayments.Proofs.Course

/-!
# Many payments, one ledger

A shop has payments in many hands and one ledger for all of them. Moves come in any order: a payment
is begun, a customer returns from the hosted page, or someone acts on a payment at hand. The ledger
then always agrees with the hands: it holds exactly the payments that are no longer new, each as its
holder has it, and the ids in use count them from one.
-/

namespace CardPayments

/-- The payments at hand, each at the place of its holder, and the ledger that all of them share. -/
structure Shop where
  held : List Payment
  ledger : Ledger

/-- One thing that happens in a shop; holders are counted from the first payment on. -/
inductive Move where
  | begin (orderId : String) (amount : Price) (token : Option String)
  | arrive (config : Config) (now : Instant) (order : Order) (notification : Notification)
  | act (holder : Nat) (gateway : Gateway) (action : Action)

def Move.holder? : Move → Option Nat
  | .act holder _ _ => some holder
  | _ => none

namespace Shop

def empty : Shop := ⟨[], .empty⟩

def hold (shop : Shop) (p : Payment) : Shop := { shop with held := shop.held ++ [p] }

def replace (shop : Shop) (holder : Nat) (p : Payment) (l : Ledger) : Shop :=
  ⟨shop.held.set holder p, l⟩

def move (shop : Shop) : Move → Shop
  | .begin orderId amount token =>
    let p := Payment.begin orderId amount
    shop.hold ((token.map p.withRemoteId).getD p)
  | .arrive config now order n =>
    let arrival := HostedPage.onReturn config now shop.ledger order n
    match arrival.result with
    | .ok p => { shop.hold p with ledger := arrival.ledger }
    | .error _ => { shop with ledger := arrival.ledger }
  | .act holder g action =>
    match shop.held[holder]? with
    | some p =>
      let outcome := g.act action p shop.ledger
      shop.replace holder outcome.payment outcome.ledger
    | none => shop

def after : Shop → List Move → Shop
  | shop, [] => shop
  | shop, m :: rest => after (shop.move m) rest

/-- How many payments at hand are no longer new. -/
def processed (shop : Shop) : Nat := shop.held.countP fun p => p.state ≠ .new

/-- The holder's payment is no longer new and has this id. -/
def Owns (shop : Shop) (holder : Nat) (id : UInt64) (p : Payment) : Prop :=
  shop.held[holder]? = some p ∧ p.state ≠ .new ∧ p.id = some id

/-- The ledger agrees with the payments at hand after at most so many moves. -/
structure Agrees (moves : Nat) (shop : Shop) : Prop where
  refusal : shop.ledger.refusal = none
  stored : ∀ id p, shop.ledger.get? id = some p ↔ ∃ holder, shop.Owns holder id p
  single : ∀ first second id p q, shop.Owns first id p → shop.Owns second id q → first = second
  new_iff : ∀ p ∈ shop.held, p.state = .new ↔ p.id = none
  ids : shop.ledger.ids.map UInt64.toNat = List.range' 1 shop.ledger.lastId.toNat
  count : shop.ledger.lastId.toNat = shop.processed
  lastId_le : shop.ledger.lastId.toNat ≤ moves

namespace Agrees

variable {moves : Nat} {shop : Shop} {holder : Nat} {p q : Payment}

theorem start : Agrees 0 empty where
  refusal := rfl
  stored := by intro id p; simp [Owns, empty, Ledger.empty, Ledger.get?]
  single := by intro first second id p q hfirst; simp [Owns, empty] at hfirst
  new_iff := by intro p hp; cases hp
  ids := rfl
  count := rfl
  lastId_le := Nat.le_refl 0

theorem mono {more : Nat} (h : Agrees moves shop) (hle : moves ≤ more) : Agrees more shop :=
  { h with lastId_le := Nat.le_trans h.lastId_le hle }

/-! ### One more payment at hand -/

theorem owns_hold (hnew : q.state = .new) {id : UInt64} :
    (shop.hold q).Owns holder id p ↔ shop.Owns holder id p := by
  unfold Owns hold
  rw [List.getElem?_append]
  split
  · rfl
  · next hlt =>
    rw [List.getElem?_eq_none (Nat.not_lt.1 hlt)]
    constructor
    · rintro ⟨hp, hstate, -⟩
      obtain rfl := List.mem_singleton.1 (List.mem_of_getElem? hp)
      exact absurd hnew hstate
    · rintro ⟨hp, -⟩
      cases hp

/-- A new payment at hand is nothing to the ledger. -/
theorem hold (h : Agrees moves shop) (hnew : q.state = .new) (hid : q.id = none) :
    Agrees moves (shop.hold q) where
  refusal := h.refusal
  stored id p := by
    simp only [owns_hold hnew]
    exact h.stored id p
  single first second id p q hfirst hsecond :=
    h.single first second id p q ((owns_hold hnew).1 hfirst) ((owns_hold hnew).1 hsecond)
  new_iff p hp := by
    rcases List.mem_append.1 hp with hp | hp
    · exact h.new_iff p hp
    · rw [List.mem_singleton.1 hp]
      exact iff_of_true hnew hid
  ids := h.ids
  count := by simpa [Shop.hold, processed, List.countP_append, hnew] using h.count
  lastId_le := h.lastId_le

end Agrees

end Shop

end CardPayments
