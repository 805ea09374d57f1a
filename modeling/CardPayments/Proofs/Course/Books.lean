import CardPayments.Proofs.Course
import CardPayments.Proofs.Gateway.Overflow

/-!
# The books of a payment

The books of a payment are kept in units of the twenty-eighth place, in which every amount is a
whole number. They say what was given back so far, that it is recorded, and how it stands to the
state. As long as the starting amount has room at a scale that no amount exceeds, each balance and
each total lies between zero and that amount and has room too. So nothing is ever rounded, nothing
overflows, and the books stay right from one event to the next.
-/

namespace CardPayments

def Action.amount? : Action → Option Price
  | .capture amount => amount
  | .refund amount => amount
  | _ => none

/-- What the request asks the processor to give back, in units. -/
def Request.refundUnits : Request → Int
  | .refund _ amount => amount.units
  | _ => 0

def askedUnits (requests : List Request) : Int :=
  requests.foldr (fun request total => request.refundUnits + total) 0

@[simp] theorem askedUnits_singleton (request : Request) :
    askedUnits [request] = request.refundUnits :=
  Int.add_zero _

/-- What the event gives back, in units: what was asked for if it succeeds, else nothing. -/
def Event.refundUnits (e : Event) : Int := if e.succeeds then askedUnits e.outcome.requests else 0

/-! ### Books -/

/-- Whether so much may have been given back of an amount in this state. -/
def PaymentState.Allows (given amount : Int) : PaymentState → Prop
  | .partiallyRefunded => 0 < given ∧ given < amount
  | .refunded => given = amount
  | _ => given = 0

/-- The books of a payment of which so much was given back: no amount in them has a larger scale
than this one or is above the starting amount, which has room at the scale. -/
structure Booked (scale : Nat) (start given : Int) (p : Payment) : Prop where
  scale_le : scale ≤ Decimal.maxScale
  start_lt : start < Decimal.unitBound scale
  amount_scale : p.amount.number.scale ≤ scale
  refunded_scale : p.refundedAmount.number.scale ≤ scale
  currency : p.refundedAmount.currency = p.amount.currency
  amount_pos : 0 < p.amount.number.units
  amount_le : p.amount.number.units ≤ start
  refunded : p.refundedAmount.number.units = given
  allowed : p.state.Allows given p.amount.number.units

/-- The amount is one that may be given back of a payment besides what was given back already. -/
structure Refundable (scale : Nat) (given : Int) (p : Payment) (amount : Price) : Prop where
  scale_le : amount.number.scale ≤ scale
  positive : 0 < amount.number.units
  le : given + amount.number.units ≤ p.amount.number.units

namespace Booked

variable {scale : Nat} {start given : Int} {p : Payment}

theorem given_nonneg (h : Booked scale start given p) : 0 ≤ given := by
  have hpos := h.amount_pos
  have hallowed := h.allowed
  cases hstate : p.state <;> simp only [hstate, PaymentState.Allows] at hallowed <;> omega

theorem given_le (h : Booked scale start given p) : given ≤ p.amount.number.units := by
  have hpos := h.amount_pos
  have hallowed := h.allowed
  cases hstate : p.state <;> simp only [hstate, PaymentState.Allows] at hallowed <;> omega

/-- The state says whether nothing was given back of what was captured, a part of it or all. -/
theorem state_iff (h : Booked scale start given p)
    (hstate : p.state ∈ [.completed, .partiallyRefunded, .refunded]) :
    (p.state = .completed ↔ given = 0) ∧
      (p.state = .partiallyRefunded ↔ 0 < given ∧ given < p.amount.number.units) ∧
      (p.state = .refunded ↔ given = p.amount.number.units) := by
  have hpos := h.amount_pos
  have hallowed := h.allowed
  cases hp : p.state <;> simp only [hp, PaymentState.Allows] at hallowed hstate <;>
    simp at hstate ⊢ <;> omega

theorem exists_balance (h : Booked scale start given p) :
    ∃ balance, p.balance = .ok balance ∧ balance.number.units = p.amount.number.units - given ∧
      balance.number.scale ≤ scale := by
  have hbounds : (p.amount.number.units - p.refundedAmount.number.units).natAbs <
      Decimal.unitBound scale := by
    have hnonneg := h.given_nonneg
    have hle := h.given_le
    have hstart := h.amount_le
    have hlt := h.start_lt
    rw [h.refunded]
    omega
  obtain ⟨difference, hsub, hunits, hscale⟩ :=
    Decimal.sub?_of_fits h.amount_scale h.refunded_scale h.scale_le hbounds
  refine ⟨⟨difference, p.amount.currency⟩, ?_, ?_, hscale⟩
  · exact Price.subtract_eq_ok.2 ⟨h.currency.symm, hsub, rfl⟩
  · rw [hunits, h.refunded]

theorem balance_units (h : Booked scale start given p) {balance : Price}
    (hbalance : p.balance = .ok balance) :
    balance.number.units = p.amount.number.units - given ∧ balance.number.scale ≤ scale := by
  obtain ⟨own, hown, hunits⟩ := h.exists_balance
  obtain rfl : balance = own := Except.ok.inj (hbalance.symm.trans hown)
  exact hunits

theorem refundable (h : Booked scale start given p) {amount balance : Price}
    (hbalance : p.balance = .ok balance) (hscale : amount.number.scale ≤ scale)
    (hpositive : amount.isPositive = true) (hle : amount.number ≤ balance.number) :
    Refundable scale given p amount := by
  have hunits := (h.balance_units hbalance).1
  rw [Decimal.le_iff_units] at hle
  exact ⟨hscale, Price.isPositive_iff.1 hpositive, by omega⟩

theorem exists_total (h : Booked scale start given p) {amount : Price}
    (hrefundable : Refundable scale given p amount)
    (hcurrency : p.amount.currency = amount.currency) :
    ∃ total, p.refundedAmount.add amount = .ok total ∧
      total.number.units = given + amount.number.units ∧ total.number.scale ≤ scale ∧
      total.currency = p.amount.currency := by
  obtain ⟨hscale, hpositive, hle⟩ := hrefundable
  have hbounds : (p.refundedAmount.number.units + amount.number.units).natAbs <
      Decimal.unitBound scale := by
    have hnonneg := h.given_nonneg
    have hstart := h.amount_le
    have hlt := h.start_lt
    rw [h.refunded]
    omega
  obtain ⟨sum, hadd, hunits, hsum⟩ :=
    Decimal.add?_of_fits h.refunded_scale hscale h.scale_le hbounds
  refine ⟨⟨sum, p.refundedAmount.currency⟩, ?_, ?_, hsum, h.currency⟩
  · exact Price.add_eq_ok.2 ⟨h.currency.trans hcurrency, hadd, rfl⟩
  · rw [hunits, h.refunded]

/-- One more refund is written down as one more amount given back. -/
theorem refund (h : Booked scale start given p) {amount total : Price}
    (hrefundable : Refundable scale given p amount)
    (hunits : total.number.units = given + amount.number.units)
    (hscale : total.number.scale ≤ scale) (hcurrency : total.currency = p.amount.currency) :
    Booked scale start (given + amount.number.units)
      { p with
        state := if total.number < p.amount.number then .partiallyRefunded else .refunded
        refundedAmount := total } := by
  obtain ⟨-, hpositive, hle⟩ := hrefundable
  have hnonneg := h.given_nonneg
  refine { h with
    refunded_scale := hscale
    currency := hcurrency
    refunded := hunits
    allowed := ?_ }
  dsimp only
  split
  · next hlt =>
    rw [Decimal.lt_iff_units, hunits] at hlt
    exact ⟨by omega, hlt⟩
  · next hlt =>
    rw [Decimal.lt_iff_units, hunits] at hlt
    exact Int.le_antisymm hle (Int.not_lt.1 hlt)

theorem given_eq_zero (h : Booked scale start given p)
    (hstate : p.state = .new ∨ p.state = .authorization) : given = 0 := by
  have hallowed := h.allowed
  obtain hstate | hstate := hstate <;> rw [hstate] at hallowed <;> exact hallowed

theorem withId (h : Booked scale start given p) (id : Option UInt64) :
    Booked scale start given { p with id } :=
  { h with }

end Booked

/-! ### One event -/

section Event

variable {g : Gateway} {action : Action} {requests : List Request} {scale : Nat}
  {start given : Int} {p q : Payment} {e : Event}

theorem scale_getD_le {asked : Option Price} {balance : Price}
    (hasked : ∀ amount, asked = some amount → amount.number.scale ≤ scale)
    (hbalance : balance.number.scale ≤ scale) : (asked.getD balance).number.scale ≤ scale := by
  cases asked with
  | none => exact hbalance
  | some amount => exact hasked amount rfl

theorem Change.booked (hchange : Change g p action requests q) (h : Booked scale start given p)
    (hnamed : ∀ amount, action.amount? = some amount → amount.number.scale ≤ scale) :
    Booked scale start (given + askedUnits requests) q := by
  cases hchange with
  | charged _ hstate =>
    have hzero := h.given_eq_zero (.inl hstate)
    subst hzero
    refine { h with allowed := ?_ }
    dsimp only
    split <;> rfl
  | mocked _ _ hstate =>
    have hzero := h.given_eq_zero (.inl hstate)
    subst hzero
    exact { h with allowed := rfl }
  | captured hgiven hstate hcurrency hpositive hle =>
    have hzero := h.given_eq_zero (.inr hstate)
    subst hzero hgiven
    exact { h with
      amount_scale := scale_getD_le hnamed h.amount_scale
      currency := h.currency.trans hcurrency
      amount_pos := Price.isPositive_iff.1 hpositive
      amount_le := Int.le_trans hle h.amount_le
      allowed := rfl }
  | voided hstate =>
    have hzero := h.given_eq_zero (.inr hstate)
    subst hzero
    exact { h with allowed := rfl }
  | refunded hbalance hasked _ hcurrency hpositive hle _ _ _ _ htotal =>
    subst hasked
    have hscale := scale_getD_le hnamed (h.balance_units hbalance).2
    have hrefundable := h.refundable hbalance hscale hpositive hle
    obtain ⟨sum, hsum, hunits, hsumScale, hsame⟩ := h.exists_total hrefundable hcurrency
    obtain rfl := Except.ok.inj (htotal.symm.trans hsum)
    rw [askedUnits_singleton]
    exact h.refund hrefundable hunits hsumScale hsame
  | @refreshed id =>
    have hzero : given + askedUnits [.get id] = given := Int.add_zero given
    rw [hzero]
    exact { h with }

namespace Event

theorem booked (h : Booked scale start given e.before)
    (hnamed : ∀ amount, e.step.action.amount? = some amount → amount.number.scale ≤ scale) :
    Booked scale start (given + e.refundUnits) e.after := by
  rw [refundUnits, succeeds, after]
  generalize houtcome : e.outcome = outcome
  have hending := e.ending
  rw [houtcome] at hending
  cases hending with
  | failed => simpa [Except.isOk, Except.toBool] using h
  | kept => simpa [Except.isOk, Except.toBool, Request.refundUnits] using h
  | changed hchange hsave =>
    obtain ⟨-, rfl, -⟩ := Ledger.save_eq_ok.1 hsave
    exact (hchange.booked h hnamed).withId _

theorem ne_overflow (h : Booked scale start given e.before)
    (hnamed : ∀ amount, e.step.action.amount? = some amount → amount.number.scale ≤ scale)
    (o : Overflow) : e.outcome.result ≠ .error (.overflow o) := by
  intro hoverflow
  obtain ⟨asked, haction, hplan⟩ := Gateway.act_overflow hoverflow
  rw [haction] at hnamed
  obtain ⟨-, hbalance | ⟨balance, hbalance, hle, hpositive, hadd⟩⟩ := Plan.overflows_refund hplan
  · obtain ⟨own, hown, -⟩ := h.exists_balance
    rw [hown] at hbalance
    cases hbalance
  · have hcurrency := h.currency.symm.trans (Price.add_eq_overflow.1 hadd).1
    have hscale : (asked.getD balance).number.scale ≤ scale :=
      scale_getD_le hnamed (h.balance_units hbalance).2
    obtain ⟨total, htotal, -⟩ :=
      h.exists_total (h.refundable hbalance hscale hpositive hle) hcurrency
    rw [htotal] at hadd
    cases hadd

/-- A refund that succeeds asked the processor for the amount given, or for all that was left. -/
theorem refund_request (h : Booked scale start given e.before) {asked : Option Price}
    (haction : e.step.action = .refund asked) (hsucceeds : e.succeeds = true) :
    ∃ id amount, e.outcome.requests = [.refund id amount] ∧ e.refundUnits = amount.units ∧
      amount.units = (asked.map fun price => price.number.units).getD
        (e.before.amount.number.units - e.before.refundedAmount.number.units) := by
  rw [refundUnits, if_pos hsucceeds]
  rw [succeeds] at hsucceeds
  generalize houtcome : e.outcome = outcome at hsucceeds ⊢
  have hending := e.ending
  rw [houtcome, haction] at hending
  cases hending with
  | failed => cases hsucceeds
  | kept haction => cases haction
  | changed hchange hsave =>
    cases hchange with
    | charged hcharges => cases hcharges
    | @refunded _ balance amount total id _ hbalance hasked =>
      refine ⟨id, amount.number, rfl, askedUnits_singleton _, ?_⟩
      subst hasked
      cases asked with
      | none =>
        rw [h.refunded]
        exact (h.balance_units hbalance).1
      | some price => rfl

/-- A refund without an amount that the processor approves gives back all that was left. -/
theorem refunds_rest (h : Booked scale start given e.before)
    (haction : e.step.action = .refund none) (hrefusal : e.step.ledger.refusal = none)
    {request : Request}
    (hrequest : request ∈ e.outcome.requests) {answer : Transaction}
    (hanswer : e.step.gateway.processor request = .ok answer)
    (happroved : answer.status.isApproved = true) :
    e.succeeds = true ∧ e.after.state = .refunded := by
  rw [succeeds, after]
  have houtcome : e.outcome =
      (e.step.gateway.refund e.before e.step.ledger none).map fun _ => () := by
    rw [outcome, Step.outcome, haction]
    rfl
  rw [houtcome, Gateway.refund] at hrequest ⊢
  obtain ⟨made, hmade, rfl, -⟩ := Gateway.perform_requests hrequest
  obtain ⟨balance, amount, id, hbalance, hasked, -, hcurrency, hpositive, hle, -, -, -, hsettled,
    -⟩ := Plan.refund_ok hmade
  obtain rfl : balance = amount := hasked
  obtain ⟨hunits, hscale⟩ := h.balance_units hbalance
  obtain ⟨total, htotal, htotalUnits, -, hsame⟩ :=
    h.exists_total (h.refundable hbalance hscale hpositive hle) hcurrency
  have hnot : ¬total.number < e.before.amount.number := by
    rw [Decimal.lt_iff_units]
    omega
  have hsettle := (hsettled answer _).2 ⟨happroved, total, htotal, hsame, rfl⟩
  obtain ⟨stored, ledger, hsave⟩ := e.step.ledger.exists_save hrefusal
    { e.before with
      state := if total.number < e.before.amount.number then .partiallyRefunded else .refunded
      refundedAmount := total }
  obtain ⟨-, hstored, -⟩ := Ledger.save_eq_ok.1 hsave
  rw [hmade, Gateway.perform_of_saved hanswer hsettle hsave, ← hstored]
  exact ⟨rfl, if_neg hnot⟩

end Event

end Event

end CardPayments
