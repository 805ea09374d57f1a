import CardPayments.Proofs.Course

/-!
# How far refunds go

Whether a payment may have more given back than its amount is decided by the amount it began with. A
capture and a refund only let positive amounts pass, so a payment that gets to `completed` through a
capture, or to `partially refunded` at all, has a positive amount and stays above what was given
back. A charge that captures at once looks at no amount, and neither does a mock token: they
complete a payment of less than nothing, of which nothing was given back, and nothing is more than
its amount. Amounts are compared in units and never added up here, so nothing depends on their
scales.
-/

namespace CardPayments

/-- What the state says of the units in the amount and of those given back, for a payment that began
with `start` units. -/
def PaymentState.Bounds (start amount given : Int) : PaymentState → Prop
  | .new => given = 0 ∧ amount = start
  | .authorization => given = 0 ∧ amount = start
  | .completed => given = 0 ∧ (0 ≤ amount ↔ 0 ≤ start)
  | .partiallyRefunded => given < amount ∧ 0 ≤ start
  | .refunded => True
  | .authorizationVoided => True

namespace Payment

/-- The payment is as its state says it is after a beginning with `start` units. -/
def BoundedFrom (start : Int) (p : Payment) : Prop :=
  p.state.Bounds start p.amount.number.units p.refundedAmount.number.units

theorem balance_units_of_zero {p : Payment} {balance : Price} (hbalance : p.balance = .ok balance)
    (hzero : p.refundedAmount.number.units = 0) :
    balance.number.units = p.amount.number.units := by
  obtain ⟨-, hsub, -⟩ := Price.subtract_eq_ok.1 hbalance
  have hneg : p.refundedAmount.number.neg.units = 0 := by rw [Decimal.units_neg, hzero]; rfl
  rw [Decimal.sub?, Decimal.add?, Decimal.isZero_iff.2 hneg] at hsub
  split at hsub
  · next hamount => rw [← Option.some.inj hsub, hneg, Decimal.isZero_iff.1 hamount]
  · rw [← Option.some.inj hsub]

end Payment

/-! ### One change -/

section Change

variable {g : Gateway} {action : Action} {requests : List Request} {start : Int} {p q : Payment}

theorem Payment.BoundedFrom.nonneg_of_refund (h : p.BoundedFrom start) {balance amount : Price}
    (hbalance : p.balance = .ok balance)
    (hstate : p.state = .completed ∨ p.state = .partiallyRefunded)
    (hpositive : amount.isPositive = true) (hle : amount.number ≤ balance.number) : 0 ≤ start := by
  unfold BoundedFrom at h
  obtain hstate | hstate := hstate
  · rw [hstate] at h
    obtain ⟨hzero, hstart⟩ := h
    have hunits := balance_units_of_zero hbalance hzero
    have hpos := Price.isPositive_iff.1 hpositive
    rw [Decimal.le_iff_units] at hle
    exact hstart.1 (by omega)
  · rw [hstate] at h
    exact h.2

theorem Change.boundedFrom (hchange : Change g p action requests q) (h : p.BoundedFrom start) :
    q.BoundedFrom start := by
  cases hchange with
  | charged _ hstate =>
    rw [Payment.BoundedFrom, hstate] at h
    obtain ⟨hzero, rfl⟩ := h
    unfold Payment.BoundedFrom
    dsimp only
    split
    · exact ⟨hzero, Iff.rfl⟩
    · exact ⟨hzero, rfl⟩
  | mocked _ _ hstate =>
    rw [Payment.BoundedFrom, hstate] at h
    obtain ⟨hzero, rfl⟩ := h
    exact ⟨hzero, Iff.rfl⟩
  | captured _ hstate _ hpositive hle =>
    rw [Payment.BoundedFrom, hstate] at h
    obtain ⟨hzero, rfl⟩ := h
    have hpos := Price.isPositive_iff.1 hpositive
    rw [Decimal.le_iff_units] at hle
    exact ⟨hzero, iff_of_true (by dsimp only; omega) (by omega)⟩
  | voided => exact trivial
  | refunded hbalance _ hstate _ hpositive hle =>
    have hstart := h.nonneg_of_refund hbalance hstate hpositive hle
    unfold Payment.BoundedFrom
    dsimp only
    split
    · next hlt => exact ⟨Decimal.lt_iff_units.1 hlt, hstart⟩
    · exact trivial
  | refreshed => exact h

end Change

/-! ### A course -/

namespace Payment

variable {p : Payment}

theorem Begun.boundedFrom (h : p.Begun) : p.BoundedFrom p.amount.number.units := by
  have hzero (currency : String) : (Price.zero currency).number.units = 0 := Decimal.units_zero
  cases h with
  | begin => exact ⟨hzero _, rfl⟩
  | withToken => exact ⟨hzero _, rfl⟩
  | returned h =>
    obtain ⟨-, hsave⟩ := HostedPage.onReturn_ok h
    obtain ⟨-, rfl, -⟩ := Ledger.save_eq_ok.1 hsave
    exact ⟨hzero _, rfl⟩

theorem BoundedFrom.after {start : Int} (h : p.BoundedFrom start) (steps : List Step) :
    (p.after steps).BoundedFrom start :=
  after_of_step (BoundedFrom start) h fun s _ q hq =>
    Event.kept_of_change (BoundedFrom start) (fun _ _ h => h) Change.boundedFrom ⟨s, q⟩ hq

/-- **Refunds stay within the amount if the payment began with no less than nothing**, and only
then: whatever happens to it, a completed or partially refunded payment has at most its amount given
back exactly if the amount it began with was not negative. -/
theorem refunded_le_amount_iff (p : Payment) (steps : List Step) (hbegun : p.Begun)
    (hstate : (p.after steps).state ∈ [.completed, .partiallyRefunded]) :
    (p.after steps).refundedAmount.number ≤ (p.after steps).amount.number ↔
      Decimal.zero ≤ p.amount.number := by
  have hbounds := hbegun.boundedFrom.after steps
  rw [Decimal.le_iff_units, Decimal.le_iff_units, Decimal.units_zero]
  unfold BoundedFrom at hbounds
  simp only [List.mem_cons, List.not_mem_nil, or_false] at hstate
  obtain hstate | hstate := hstate
  · rw [hstate] at hbounds
    obtain ⟨hzero, hstart⟩ := hbounds
    rw [hzero, hstart]
  · rw [hstate] at hbounds
    obtain ⟨hlt, hstart⟩ := hbounds
    exact iff_of_true (Int.le_of_lt hlt) hstart

def sampleHalfBack : List Step :=
  [.approved (.create .sample false), .approved (.capture none),
   .approved (.refund (some ⟨(Decimal.ofParts? 5 1).getD .zero, "USD"⟩))]

theorem sample_refunded_le_amount :
    sample.Begun ∧ (sample.after sampleHalfBack).state = .partiallyRefunded ∧
      Decimal.zero ≤ sample.amount.number ∧
      (sample.after sampleHalfBack).refundedAmount.number ≤
        (sample.after sampleHalfBack).amount.number := by
  have hbegun : sample.Begun := .withToken "1" _ "token"
  have hstate : (sample.after sampleHalfBack).state = .partiallyRefunded := by decide
  have hstart : Decimal.zero ≤ sample.amount.number := by decide
  have hiff := refunded_le_amount_iff sample sampleHalfBack hbegun (by rw [hstate]; decide)
  exact ⟨hbegun, hstate, hstart, hiff.2 hstart⟩

def sampleOwed : Payment :=
  (begin "1" ⟨sample.amount.number.neg, "USD"⟩).withRemoteId "token"

/-- The bound does not hold of all payments: one approved charge that captures at once completes a
payment of less than nothing. -/
theorem not_refunded_le_amount_of_purchase :
    ¬∀ (p : Payment) (steps : List Step), p.Begun →
      (p.after steps).state ∈ [.completed, .partiallyRefunded] →
        (p.after steps).refundedAmount.number ≤ (p.after steps).amount.number := by
  intro hall
  have hbegun : sampleOwed.Begun := .withToken "1" _ "token"
  have hstate : (sampleOwed.after [.approved (.create .sample true)]).state ∈
      [PaymentState.completed, .partiallyRefunded] := by decide
  exact absurd (hall sampleOwed [.approved (.create .sample true)] hbegun hstate) (by decide)

end Payment

end CardPayments
