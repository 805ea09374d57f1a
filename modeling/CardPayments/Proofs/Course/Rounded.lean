import CardPayments.Proofs.Course.Room
import CardPayments.Proofs.Decimal.Rest

/-!
# Refunds without room

A refund is checked against a balance that was rounded, and once it is approved the total is rounded
again. In spite of both roundings the total never exceeds the payment's amount, and it reaches the
amount when all of the balance is given back. There is one exception: the balance was rounded by
exactly half a unit of its last place, the payment's amount is an odd number of these units, and all
of the balance is given back. Then an approved refund is not recorded, or its total misses the
amount.
-/

namespace CardPayments

/-- A guarded refund gives something back, at most the balance, and all of it if no amount is named.
-/
theorem Guarded.refund_within {p : Payment} {given : Option Price} {id : String} {amount : Decimal}
    {balance : Price} (h : Guarded p (.refund given) (.refund id amount))
    (hbalance : p.balance = .ok balance) :
    0 < amount.units ∧ amount.units ≤ balance.number.units ∧
      (given = none → amount.SameAmount balance.number) := by
  cases h with
  | refund _ _ hown hgiven _ hpositive hle =>
    obtain rfl := Except.ok.inj (hown.symm.trans hbalance)
    refine ⟨hpositive, hle, ?_⟩
    rintro rfl
    rw [← hgiven]
    rfl

namespace Gateway

variable {g : Gateway} {p : Payment} {l : Ledger} {given : Option Price} {id : String}
  {amount total : Decimal}

theorem act_refund_of_overflow (hguard : Guarded p (.refund given) (.refund id amount))
    (happroves : g.approves (.refund id amount) = true)
    (htotal : p.refundedAmount.number.add? amount = none) :
    g.act (.refund given) p l =
      ⟨.error (.overflow .addition), p, l, [.refund id amount], []⟩ := by
  obtain ⟨answer, hanswer, happroved⟩ := approves_iff.1 happroves
  obtain ⟨made, hrequest, hsettles, hact⟩ := hguard.exists_act (by simp [Request.operation]) g l
  have hoverflow : made.settle answer = .error (.overflow .addition) :=
    hsettles.overflow answer happroved (hrequest ▸ htotal)
  rw [hact, perform_of_stopped (hrequest ▸ hanswer) hoverflow, hrequest]
  rfl

theorem act_refund_of_total (hguard : Guarded p (.refund given) (.refund id amount))
    (happroves : g.approves (.refund id amount) = true) (hsaves : l.refusal = none)
    (htotal : p.refundedAmount.number.add? amount = some total) :
    let o := g.act (.refund given) p l
    o.result = .ok () ∧ o.payment.refundedAmount.number = total ∧
      o.payment.state =
        if total < p.amount.number then .partiallyRefunded else .refunded := by
  obtain ⟨answer, hanswer, happroved⟩ := approves_iff.1 happroves
  obtain ⟨made, hmade, hrequest⟩ : ∃ made, Plan.refund p given = .ok made ∧
      made.request = .refund id amount :=
    Plan.exists_of_guarded hguard (fun _ => Plan.refund_guarded) fun _ => Plan.refund_error
  obtain ⟨balance, part, own, hbalance, -, -, hcurrency, -, -, -, -, hown, hsettled, -⟩ :=
    Plan.refund_ok hmade
  obtain ⟨rfl, rfl⟩ := Request.refund.inj (hown.symm.trans hrequest)
  have hsame : p.amount.currency = p.refundedAmount.currency := (Price.subtract_eq_ok.1 hbalance).1
  have hadd : p.refundedAmount.add part = .ok ⟨total, p.refundedAmount.currency⟩ :=
    Price.add_eq_ok.2 ⟨hsame.symm.trans hcurrency, htotal, rfl⟩
  have hsettle := (hsettled answer _).2 ⟨happroved, _, hadd, hsame.symm, rfl⟩
  obtain ⟨stored, after, hsave⟩ := l.exists_save hsaves _
  obtain ⟨-, hstored, -⟩ := Ledger.save_eq_ok.1 hsave
  rw [act, refund, hmade, perform_of_saved (hown ▸ hanswer) hsettle hsave, ← hstored]
  exact ⟨rfl, rfl, rfl⟩

/-- **An approved refund is recorded and stays within the amount**, however large or small the
amounts are and however often they were rounded, and giving back all of the balance ends in
`refunded`; unless half a unit was lost with the balance and all of it is given back. In that case,
if the balance was rounded up, the refund overflows after it was approved and is not recorded, or
the total exceeds the amount; and if it was rounded down, the total falls short of the amount, and
the payment stays `partially refunded`. -/
theorem approved_refund_recorded (g : Gateway) (p : Payment) (l : Ledger) (given : Option Price)
    (id : String) (amount : Decimal) (balance : Price)
    (hguard : Guarded p (.refund given) (.refund id amount)) (hbalance : p.balance = .ok balance)
    (hnonneg : Decimal.zero ≤ p.refundedAmount.number)
    (hle : p.refundedAmount.number ≤ p.amount.number)
    (happroves : g.approves (.refund id amount) = true) (hsaves : l.refusal = none) :
    let o := g.act (.refund given) p l
    let left := p.amount.number.units - p.refundedAmount.number.units
    let lost := Decimal.LosesHalf p.amount.number p.refundedAmount.number balance.number ∧
      amount.SameAmount balance.number
    o.requests = [.refund id amount] ∧
    (¬lost → o.result = .ok () ∧ o.payment.refundedAmount.number ≤ p.amount.number ∧
      (given = none ∨ amount.SameAmount balance.number → o.payment.state = .refunded)) ∧
    (lost →
      left < balance.number.units ∧
          (o.result = .error (.overflow .addition) ∧ o.payment = p ∧ o.ledger = l ∨
            o.result = .ok () ∧ p.amount.number < o.payment.refundedAmount.number) ∨
        balance.number.units < left ∧ o.result = .ok () ∧
          o.payment.refundedAmount.number < p.amount.number ∧
          o.payment.state = .partiallyRefunded) := by
  intro o left lost
  have hrequests : o.requests = [.refund id amount] :=
    requests_of_guarded g l hguard fun _ _ => Action.noConfusion
  obtain ⟨hpos, hpart, hdefault⟩ := hguard.refund_within hbalance
  obtain ⟨-, hrest, -⟩ := Price.subtract_eq_ok.1 hbalance
  have hrange : 0 ≤ p.refundedAmount.number.units ∧
      p.refundedAmount.number.units ≤ p.amount.number.units := ⟨hnonneg, hle⟩
  refine ⟨hrequests, ?_, ?_⟩
  · intro hkeeps
    obtain ⟨total, htotal, hwithin, hall⟩ := Decimal.add?_part hrange hrest hpos hpart hkeeps
    obtain ⟨hresult, hrecorded, hstate⟩ := act_refund_of_total hguard happroves hsaves htotal
    refine ⟨hresult, by rw [hrecorded]; exact hwithin, fun hrefund => ?_⟩
    have hsame : total.SameAmount p.amount.number := hall (hrefund.elim hdefault fun h => h)
    rw [hstate, if_neg]
    exact Decimal.not_lt.2 (Int.le_of_eq hsame.symm)
  · rintro ⟨hloses, hsame⟩
    obtain ⟨hup, hexceeds⟩ | ⟨hdown, total, htotal, hshort⟩ :=
      Decimal.add?_of_losesHalf hrange hrest hpos hsame hloses
    · refine .inl ⟨hup, ?_⟩
      cases htotal : p.refundedAmount.number.add? amount with
      | none =>
        have hact := act_refund_of_overflow (l := l) hguard happroves htotal
        exact .inl ⟨congrArg Outcome.result hact, congrArg Outcome.payment hact,
          congrArg Outcome.ledger hact⟩
      | some total =>
        obtain ⟨hresult, hrecorded, -⟩ := act_refund_of_total hguard happroves hsaves htotal
        exact .inr ⟨hresult, by rw [hrecorded]; exact hexceeds total htotal⟩
    · obtain ⟨hresult, hrecorded, hstate⟩ := act_refund_of_total hguard happroves hsaves htotal
      refine .inr ⟨hdown, hresult, by rw [hrecorded]; exact hshort, ?_⟩
      rw [hstate, if_pos]
      exact hshort

def sampleRefunded (amount refunded : Decimal) : Payment :=
  { sampleAuthorized with
    state := .partiallyRefunded
    amount := ⟨amount, "USD"⟩
    refundedAmount := ⟨refunded, "USD"⟩ }

theorem sample_approved_refund_recorded :
    let dollar := (Decimal.ofParts? 100 2).getD .zero
    let half := (Decimal.ofParts? 5 1).getD .zero
    let rest : Price := ⟨(Decimal.ofParts? 50 2).getD .zero, "USD"⟩
    let p := sampleRefunded dollar half
    (Guarded p (.refund none) (.refund "7" rest.number) ∧ p.balance = .ok rest ∧
        Decimal.zero ≤ half ∧ half ≤ dollar ∧ approving.approves (.refund "7" rest.number) = true ∧
        Ledger.empty.refusal = none) ∧
      (approving.act (.refund none) p .empty).result = .ok () ∧
      (approving.act (.refund none) p .empty).payment.state = .refunded := by
  intro dollar half rest p
  have hbalance : p.balance = .ok rest := Price.subtract_eq_ok.2 ⟨rfl, by decide, rfl⟩
  have hguard : Guarded p (.refund none) (.refund "7" rest.number) :=
    .refund (.inr rfl) rfl hbalance rfl rfl (by decide) (by decide) rfl (by decide)
  have hnonneg : Decimal.zero ≤ half := by decide
  have hle : half ≤ dollar := by decide
  have hkeeps : ¬(Decimal.LosesHalf dollar half rest.number ∧
      rest.number.SameAmount rest.number) := fun h => absurd h.1.odd (by decide)
  obtain ⟨-, hrecorded, -⟩ := approved_refund_recorded approving p .empty none "7" rest.number rest
    hguard hbalance hnonneg hle rfl rfl
  obtain ⟨hresult, -, hstate⟩ := hrecorded hkeeps
  exact ⟨⟨hguard, hbalance, hnonneg, hle, rfl, rfl⟩, hresult, hstate (.inl rfl)⟩

/-- Half a unit is rounded up with the balance and again with the total, which exceeds the amount.
-/
example :
    let amount := (Decimal.ofParts? 50000000000000000000000000001 0).getD .zero
    let p := sampleRefunded amount ((Decimal.ofParts? 15 1).getD .zero)
    amount < (approving.act (.refund none) p .empty).payment.refundedAmount.number := by
  decide +kernel

/-- Half a unit is rounded down twice, and the payment is not `refunded` when nothing is left. -/
example :
    let amount := (Decimal.ofParts? (Decimal.coefficientBound - 1) 0).getD .zero
    let p := sampleRefunded amount ((Decimal.ofParts? 5 1).getD .zero)
    (approving.act (.refund none) p .empty).payment.state = .partiallyRefunded := by
  decide +kernel

/-- Not every approved refund is recorded: the balance of a payment of the largest decimal was
rounded up, and the total of the whole balance overflows. -/
theorem not_every_approved_refund_recorded :
    ¬∀ (g : Gateway) (p : Payment) (l : Ledger) (given : Option Price) (id : String)
        (amount : Decimal), Guarded p (.refund given) (.refund id amount) →
      Decimal.zero ≤ p.refundedAmount.number → p.refundedAmount.number ≤ p.amount.number →
      g.approves (.refund id amount) = true → l.refusal = none →
        let o := g.act (.refund given) p l
        o.result = .ok () ∧ o.payment.refundedAmount.number ≤ p.amount.number ∧
          (given = none → o.payment.state = .refunded) := by
  intro h
  let largest := (Decimal.ofParts? (Decimal.coefficientBound - 1) 0).getD .zero
  let before := (Decimal.ofParts? 15 1).getD .zero
  let rest : Price := ⟨(Decimal.ofParts? (Decimal.coefficientBound - 2) 0).getD .zero, "USD"⟩
  let p := sampleRefunded largest before
  have hbalance : p.balance = .ok rest := Price.subtract_eq_ok.2 ⟨rfl, by decide +kernel, rfl⟩
  have hguard : Guarded p (.refund none) (.refund "7" rest.number) :=
    .refund (.inr rfl) rfl hbalance rfl rfl (by decide) (by decide) rfl (by decide)
  have hrecorded := h approving p .empty none "7" rest.number hguard (by decide) (by decide) rfl rfl
  have hoverflow : before.add? rest.number = none := by decide +kernel
  have hact := act_refund_of_overflow (g := approving) (l := .empty) hguard rfl hoverflow
  have hresult := hrecorded.1
  rw [hact] at hresult
  cases hresult

end Gateway

end CardPayments
