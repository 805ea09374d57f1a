import CardPayments.Proofs.HostedPage.RoundTrip

/-!
# One order on the way back

A posted return is read twice. The router takes the order's id from the fields, and whoever records
the payment reads the same fields again as a notification. Both trim what they read, so they read
the same id: a return is recorded for the order it was routed to and for no other. An empty id is
different, because it names no order to the one and any order to the other; the router keeps it
from every checkout.
-/

namespace CardPayments

namespace HostedPage

section Returned

variable {config : Config} {now : Instant} {l : Ledger} {order : Order} {fields sent : Form}
  {orderId : String}

theorem believed_of_routed (h : routeReturn fields = .checkoutReturn orderId sent) :
    (namesOrder order (Notification.ofForm fields) &&
        isTrusted config order (Notification.ofForm fields)) = true ↔
      order.id = orderId ∧
        fields.posted "amountHash" = amountHash config.hashKey order.totalPrice := by
  obtain ⟨hposted, hne, -⟩ := routeReturn_eq_checkoutReturn.1 h
  rw [Bool.and_eq_true, namesOrder_ofForm, isTrusted_ofForm, hposted, or_iff_right hne, eq_comm]

/-- What a recorded return is: a new payment of the order's total, with what the fields report. -/
structure Records (config : Config) (l : Ledger) (order : Order) (fields : Form)
    (arrival : Arrival) (p : Payment) : Prop where
  state : p.state = .authorization
  orderId : p.orderId = order.id
  amount : p.amount = order.totalPrice
  refundedAmount : p.refundedAmount = .zero order.totalPrice.currency
  remoteId : p.remoteId = some (fields.posted "approvalCode")
  remoteState : p.remoteState = some (fields.posted "response")
  gatewayMode : p.gatewayMode = some config.mode
  gains : l.Gains arrival.ledger p
  notices : ∃ text, arrival.notices = [⟨.status, text⟩]

theorem records_of_ok {p : Payment}
    (h : (onReturn config now l order (Notification.ofForm fields)).result = .ok p) :
    Records config l order fields (onReturn config now l order (Notification.ofForm fields)) p := by
  have hnotices := onReturn_notices h
  have hsave := (onReturn_ok h).2
  have hgains := Ledger.gains_of_save hsave rfl
  obtain ⟨-, rfl, -⟩ := Ledger.save_eq_ok.1 hsave
  exact ⟨rfl, rfl, rfl, rfl, rfl, rfl, rfl, hgains, _, hnotices⟩

end Returned

/-- **A return is recorded for the order it was routed to**, and for no other. The front page gets
the returns whose notifications name no order. One that is routed to a checkout is recorded exactly
for the order of that id and with the hash of that order's total. Then one payment is saved and one
notice shown; otherwise the return is not trusted and leaves nothing behind. -/
theorem recorded_iff_routed (fields : Form) :
    (routeReturn fields = .front ↔ (Notification.ofForm fields).orderId = "") ∧
      ∀ orderId sent, routeReturn fields = .checkoutReturn orderId sent →
        ∀ (config : Config) (now : Instant) (l : Ledger) (order : Order), l.refusal = none →
          let arrival := onReturn config now l order (Notification.ofForm fields)
          ((∃ p, arrival.result = .ok p) ↔ order.id = orderId ∧
            fields.posted "amountHash" = amountHash config.hashKey order.totalPrice) ∧
          (∀ p, arrival.result = .ok p → Records config l order fields arrival p) ∧
          ((¬∃ p, arrival.result = .ok p) →
            arrival.result = .error (.untrusted order.id) ∧ arrival.ledger = l ∧
              arrival.notices = []) := by
  refine ⟨routeReturn_eq_front, ?_⟩
  intro orderId sent hroute config now l order hsaves arrival
  have hrecorded : (∃ p, arrival.result = .ok p) ↔
      (namesOrder order (Notification.ofForm fields) &&
        isTrusted config order (Notification.ofForm fields)) = true := by
    constructor
    · intro h
      obtain ⟨p, hresult⟩ := h
      exact (onReturn_ok hresult).1
    · intro h
      obtain ⟨hnames, htrusted⟩ := Bool.and_eq_true_iff.1 h
      obtain ⟨stored, hresult, -⟩ := onReturn_of_trusted hnames htrusted hsaves
      exact ⟨stored, hresult⟩
  refine ⟨hrecorded.trans (believed_of_routed hroute), ?_, ?_⟩
  · intro p hresult
    exact records_of_ok hresult
  · intro hrefused
    have harrival : arrival = ⟨.error (.untrusted order.id), l, []⟩ :=
      onReturn_of_untrusted (mt hrecorded.2 hrefused)
    rw [harrival]
    exact ⟨rfl, rfl, rfl⟩

theorem sample_recorded_iff_routed :
    routeReturn sampleReturn = .checkoutReturn "7" sampleReturn ∧ Ledger.empty.refusal = none ∧
      ∃ p, (onReturn sampleConfig default .empty sampleOrder
        (Notification.ofForm sampleReturn)).result = .ok p ∧
        p.refundedAmount = .zero "USD" ∧ p.id = some 1 := by
  have hid : sampleReturn.posted "orderId" = "7" := by
    rw [Form.posted, sampleReturn, (get?_returnOver _).1]
    decide
  have hhash : sampleReturn.posted "amountHash" =
      amountHash sampleConfig.hashKey sampleOrder.totalPrice := by
    rw [Form.posted, sampleReturn, (get?_returnOver _).2]
    exact Text.trim_of_trimmed (trimmed_amountHash _ _)
  have hroute : routeReturn sampleReturn = .checkoutReturn "7" sampleReturn :=
    routeReturn_eq_checkoutReturn.2 ⟨hid, by decide, rfl⟩
  obtain ⟨hrecorded, hrecords, -⟩ := (recorded_iff_routed sampleReturn).2 "7" sampleReturn hroute
    sampleConfig default .empty sampleOrder rfl
  obtain ⟨p, hresult⟩ := hrecorded.2 ⟨rfl, hhash⟩
  have hp := hrecords p hresult
  exact ⟨hroute, rfl, p, hresult, hp.refundedAmount, hp.gains.id_eq⟩

end HostedPage

end CardPayments
