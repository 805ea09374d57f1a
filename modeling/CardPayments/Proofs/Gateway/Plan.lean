import CardPayments.Checkout
import CardPayments.Proofs.Price

/-!
# What plans check and settle

One statement for each operation: which checks a plan has passed, what it asks of the processor, and
exactly which payment it makes of an answer. Everything later about operations is read off these, so
a change to a plan is answered here. Of the two kinds of endings without a plan or a payment, only
the overflow is followed: it comes from the balance of a refund or from its new total, and from
nowhere else.
-/

namespace CardPayments

/-! ### Failures -/

section Failures

variable {α : Type}

@[simp] theorem stop_ne_ok {f : Failure} {a : α} : (f.stop : Except (Stop Failure) α) ≠ .ok a := by
  simp [Failure.stop]

@[simp] theorem stop_ne_overflow {f : Failure} {o : Overflow} :
    (f.stop : Except (Stop Failure) α) ≠ .error (.overflow o) := by
  simp [Failure.stop]

/-- What follows a check that may stop the operation runs once the check is passed. -/
theorem unless_stop_eq_ok {c : Prop} [Decidable c] {f : Failure} {a : α}
    {rest : Unit → Except (Stop Failure) α} :
    (if c then f.stop >>= rest else rest ()) = .ok a ↔ ¬c ∧ rest () = .ok a := by
  by_cases hc : c <;> simp [hc]

theorem unless_stop_eq_overflow {c : Prop} [Decidable c] {f : Failure} {o : Overflow}
    {rest : Unit → Except (Stop Failure) α} :
    (if c then f.stop >>= rest else rest ()) = .error (.overflow o) ↔
      ¬c ∧ rest () = .error (.overflow o) := by
  by_cases hc : c <;> simp [hc]

end Failures

/-! ### Checks -/

section Checks

variable {operation : Operation} {p : Payment} {o : Overflow}

@[simp] theorem requireState_eq_ok {expected : List PaymentState} {u : Unit} :
    requireState operation p expected = .ok u ↔ p.state ∈ expected := by
  unfold requireState
  split <;> simp [*]

@[simp] theorem requireState_ne_overflow {expected : List PaymentState} :
    requireState operation p expected ≠ .error (.overflow o) := by
  unfold requireState
  split <;> simp

@[simp] theorem requireTransaction_eq_ok {id : String} :
    requireTransaction operation p = .ok id ↔ p.remoteId = some id ∧ id.isEmpty = false := by
  unfold requireTransaction
  split
  · next own hid => by_cases hempty : own.isEmpty <;> grind [stop_ne_ok]
  · next hid => simp [hid]

@[simp] theorem requireTransaction_ne_overflow :
    requireTransaction operation p ≠ .error (.overflow o) := by
  unfold requireTransaction
  split
  · split <;> simp
  · simp

@[simp] theorem requireToken_eq_ok {token : String} :
    requireToken p = .ok token ↔ p.remoteId = some token ∧ token.isEmpty = false := by
  unfold requireToken
  split
  · next own hid => by_cases hempty : own.isEmpty <;> grind [stop_ne_ok]
  · next hid => simp [hid]

@[simp] theorem requireToken_ne_overflow : requireToken p ≠ .error (.overflow o) := by
  unfold requireToken
  split
  · split <;> simp
  · simp

@[simp] theorem requireCurrency_eq_ok {amount : Price} {u : Unit} :
    requireCurrency operation p amount = .ok u ↔ p.amount.currency = amount.currency := by
  unfold requireCurrency
  split <;> simp [*]

@[simp] theorem requireCurrency_ne_overflow {amount : Price} :
    requireCurrency operation p amount ≠ .error (.overflow o) := by
  unfold requireCurrency
  split <;> simp

@[simp] theorem requirePositive_eq_ok {amount : Price} {u : Unit} :
    requirePositive operation amount = .ok u ↔ amount.isPositive = true := by
  unfold requirePositive
  split <;> simp [*]

@[simp] theorem requirePositive_ne_overflow {amount : Price} :
    requirePositive operation amount ≠ .error (.overflow o) := by
  unfold requirePositive
  split <;> simp

@[simp] theorem requireApproval_eq_ok {answer : Transaction} {otherwise : String} {u : Unit} :
    requireApproval operation answer otherwise = .ok u ↔ answer.status.isApproved = true := by
  unfold requireApproval
  split
  · simp [*]
  · split <;> simp [*]

@[simp] theorem requireApproval_ne_overflow {answer : Transaction} {otherwise : String} :
    requireApproval operation answer otherwise ≠ .error (.overflow o) := by
  unfold requireApproval
  split
  · simp
  · split <;> simp

end Checks

/-! ### Prices on the way -/

namespace Price

variable {α : Type} {o : Overflow}

@[simp] theorem step_eq_ok {x : Except (Stop PriceError) α} {r : α} :
    step x = .ok r ↔ x = .ok r := mapError_eq_ok

@[simp] theorem step_eq_overflow {x : Except (Stop PriceError) α} :
    step x = .error (.overflow o) ↔ x = .error (.overflow o) := by
  rw [step, mapError_eq_error]
  constructor
  · rintro ⟨cause, hx, hcause⟩
    cases cause <;> simp_all [Stop.map]
  · intro hx
    exact ⟨_, hx, rfl⟩

@[simp] theorem check_eq_ok {x : Except PriceError α} {r : α} : check x = .ok r ↔ x = .ok r :=
  mapError_eq_ok

@[simp] theorem check_ne_overflow {x : Except PriceError α} : check x ≠ .error (.overflow o) := by
  simp [check]

end Price

/-! ### Plans -/

namespace Plan

variable {p : Payment} {plan : Plan} {o : Overflow}

theorem create_ok {config : Config} {now : Instant} {order : Order} {captures : Bool}
    (h : create config now p order captures = .ok plan) :
    p.state = .new ∧ order.id = p.orderId ∧ ∃ token, p.remoteId = some token ∧ token ≠ "" ∧
      plan.request = .process
        ⟨token, p.amount.number, p.amount.currency, captures, order.id, order.customerId⟩ ∧
      ∀ answer changed, plan.settle answer = .ok changed ↔
        answer.status.isApproved = true ∧ ∃ id, answer.transactionId = some id ∧
          some { p with
            state := if captures then .completed else .authorization
            remoteId := some id
            remoteState := some answer.status.text
            authorizedTime := some now
            capturedTime := if captures then some now else p.capturedTime
            gatewayMode := some config.mode } = changed := by
  simp only [create, unless_stop_eq_ok, bind_eq_ok, requireState_eq_ok, requireToken_eq_ok,
    List.mem_singleton, pure_eq_ok] at h
  obtain ⟨-, hstate, horder, token, ⟨htoken, hne⟩, rfl⟩ := h
  refine ⟨hstate, Decidable.not_not.1 horder, token, htoken, by simpa using hne, rfl, ?_⟩
  intro answer changed
  cases hid : answer.transactionId <;> simp [hid]

theorem capture_ok {now : Instant} {given : Option Price} (h : capture now p given = .ok plan) :
    ∃ amount id, given.getD p.amount = amount ∧ p.state = .authorization ∧
      p.amount.currency = amount.currency ∧ amount.isPositive = true ∧
      amount.number ≤ p.amount.number ∧ p.remoteId = some id ∧ id ≠ "" ∧
      plan.request = .capture id amount.number ∧
      ∀ answer changed, plan.settle answer = .ok changed ↔
        answer.status.isApproved = true ∧
          some { p with
            state := .completed
            amount := amount
            capturedTime := some now
            remoteState := some answer.status.text } = changed := by
  simp only [capture, Price.greaterThan_eq_ok, unless_stop_eq_ok, bind_eq_ok, requireState_eq_ok,
    requireCurrency_eq_ok, requirePositive_eq_ok, requireTransaction_eq_ok, Price.check_eq_ok,
    List.mem_singleton, pure_eq_ok] at h
  obtain ⟨-, hstate, -, hcurrency, -, hpositive, above, ⟨-, habove⟩, hle, id, ⟨hid, hne⟩, rfl⟩ := h
  subst above
  refine ⟨_, id, rfl, hstate, hcurrency, hpositive, ?_, hid, by simpa using hne, rfl, ?_⟩
  · exact Decimal.not_lt.1 (by simpa using hle)
  · intro answer changed
    simp

theorem void_ok (h : void p = .ok plan) :
    p.state = .authorization ∧ ∃ id, p.remoteId = some id ∧ id ≠ "" ∧ plan.request = .void id ∧
      ∀ answer changed, plan.settle answer = .ok changed ↔
        answer.status.isApproved = true ∧
          some { p with
            state := .authorizationVoided
            remoteState := some answer.status.text } = changed := by
  simp only [void, bind_eq_ok, requireState_eq_ok, requireTransaction_eq_ok, List.mem_singleton,
    pure_eq_ok] at h
  obtain ⟨-, hstate, id, ⟨hid, hne⟩, rfl⟩ := h
  refine ⟨hstate, id, hid, by simpa using hne, rfl, ?_⟩
  intro answer changed
  simp

theorem refund_ok {given : Option Price} (h : refund p given = .ok plan) :
    ∃ balance amount id, p.balance = .ok balance ∧ given.getD balance = amount ∧
      (p.state = .completed ∨ p.state = .partiallyRefunded) ∧
      p.amount.currency = amount.currency ∧ amount.isPositive = true ∧
      amount.number ≤ balance.number ∧ p.remoteId = some id ∧ id ≠ "" ∧
      plan.request = .refund id amount.number ∧
      (∀ answer changed, plan.settle answer = .ok changed ↔
        answer.status.isApproved = true ∧ ∃ total, p.refundedAmount.add amount = .ok total ∧
          total.currency = p.amount.currency ∧
          some { p with
            state := if total.number < p.amount.number then .partiallyRefunded else .refunded
            refundedAmount := total } = changed) ∧
      ∀ answer o, plan.settle answer = .error (.overflow o) ↔
        answer.status.isApproved = true ∧ p.refundedAmount.add amount = .error (.overflow o) := by
  simp only [refund, Price.greaterThan_eq_ok, unless_stop_eq_ok, bind_eq_ok, requireState_eq_ok,
    requireCurrency_eq_ok, requirePositive_eq_ok, requireTransaction_eq_ok, Price.check_eq_ok,
    Price.step_eq_ok, List.mem_cons, List.not_mem_nil, or_false, pure_eq_ok] at h
  obtain ⟨-, hstate, balance, hbalance, -, hcurrency, -, hpositive, above, ⟨-, habove⟩, hle, id,
    ⟨hid, hne⟩, rfl⟩ := h
  subst above
  refine ⟨balance, _, id, hbalance, rfl, hstate, hcurrency, hpositive, ?_, hid, by simpa using hne,
    rfl, ?_, ?_⟩
  · exact Decimal.not_lt.1 (by simpa using hle)
  · intro answer changed
    simp [Price.lessThan_eq_ok, and_assoc]
  · intro answer o
    simp

theorem refresh_ok (h : refresh p = .ok plan) :
    p.state ≠ .new ∧ ∃ id, p.remoteId = some id ∧ id ≠ "" ∧ plan.request = .get id ∧
      ∀ answer changed, plan.settle answer = .ok changed ↔
        (if p.remoteState = some answer.status.text then none
          else some { p with remoteState := some answer.status.text }) = changed := by
  simp only [refresh, unless_stop_eq_ok, bind_eq_ok, requireTransaction_eq_ok, pure_eq_ok] at h
  obtain ⟨hstate, id, ⟨hid, hne⟩, rfl⟩ := h
  refine ⟨hstate, id, hid, by simpa using hne, rfl, ?_⟩
  intro answer changed
  by_cases hsame : p.remoteState = some answer.status.text <;> simp [hsame]

/-! ### Overflows -/

/-- The plan cannot be made for an overflow, or it cannot settle some answer for one. -/
def Overflows (plan : Except (Stop Failure) Plan) (o : Overflow) : Prop :=
  plan = .error (.overflow o) ∨
    ∃ made answer, plan = .ok made ∧ made.settle answer = .error (.overflow o)

theorem not_overflows_create {config : Config} {now : Instant} {order : Order} {captures : Bool} :
    ¬Overflows (create config now p order captures) o := by
  rintro (hplan | ⟨made, answer, hmade, hsettle⟩)
  · simp only [create, bind_eq_error, unless_stop_eq_overflow, requireState_ne_overflow, false_or,
      requireToken_ne_overflow, pure_ne_error, and_false, exists_false] at hplan
  · simp only [create, unless_stop_eq_ok, bind_eq_ok, pure_eq_ok] at hmade
    obtain ⟨-, -, -, token, -, rfl⟩ := hmade
    cases hid : answer.transactionId <;> simp [hid] at hsettle

theorem not_overflows_capture {now : Instant} {given : Option Price} :
    ¬Overflows (capture now p given) o := by
  rintro (hplan | ⟨made, answer, hmade, hsettle⟩)
  · simp [capture, unless_stop_eq_overflow] at hplan
  · simp only [capture, unless_stop_eq_ok, bind_eq_ok, pure_eq_ok] at hmade
    obtain ⟨-, -, -, -, -, -, above, -, -, id, -, rfl⟩ := hmade
    simp at hsettle

theorem not_overflows_void : ¬Overflows (void p) o := by
  rintro (hplan | ⟨made, answer, hmade, hsettle⟩)
  · simp [void] at hplan
  · simp only [void, bind_eq_ok, pure_eq_ok] at hmade
    obtain ⟨-, -, id, -, rfl⟩ := hmade
    simp at hsettle

theorem not_overflows_refresh : ¬Overflows (refresh p) o := by
  rintro (hplan | ⟨made, answer, hmade, hsettle⟩)
  · simp [refresh, unless_stop_eq_overflow] at hplan
  · simp only [refresh, unless_stop_eq_ok, bind_eq_ok, pure_eq_ok] at hmade
    obtain ⟨-, id, -, rfl⟩ := hmade
    dsimp only at hsettle
    split at hsettle <;> cases hsettle

/-- A refund overflows where the payment is refundable and its balance overflows, or the sum of what
was given back and what is to be given back now. -/
theorem overflows_refund {given : Option Price} (h : Overflows (refund p given) o) :
    (p.state = .completed ∨ p.state = .partiallyRefunded) ∧
      (p.balance = .error (.overflow o) ∨
        ∃ balance, p.balance = .ok balance ∧ (given.getD balance).number ≤ balance.number ∧
          (given.getD balance).isPositive = true ∧
          p.refundedAmount.add (given.getD balance) = .error (.overflow o)) := by
  obtain hplan | ⟨made, answer, hmade, hsettle⟩ := h
  · simp only [refund, bind_eq_error, requireState_eq_ok, requireState_ne_overflow, false_or,
      List.mem_cons, List.not_mem_nil, or_false, Price.step_eq_overflow] at hplan
    obtain ⟨-, hstate, hbalance | ⟨balance, -, hrest⟩⟩ := hplan
    · exact ⟨hstate, .inl hbalance⟩
    · simp [unless_stop_eq_overflow] at hrest
  · obtain ⟨balance, amount, id, hbalance, rfl, hstate, -, hpositive, hle, -, -, -, -, hoverflow⟩ :=
      refund_ok hmade
    exact ⟨hstate, .inr ⟨balance, hbalance, hle, hpositive, ((hoverflow _ _).1 hsettle).2⟩⟩

end Plan

end CardPayments
