import CardPayments.HostedPage
import CardPayments.Proofs.Trust

/-!
# Posted fields

What the router and the notification read from a posted form. Both take a value without the blanks
around it, and a field that was not posted as an empty one, so they read the same order's id.
-/

namespace CardPayments

/-- A posted value as it is read, blanks around it aside; a field that is not posted reads as
empty. -/
def Form.posted (fields : Form) (name : String) : String :=
  ((fields.get? name).map Text.trim).getD ""

section Posted

variable {fields sent : Form} {orderId : String}

theorem Form.trim_posted (fields : Form) (name : String) :
    Text.trim (fields.posted name) = fields.posted name := by
  unfold Form.posted
  cases fields.get? name with
  | none => rfl
  | some value => exact Text.trim_trim value

theorem Form.posted_of_padded {name core padded : String} (h : fields.get? name = some padded)
    (hpadded : Text.Padded core padded) (hcore : Text.Trimmed core) :
    fields.posted name = core := by
  rw [Form.posted, h, Option.map_some, Option.getD_some, Text.trim_of_padded hpadded hcore]

theorem Notification.orderId_ofForm : (ofForm fields).orderId = fields.posted "orderId" := rfl

theorem Notification.amountHash_ofForm :
    (ofForm fields).amountHash = fields.posted "amountHash" := rfl

/-! ### The router -/

theorem trimmed?_eq (fields : Form) (name : String) :
    trimmed? (fields.get? name) =
      if fields.posted name = "" then none else some (fields.posted name) := by
  unfold Form.posted trimmed?
  cases fields.get? name with
  | none => rfl
  | some value =>
    by_cases hempty : Text.trim value = ""
    · simp [hempty]
    · simp [hempty]

theorem routeReturn_eq_front :
    routeReturn fields = .front ↔ (Notification.ofForm fields).orderId = "" := by
  rw [routeReturn, trimmed?_eq, Notification.orderId_ofForm]
  by_cases hempty : fields.posted "orderId" = ""
  · simp [hempty]
  · simp [hempty]

theorem routeReturn_eq_checkoutReturn :
    routeReturn fields = .checkoutReturn orderId sent ↔
      fields.posted "orderId" = orderId ∧ orderId ≠ "" ∧ sent = fields := by
  rw [routeReturn, trimmed?_eq]
  by_cases hempty : fields.posted "orderId" = ""
  · simp only [hempty, if_true, reduceCtorEq, false_iff]
    intro h
    exact h.2.1 h.1.symm
  · rw [if_neg hempty]
    simp only [ReturnTarget.checkoutReturn.injEq]
    constructor
    · intro h
      exact ⟨h.1, h.1 ▸ hempty, h.2.symm⟩
    · intro h
      exact ⟨h.1, h.2.2.symm⟩

/-! ### The notification -/

variable {config : Config} {order : Order}

theorem HostedPage.namesOrder_ofForm :
    namesOrder order (Notification.ofForm fields) = true ↔
      fields.posted "orderId" = "" ∨ fields.posted "orderId" = order.id := by
  rw [namesOrder, Notification.orderId_ofForm, fields.trim_posted, Bool.or_eq_true,
    String.isEmpty_iff, beq_iff_eq]

theorem isTrusted_ofForm :
    isTrusted config order (Notification.ofForm fields) = true ↔
      fields.posted "amountHash" = amountHash config.hashKey order.totalPrice := by
  rw [isTrusted, verifyAmountHash_iff, Notification.amountHash_ofForm, eq_comm]

end Posted

end CardPayments
