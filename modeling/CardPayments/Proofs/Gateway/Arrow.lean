import CardPayments.Proofs.Gateway.Action

/-!
# The state machine

The states of a payment and the ways between them, each named for the operation that takes it, and
what an action needs to take one: the processor's approval, or a mock token that stands in for it. A
change that is saved takes an arrow of its own operation, unless it gives back one more part of a
payment that is refunded in part already, or only looks the transaction up.
-/

namespace CardPayments

/-- The ways from one state to another, by the operation that takes them. -/
inductive Arrow : Operation → PaymentState → PaymentState → Prop
  | authorize : Arrow .process .new .authorization
  | purchase : Arrow .process .new .completed
  | capture : Arrow .capture .authorization .completed
  | void : Arrow .void .authorization .authorizationVoided
  | refundPart : Arrow .refund .completed .partiallyRefunded
  | refundAll : Arrow .refund .completed .refunded
  | refundRest : Arrow .refund .partiallyRefunded .refunded

def Request.operation : Request → Operation
  | .process _ => .process
  | .capture _ _ => .capture
  | .void _ => .void
  | .refund _ _ => .refund
  | .get _ => .refresh

/-- The processor approved the one call of the action's operation, or a mock token that the gateway
accepts stood in for it. -/
inductive Accepted (g : Gateway) (action : Action) (requests : List Request) : Prop
  | approved {request : Request} {answer : Transaction} (hrequests : requests = [request])
      (hoperation : request.operation = action.operation)
      (hanswer : g.processor request = .ok answer) (happroved : answer.status.isApproved = true)
  | mock {order : Order} {submission : Submission} {token : String}
      (haction : action = .submit order submission) (hrequests : requests = [])
      (htoken : CheckoutToken.parse g.knowsMockTokens submission.token = .ok (.mock token))
      (henabled : g.mockTokensEnabled = true)

/-! ### Changes take arrows -/

variable {g : Gateway} {action : Action} {p q : Payment} {requests : List Request}

theorem Charges.operation_eq {order : Order} {token : String} {captures : Bool}
    (h : Charges g p action order token captures) : action.operation = .process := by
  cases h <;> rfl

/-- A change takes an arrow, unless it refunds one more part or looks the transaction up. -/
theorem Change.arrow (h : Change g p action requests q) :
    Arrow action.operation p.state q.state ∧ Accepted g action requests ∨
      q.state = p.state ∧ (action.operation = .refund ∧ p.state = .partiallyRefunded ∨
        action.operation = .refresh) := by
  cases h with
  | charged hcharges hstate _ hanswer happroved _ =>
    refine .inl ⟨?_, .approved rfl hcharges.operation_eq.symm hanswer happroved⟩
    rw [hcharges.operation_eq, hstate]
    dsimp only
    split
    · exact .purchase
    · exact .authorize
  | mocked htoken henabled hstate =>
    rw [hstate]
    exact .inl ⟨.purchase, .mock rfl rfl htoken henabled⟩
  | captured _ hstate _ _ _ _ _ hanswer happroved =>
    rw [hstate]
    exact .inl ⟨.capture, .approved rfl rfl hanswer happroved⟩
  | voided hstate _ _ hanswer happroved =>
    rw [hstate]
    exact .inl ⟨.void, .approved rfl rfl hanswer happroved⟩
  | refunded _ _ hstate _ _ _ _ _ hanswer happroved =>
    dsimp only
    obtain hstate | hstate := hstate <;> rw [hstate] <;> split
    · exact .inl ⟨.refundPart, .approved rfl rfl hanswer happroved⟩
    · exact .inl ⟨.refundAll, .approved rfl rfl hanswer happroved⟩
    · exact .inr ⟨rfl, .inl ⟨rfl, rfl⟩⟩
    · exact .inl ⟨.refundRest, .approved rfl rfl hanswer happroved⟩
  | refreshed => exact .inr ⟨rfl, .inr rfl⟩

theorem Ending.arrow {l : Ledger} {o : Outcome Unit} (h : Ending g action p l o)
    (hok : o.result.isOk = true) :
    Arrow action.operation p.state o.payment.state ∧ Accepted g action o.requests ∨
      o.payment.state = p.state ∧ (action.operation = .refund ∧ p.state = .partiallyRefunded ∨
        action.operation = .refresh) := by
  cases h with
  | failed => cases hok
  | kept haction => exact .inr ⟨rfl, .inr (by rw [haction]; rfl)⟩
  | changed hchange hsave =>
    obtain ⟨-, rfl, -⟩ := Ledger.save_eq_ok.1 hsave
    exact hchange.arrow

/-! ### Arrows -/

namespace Arrow

variable {operation : Operation} {before after : PaymentState}

theorem to_ne_new (h : Arrow operation before after) : after ≠ .new := by
  cases h <;> decide

theorem to_ne_authorization (h : Arrow operation before after) (hne : before ≠ .new) :
    after ≠ .authorization := by
  cases h <;> first | exact absurd rfl hne | decide

theorem process_from (h : Arrow .process before after) : before = .new := by
  cases h <;> rfl

theorem capture_void_from (h : Arrow operation before after)
    (hmem : operation ∈ [.capture, .void]) :
    before = .authorization ∧ after ≠ .authorization := by
  cases h <;> simp at hmem ⊢

theorem refund_from (h : Arrow .refund before after) :
    before = .completed ∨ before = .partiallyRefunded := by
  cases h
  · exact .inl rfl
  · exact .inl rfl
  · exact .inr rfl

theorem from_not_isTerminal (h : Arrow operation before after) : before.isTerminal = false := by
  cases h <;> rfl

end Arrow

end CardPayments
