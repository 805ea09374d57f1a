import CardPayments.Proofs.Gateway.Answer

/-!
# When preconditions fail

An operation says that a precondition does not hold only before it asks the processor. Whatever goes
wrong later has other failures: the processor's, the ledger's, or an overflow. So a precondition
that is reported is one that the payment as it stood did not meet.
-/

namespace CardPayments

section Precondition

variable {g : Gateway} {p : Payment} {l : Ledger} {action : Action} {operation : Operation}
  {obstacle : Obstacle}

theorem Failure.ofApiError_ne_precondition {e : ApiError} :
    ofApiError e ≠ .precondition operation obstacle := by
  cases e <;> simp [ofApiError]

theorem Settles.ne_precondition {plan : Plan} (h : Settles p plan) (answer : Transaction) :
    plan.settle answer ≠ .error (.error (.precondition operation obstacle)) := by
  cases happroved : answer.status.isApproved with
  | false => simp [h.refused answer happroved]
  | true =>
    by_cases hunnamed : plan.request.operation = .process ∧ answer.transactionId = none
    · simp [h.unnamed answer happroved hunnamed.1 hunnamed.2]
    · by_cases hover : plan.request.Overflows p
      · simp [h.overflow answer happroved hover]
      · obtain ⟨updated, hupdated⟩ :=
          h.approved answer happroved (fun hprocess hid => hunnamed ⟨hprocess, hid⟩) hover
        simp [hupdated]

theorem Plan.refresh_settle_ne_error {plan : Plan} (h : Plan.refresh p = .ok plan)
    (answer : Transaction) (stop : Stop Failure) : plan.settle answer ≠ .error stop := by
  obtain ⟨-, _, -, -, -, hsettled⟩ := Plan.refresh_ok h
  simp [(hsettled answer _).2 rfl]

namespace Gateway

theorem perform_ne_precondition {plan : Plan}
    (hsettle : ∀ answer, plan.settle answer ≠ .error (.error (.precondition operation obstacle))) :
    (g.perform p l (.ok plan)).result ≠ .error (.error (.precondition operation obstacle)) := by
  intro h
  have hperformed := g.performed p l plan
  generalize g.perform p l (.ok plan) = outcome at hperformed h
  cases hperformed with
  | unanswered =>
    exact Failure.ofApiError_ne_precondition (Stop.error.inj (Except.error.inj h))
  | stopped hanswer hstop =>
    obtain rfl := Except.error.inj h
    exact hsettle _ hstop
  | kept | unsaved | saved => cases h

theorem blocked_of_plan {plan : Except (Stop Failure) Plan}
    (hblocked : ∀ stop, plan = .error stop → Blocked p action stop)
    (hsettle : ∀ made, plan = .ok made → ∀ answer,
      made.settle answer ≠ .error (.error (.precondition operation obstacle)))
    (h : ((g.perform p l plan).map fun _ => ()).result =
      .error (.error (.precondition operation obstacle))) :
    Blocked p action (.error (.precondition operation obstacle)) := by
  have hresult := map_eq_error.1 h
  cases plan with
  | error stop =>
    rw [perform_error] at hresult
    exact hblocked _ (congrArg _ (Except.error.inj hresult))
  | ok made =>
    exact absurd hresult (perform_ne_precondition (hsettle made rfl))

/-- **A precondition that fails blocks the operation.** -/
theorem blocked_of_precondition (hdirect : ∀ order submission, action ≠ .submit order submission)
    (h : (g.act action p l).result = .error (.error (.precondition operation obstacle))) :
    Blocked p action (.error (.precondition operation obstacle)) := by
  cases action with
  | create order captures =>
    exact blocked_of_plan (fun _ => Plan.create_error)
      (fun _ hmade => (Plan.create_settles hmade).ne_precondition) h
  | capture given =>
    exact blocked_of_plan (fun _ => Plan.capture_error)
      (fun _ hmade => (Plan.capture_settles hmade).ne_precondition) h
  | void =>
    exact blocked_of_plan (fun _ => Plan.void_error)
      (fun _ hmade => (Plan.void_settles hmade).ne_precondition) h
  | refund given =>
    exact blocked_of_plan (fun _ => Plan.refund_error)
      (fun _ hmade => (Plan.refund_settles hmade).ne_precondition) h
  | refresh =>
    exact blocked_of_plan (fun _ => Plan.refresh_error)
      (fun _ hmade answer => Plan.refresh_settle_ne_error hmade answer _) h
  | submit order submission => exact absurd rfl (hdirect order submission)

end Gateway

end Precondition

end CardPayments
