import CardPayments.Proofs.Course

/-!
# What a failure leaves behind

Whatever stops an action or a return, the payment is as it was before and so is the ledger: the
changed payment is handed over only once it is saved, and nothing can fail after that.
-/

namespace CardPayments

/-- **A failure changes nothing.** An action that ends in any error or overflow leaves the payment
as it was, in all its fields, and the ledger too; a return that is refused leaves the ledger. -/
theorem failure_changes_nothing :
    (∀ (g : Gateway) (action : Action) (p : Payment) (l : Ledger) (stop : Stop Failure),
      (g.act action p l).result = .error stop →
        (g.act action p l).payment = p ∧ (g.act action p l).ledger = l) ∧
    ∀ (config : Config) (now : Instant) (l : Ledger) (order : Order) (n : Notification)
      (failure : Failure), (HostedPage.onReturn config now l order n).result = .error failure →
        (HostedPage.onReturn config now l order n).ledger = l := by
  constructor
  · intro g action p l stop hstop
    exact (g.act_ending action p l).unchanged hstop
  · intro config now l order n failure hfailure
    exact HostedPage.onReturn_error hfailure

/-- An approved charge whose payment the ledger does not store. -/
theorem sample_unchanged_by_refused_save :
    let ledger : Ledger := ⟨[], 0, some "disk full"⟩
    let action : Action := .submit .sample ⟨"other", none, none, none, none⟩
    let outcome := Gateway.approving.act action .sample ledger
    outcome.requests.length = 1 ∧
      outcome.result = .error (.error (.ledger (.storage "disk full"))) ∧
      outcome.payment = .sample ∧ outcome.ledger = ledger := by
  intro ledger action outcome
  have hresult : outcome.result = .error (.error (.ledger (.storage "disk full"))) := rfl
  refine ⟨by decide, hresult, ?_⟩
  exact failure_changes_nothing.1 .approving action .sample ledger _ hresult

end CardPayments
