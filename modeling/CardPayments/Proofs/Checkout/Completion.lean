import CardPayments.Proofs.Checkout.Mock
import CardPayments.Proofs.Gateway.Answer

/-!
# Two ways to complete a payment

A mock token completes a payment by itself, and a token of the processor by an approved charge. Both
come down to `completion`: the same check of the state, the same payment under the id that was
given, the same save. What differs is the request that the charge makes and the words of the notice.
-/

namespace CardPayments

def Payment.purchase (p : Payment) (order : Order) (token : String) : Request :=
  .process ⟨token, p.amount.number, p.amount.currency, true, order.id, order.customerId⟩

def Payment.completedUnder (p : Payment) (g : Gateway) (id : String) : Payment :=
  { p with
    state := .completed
    remoteId := some id
    remoteState := some "APPROVED"
    authorizedTime := some g.now
    capturedTime := some g.now
    gatewayMode := some g.config.mode }

theorem RemoteStatus.isApproved_iff {status : RemoteStatus} :
    status.isApproved = true ↔ status = .approved := by
  cases status <;> simp [isApproved]

namespace Gateway

def failing (p : Payment) (l : Ledger) (requests : List Request) (failure : Failure) :
    Outcome Unit :=
  ⟨.error (.error failure), p, l, requests, [⟨.error, failure.userMessage⟩]⟩

/-- A new payment is completed under an id and stored, with the requests that this takes and a
notice of it. -/
def completion (g : Gateway) (p : Payment) (l : Ledger) (id : String) (requests : List Request)
    (notice : String) : Outcome Unit :=
  if p.state = .new then
    match l.save (p.completedUnder g id) with
    | .ok (stored, after) => ⟨.ok (), stored, after, requests, [⟨.status, notice⟩]⟩
    | .error e => failing p l requests (.ledger e)
  else failing p l [] (.precondition .process (.wrongState p.state [.new]))

variable {g : Gateway} {p : Payment} {l : Ledger} {order : Order} {s : Submission}

/-! ### By a mock token -/

theorem submit_of_mock_eq (hmode : g.config.mode = .test) (hknows : g.knowsMockTokens = true)
    (hmock : StartsAsMock (Text.trim s.token)) :
    g.submit p l order s = g.completion p l (Text.trim s.token) []
      "Payment completed successfully (Test Mode)." := by
  have henabled : g.mockTokensEnabled = true := mockTokensEnabled_iff.2 ⟨hknows, hmode⟩
  have hne : Text.trim s.token ≠ "" := by
    intro hempty
    rw [hempty] at hmock
    exact absurd hmock (by decide)
  have hparse : CheckoutToken.parse g.knowsMockTokens s.token =
      .ok (.mock (Text.trim s.token)) :=
    CheckoutToken.parse_eq_ok.2 ⟨rfl, hne, hmock, hknows⟩
  rw [submit, submitToken, hparse]
  dsimp only
  rw [submitMock, completion]
  by_cases hstate : p.state = .new
  · have hcompleted : g.completedWithMock p (Text.trim s.token) =
        .ok (p.completedUnder g (Text.trim s.token)) := by
      simp [completedWithMock, henabled, hstate, requireState, Payment.completedUnder, bind,
        Except.bind, pure, Except.pure]
    rw [hcompleted, if_pos hstate]
    dsimp only
    cases l.save (p.completedUnder g (Text.trim s.token)) <;> rfl
  · have hrefused : g.completedWithMock p (Text.trim s.token) =
        .error (.error (.precondition .process (.wrongState p.state [.new]))) := by
      simp [completedWithMock, henabled, hstate, requireState, Failure.stop]
    rw [hrefused, if_neg hstate]
    rfl

/-! ### By an approved charge -/

/-- A token that the processor approves charging completes a new payment of the order under the id
that the approval names. -/
theorem create_of_approved {token id : String} {answer : Transaction} (hne : token ≠ "")
    (hstate : p.state = .new) (horder : order.id = p.orderId)
    (hanswer : g.processor (p.purchase order token) = .ok answer)
    (happroved : answer.status.isApproved = true) (hid : answer.transactionId = some id) :
    g.create (p.withRemoteId token) l order true =
      match l.save (p.completedUnder g id) with
      | .ok (stored, after) => ⟨.ok answer, stored, after, [p.purchase order token], []⟩
      | .error e =>
        ⟨.error (.error (.ledger e)), p.withRemoteId token, l, [p.purchase order token], []⟩ := by
  have hguarded : Guarded (p.withRemoteId token) (.create order true) (p.purchase order token) :=
    .create hstate horder rfl hne
  obtain ⟨plan, hplan, hrequest⟩ : ∃ plan, Plan.create g.config g.now (p.withRemoteId token) order
      true = .ok plan ∧ plan.request = p.purchase order token :=
    Plan.exists_of_guarded hguarded (fun _ => Plan.create_guarded) fun _ => Plan.create_error
  obtain ⟨-, -, _, -, -, -, hsettled⟩ := Plan.create_ok hplan
  have hsettle : plan.settle answer = .ok (some (p.completedUnder g id)) := by
    refine (hsettled answer _).2 ⟨happroved, id, hid, ?_⟩
    rw [RemoteStatus.isApproved_iff.1 happroved]
    rfl
  rw [← hrequest] at hanswer ⊢
  rw [create, hplan]
  cases hsave : l.save (p.completedUnder g id) with
  | error e => exact perform_of_unsaved hanswer hsettle hsave
  | ok ending =>
    obtain ⟨stored, after⟩ := ending
    exact perform_of_saved hanswer hsettle hsave

theorem create_of_ne_new {captures : Bool} (hstate : p.state ≠ .new) :
    g.create p l order captures =
      .refused (.error (.precondition .process (.wrongState p.state [.new]))) p l := by
  have hplan : Plan.create g.config g.now p order captures =
      .error (.error (.precondition .process (.wrongState p.state [.new]))) := by
    simp [Plan.create, requireState, hstate, Failure.stop]
  rw [create, hplan, perform_error]

theorem submit_of_approved_eq {answer : Transaction} {id : String}
    (hne : Text.trim s.token ≠ "") (hprovider : ¬StartsAsMock (Text.trim s.token))
    (horder : order.id = p.orderId)
    (hanswer : g.processor (p.purchase order (Text.trim s.token)) = .ok answer)
    (happroved : answer.status.isApproved = true) (hid : answer.transactionId = some id) :
    g.submit p l order s = g.completion p l id [p.purchase order (Text.trim s.token)]
      "Payment processed successfully." := by
  rw [submit, submitToken, CheckoutToken.parse_of_provider hne hprovider]
  dsimp only
  rw [submitProvider, completion]
  by_cases hstate : p.state = .new
  · rw [create_of_approved hne hstate horder hanswer happroved hid, if_pos hstate]
    cases l.save (p.completedUnder g id) <;> rfl
  · rw [create_of_ne_new (p := p.withRemoteId (Text.trim s.token)) hstate, if_neg hstate]
    rfl

/-! ### The two ways side by side -/

theorem completion_eq_ok_iff {id notice : String} {requests : List Request} :
    (g.completion p l id requests notice).result = .ok () ↔
      p.state = .new ∧ l.refusal = none := by
  unfold completion
  by_cases hstate : p.state = .new
  · rw [if_pos hstate]
    cases hsave : l.save (p.completedUnder g id) with
    | error e =>
      refine iff_of_false nofun ?_
      rintro ⟨-, hsaves⟩
      obtain ⟨stored, after, hstored⟩ := l.exists_save hsaves (p.completedUnder g id)
      rw [hsave] at hstored
      cases hstored
    | ok ending =>
      obtain ⟨stored, after⟩ := ending
      exact iff_of_true rfl ⟨hstate, (Ledger.save_eq_ok.1 hsave).1⟩
  · rw [if_neg hstate]
    exact iff_of_false nofun fun h => hstate h.1

theorem requests_completion {id notice : String} {requests : List Request} :
    (g.completion p l id requests notice).requests =
      if p.state = .new then requests else [] := by
  unfold completion
  split
  · cases l.save (p.completedUnder g id) <;> rfl
  · rfl

theorem completion_congr (g : Gateway) (p : Payment) (l : Ledger) (id : String)
    (requests others : List Request) (notice other : String) :
    let first := g.completion p l id requests notice
    let second := g.completion p l id others other
    first.result = second.result ∧ first.payment = second.payment ∧
      first.ledger = second.ledger ∧
      (first.result = .ok () →
        first.notices = [⟨.status, notice⟩] ∧ second.notices = [⟨.status, other⟩]) ∧
      (first.result ≠ .ok () → first.notices = second.notices) := by
  unfold completion
  by_cases hstate : p.state = .new
  · simp only [if_pos hstate]
    cases l.save (p.completedUnder g id) with
    | error e => simp [failing]
    | ok ending => simp
  · simp only [if_neg hstate]
    simp [failing]

/-- **A mock token completes a payment as an approved charge does.** In test mode, in a build that
knows mock tokens, submit a mock token for a payment of the order; and submit any token of the
processor for it where the processor approves every charge under the mock token as its id. Both end
alike and leave the same payment and the same ledger, whatever the payment and the ledger were
before: they succeed if the payment is new and the ledger stores payments, and fail alike if not.
Only the second asks the processor, and a success is told in other words. -/
theorem mock_completes_as_approved_charge (g : Gateway) (processor : Processor) (p : Payment)
    (l : Ledger) (order : Order) (mock provider : Submission) (hmode : g.config.mode = .test)
    (hknows : g.knowsMockTokens = true) (horder : order.id = p.orderId)
    (hmock : StartsAsMock (Text.trim mock.token)) (hne : Text.trim provider.token ≠ "")
    (hprovider : ¬StartsAsMock (Text.trim provider.token))
    (happroves : ∀ charge, ∃ answer, processor (.process charge) = .ok answer ∧
      answer.status.isApproved = true ∧ answer.transactionId = some (Text.trim mock.token)) :
    let mocked := g.submit p l order mock
    let charged := { g with processor }.submit p l order provider
    mocked.result = charged.result ∧ mocked.payment = charged.payment ∧
      mocked.ledger = charged.ledger ∧
      (mocked.result = .ok () ↔ p.state = .new ∧ l.refusal = none) ∧
      mocked.requests = [] ∧
      charged.requests =
        (if p.state = .new then [p.purchase order (Text.trim provider.token)] else []) ∧
      (mocked.result = .ok () →
        mocked.notices = [⟨.status, "Payment completed successfully (Test Mode)."⟩] ∧
          charged.notices = [⟨.status, "Payment processed successfully."⟩]) ∧
      (mocked.result ≠ .ok () → mocked.notices = charged.notices) := by
  intro mocked charged
  obtain ⟨answer, hanswer, happroved, hid⟩ := happroves
    ⟨Text.trim provider.token, p.amount.number, p.amount.currency, true, order.id,
      order.customerId⟩
  have hmocked : mocked = g.completion p l (Text.trim mock.token) []
      "Payment completed successfully (Test Mode)." := submit_of_mock_eq hmode hknows hmock
  have hcharged : charged = g.completion p l (Text.trim mock.token)
      [p.purchase order (Text.trim provider.token)] "Payment processed successfully." :=
    submit_of_approved_eq (g := { g with processor }) hne hprovider horder hanswer happroved hid
  obtain ⟨hresult, hpayment, hledger, hnotices, hfailed⟩ := g.completion_congr p l
    (Text.trim mock.token) [] [p.purchase order (Text.trim provider.token)]
    "Payment completed successfully (Test Mode)." "Payment processed successfully."
  rw [hmocked, hcharged]
  refine ⟨hresult, hpayment, hledger, completion_eq_ok_iff, ?_, requests_completion, hnotices,
    hfailed⟩
  rw [requests_completion, ite_self]

def sampleStored : Payment :=
  { (Payment.begin "" default).withRemoteId "old" with
    id := some 7, authorizedTime := some default, capturedTime := some default }

theorem sample_mock_completes_as_approved_charge :
    let processor : Processor := fun _ => .ok ⟨.approved, some "test_token_1", some "thanks"⟩
    let mock := sampleSubmission " test_token_1\n"
    let provider := sampleSubmission "\ttoken "
    let mocked := mocking.submit sampleStored .empty default mock
    let charged := { mocking with processor }.submit sampleStored .empty default provider
    (mocking.config.mode = .test ∧ mocking.knowsMockTokens = true ∧
      (default : Order).id = sampleStored.orderId ∧ StartsAsMock (Text.trim mock.token) ∧
      Text.trim provider.token ≠ "" ∧ ¬StartsAsMock (Text.trim provider.token) ∧
      ∀ charge, ∃ answer, processor (.process charge) = .ok answer ∧
        answer.status.isApproved = true ∧ answer.transactionId = some (Text.trim mock.token)) ∧
    mocked.result = .ok () ∧ mocked.payment = charged.payment ∧ mocked.ledger = charged.ledger ∧
      mocked.payment.id = some 7 ∧ mocked.payment.remoteId = some "test_token_1" := by
  intro processor mock provider mocked charged
  have hmock : StartsAsMock (Text.trim mock.token) := by decide
  have hne : Text.trim provider.token ≠ "" := by decide
  have hprovider : ¬StartsAsMock (Text.trim provider.token) := by decide
  have happroves : ∀ charge, ∃ answer, processor (.process charge) = .ok answer ∧
      answer.status.isApproved = true ∧ answer.transactionId = some (Text.trim mock.token) :=
    fun charge => ⟨_, rfl, rfl, by decide⟩
  obtain ⟨-, hpayment, hledger, hresult, -⟩ := mock_completes_as_approved_charge mocking processor
    sampleStored .empty default mock provider rfl rfl rfl hmock hne hprovider happroves
  have hnamed : mocked.payment.id = some 7 ∧ mocked.payment.remoteId = some "test_token_1" := by
    decide
  exact ⟨⟨rfl, rfl, rfl, hmock, hne, hprovider, happroves⟩, hresult.2 ⟨rfl, rfl⟩, hpayment,
    hledger, hnamed⟩

end Gateway

end CardPayments
