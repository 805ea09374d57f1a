import CardPayments.Proofs.Checkout.Token
import CardPayments.Proofs.Gateway.Guard

/-!
# Mock tokens stay in tests

A mock token pays for nothing, so it must complete payments only where no money moves. The token is
read once and its kind decides the way: the processor is asked about the tokens that are not mock,
and a mock token completes a payment, or becomes a card to keep, only where the build and the mode
of the gateway allow it.
-/

namespace CardPayments

namespace Gateway

variable {g : Gateway} {p : Payment} {l : Ledger} {order : Order} {s : Submission}

theorem mockTokensEnabled_iff :
    g.mockTokensEnabled = true ↔ g.knowsMockTokens = true ∧ g.config.mode = .test := by
  rw [mockTokensEnabled, Bool.and_eq_true]
  cases g.config.mode <;> simp [Mode.isTest]

/-! ### What a submission asks -/

theorem requests_submitMock {token : String} : (g.submitMock p l token).requests = [] := by
  unfold submitMock
  split
  · rfl
  · split <;> rfl

theorem requests_submitProvider {token : String} :
    (g.submitProvider p l order token).requests =
      (g.create (p.withRemoteId token) l order true).requests := by
  unfold submitProvider
  dsimp only
  split <;> rfl

theorem requests_submit :
    (g.submit p l order s).requests = (g.submitToken p l order s).requests := by
  unfold submit
  dsimp only
  split <;> rfl

theorem charge_of_submitProvider {token : String} {request : Request}
    (h : request ∈ (g.submitProvider p l order token).requests) :
    ∃ charge, request = .process charge ∧ charge.token = token := by
  rw [requests_submitProvider, create] at h
  obtain ⟨made, hmade, rfl, -⟩ := perform_requests h
  obtain ⟨-, -, own, hown, -, hrequest, -⟩ := Plan.create_ok hmade
  obtain rfl : token = own := Option.some.inj hown
  exact ⟨_, hrequest, rfl⟩

/-- A submission asks for nothing but the charge of a token of the processor. -/
theorem charge_of_submit {request : Request} (h : request ∈ (g.submit p l order s).requests) :
    ∃ charge, request = .process charge ∧
      CheckoutToken.parse g.knowsMockTokens s.token = .ok (.provider charge.token) := by
  rw [requests_submit, submitToken] at h
  split at h
  · cases h
  · next token hprovider =>
    obtain ⟨charge, hrequest, rfl⟩ := charge_of_submitProvider h
    exact ⟨charge, hrequest, hprovider⟩
  · rw [requests_submitMock] at h
    cases h

theorem requests_submit_of_new (hne : Text.trim s.token ≠ "")
    (hprovider : ¬StartsAsMock (Text.trim s.token)) (hstate : p.state = .new)
    (horder : order.id = p.orderId) :
    (g.submit p l order s).requests =
      [.process ⟨Text.trim s.token, p.amount.number, p.amount.currency, true, order.id,
        order.customerId⟩] := by
  have hguarded : Guarded (p.withRemoteId (Text.trim s.token)) (.create order true)
      (.process ⟨Text.trim s.token, p.amount.number, p.amount.currency, true, order.id,
        order.customerId⟩) := .create hstate horder rfl hne
  have hdirect : ∀ other submission, Action.create order true ≠ .submit other submission := by
    simp
  rw [requests_submit, submitToken, CheckoutToken.parse_of_provider hne hprovider]
  exact requests_submitProvider.trans (g.requests_of_guarded l hguarded hdirect)

/-! ### What a submission completes -/

/-- Whatever a submission leaves behind was approved by the processor, or a mock token stood in for
it. -/
theorem approved_or_mocked
    (h : (g.submit p l order s).result = .ok () ∨ (g.submit p l order s).payment ≠ p ∨
      (g.submit p l order s).ledger ≠ l) :
    (∃ request answer, (g.submit p l order s).requests = [request] ∧
      g.processor request = .ok answer ∧ answer.status.isApproved = true) ∨
    g.mockTokensEnabled = true ∧
      ∃ token, CheckoutToken.parse g.knowsMockTokens s.token = .ok (.mock token) := by
  have hending : Ending g (.submit order s) p l (g.submit p l order s) :=
    g.act_ending (.submit order s) p l
  generalize g.submit p l order s = outcome at h hending
  cases hending with
  | failed => simp at h
  | kept haction => cases haction
  | changed hchange hsave =>
    cases hchange with
    | charged hcharges hstate horder hanswer happroved hid =>
      exact .inl ⟨_, _, rfl, hanswer, happroved⟩
    | mocked htoken henabled hstate => exact .inr ⟨henabled, _, htoken⟩

/-! ### Cards to keep -/

theorem paymentMethod_ok {method : PaymentMethod} (h : g.paymentMethod s = .ok method) :
    method.remoteId = Text.trim s.token ∧
      (StartsAsMock method.remoteId → g.mockTokensEnabled = true) := by
  unfold paymentMethod at h
  cases hparse : CheckoutToken.parse g.knowsMockTokens s.token with
  | error failure =>
    rw [hparse] at h
    cases h
  | ok token =>
    rw [hparse] at h
    obtain ⟨htext, -, hknown⟩ := CheckoutToken.parse_eq_ok.1 hparse
    cases token with
    | provider text =>
      obtain rfl := Except.ok.inj h
      exact ⟨htext, fun hmock => absurd hmock hknown⟩
    | mock text =>
      by_cases henabled : g.mockTokensEnabled = true
      · simp only [henabled, if_true] at h
        obtain rfl := Except.ok.inj h
        exact ⟨htext, fun _ => henabled⟩
      · simp only [henabled] at h
        cases h

theorem exists_paymentMethod (hne : Text.trim s.token ≠ "")
    (hprovider : ¬StartsAsMock (Text.trim s.token)) :
    ∃ method, g.paymentMethod s = .ok method ∧ method.remoteId = Text.trim s.token := by
  unfold paymentMethod
  rw [CheckoutToken.parse_of_provider hne hprovider]
  exact ⟨_, rfl, rfl⟩

/-! ### Tests and money -/

/-- **Mock tokens stay in tests.** A submission leaves something behind only on an approved answer
of the processor, unless its token is mock, the build knows such tokens and the gateway is in test
mode. The processor is never sent a mock token, and cards are kept under one in such a build and
mode only. All other tokens are kept, and for a new payment of the order charged, as they are
without the blanks around them. Tokens that are read, and the mock tokens that are made, read as
themselves. -/
theorem mock_tokens_stay_in_tests (g : Gateway) (p : Payment) (l : Ledger) (order : Order)
    (s : Submission) :
    let token := Text.trim s.token
    let outcome := g.submit p l order s
    (outcome.result = .ok () ∨ outcome.payment ≠ p ∨ outcome.ledger ≠ l →
      (∃ request answer, outcome.requests = [request] ∧ g.processor request = .ok answer ∧
        answer.status.isApproved = true) ∨
      g.knowsMockTokens = true ∧ g.config.mode = .test ∧ StartsAsMock token) ∧
    (∀ request ∈ outcome.requests, ∃ charge, request = .process charge ∧ charge.token = token ∧
      token ≠ "" ∧ ¬StartsAsMock token) ∧
    (∀ method, g.paymentMethod s = .ok method → StartsAsMock method.remoteId →
      g.knowsMockTokens = true ∧ g.config.mode = .test) ∧
    (token ≠ "" → ¬StartsAsMock token →
      (∃ method, g.paymentMethod s = .ok method ∧ method.remoteId = token) ∧
      (p.state = .new → order.id = p.orderId → outcome.requests =
        [.process ⟨token, p.amount.number, p.amount.currency, true, order.id,
          order.customerId⟩])) ∧
    (∀ parsed, CheckoutToken.parse g.knowsMockTokens s.token = .ok parsed →
      CheckoutToken.parse g.knowsMockTokens parsed.text = .ok parsed) ∧
    ∀ now tail,
      CheckoutToken.parse true (mockToken now tail) = .ok (.mock (mockToken now tail)) := by
  intro token outcome
  refine ⟨?_, ?_, ?_, ?_, fun _ => CheckoutToken.parse_text, parse_mockToken⟩
  · intro h
    obtain happroved | ⟨henabled, mock, hparse⟩ := approved_or_mocked h
    · exact .inl happroved
    · obtain ⟨hknows, hmode⟩ := mockTokensEnabled_iff.1 henabled
      obtain ⟨htext, -, hstart, -⟩ := CheckoutToken.parse_eq_ok.1 hparse
      have hmock : mock = token := htext
      exact .inr ⟨hknows, hmode, hmock ▸ hstart⟩
  · intro request hrequest
    obtain ⟨charge, hcharge, hparse⟩ := charge_of_submit hrequest
    obtain ⟨htext, hne, hprovider⟩ := CheckoutToken.parse_eq_ok.1 hparse
    have hsent : charge.token = token := htext
    exact ⟨charge, hcharge, hsent, hsent ▸ hne, hsent ▸ hprovider⟩
  · intro method hmethod hmock
    exact mockTokensEnabled_iff.1 ((paymentMethod_ok hmethod).2 hmock)
  · intro hne hprovider
    exact ⟨exists_paymentMethod hne hprovider, requests_submit_of_new hne hprovider⟩

def mocking : Gateway :=
  ⟨.ofCredentials .test "" "", fun _ => .error (.transport none "no answer"), default, true⟩

def sampleSubmission (token : String) : Submission := { (default : Submission) with token }

theorem sample_mock_tokens_stay_in_tests :
    let outcome := mocking.submit (.begin "1" default) .empty default
      (sampleSubmission " test_token_1\n")
    outcome.result = .ok () ∧ outcome.payment.state = .completed ∧ outcome.requests = [] ∧
      StartsAsMock (Text.trim " test_token_1\n") ∧
      (∃ method, mocking.paymentMethod (sampleSubmission "\ttoken ") = .ok method ∧
        method.remoteId = "token") ∧
      (mocking.submit (.begin "" default) .empty default (sampleSubmission "\ttoken ")).requests =
        [.process ⟨"token", .zero, "", true, "", ""⟩] := by
  intro outcome
  have hresult : outcome.result = .ok () := rfl
  obtain ⟨hcompleted, -⟩ := mock_tokens_stay_in_tests mocking (.begin "1" default) .empty default
    (sampleSubmission " test_token_1\n")
  obtain ⟨-, -, -, hprovider, -⟩ := mock_tokens_stay_in_tests mocking (.begin "" default) .empty
    default (sampleSubmission "\ttoken ")
  obtain ⟨hkept, hcharged⟩ := hprovider (by decide) (by decide)
  obtain ⟨request, answer, -, hanswer, -⟩ | ⟨-, -, hstart⟩ := hcompleted (.inl hresult)
  · cases hanswer
  · exact ⟨hresult, rfl, rfl, hstart, hkept, hcharged rfl rfl⟩

end Gateway

end CardPayments
