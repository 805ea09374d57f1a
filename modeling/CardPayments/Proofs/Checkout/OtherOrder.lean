import CardPayments.Proofs.Checkout.Mock
import CardPayments.Proofs.Gateway.Overflow
import CardPayments.Proofs.HostedPage.RoundTrip

/-!
# Another order's payment

Whoever holds a payment together with an order can charge the payment, submit a checkout for it or
send the customer to the hosted page. Only the charge compares the two orders. So a charge of
another order's payment asks nothing and changes nothing, and neither does a submitted checkout that
comes down to one. A mock token completes the payment without a charge and never looks at the order,
and the redirect form takes the payment's order and the customer's data as they are given.
-/

namespace CardPayments

/-- What speaks against charging the payment for an order that is not its own. -/
def Payment.obstacleTo (p : Payment) (order : Order) : Obstacle :=
  if p.state = .new then .otherOrder p.orderId order.id else .wrongState p.state [.new]

section OtherOrder

variable {g : Gateway} {p : Payment} {l : Ledger} {order : Order} {s : Submission}

/-! ### Charges -/

theorem Plan.create_of_other {config : Config} {now : Instant} {captures : Bool}
    (hother : order.id ≠ p.orderId) :
    Plan.create config now p order captures =
      .error (.error (.precondition .process (p.obstacleTo order))) := by
  unfold Plan.create Payment.obstacleTo requireState
  by_cases hstate : p.state = .new
  · simp [hstate, hother, Failure.stop]
  · simp [hstate, Failure.stop]

namespace Gateway

theorem create_of_other {captures : Bool} (hother : order.id ≠ p.orderId) :
    g.create p l order captures =
      .refused (.error (.precondition .process (p.obstacleTo order))) p l := by
  rw [create, Plan.create_of_other hother, perform_error]

/-! ### Submitted checkouts -/

theorem submitProvider_of_other {token : String} (hother : order.id ≠ p.orderId) :
    g.submitProvider p l order token =
      .refused (.error (.precondition .process (p.obstacleTo order))) p l := by
  have hcharged : order.id ≠ (p.withRemoteId token).orderId := hother
  rw [submitProvider, create_of_other hcharged]
  rfl

/-- A submission under another order is refused, whatever its token, unless the token is mock. -/
theorem submit_of_other (hother : order.id ≠ p.orderId)
    (hmock : ∀ token, CheckoutToken.parse g.knowsMockTokens s.token ≠ .ok (.mock token)) :
    ∃ failure, g.submit p l order s =
      ⟨.error (.error failure), p, l, [], [⟨.error, failure.userMessage⟩]⟩ := by
  cases hparse : CheckoutToken.parse g.knowsMockTokens s.token with
  | error failure =>
    refine ⟨failure, ?_⟩
    rw [submit, submitToken, hparse]
    rfl
  | ok token =>
    cases token with
    | provider token =>
      refine ⟨.precondition .process (p.obstacleTo order), ?_⟩
      rw [submit, submitToken, hparse]
      dsimp only
      rw [submitProvider_of_other hother]
      rfl
    | mock token => exact absurd hparse (hmock token)

theorem submit_mock_congr {token : String}
    (hmock : CheckoutToken.parse g.knowsMockTokens s.token = .ok (.mock token)) (other : Order) :
    g.submit p l order s = g.submit p l other s := by
  rw [submit, submit, submitToken, submitToken, hmock]

theorem requests_submit_of_other (hother : order.id ≠ p.orderId) :
    (g.submit p l order s).requests = [] := by
  by_cases hmock : ∃ token, CheckoutToken.parse g.knowsMockTokens s.token = .ok (.mock token)
  · obtain ⟨token, hmock⟩ := hmock
    rw [requests_submit, submitToken, hmock]
    exact requests_submitMock
  · obtain ⟨failure, hrefused⟩ :=
      submit_of_other (g := g) (l := l) hother (not_exists.1 hmock)
    rw [hrefused]

theorem submit_of_mock {token : String}
    (hmock : CheckoutToken.parse g.knowsMockTokens s.token = .ok (.mock token))
    (henabled : g.mockTokensEnabled = true) (hstate : p.state = .new) (hsaves : l.refusal = none) :
    (g.submit p l order s).result = .ok () := by
  have hcompleted : ∃ updated, g.completedWithMock p token = .ok updated := by
    simp [completedWithMock, henabled, hstate]
  obtain ⟨updated, hupdated⟩ := hcompleted
  obtain ⟨stored, after, hsave⟩ := l.exists_save hsaves updated
  simp only [submit, submitToken, hmock, submitMock, hupdated, hsave]

/-- A submission under another order succeeds where a mock token completes the payment, and only
there. -/
theorem submit_of_other_eq_ok_iff (hother : order.id ≠ p.orderId) :
    (g.submit p l order s).result = .ok () ↔
      (∃ token, CheckoutToken.parse g.knowsMockTokens s.token = .ok (.mock token)) ∧
        g.mockTokensEnabled = true ∧ p.state = .new ∧ l.refusal = none := by
  constructor
  · intro hresult
    have hending : Ending g (.submit order s) p l (g.submit p l order s) :=
      g.act_ending (.submit order s) p l
    generalize g.submit p l order s = outcome at hresult hending
    cases hending with
    | failed => cases hresult
    | kept haction => cases haction
    | changed hchange hsave =>
      obtain ⟨hsaves, -⟩ := Ledger.save_eq_ok.1 hsave
      cases hchange with
      | charged hcharges _ horder => cases hcharges with | submit => exact absurd horder hother
      | mocked hmock henabled hstate => exact ⟨⟨_, hmock⟩, henabled, hstate, hsaves⟩
  · rintro ⟨⟨token, hmock⟩, henabled, hstate, hsaves⟩
    exact submit_of_mock hmock henabled hstate hsaves

end Gateway

end OtherOrder

/-! ### The redirect form -/

namespace HostedPage

variable {config : Config} {p : Payment} {order : Order} {urls : CallbackUrls}

theorem redirectForm_ok {form : RedirectForm} (h : redirectForm config p order urls = .ok form) :
    config.hostedPageUrl ≠ none ∧ form.fields = redirectFields config p order urls := by
  unfold redirectForm Config.hostedPage at h
  generalize redirectFields config p order urls = fields at h ⊢
  split at h
  · next url hpage =>
    obtain rfl := Except.ok.inj h
    exact ⟨by rw [hpage]; exact Option.some_ne_none url, rfl⟩
  · cases h

theorem redirectForm_names {form : RedirectForm} (h : redirectForm config p order urls = .ok form) :
    form.fields.get? "orderId" = some p.orderId ∧
      form.fields.get? "customerId" = some order.customerId := by
  rw [(redirectForm_ok h).2]
  refine ⟨(get?_redirectFields config p order urls).1, ?_⟩
  unfold redirectFields
  refine Form.get?_ofPairs_of_mem ?_ ?_ <;> cases config.mode.isTest <;> simp

end HostedPage

/-! ### Every way in -/

/-- **Another order's payment is charged nowhere, but it can be completed and sent on.** A charge
under another order is refused and changes nothing. A submitted checkout asks nothing either, and it
is refused without a change unless a mock token completes the payment, as it would under its own
order. The redirect form is made whenever there is a hosted page; it names the payment's order and
the other order's customer. -/
theorem other_order_charges_nothing (g : Gateway) (p : Payment) (l : Ledger) (order : Order)
    (s : Submission) (hother : order.id ≠ p.orderId) :
    (∀ captures, g.create p l order captures =
      .refused (.error (.precondition .process (p.obstacleTo order))) p l) ∧
    (g.submit p l order s).requests = [] ∧
    ((g.submit p l order s).result = .ok () ↔
      (∃ token, CheckoutToken.parse g.knowsMockTokens s.token = .ok (.mock token)) ∧
        g.mockTokensEnabled = true ∧ p.state = .new ∧ l.refusal = none) ∧
    ((g.submit p l order s).result ≠ .ok () →
      (∃ failure, (g.submit p l order s).result = .error (.error failure)) ∧
        (g.submit p l order s).payment = p ∧ (g.submit p l order s).ledger = l) ∧
    (∀ token own, CheckoutToken.parse g.knowsMockTokens s.token = .ok (.mock token) →
      g.submit p l order s = g.submit p l own s) ∧
    ∀ (config : Config) (urls : CallbackUrls),
      ((∃ form, HostedPage.redirectForm config p order urls = .ok form) ↔
        config.hostedPageUrl ≠ none) ∧
      ∀ form, HostedPage.redirectForm config p order urls = .ok form →
        form.fields.get? "orderId" = some p.orderId ∧
          form.fields.get? "customerId" = some order.customerId := by
  refine ⟨fun captures => Gateway.create_of_other hother, Gateway.requests_submit_of_other hother,
    Gateway.submit_of_other_eq_ok_iff hother, ?_, fun token own hmock =>
    Gateway.submit_mock_congr hmock own, ?_⟩
  · intro hfailed
    cases hresult : (g.submit p l order s).result with
    | ok => exact absurd hresult hfailed
    | error stop =>
      have hkept := (g.act_ending (.submit order s) p l).unchanged hresult
      cases stop with
      | error failure => exact ⟨⟨failure, rfl⟩, hkept⟩
      | overflow o => exact absurd hresult Gateway.submit_ne_overflow
  · intro config urls
    refine ⟨⟨?_, ?_⟩, fun form => HostedPage.redirectForm_names⟩
    · rintro ⟨form, hform⟩
      exact (HostedPage.redirectForm_ok hform).1
    · intro hpage
      obtain ⟨url, hurl⟩ := Option.ne_none_iff_exists'.1 hpage
      obtain ⟨form, hform, -⟩ := HostedPage.exists_redirectForm hurl p order urls
      exact ⟨form, hform⟩

theorem sample_other_order_charges_nothing :
    let p := Payment.begin "1" default
    let outcome := Gateway.mocking.submit p .empty default (Gateway.sampleSubmission "token")
    (default : Order).id ≠ p.orderId ∧ outcome.requests = [] ∧ outcome.payment = p ∧
      outcome.ledger = .empty := by
  intro p outcome
  have hother : (default : Order).id ≠ p.orderId := by decide
  obtain ⟨-, hrequests, -, hkept, -⟩ := other_order_charges_nothing Gateway.mocking p .empty
    default (Gateway.sampleSubmission "token") hother
  have hresult : outcome.result = .error (.error (.precondition .process (.otherOrder "1" ""))) :=
    rfl
  have hfailed : outcome.result ≠ .ok () := by simp [hresult]
  obtain ⟨-, hpayment, hledger⟩ := hkept hfailed
  exact ⟨hother, hrequests, hpayment, hledger⟩

/-- Not every way in refuses another order's payment: a mock token completes it, and the redirect
form is made for it. -/
theorem not_refused_under_other_order :
    (¬∀ (g : Gateway) (p : Payment) (l : Ledger) (order : Order) (s : Submission),
      order.id ≠ p.orderId → ∃ stop, (g.submit p l order s).result = .error stop) ∧
    ¬∀ (config : Config) (p : Payment) (order : Order) (urls : CallbackUrls),
      order.id ≠ p.orderId →
        ∃ failure, HostedPage.redirectForm config p order urls = .error failure := by
  have hother : (default : Order).id ≠ (Payment.begin "1" default).orderId := by decide
  constructor
  · intro hall
    obtain ⟨stop, hstop⟩ := hall Gateway.mocking (.begin "1" default) .empty default
      (Gateway.sampleSubmission "test_token_1") hother
    cases hstop
  · intro hall
    let config : Config := { (default : Config) with hostedPageUrl := some HostedPage.samplePage }
    let urls : CallbackUrls := ⟨HostedPage.samplePage, HostedPage.samplePage⟩
    have hpage : config.hostedPageUrl = some HostedPage.samplePage := rfl
    obtain ⟨form, hform, -⟩ :=
      HostedPage.exists_redirectForm hpage (.begin "1" default) default urls
    obtain ⟨failure, hfailure⟩ := hall config (.begin "1" default) default urls hother
    rw [hform] at hfailure
    cases hfailure

end CardPayments
