import CardPayments.Checkout
import CardPayments.Proofs.Gateway.Perform

/-!
# Actions on a payment

Everything that can be done to a payment once it exists: the five operations of the gateway and a
submitted checkout. `Change` lists, once for all of them, how an action that succeeds can change the
payment: what it found, what it asked, what was answered and what it made of the payment.
`Gateway.act_ending` says that nothing else happens. An action fails and leaves everything as it
was, or it looks the transaction up and finds nothing new, or it saves one change.
-/

namespace CardPayments

inductive Action where
  | create (order : Order) (captures : Bool)
  | capture (amount : Option Price)
  | void
  | refund (amount : Option Price)
  | refresh
  | submit (order : Order) (submission : Submission)

def Action.operation : Action → Operation
  | .create _ _ => .process
  | .capture _ => .capture
  | .void => .void
  | .refund _ => .refund
  | .refresh => .refresh
  | .submit _ _ => .process

theorem Action.direct_or_submit (action : Action) :
    (∀ order submission, action ≠ .submit order submission) ∨
      ∃ order submission, action = .submit order submission := by
  cases action <;> simp

def Gateway.act (g : Gateway) (action : Action) (p : Payment) (l : Ledger) : Outcome Unit :=
  match action with
  | .create order captures => (g.create p l order captures).map fun _ => ()
  | .capture amount => (g.capture p l amount).map fun _ => ()
  | .void => (g.void p l).map fun _ => ()
  | .refund amount => (g.refund p l amount).map fun _ => ()
  | .refresh => (g.refresh p l).map fun _ => ()
  | .submit order submission => g.submit p l order submission

/-- The plan of an operation; a submitted checkout has none. -/
def Gateway.plan (g : Gateway) (p : Payment) : Action → Option (Except (Stop Failure) Plan)
  | .create order captures => some (Plan.create g.config g.now p order captures)
  | .capture amount => some (Plan.capture g.now p amount)
  | .void => some (Plan.void p)
  | .refund amount => some (Plan.refund p amount)
  | .refresh => some (Plan.refresh p)
  | .submit _ _ => none

theorem Gateway.act_of_plan {g : Gateway} {p : Payment} {l : Ledger} {action : Action}
    {plan : Except (Stop Failure) Plan} (h : g.plan p action = some plan) :
    g.act action p l = (g.perform p l plan).map fun _ => () := by
  cases action with
  | submit => cases h
  | create | capture | void | refund | refresh => cases h; rfl

/-! ### Changes -/

/-- The action charges this token for the order, at once or as an authorization. -/
inductive Charges (g : Gateway) (p : Payment) : Action → Order → String → Bool → Prop
  | create {order : Order} {captures : Bool} {token : String} (htoken : p.remoteId = some token)
      (hne : token ≠ "") : Charges g p (.create order captures) order token captures
  | submit {order : Order} {submission : Submission} {token : String}
      (htoken : CheckoutToken.parse g.knowsMockTokens submission.token = .ok (.provider token)) :
      Charges g p (.submit order submission) order token true

/-- The action, with the requests it made, changes the payment to another before it is saved. -/
inductive Change (g : Gateway) (p : Payment) : Action → List Request → Payment → Prop
  | charged {action : Action} {order : Order} {token id : String} {captures : Bool}
      {answer : Transaction} (hcharges : Charges g p action order token captures)
      (hstate : p.state = .new) (horder : order.id = p.orderId)
      (hanswer : g.processor (.process ⟨token, p.amount.number, p.amount.currency, captures,
        order.id, order.customerId⟩) = .ok answer)
      (happroved : answer.status.isApproved = true) (hid : answer.transactionId = some id) :
      Change g p action
        [.process ⟨token, p.amount.number, p.amount.currency, captures, order.id,
          order.customerId⟩]
        { p with
          state := if captures then .completed else .authorization
          remoteId := some id
          remoteState := some answer.status.text
          authorizedTime := some g.now
          capturedTime := if captures then some g.now else p.capturedTime
          gatewayMode := some g.config.mode }
  | mocked {order : Order} {submission : Submission} {token : String}
      (htoken : CheckoutToken.parse g.knowsMockTokens submission.token = .ok (.mock token))
      (henabled : g.mockTokensEnabled = true) (hstate : p.state = .new) :
      Change g p (.submit order submission) []
        { p with
          state := .completed
          remoteId := some token
          remoteState := some "APPROVED"
          authorizedTime := some g.now
          capturedTime := some g.now
          gatewayMode := some g.config.mode }
  | captured {given : Option Price} {amount : Price} {id : String} {answer : Transaction}
      (hgiven : given.getD p.amount = amount) (hstate : p.state = .authorization)
      (hcurrency : p.amount.currency = amount.currency) (hpositive : amount.isPositive = true)
      (hle : amount.number ≤ p.amount.number) (hid : p.remoteId = some id) (hne : id ≠ "")
      (hanswer : g.processor (.capture id amount.number) = .ok answer)
      (happroved : answer.status.isApproved = true) :
      Change g p (.capture given) [.capture id amount.number]
        { p with
          state := .completed
          amount := amount
          capturedTime := some g.now
          remoteState := some answer.status.text }
  | voided {id : String} {answer : Transaction} (hstate : p.state = .authorization)
      (hid : p.remoteId = some id) (hne : id ≠ "") (hanswer : g.processor (.void id) = .ok answer)
      (happroved : answer.status.isApproved = true) :
      Change g p .void [.void id]
        { p with state := .authorizationVoided, remoteState := some answer.status.text }
  | refunded {given : Option Price} {balance amount total : Price} {id : String}
      {answer : Transaction} (hbalance : p.balance = .ok balance)
      (hgiven : given.getD balance = amount)
      (hstate : p.state = .completed ∨ p.state = .partiallyRefunded)
      (hcurrency : p.amount.currency = amount.currency) (hpositive : amount.isPositive = true)
      (hle : amount.number ≤ balance.number) (hid : p.remoteId = some id) (hne : id ≠ "")
      (hanswer : g.processor (.refund id amount.number) = .ok answer)
      (happroved : answer.status.isApproved = true)
      (htotal : p.refundedAmount.add amount = .ok total)
      (hsame : total.currency = p.amount.currency) :
      Change g p (.refund given) [.refund id amount.number]
        { p with
          state := if total.number < p.amount.number then .partiallyRefunded else .refunded
          refundedAmount := total }
  | refreshed {id : String} {answer : Transaction} (hstate : p.state ≠ .new)
      (hid : p.remoteId = some id) (hne : id ≠ "") (hanswer : g.processor (.get id) = .ok answer)
      (hnews : p.remoteState ≠ some answer.status.text) :
      Change g p .refresh [.get id] { p with remoteState := some answer.status.text }

namespace Change

variable {g : Gateway} {action : Action} {p q : Payment} {requests : List Request}

theorem id_eq (h : Change g p action requests q) : q.id = p.id := by
  cases h <;> rfl

theorem state_ne_new (h : Change g p action requests q) : q.state ≠ .new := by
  cases h with
  | charged => dsimp only; split <;> decide
  | mocked => exact PaymentState.noConfusion
  | captured => exact PaymentState.noConfusion
  | voided => exact PaymentState.noConfusion
  | refunded => dsimp only; split <;> decide
  | refreshed hstate => exact hstate

end Change

/-- What an action leaves behind: nothing, a look-up without news, or one saved change. -/
inductive Ending (g : Gateway) (action : Action) (p : Payment) (l : Ledger) : Outcome Unit → Prop
  | failed {stop : Stop Failure} {requests : List Request} {notices : List Notice} :
      Ending g action p l ⟨.error stop, p, l, requests, notices⟩
  | kept {id : String} {answer : Transaction} (haction : action = .refresh)
      (hstate : p.state ≠ .new) (hid : p.remoteId = some id)
      (hanswer : g.processor (.get id) = .ok answer)
      (hsame : p.remoteState = some answer.status.text) :
      Ending g action p l ⟨.ok (), p, l, [.get id], []⟩
  | changed {requests : List Request} {updated stored : Payment} {after : Ledger}
      {notices : List Notice} (hchange : Change g p action requests updated)
      (hsave : l.save updated = .ok (stored, after)) :
      Ending g action p l ⟨.ok (), stored, after, requests, notices⟩

namespace Ending

variable {g : Gateway} {action : Action} {p : Payment} {l : Ledger} {o : Outcome Unit}

theorem unchanged (h : Ending g action p l o) {stop : Stop Failure}
    (hresult : o.result = .error stop) :
    o.payment = p ∧ o.ledger = l := by
  cases h with
  | failed => exact ⟨rfl, rfl⟩
  | kept => cases hresult
  | changed => cases hresult

theorem noticed {stop : Stop Failure}
    (h : Ending g action p l o) (hresult : o.result = .error stop) (notices : List Notice) :
    Ending g action p l { o with notices } := by
  cases h with
  | failed => exact .failed
  | kept => cases hresult
  | changed => cases hresult

end Ending

namespace Gateway

variable {g : Gateway} {p : Payment} {l : Ledger}

/-! ### The ends of actions -/

theorem change_of_charge {action : Action} {order : Order} {token : String} {captures : Bool}
    {made : Plan} {answer : Transaction} {updated : Payment}
    (hcharges : Charges g p action order token captures)
    (hmade : Plan.create g.config g.now (p.withRemoteId token) order captures = .ok made)
    (hanswer : g.processor made.request = .ok answer)
    (hsettle : made.settle answer = .ok (some updated)) :
    Change g p action [made.request] updated := by
  obtain ⟨hstate, horder, own, hown, -, hrequest, hsettled⟩ := Plan.create_ok hmade
  obtain rfl : token = own := Option.some.inj hown
  obtain ⟨happroved, id, hid, hupdated⟩ := (hsettled _ _).1 hsettle
  rw [hrequest] at hanswer ⊢
  rw [← Option.some.inj hupdated]
  exact .charged hcharges hstate horder hanswer happroved hid

theorem create_settle_ne_none {config : Config} {now : Instant} {order : Order} {captures : Bool}
    {made : Plan} {answer : Transaction}
    (hmade : Plan.create config now p order captures = .ok made) :
    made.settle answer ≠ .ok none := by
  obtain ⟨-, -, -, -, -, -, hsettled⟩ := Plan.create_ok hmade
  simp [hsettled]

/-- An operation ends well if its plan settles every answer either with a change or, having no
news, with nothing. -/
theorem ending_of_plan {action : Action} {plan : Except (Stop Failure) Plan}
    (hchange : ∀ made answer updated, plan = .ok made → g.processor made.request = .ok answer →
      made.settle answer = .ok (some updated) → Change g p action [made.request] updated)
    (hkeep : ∀ made answer, plan = .ok made → g.processor made.request = .ok answer →
      made.settle answer = .ok none → Ending g action p l ⟨.ok (), p, l, [made.request], []⟩) :
    Ending g action p l ((g.perform p l plan).map fun _ => ()) := by
  obtain ⟨stop, requests, heq⟩ | ⟨made, answer, stored, after, hmade, hanswer, heq, hsettled⟩ :=
    g.perform_cases p l plan
  · rw [heq]
    exact .failed
  · rw [heq]
    obtain ⟨hnone, rfl, rfl⟩ | ⟨updated, hsome, hsave⟩ := hsettled
    · exact hkeep made answer hmade hanswer hnone
    · exact .changed (hchange made answer updated hmade hanswer hsome) hsave

theorem ending_create (order : Order) (captures : Bool) :
    Ending g (.create order captures) p l (g.act (.create order captures) p l) := by
  refine ending_of_plan ?_ ?_
  · intro made answer updated hmade hanswer hsettle
    obtain ⟨-, -, token, htoken, hne, -⟩ := Plan.create_ok hmade
    have hcarries : p.withRemoteId token = p := by rw [Payment.withRemoteId, ← htoken]
    exact change_of_charge (.create htoken hne) (hcarries ▸ hmade) hanswer hsettle
  · intro made answer hmade hanswer hnone
    exact absurd hnone (create_settle_ne_none hmade)

theorem ending_capture (given : Option Price) :
    Ending g (.capture given) p l (g.act (.capture given) p l) := by
  refine ending_of_plan ?_ ?_
  · intro made answer updated hmade hanswer hsettle
    obtain ⟨amount, id, hgiven, hstate, hcurrency, hpositive, hle, hid, hne, hrequest, hsettled⟩ :=
      Plan.capture_ok hmade
    obtain ⟨happroved, hupdated⟩ := (hsettled _ _).1 hsettle
    rw [hrequest] at hanswer ⊢
    rw [← Option.some.inj hupdated]
    exact .captured hgiven hstate hcurrency hpositive hle hid hne hanswer happroved
  · intro made answer hmade hanswer hnone
    obtain ⟨_, _, -, -, -, -, -, -, -, -, hsettled⟩ := Plan.capture_ok hmade
    simp [hsettled] at hnone

theorem ending_void : Ending g .void p l (g.act .void p l) := by
  refine ending_of_plan ?_ ?_
  · intro made answer updated hmade hanswer hsettle
    obtain ⟨hstate, id, hid, hne, hrequest, hsettled⟩ := Plan.void_ok hmade
    obtain ⟨happroved, hupdated⟩ := (hsettled _ _).1 hsettle
    rw [hrequest] at hanswer ⊢
    rw [← Option.some.inj hupdated]
    exact .voided hstate hid hne hanswer happroved
  · intro made answer hmade hanswer hnone
    obtain ⟨-, _, -, -, -, hsettled⟩ := Plan.void_ok hmade
    simp [hsettled] at hnone

theorem ending_refund (given : Option Price) :
    Ending g (.refund given) p l (g.act (.refund given) p l) := by
  refine ending_of_plan ?_ ?_
  · intro made answer updated hmade hanswer hsettle
    obtain ⟨balance, amount, id, hbalance, hgiven, hstate, hcurrency, hpositive, hle, hid, hne,
      hrequest, hsettled, -⟩ := Plan.refund_ok hmade
    obtain ⟨happroved, total, htotal, hsame, hupdated⟩ := (hsettled _ _).1 hsettle
    rw [hrequest] at hanswer ⊢
    rw [← Option.some.inj hupdated]
    exact .refunded hbalance hgiven hstate hcurrency hpositive hle hid hne hanswer happroved htotal
      hsame
  · intro made answer hmade hanswer hnone
    obtain ⟨_, _, _, -, -, -, -, -, -, -, -, -, hsettled, -⟩ := Plan.refund_ok hmade
    simp [hsettled] at hnone

theorem ending_refresh : Ending g .refresh p l (g.act .refresh p l) := by
  refine ending_of_plan ?_ ?_
  · intro made answer updated hmade hanswer hsettle
    obtain ⟨hstate, id, hid, hne, hrequest, hsettled⟩ := Plan.refresh_ok hmade
    rw [hrequest] at hanswer ⊢
    rw [hsettled] at hsettle
    split at hsettle
    · cases hsettle
    · next hnews =>
      rw [← Option.some.inj hsettle]
      exact .refreshed hstate hid hne hanswer hnews
  · intro made answer hmade hanswer hnone
    obtain ⟨hstate, id, hid, -, hrequest, hsettled⟩ := Plan.refresh_ok hmade
    rw [hrequest] at hanswer ⊢
    rw [hsettled] at hnone
    split at hnone
    · next hsame => exact .kept rfl hstate hid hanswer hsame
    · cases hnone

/-! ### A submitted checkout -/

theorem ending_submitProvider {order : Order} {submission : Submission} {token : String}
    (htoken : CheckoutToken.parse g.knowsMockTokens submission.token = .ok (.provider token)) :
    Ending g (.submit order submission) p l (g.submitProvider p l order token) := by
  rw [submitProvider, create]
  obtain ⟨stop, requests, heq⟩ | ⟨made, answer, stored, after, hmade, hanswer, heq, hsettled⟩ :=
    g.perform_cases (p.withRemoteId token) l
      (Plan.create g.config g.now (p.withRemoteId token) order true)
  · simp only [heq]
    exact .failed
  · simp only [heq]
    obtain ⟨hnone, -⟩ | ⟨updated, hsome, hsave⟩ := hsettled
    · exact absurd hnone (create_settle_ne_none hmade)
    · exact .changed (change_of_charge (.submit htoken) hmade hanswer hsome) hsave

theorem completedWithMock_ok {token : String} {updated : Payment}
    (h : g.completedWithMock p token = .ok updated) :
    g.mockTokensEnabled = true ∧ p.state = .new ∧
      { p with
        state := .completed
        remoteId := some token
        remoteState := some "APPROVED"
        authorizedTime := some g.now
        capturedTime := some g.now
        gatewayMode := some g.config.mode } = updated := by
  simp only [completedWithMock, unless_stop_eq_ok, bind_eq_ok, requireState_eq_ok,
    List.mem_singleton, pure_eq_ok] at h
  obtain ⟨henabled, -, hstate, hupdated⟩ := h
  exact ⟨by simpa using henabled, hstate, hupdated⟩

theorem ending_submitMock {order : Order} {submission : Submission} {token : String}
    (htoken : CheckoutToken.parse g.knowsMockTokens submission.token = .ok (.mock token)) :
    Ending g (.submit order submission) p l (g.submitMock p l token) := by
  unfold submitMock
  split
  · exact .failed
  · next updated hupdated =>
    obtain ⟨henabled, hstate, rfl⟩ := completedWithMock_ok hupdated
    split
    · exact .failed
    · next stored after hsave => exact .changed (.mocked htoken henabled hstate) hsave

theorem ending_submit (order : Order) (submission : Submission) :
    Ending g (.submit order submission) p l (g.act (.submit order submission) p l) := by
  have htoken : Ending g (.submit order submission) p l (g.submitToken p l order submission) := by
    unfold submitToken
    split
    · exact .failed
    · next token hprovider => exact ending_submitProvider hprovider
    · next token hmock => exact ending_submitMock hmock
  rw [act, submit]
  split
  · next failure hresult => exact htoken.noticed hresult _
  · exact htoken

/-- **Every action ends in one of three ways.** -/
theorem act_ending (g : Gateway) (action : Action) (p : Payment) (l : Ledger) :
    Ending g action p l (g.act action p l) := by
  cases action with
  | create order captures => exact ending_create order captures
  | capture given => exact ending_capture given
  | void => exact ending_void
  | refund given => exact ending_refund given
  | refresh => exact ending_refresh
  | submit order submission => exact ending_submit order submission

end Gateway

end CardPayments
