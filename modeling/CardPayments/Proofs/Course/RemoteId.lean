import CardPayments.Proofs.Checkout.Mock
import CardPayments.Proofs.Course.State
import CardPayments.Proofs.Gateway.Precondition
import CardPayments.Proofs.Trust

/-!
# The id that a payment goes by

A payment leaves `new` under an id: the one that the processor's answer names, the mock token that
stands in for an answer, or the approval code of a return. It keeps that id, and every later
operation asks for the payment by it. An answer or a return may name the empty id, which the later
operations take for none. So whether a payment can be acted on is decided once, by the id under
which it was processed: one that was processed under the empty id is never asked for or changed
again.
-/

namespace CardPayments

/-- The payment is no longer new and goes by this id. -/
def Payment.GoesBy (p : Payment) (id : String) : Prop := p.state ≠ .new ∧ p.remoteId = some id

/-- The event processes a new payment and gives it this id. -/
inductive Event.Issues (e : Event) : String → Prop
  | answered {request : Request} {answer : Transaction} {id : String}
      (hnew : e.before.state = .new) (hsucceeds : e.succeeds = true)
      (hrequests : e.outcome.requests = [request])
      (hanswer : e.step.gateway.processor request = .ok answer)
      (hid : answer.transactionId = some id) : Event.Issues e id
  | mocked {order : Order} {submission : Submission} {token : String}
      (hnew : e.before.state = .new) (hsucceeds : e.succeeds = true)
      (haction : e.step.action = .submit order submission)
      (htoken : CheckoutToken.parse e.step.gateway.knowsMockTokens submission.token =
        .ok (.mock token)) : Event.Issues e token

/-! ### One change -/

section Change

variable {g : Gateway} {action : Action} {p q : Payment} {requests : List Request} {id : String}

theorem Change.remoteId_eq (h : Change g p action requests q) (hstate : p.state ≠ .new) :
    q.remoteId = p.remoteId := by
  cases h with
  | charged _ hnew => exact absurd hnew hstate
  | mocked _ _ hnew => exact absurd hnew hstate
  | captured => rfl
  | voided => rfl
  | refunded => rfl
  | refreshed => rfl

theorem Change.remoteId_of_new (h : Change g p action requests q) (hnew : p.state = .new) :
    (∃ request answer id, requests = [request] ∧ g.processor request = .ok answer ∧
      answer.transactionId = some id ∧ q.remoteId = some id) ∨
    ∃ order submission token, requests = [] ∧ action = .submit order submission ∧
      CheckoutToken.parse g.knowsMockTokens submission.token = .ok (.mock token) ∧
      q.remoteId = some token := by
  cases h with
  | charged _ _ _ hanswer _ hid => exact .inl ⟨_, _, _, rfl, hanswer, hid, rfl⟩
  | mocked htoken => exact .inr ⟨_, _, _, rfl, rfl, htoken, rfl⟩
  | captured _ hstate => simp [hnew] at hstate
  | voided hstate => simp [hnew] at hstate
  | refunded _ _ hstate => simp [hnew] at hstate
  | refreshed hstate => exact absurd hnew hstate

theorem Change.remoteId_of_answer {request : Request} {answer : Transaction}
    (h : Change g p action [request] q) (hnew : p.state = .new)
    (hanswer : g.processor request = .ok answer) (hid : answer.transactionId = some id) :
    q.remoteId = some id := by
  obtain ⟨own, ownAnswer, _, hrequest, hown, hownId, hremote⟩ | ⟨_, _, _, hnone, -⟩ :=
    h.remoteId_of_new hnew
  · obtain rfl := List.head_eq_of_cons_eq hrequest
    obtain rfl := Except.ok.inj (hanswer.symm.trans hown)
    exact hremote.trans (hownId.symm.trans hid)
  · cases hnone

theorem Change.remoteId_of_mock {order : Order} {submission : Submission} {token : String}
    (h : Change g p (.submit order submission) requests q)
    (htoken : CheckoutToken.parse g.knowsMockTokens submission.token = .ok (.mock token)) :
    q.remoteId = some token := by
  cases h with
  | charged hcharges =>
    cases hcharges with
    | submit hprovider =>
      rw [htoken] at hprovider
      cases hprovider
  | mocked hown =>
    obtain rfl := CheckoutToken.mock.inj (Except.ok.inj (htoken.symm.trans hown))
    rfl

end Change

/-! ### One event -/

namespace Event

variable {e : Event} {id : String}

theorem exists_change (hnew : e.before.state = .new) (hsucceeds : e.succeeds = true) :
    ∃ updated, Change e.step.gateway e.before e.step.action e.outcome.requests updated ∧
      e.after.state = updated.state ∧ e.after.remoteId = updated.remoteId := by
  obtain ⟨-, -, hkept⟩ | ⟨-, updated, hchange, hsave⟩ := e.kept_or_saved
  · exact absurd hnew (hkept hsucceeds).1
  · obtain ⟨-, hstored, -⟩ := Ledger.save_eq_ok.1 hsave
    rw [← hstored]
    exact ⟨updated, hchange, rfl, rfl⟩

theorem goesBy_of_issues (h : e.Issues id) : e.after.GoesBy id := by
  cases h with
  | answered hnew hsucceeds hrequests hanswer hid =>
    obtain ⟨updated, hchange, hstate, hremote⟩ := exists_change hnew hsucceeds
    have hleft : updated.state ≠ .new := hchange.state_ne_new
    rw [hrequests] at hchange
    exact ⟨hstate ▸ hleft, hremote.trans (hchange.remoteId_of_answer hnew hanswer hid)⟩
  | mocked hnew hsucceeds haction htoken =>
    obtain ⟨updated, hchange, hstate, hremote⟩ := exists_change hnew hsucceeds
    have hleft : updated.state ≠ .new := hchange.state_ne_new
    rw [haction] at hchange
    exact ⟨hstate ▸ hleft, hremote.trans (hchange.remoteId_of_mock htoken)⟩

/-- An event that takes a payment out of `new` gives it an id. -/
theorem exists_issues (hnew : e.before.state = .new) (hleft : e.after.state ≠ .new) :
    ∃ id, e.Issues id := by
  have hsucceeds : e.succeeds = true := by
    cases h : e.succeeds with
    | true => rfl
    | false =>
      rw [after_of_fails h] at hleft
      exact absurd hnew hleft
  obtain ⟨updated, hchange, -⟩ := exists_change hnew hsucceeds
  obtain ⟨_, _, id, hrequests, hanswer, hid, -⟩ | ⟨_, _, token, -, haction, htoken, -⟩ :=
    hchange.remoteId_of_new hnew
  · exact ⟨id, .answered hnew hsucceeds hrequests hanswer hid⟩
  · exact ⟨token, .mocked hnew hsucceeds haction htoken⟩

theorem remoteId_after (hstate : e.before.state ≠ .new) : e.after.remoteId = e.before.remoteId := by
  obtain ⟨hkept, -⟩ | ⟨-, updated, hchange, hsave⟩ := e.kept_or_saved
  · rw [hkept]
  · obtain ⟨-, hstored, -⟩ := Ledger.save_eq_ok.1 hsave
    rw [← hstored]
    exact hchange.remoteId_eq hstate

/-- An event gives its payment an id or leaves it the one that it has. -/
theorem goesBy_after_iff (e : Event) (id : String) :
    e.after.GoesBy id ↔ e.before.GoesBy id ∨ e.Issues id := by
  constructor
  · rintro ⟨hleft, hremote⟩
    by_cases hnew : e.before.state = .new
    · obtain ⟨own, hissues⟩ := exists_issues hnew hleft
      have hown := (goesBy_of_issues hissues).2
      obtain rfl := Option.some.inj (hremote.symm.trans hown)
      exact .inr hissues
    · exact .inl ⟨hnew, (remoteId_after hnew).symm.trans hremote⟩
  · rintro (⟨hstate, hremote⟩ | hissues)
    · exact ⟨after_ne_new hstate, (remoteId_after hstate).trans hremote⟩
    · exact goesBy_of_issues hissues

end Event

/-! ### A course -/

namespace Payment

variable {p : Payment} {steps : List Step} {id : String}

/-- After a course a payment goes by the id that it brought or that an event of the course gave. -/
theorem goesBy_after_steps_iff :
    (p.after steps).GoesBy id ↔ p.GoesBy id ∨ ∃ e ∈ p.course steps, e.Issues id := by
  induction steps generalizing p with
  | nil => simp [after, course]
  | cons s rest ih =>
    simp only [after, ih, course, List.mem_cons, exists_eq_or_imp, ← or_assoc]
    exact or_congr_left (Event.goesBy_after_iff ⟨s, p⟩ id)

theorem Begun.goesBy_iff (h : p.Begun) :
    p.GoesBy id ↔ ∃ config now l order n,
      (HostedPage.onReturn config now l order n).result = .ok p ∧ n.approvalCode = id := by
  constructor
  · rintro ⟨hstate, hremote⟩
    cases h with
    | begin => exact absurd rfl hstate
    | withToken => exact absurd rfl hstate
    | @returned config now l order n _ h =>
      obtain ⟨-, hsave⟩ := HostedPage.onReturn_ok h
      obtain ⟨-, rfl, -⟩ := Ledger.save_eq_ok.1 hsave
      exact ⟨config, now, l, order, n, h, Option.some.inj hremote⟩
  · rintro ⟨config, now, l, order, n, h, rfl⟩
    obtain ⟨-, hsave⟩ := HostedPage.onReturn_ok h
    obtain ⟨-, rfl, -⟩ := Ledger.save_eq_ok.1 hsave
    exact ⟨PaymentState.noConfusion, rfl⟩

theorem Begun.exists_goesBy (h : p.Begun) (hstate : p.state ≠ .new) : ∃ id, p.GoesBy id := by
  cases h with
  | begin => exact absurd rfl hstate
  | withToken => exact absurd rfl hstate
  | returned h => exact ⟨_, (Begun.returned h).goesBy_iff.2 ⟨_, _, _, _, _, h, rfl⟩⟩

theorem Begun.exists_goesBy_after (h : p.Begun) (steps : List Step)
    (hstate : (p.after steps).state ≠ .new) : ∃ id, (p.after steps).GoesBy id := by
  refine after_of_step (fun q => q.state ≠ .new → ∃ id, q.GoesBy id) h.exists_goesBy ?_ hstate
  intro s _ q hgoes hleft
  by_cases hnew : q.state = .new
  · obtain ⟨id, hissues⟩ := Event.exists_issues (e := ⟨s, q⟩) hnew hleft
    exact ⟨id, Event.goesBy_of_issues hissues⟩
  · obtain ⟨id, hid⟩ := hgoes hnew
    exact ⟨id, (Event.goesBy_after_iff ⟨s, q⟩ id).2 (.inl hid)⟩

/-- The payment came back from the hosted page under this id, or an event of the course gave it. -/
inductive ProcessedUnder (p : Payment) (steps : List Step) : String → Prop
  | returned {config : Config} {now : Instant} {l : Ledger} {order : Order} {n : Notification}
      (h : (HostedPage.onReturn config now l order n).result = .ok p) :
      ProcessedUnder p steps n.approvalCode
  | issued {e : Event} {id : String} (he : e ∈ p.course steps) (h : e.Issues id) :
      ProcessedUnder p steps id

theorem Begun.processedUnder_iff (h : p.Begun) :
    p.ProcessedUnder steps id ↔ (p.after steps).GoesBy id := by
  rw [goesBy_after_steps_iff, h.goesBy_iff]
  constructor
  · rintro (hreturned | ⟨he, hissues⟩)
    · exact .inl ⟨_, _, _, _, _, hreturned, rfl⟩
    · exact .inr ⟨_, he, hissues⟩
  · rintro (⟨_, _, _, _, _, hreturned, rfl⟩ | ⟨_, he, hissues⟩)
    · exact .returned hreturned
    · exact .issued he hissues

end Payment

/-! ### Operations on a payment without an id -/

namespace Gateway

variable {g : Gateway} {p : Payment} {l : Ledger}

theorem requests_submit_of_ne_new {order : Order} {s : Submission} (hstate : p.state ≠ .new) :
    (g.submit p l order s).requests = [] := by
  rw [List.eq_nil_iff_forall_not_mem]
  intro request hmem
  rw [requests_submit, submitToken] at hmem
  split at hmem
  · cases hmem
  · rw [requests_submitProvider, create] at hmem
    obtain ⟨made, hmade, -⟩ := perform_requests hmem
    exact hstate (Plan.create_ok hmade).1
  · rw [requests_submitMock] at hmem
    cases hmem

theorem requests_of_no_transaction (hstate : p.state ≠ .new) (hid : ∀ id ∈ p.remoteId, id = "")
    (action : Action) : (g.act action p l).requests = [] := by
  obtain hdirect | ⟨order, submission, rfl⟩ := action.direct_or_submit
  · cases g.act_decided p l hdirect with
    | asked hguarded =>
      obtain ⟨id, hmem, hne⟩ := hguarded.exists_remoteId
      exact absurd (hid id hmem) hne
    | blocked _ hrequests => exact hrequests
  · rw [act]
    exact requests_submit_of_ne_new hstate

/-- Nothing succeeds with a processed payment that has no id. -/
theorem failed_of_no_transaction (hstate : p.state ≠ .new) (hid : ∀ id ∈ p.remoteId, id = "")
    (action : Action) :
    (∃ stop, (g.act action p l).result = .error stop) ∧ (g.act action p l).payment = p ∧
      (g.act action p l).ledger = l := by
  have hrequests : (g.act action p l).requests = [] := requests_of_no_transaction hstate hid action
  have hending := g.act_ending action p l
  generalize g.act action p l = outcome at hrequests hending
  cases hending with
  | failed => exact ⟨⟨_, rfl⟩, rfl, rfl⟩
  | kept => cases hrequests
  | changed hchange =>
    -- Of all changes only the one by a mock token asks nothing, and it needs a new payment.
    cases hchange with
    | mocked _ _ hnew => exact absurd hnew hstate
    | charged => cases hrequests
    | captured => cases hrequests
    | voided => cases hrequests
    | refunded => cases hrequests
    | refreshed => cases hrequests

theorem act_refresh_of_no_transaction (hstate : p.state ≠ .new)
    (hid : ∀ id ∈ p.remoteId, id = "") :
    (g.act .refresh p l).result = .error (.error (.precondition .refresh .noTransaction)) := by
  have hplan : Plan.refresh p = .error (.error (.precondition .refresh .noTransaction)) := by
    have htransaction :
        requireTransaction .refresh p = .error (.error (.precondition .refresh .noTransaction)) :=
      requireTransaction_eq_error.2 ⟨hid, rfl⟩
    simp only [Plan.refresh, if_neg hstate, htransaction]
    rfl
  rw [act, refresh, hplan, perform_error]
  rfl

theorem no_transaction_of_act {action : Action} {operation : Operation}
    (hdirect : ∀ order submission, action ≠ .submit order submission)
    (h : (g.act action p l).result = .error (.error (.precondition operation .noTransaction))) :
    ∀ id ∈ p.remoteId, id = "" := by
  have hblocked := blocked_of_precondition hdirect h
  generalize hstop : Stop.error (Failure.precondition operation .noTransaction) = stop at hblocked
  cases hblocked with
  | transaction _ hid => exact hid
  | _ => simp at hstop

end Gateway

/-- A return without an approval code is believed like any other. -/
theorem HostedPage.exists_return_without_code (config : Config) (now : Instant) (order : Order) :
    ∃ n p, (onReturn config now .empty order n).result = .ok p ∧ p.remoteId = some "" := by
  let n : Notification :=
    { (default : Notification) with amountHash := amountHash config.hashKey order.totalPrice }
  have hnames : namesOrder order n = true := by
    have hunnamed : (Text.trim "").isEmpty = true := by decide
    have hid : n.orderId = "" := rfl
    rw [namesOrder, hid, hunnamed, Bool.true_or]
  have htrusted : isTrusted config order n = true := verifyAmountHash_iff.2 rfl
  have hsaves : Ledger.empty.refusal = none := rfl
  obtain ⟨p, hresult, hsave⟩ := onReturn_of_trusted hnames htrusted hsaves
  obtain ⟨-, rfl, -⟩ := Ledger.save_eq_ok.1 hsave
  exact ⟨n, _, hresult, rfl⟩

/-! ### The id decides -/

namespace Payment

/-- **A payment is processed under one id, and it can be acted on unless that id is empty.** A
payment that is no longer new was processed under exactly one id, that of a return or of an event of
its course, and goes by it. No operation ever misses the id exactly if it is not the empty one. If
it is, every later action fails, asks nothing and changes nothing. -/
theorem actionable_iff (p : Payment) (steps : List Step) (hbegun : p.Begun)
    (hprocessed : (p.after steps).state ≠ .new) :
    let q := p.after steps
    (∃ id, p.ProcessedUnder steps id) ∧
    (∀ id, p.ProcessedUnder steps id ↔ q.remoteId = some id) ∧
    ((∀ (g : Gateway) (action : Action) (l : Ledger), action.operation ≠ .process →
      (g.act action q l).result ≠
        .error (.error (.precondition action.operation .noTransaction))) ↔
      ¬p.ProcessedUnder steps "") ∧
    (p.ProcessedUnder steps "" → ∀ (g : Gateway) (action : Action) (l : Ledger),
      (g.act action q l).requests = [] ∧ (∃ stop, (g.act action q l).result = .error stop) ∧
        (g.act action q l).payment = q ∧ (g.act action q l).ledger = l) := by
  intro q
  have hunder : ∀ id, p.ProcessedUnder steps id ↔ q.remoteId = some id := fun id =>
    hbegun.processedUnder_iff.trans (and_iff_right hprocessed)
  obtain ⟨own, hown⟩ := hbegun.exists_goesBy_after steps hprocessed
  have hempty : p.ProcessedUnder steps "" ↔ ∀ id ∈ q.remoteId, id = "" := by
    have hremote : q.remoteId = some own := hown.2
    rw [hunder, hremote]
    simp
  refine ⟨⟨own, (hunder own).2 hown.2⟩, hunder, ⟨?_, ?_⟩, ?_⟩
  · intro hactionable hprocessedEmpty
    exact hactionable .approving .refresh .empty (by decide)
      (Gateway.act_refresh_of_no_transaction hprocessed (hempty.1 hprocessedEmpty))
  · intro hnot g action l hoperation hresult
    have hdirect : ∀ order submission, action ≠ .submit order submission := by
      rintro order submission rfl
      exact hoperation rfl
    exact hnot (hempty.2 (Gateway.no_transaction_of_act hdirect hresult))
  · intro hprocessedEmpty g action l
    have hid := hempty.1 hprocessedEmpty
    exact ⟨Gateway.requests_of_no_transaction hprocessed hid action,
      Gateway.failed_of_no_transaction hprocessed hid action⟩

theorem sample_actionable :
    sample.Begun ∧ (sample.after [.approved (.create .sample true)]).state ≠ .new ∧
      sample.ProcessedUnder [.approved (.create .sample true)] "2" ∧
      ∀ (g : Gateway) (l : Ledger),
        (g.act (.refund none) (sample.after [.approved (.create .sample true)]) l).result ≠
          .error (.error (.precondition .refund .noTransaction)) := by
  have hbegun : sample.Begun := .withToken "1" _ "token"
  have hprocessed : (sample.after [.approved (.create .sample true)]).state ≠ .new := by decide
  obtain ⟨-, hunder, hactionable, -⟩ :=
    actionable_iff sample [.approved (.create .sample true)] hbegun hprocessed
  have hremote : (sample.after [.approved (.create .sample true)]).remoteId = some "2" := rfl
  have hnot : ¬sample.ProcessedUnder [.approved (.create .sample true)] "" := by
    rw [hunder, hremote]
    decide
  refine ⟨hbegun, hprocessed, (hunder "2").2 hremote, ?_⟩
  intro g l
  exact hactionable.2 hnot g (.refund none) l (by decide)

/-- A payment may be processed under the empty id, by the answer to a charge or by a return. -/
theorem not_always_processed_under_id :
    (¬∀ (p : Payment) (steps : List Step), p.Begun → (p.after steps).state ≠ .new →
      ∃ id, (p.after steps).remoteId = some id ∧ id ≠ "") ∧
    ¬∀ (config : Config) (now : Instant) (l : Ledger) (order : Order) (n : Notification)
      (p : Payment), (HostedPage.onReturn config now l order n).result = .ok p →
        ∃ id, p.remoteId = some id ∧ id ≠ "" := by
  constructor
  · intro hall
    let unnaming : Gateway :=
      { Gateway.approving with processor := fun _ => .ok ⟨.approved, some "", none⟩ }
    obtain ⟨id, hid, hne⟩ := hall sample [⟨.create .sample true, unnaming, .empty⟩]
      (.withToken "1" _ "token") (by decide)
    exact hne (Option.some.inj hid).symm
  · intro hall
    obtain ⟨n, p, hresult, hremote⟩ :=
      HostedPage.exists_return_without_code default default default
    obtain ⟨id, hid, hne⟩ := hall _ _ _ _ n p hresult
    exact hne (Option.some.inj (hid.symm.trans hremote))

end Payment

end CardPayments
