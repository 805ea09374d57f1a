import CardPayments.Proofs.Course
import CardPayments.Proofs.Gateway.Guard
import CardPayments.Proofs.Gateway.Status

/-!
# Look-ups leave no trace

A look-up may save the status that it finds, and that is all it does. Take the look-ups out of what
is done to a payment, and everything else is asked, answered and told as before; at the end the
payment and its record differ from before in the status at most. Here one holder has the payment and
hands what an action leaves behind, payment and ledger, to the next.
-/

namespace CardPayments

/-- What an action leaves behind, with what it hands back: an operation the processor's answer, a
checkout nothing. -/
def Gateway.reply (g : Gateway) (action : Action) (p : Payment) (l : Ledger) :
    Outcome (Option Transaction) :=
  match action with
  | .create order captures => (g.create p l order captures).map some
  | .capture amount => (g.capture p l amount).map some
  | .void => (g.void p l).map some
  | .refund amount => (g.refund p l amount).map some
  | .refresh => (g.refresh p l).map some
  | .submit order submission => (g.submit p l order submission).map fun _ => none

structure Reply where
  result : Except (Stop Failure) (Option Transaction)
  requests : List Request
  notices : List Notice

/-- A payment as its holder has it, with the ledger that it is stored in. -/
structure Account where
  payment : Payment
  ledger : Ledger

/-- An action with the gateway that carries it out, which brings the processor's answer, and why
saves fail meanwhile, if they do. -/
structure Call where
  action : Action
  gateway : Gateway
  refusal : Option String

def Call.isLookup (c : Call) : Bool := c.action.operation == .refresh

def Ledger.refusing (l : Ledger) (refusal : Option String) : Ledger := { l with refusal }

namespace Outcome

variable (o : Outcome (Option Transaction))

def reply : Reply := ⟨o.result, o.requests, o.notices⟩

def account : Account := ⟨o.payment, o.ledger⟩

end Outcome

def Call.outcome (c : Call) (a : Account) : Outcome (Option Transaction) :=
  c.gateway.reply c.action a.payment (a.ledger.refusing c.refusal)

namespace Account

def after : Account → List Call → Account
  | a, [] => a
  | a, c :: rest => after (c.outcome a).account rest

def replies : Account → List Call → List (Call × Reply)
  | _, [] => []
  | a, c :: rest => (c, (c.outcome a).reply) :: replies (c.outcome a).account rest

/-- The payment was begun for an order, with or without a token to charge, and is stored nowhere
yet, or it was recorded at a return from the hosted page. -/
inductive Begun : Account → Prop
  | begin (orderId : String) (amount : Price) (l : Ledger) :
      Begun ⟨Payment.begin orderId amount, l⟩
  | withToken (orderId : String) (amount : Price) (token : String) (l : Ledger) :
      Begun ⟨(Payment.begin orderId amount).withRemoteId token, l⟩
  | returned {config : Config} {now : Instant} {l : Ledger} {order : Order} {n : Notification}
      {p : Payment} (h : (HostedPage.onReturn config now l order n).result = .ok p) :
      Begun ⟨p, (HostedPage.onReturn config now l order n).ledger⟩

/-- Once it is processed the payment stands in the ledger as its holder has it. -/
def Stored (a : Account) : Prop :=
  a.payment.state ≠ .new → ∃ id, a.payment.id = some id ∧ a.ledger.get? id = some a.payment

/-- The accounts differ in the status of the payment at most, whether or not saves fail. -/
structure Agrees (a b : Account) : Prop where
  payment : a.payment.withoutStatus = b.payment.withoutStatus
  ledger : ∀ refusal, (a.ledger.refusing refusal).withoutStatus a.payment.id =
    (b.ledger.refusing refusal).withoutStatus a.payment.id

end Account

/-! ### One action -/

namespace Outcome

variable {α β γ : Type}

theorem map_map (o : Outcome α) (f : α → β) (k : β → γ) : (o.map f).map k = o.map (k ∘ f) := by
  obtain ⟨result, _⟩ := o
  cases result <;> rfl

theorem map_withoutStatus {o o' : Outcome α} (h : o.withoutStatus = o'.withoutStatus) (f : α → β) :
    (o.map f).withoutStatus = (o'.map f).withoutStatus := congrArg (map f) h

end Outcome

namespace Gateway

variable {g : Gateway} {p q : Payment} {l l' : Ledger} {action : Action}

theorem map_reply (g : Gateway) (action : Action) (p : Payment) (l : Ledger) :
    (g.reply action p l).map (fun _ => ()) = g.act action p l := by
  cases action with
  | submit order submission =>
    have hunit (o : Outcome Unit) : (o.map fun _ => ()) = o := by
      obtain ⟨result, _⟩ := o
      cases result <;> rfl
    exact (Outcome.map_map _ _ _).trans (hunit _)
  | create => exact Outcome.map_map _ _ _
  | capture => exact Outcome.map_map _ _ _
  | void => exact Outcome.map_map _ _ _
  | refund => exact Outcome.map_map _ _ _
  | refresh => exact Outcome.map_map _ _ _

/-- No action but the look-up reads the status. -/
theorem reply_withoutStatus (hmoves : action.operation ≠ .refresh)
    (hp : p.withoutStatus = q.withoutStatus)
    (hl : l.withoutStatus p.id = l'.withoutStatus p.id) :
    (g.reply action p l).withoutStatus = (g.reply action q l').withoutStatus := by
  cases action with
  | create order captures =>
    exact Outcome.map_withoutStatus (perform_withoutStatus (Plan.create_alike hp) hp hl) some
  | capture amount =>
    exact Outcome.map_withoutStatus (perform_withoutStatus (Plan.capture_alike hp) hp hl) some
  | void =>
    exact Outcome.map_withoutStatus (perform_withoutStatus (Plan.void_alike hp) hp hl) some
  | refund amount =>
    exact Outcome.map_withoutStatus (perform_withoutStatus (Plan.refund_alike hp) hp hl) some
  | refresh => exact absurd rfl hmoves
  | submit order submission =>
    exact Outcome.map_withoutStatus (submit_withoutStatus hp hl order submission) _

end Gateway

/-- A look-up changes nothing but the status of a payment that was processed. -/
theorem Change.of_lookup {g : Gateway} {p q : Payment} {action : Action} {requests : List Request}
    (h : Change g p action requests q) (hlookup : action.operation = .refresh) :
    p.state ≠ .new ∧ p.withoutStatus = q.withoutStatus := by
  cases h with
  | refreshed hstate => exact ⟨hstate, rfl⟩
  | charged hcharges => cases hcharges <;> cases hlookup
  | mocked => cases hlookup
  | captured => cases hlookup
  | voided => cases hlookup
  | refunded => cases hlookup

/-! ### One call -/

namespace Call

variable {c : Call} {a b : Account}

theorem ending (c : Call) (a : Account) :
    Ending c.gateway c.action a.payment (a.ledger.refusing c.refusal)
      ((c.outcome a).map fun _ => ()) := by
  rw [outcome, Gateway.map_reply]
  exact c.gateway.act_ending c.action a.payment _

theorem kept_or_saved (c : Call) (a : Account) :
    (c.outcome a).account = ⟨a.payment, a.ledger.refusing c.refusal⟩ ∨
      ∃ requests updated, Change c.gateway a.payment c.action requests updated ∧
        (a.ledger.refusing c.refusal).save updated =
          .ok ((c.outcome a).payment, (c.outcome a).ledger) := by
  have hending := c.ending a
  have hpayment : (c.outcome a).payment = ((c.outcome a).map fun _ => ()).payment := rfl
  have hledger : (c.outcome a).ledger = ((c.outcome a).map fun _ => ()).ledger := rfl
  rw [Outcome.account, hpayment, hledger]
  generalize (c.outcome a).map (fun _ => ()) = ended at hending ⊢
  cases hending with
  | failed => exact .inl rfl
  | kept => exact .inl rfl
  | changed hchange hsave => exact .inr ⟨_, _, hchange, hsave⟩

theorem stored_after (h : a.Stored) : (c.outcome a).account.Stored := by
  obtain hkept | ⟨requests, updated, -, hsave⟩ := c.kept_or_saved a
  · rw [hkept]
    exact h
  · intro _
    have hget := Ledger.get?_save_self hsave
    obtain ⟨-, hstored, -⟩ := Ledger.save_eq_ok.1 hsave
    refine ⟨_, ?_, hget⟩
    rw [Outcome.account, ← hstored]

/-- A call that is no look-up is seen alike on accounts that agree and leaves accounts that agree.
-/
theorem agrees_after (hmoves : c.isLookup = false) (h : a.Agrees b) :
    (c.outcome a).reply = (c.outcome b).reply ∧
      (c.outcome a).account.Agrees (c.outcome b).account := by
  have hsame : (c.outcome a).withoutStatus = (c.outcome b).withoutStatus :=
    Gateway.reply_withoutStatus (by simpa [isLookup] using hmoves) h.payment (h.ledger c.refusal)
  generalize c.outcome a = outcome at hsame ⊢
  generalize c.outcome b = outcome' at hsame ⊢
  obtain ⟨result, made, after, requests, notices⟩ := outcome
  obtain ⟨result', made', after', requests', notices'⟩ := outcome'
  simp only [Outcome.withoutStatus, Outcome.mk.injEq] at hsame
  obtain ⟨rfl, hpayment, hledger, rfl, rfl⟩ := hsame
  rw [← Payment.id_eq_of_withoutStatus hpayment] at hledger
  exact ⟨rfl, hpayment, fun refusal => congrArg (Ledger.refusing · refusal) hledger⟩

theorem agrees_of_isLookup (hlookup : c.isLookup = true) (h : a.Stored) :
    (c.outcome a).account.Agrees a := by
  obtain hkept | ⟨requests, updated, hchange, hsave⟩ := c.kept_or_saved a
  · rw [hkept]
    exact ⟨rfl, fun _ => rfl⟩
  · have hlooked : c.action.operation = .refresh := by simpa [isLookup] using hlookup
    obtain ⟨hstate, hsame⟩ := hchange.of_lookup hlooked
    obtain ⟨id, hid, hstored⟩ := h hstate
    have hfound : (a.ledger.refusing c.refusal).get? id = some a.payment := hstored
    obtain ⟨hpayment, hledger⟩ := Ledger.save_withoutStatus_of_stored hfound hid hsame hsave
    have hown : (c.outcome a).payment.id = some id :=
      (Payment.id_eq_of_withoutStatus hpayment).symm.trans hid
    refine ⟨hpayment.symm, fun refusal => ?_⟩
    have hledger' := congrArg (Ledger.refusing · refusal) hledger
    rw [Outcome.account, hown]
    exact hledger'

end Call

/-! ### A repeated look-up -/

namespace Gateway

variable {g g' : Gateway} {p : Payment} {l : Ledger}

theorem perform_congr {plan : Except (Stop Failure) Plan}
    (hanswer : ∀ request ∈ (g.perform p l plan).requests,
      g'.processor request = g.processor request) :
    g'.perform p l plan = g.perform p l plan := by
  cases plan with
  | error stop => rfl
  | ok made =>
    rw [perform_ok_requests] at hanswer
    rw [perform_ok, perform_ok, hanswer _ (List.mem_singleton_self _)]

theorem refresh_of_recorded {id : String} {answer : Transaction} (hstate : p.state ≠ .new)
    (hid : p.remoteId = some id) (hne : id ≠ "") (hanswer : g.processor (.get id) = .ok answer)
    (hrecorded : p.remoteState = some answer.status.text) :
    g.refresh p l = ⟨.ok answer, p, l, [.get id], []⟩ := by
  have hguarded : Guarded p .refresh (.get id) := .refresh hstate hid hne
  obtain ⟨made, hmade, hrequest⟩ := Plan.exists_of_guarded hguarded
    (fun _ => Plan.refresh_guarded) fun _ => Plan.refresh_error
  obtain ⟨-, -, -, -, -, hsettle⟩ := Plan.refresh_ok hmade
  have hkept : made.settle answer = .ok none := (hsettle _ _).2 (if_pos hrecorded)
  rw [refresh, hmade, perform_of_kept (hrequest ▸ hanswer) hkept, hrequest]

/-- A look-up that is repeated with the same answer ends alike and leaves everything as it was.
After one that succeeded it does not save: it ends as well with any other ledger, and leaves that.
-/
theorem refresh_repeated
    (hanswer : ∀ request ∈ (g.refresh p l).requests,
      g'.processor request = g.processor request) :
    let first := g.refresh p l
    g'.refresh first.payment first.ledger = first ∧
      (first.result.isOk = true →
        ∀ other, g'.refresh first.payment other = { first with ledger := other }) := by
  obtain ⟨stop, requests, heq⟩ | ⟨made, answer, stored, after, hmade, hmadeAnswer, heq, hsettled⟩ :=
    g.perform_cases p l (Plan.refresh p)
  · have hfirst : g.refresh p l = ⟨.error stop, p, l, requests, []⟩ := heq
    have hsecond : g'.refresh p l = g.refresh p l := perform_congr hanswer
    rw [hfirst] at hsecond ⊢
    exact ⟨hsecond, fun hok => Bool.noConfusion hok⟩
  · have hfirst : g.refresh p l = ⟨.ok answer, stored, after, [made.request], []⟩ := heq
    obtain ⟨hstate, id, hid, hne, hrequest, hsettle⟩ := Plan.refresh_ok hmade
    have hsame : g'.processor (.get id) = .ok answer := by
      rw [hanswer _ (by simp [hfirst, hrequest]), ← hrequest, hmadeAnswer]
    obtain ⟨hstate', hid', hrecorded⟩ : stored.state ≠ .new ∧ stored.remoteId = some id ∧
        stored.remoteState = some answer.status.text := by
      obtain ⟨hnone, rfl, -⟩ | ⟨updated, hsome, hsave⟩ := hsettled
      · have hkept := (hsettle _ _).1 hnone
        split at hkept
        · next hrecorded => exact ⟨hstate, hid, hrecorded⟩
        · cases hkept
      · have hnews := (hsettle _ _).1 hsome
        obtain ⟨-, rfl, -⟩ := Ledger.save_eq_ok.1 hsave
        split at hnews
        · cases hnews
        · rw [← Option.some.inj hnews]
          exact ⟨hstate, hid, rfl⟩
    rw [hfirst, hrequest]
    exact ⟨refresh_of_recorded hstate' hid' hne hsame hrecorded,
      fun _ other => refresh_of_recorded hstate' hid' hne hsame hrecorded⟩

end Gateway

/-! ### All calls -/

namespace Account

variable {a b : Account}

theorem Agrees.refl (a : Account) : a.Agrees a := ⟨rfl, fun _ => rfl⟩

theorem Agrees.trans {c : Account} (h : a.Agrees b) (h' : b.Agrees c) : a.Agrees c := by
  refine ⟨h.payment.trans h'.payment, fun refusal => (h.ledger refusal).trans ?_⟩
  rw [Payment.id_eq_of_withoutStatus h.payment]
  exact h'.ledger refusal

theorem Agrees.get?_eq (h : a.Agrees b) (id : UInt64) :
    (a.ledger.get? id).map (fun p => if a.payment.id = some id then p.withoutStatus else p) =
      (b.ledger.get? id).map fun p => if a.payment.id = some id then p.withoutStatus else p := by
  have hget := congrArg (Ledger.get? · id) (h.ledger none)
  simp only [Ledger.get?_withoutStatus] at hget
  exact hget

theorem Agrees.record_eq (h : a.Agrees b) {id : UInt64} (hid : a.payment.id = some id) :
    (a.ledger.get? id).map Payment.withoutStatus =
      (b.ledger.get? id).map Payment.withoutStatus := by
  simpa only [hid, if_true] using h.get?_eq id

theorem Agrees.other_eq (h : a.Agrees b) {id : UInt64} (hid : a.payment.id ≠ some id) :
    a.ledger.get? id = b.ledger.get? id := by
  simpa only [hid, if_false, Option.map_id'] using h.get?_eq id

theorem Begun.stored (h : a.Begun) : a.Stored := by
  cases h with
  | begin => exact fun hstate => absurd rfl hstate
  | withToken => exact fun hstate => absurd rfl hstate
  | returned h =>
    obtain ⟨-, hsave⟩ := HostedPage.onReturn_ok h
    have hget := Ledger.get?_save_self hsave
    obtain ⟨-, hstored, -⟩ := Ledger.save_eq_ok.1 hsave
    exact fun _ => ⟨_, by rw [← hstored], hget⟩

theorem Agrees.of_calls (h : a.Agrees b) (ha : a.Stored) (calls : List Call) :
    (a.replies calls).filter (fun r => !r.1.isLookup) =
        b.replies (calls.filter fun c => !c.isLookup) ∧
      (a.after calls).Agrees (b.after (calls.filter fun c => !c.isLookup)) := by
  induction calls generalizing a b with
  | nil => exact ⟨rfl, h⟩
  | cons c rest ih =>
    cases hc : c.isLookup with
    | true =>
      have hagrees : (c.outcome a).account.Agrees b := (Call.agrees_of_isLookup hc ha).trans h
      have hrest := ih hagrees (Call.stored_after ha)
      simpa [replies, after, hc] using hrest
    | false =>
      obtain ⟨hreply, hagrees⟩ := Call.agrees_after hc h
      obtain ⟨hreplies, hafter⟩ := ih hagrees (Call.stored_after ha)
      simp only [replies, after, List.filter_cons, hc, Bool.not_false, if_true, hreply, hreplies]
      exact ⟨trivial, hafter⟩

/-- **Look-ups leave no trace.** Let an account begin and go through any calls, and leave the
look-ups among them out, each with the answer that it got. The other calls are seen as before: each
hands back the same, asks the same and gives the same notices. At the end the payment differs from
before in the status at most, so does its record, and what is recorded of other payments is the
same. And a look-up that is repeated with the same answer ends as it did and leaves everything as it
was; if the first succeeded, the second saves nothing and does not even look at the ledger. -/
theorem lookups_leave_no_trace (a : Account) (calls : List Call) (h : a.Begun) :
    let others := calls.filter fun c => !c.isLookup
    let whole := a.after calls
    let rest := a.after others
    (a.replies calls).filter (fun r => !r.1.isLookup) = a.replies others ∧
    whole.payment.withoutStatus = rest.payment.withoutStatus ∧
    (∀ id, whole.payment.id = some id →
      (whole.ledger.get? id).map Payment.withoutStatus =
        (rest.ledger.get? id).map Payment.withoutStatus) ∧
    (∀ id, whole.payment.id ≠ some id → whole.ledger.get? id = rest.ledger.get? id) ∧
    ∀ (g g' : Gateway) (p : Payment) (l : Ledger),
      let first := g.refresh p l
      (∀ request ∈ first.requests, g'.processor request = g.processor request) →
        g'.refresh first.payment first.ledger = first ∧
        (first.result.isOk = true →
          ∀ other, g'.refresh first.payment other = { first with ledger := other }) := by
  intro others whole rest
  obtain ⟨hreplies, hagrees⟩ := Agrees.of_calls (.refl a) h.stored calls
  exact ⟨hreplies, hagrees.payment, fun _ => hagrees.record_eq, fun _ => hagrees.other_eq,
    fun _ _ _ _ => Gateway.refresh_repeated⟩

theorem sample_lookups_leave_no_trace :
    let declining : Gateway :=
      { Gateway.approving with processor := fun _ => .ok ⟨.declined, some "2", none⟩ }
    let a : Account := ⟨.sample, .empty⟩
    let charge : Call := ⟨.create .sample true, .approving, none⟩
    let lookup : Call := ⟨.refresh, declining, none⟩
    let refund : Call := ⟨.refund none, .approving, none⟩
    a.Begun ∧
      (a.replies [charge, lookup, refund]).filter (fun r => !r.1.isLookup) =
        a.replies [charge, refund] ∧
      (a.after [charge, lookup, refund]).payment.remoteState = some "DECLINED" ∧
      (a.after [charge, refund]).payment.remoteState = some "APPROVED" ∧
      (a.after [charge, lookup, refund]).payment.withoutStatus =
        (a.after [charge, refund]).payment.withoutStatus ∧
      let charged := a.after [charge]
      let first := declining.refresh charged.payment charged.ledger
      (∀ request ∈ first.requests, declining.processor request = declining.processor request) ∧
        declining.refresh first.payment first.ledger = first := by
  intro declining a charge lookup refund
  have hbegun : a.Begun := .withToken "1" _ "token" _
  obtain ⟨hreplies, hpayment, -, -, hrepeated⟩ :=
    lookups_leave_no_trace a [charge, lookup, refund] hbegun
  refine ⟨hbegun, hreplies, by decide, by decide, hpayment, fun _ _ => rfl, ?_⟩
  exact (hrepeated _ _ _ _ fun _ _ => rfl).1

end Account

end CardPayments
