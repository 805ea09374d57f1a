import CardPayments.Proofs.Course.State

/-!
# The record of a payment

Which fields of a payment are filled in follows from its state: what is recorded when a payment is
processed is missing before and there from then on, the time of the capture comes with the captured
states, and nothing is recorded as given back before a refund. Every change keeps this, and what was
recorded once stays: only a capture changes the amount, and nothing changes the order or the
currency.
-/

namespace CardPayments

namespace Payment

/-- The payment was begun for an order, with or without a token to charge, or recorded at a return
under the configuration. -/
inductive BegunUnder (config : Config) : Payment → Prop
  | begin (orderId : String) (amount : Price) : BegunUnder config (Payment.begin orderId amount)
  | withToken (orderId : String) (amount : Price) (token : String) :
      BegunUnder config ((Payment.begin orderId amount).withRemoteId token)
  | returned {now : Instant} {l : Ledger} {order : Order} {n : Notification} {p : Payment}
      (h : (HostedPage.onReturn config now l order n).result = .ok p) : BegunUnder config p

/-- The state says which fields are filled in. -/
structure WellFormed (config : Config) (p : Payment) : Prop where
  processed : p.state ≠ .new → p.authorizedTime.isSome ∧ p.remoteState.isSome ∧
    p.gatewayMode.isSome ∧ p.id.isSome ∧ p.remoteId.isSome
  unprocessed : p.state = .new → p.authorizedTime = none ∧ p.remoteState = none ∧
    p.gatewayMode = none ∧ p.id = none
  captured : p.capturedTime.isSome ↔ p.state ∈ [.completed, .partiallyRefunded, .refunded]
  mode : ∀ mode ∈ p.gatewayMode, mode = config.mode
  currency : p.refundedAmount.currency = p.amount.currency
  unrefunded : p.state ∈ [.new, .authorization, .completed, .authorizationVoided] →
    p.refundedAmount.isZero = true

/-- One payment has become another, and what was recorded before is recorded still. -/
structure Keeps (p q : Payment) : Prop where
  orderId : q.orderId = p.orderId
  currency : q.amount.currency = p.amount.currency
  left : p.state ≠ .new → q.state ≠ .new
  processed : p.state ≠ .new → q.remoteId = p.remoteId ∧ q.authorizedTime = p.authorizedTime ∧
    q.gatewayMode = p.gatewayMode ∧ q.id = p.id
  capturedTime : ∀ t, p.capturedTime = some t → q.capturedTime = some t

namespace Keeps

variable {p q r : Payment}

theorem refl (p : Payment) : Keeps p p where
  orderId := rfl
  currency := rfl
  left := fun h => h
  processed := fun _ => ⟨rfl, rfl, rfl, rfl⟩
  capturedTime := fun _ h => h

theorem trans (h : Keeps p q) (h' : Keeps q r) : Keeps p r where
  orderId := h'.orderId.trans h.orderId
  currency := h'.currency.trans h.currency
  left := fun hstate => h'.left (h.left hstate)
  processed := fun hstate => by
    obtain ⟨hremote, htime, hmode, hid⟩ := h.processed hstate
    obtain ⟨hremote', htime', hmode', hid'⟩ := h'.processed (h.left hstate)
    exact ⟨hremote'.trans hremote, htime'.trans htime, hmode'.trans hmode, hid'.trans hid⟩
  capturedTime := fun t ht => h'.capturedTime t (h.capturedTime t ht)

theorem of_new (hnew : p.state = .new) (htime : p.capturedTime = none) (hleft : q.state ≠ .new)
    (horder : q.orderId = p.orderId) (hcurrency : q.amount.currency = p.amount.currency) :
    Keeps p q where
  orderId := horder
  currency := hcurrency
  left := fun _ => hleft
  processed := fun hne => absurd hnew hne
  capturedTime := fun t ht => by simp [htime] at ht

end Keeps

/-! ### The beginning -/

variable {config : Config} {p : Payment}

theorem begin_wellFormed (orderId : String) (amount : Price) :
    (Payment.begin orderId amount).WellFormed config where
  processed := fun hstate => absurd rfl hstate
  unprocessed := fun _ => ⟨rfl, rfl, rfl, rfl⟩
  captured := by simp [Payment.begin]
  mode := by simp [Payment.begin]
  currency := rfl
  unrefunded := fun _ => rfl

theorem WellFormed.withRemoteId (h : p.WellFormed config) (token : String) :
    (p.withRemoteId token).WellFormed config where
  processed := fun hstate => by
    obtain ⟨htime, hremote, hmode, hid, -⟩ := h.processed hstate
    exact ⟨htime, hremote, hmode, hid, rfl⟩
  unprocessed := h.unprocessed
  captured := h.captured
  mode := h.mode
  currency := h.currency
  unrefunded := h.unrefunded

theorem BegunUnder.wellFormed (h : p.BegunUnder config) : p.WellFormed config := by
  cases h with
  | begin orderId amount => exact begin_wellFormed orderId amount
  | withToken orderId amount token => exact (begin_wellFormed orderId amount).withRemoteId token
  | returned h =>
    obtain ⟨-, hsave⟩ := HostedPage.onReturn_ok h
    obtain ⟨-, rfl, -⟩ := Ledger.save_eq_ok.1 hsave
    exact {
      processed := fun _ => ⟨rfl, rfl, rfl, rfl, rfl⟩
      unprocessed := fun hstate => PaymentState.noConfusion hstate
      captured := by simp [HostedPage.reportedPayment, Payment.begin]
      mode := by simp [HostedPage.reportedPayment]
      currency := rfl
      unrefunded := fun _ => rfl }

end Payment

/-! ### One change -/

section Change

variable {g : Gateway} {action : Action} {requests : List Request} {p q : Payment}

/-- A change under the id that the payment is stored under gives a well-formed record. Nothing was
given back of what is not refunded, so the changes before a refund only have to leave it at that. -/
theorem Change.wellFormed (h : Change g p action requests q) (hp : p.WellFormed g.config)
    (own : UInt64) : { q with id := some own }.WellFormed g.config := by
  obtain ⟨hprocessed, -, hcaptured, hmode, hcurrency, hunrefunded⟩ := hp
  cases h with
  | @charged _ _ _ _ captures _ _ hstate =>
    have hzero : p.refundedAmount.isZero = true := hunrefunded (by simp [hstate])
    constructor <;> cases captures <;> simp_all
  | mocked _ _ hstate =>
    have hzero : p.refundedAmount.isZero = true := hunrefunded (by simp [hstate])
    constructor <;> simp_all
  | captured _ hstate hsame =>
    have hzero : p.refundedAmount.isZero = true := hunrefunded (by simp [hstate])
    constructor <;> simp_all
  | voided hstate =>
    have hzero : p.refundedAmount.isZero = true := hunrefunded (by simp [hstate])
    constructor <;> simp_all
  | @refunded _ _ _ total _ _ _ _ hstate _ _ _ _ _ _ _ _ hsame =>
    have hcapturedBefore : p.capturedTime.isSome := by
      rw [hcaptured]
      obtain hstate | hstate := hstate <;> simp [hstate]
    have hne : p.state ≠ .new := by
      obtain hstate | hstate := hstate <;> simp [hstate]
    by_cases hpart : total.number < p.amount.number <;> constructor <;> simp_all
  | refreshed => constructor <;> simp_all

theorem Change.keeps (h : Change g p action requests q) (hp : p.WellFormed g.config) {own : UInt64}
    (hown : p.state ≠ .new → p.id = some own) : p.Keeps { q with id := some own } := by
  -- A time of capture is recorded in the captured states only, and a capture finds none of them.
  have huncaptured (hstate : p.state = .new ∨ p.state = .authorization) :
      p.capturedTime = none := by
    have hnot : ¬p.capturedTime.isSome := by
      rw [hp.captured]
      obtain hstate | hstate := hstate <;> simp [hstate]
    simpa using hnot
  have hid : p.state ≠ .new → some own = p.id := fun hstate => (hown hstate).symm
  have hleft := h.state_ne_new
  cases h with
  | charged _ hstate => exact .of_new hstate (huncaptured (.inl hstate)) hleft rfl rfl
  | mocked _ _ hstate => exact .of_new hstate (huncaptured (.inl hstate)) hleft rfl rfl
  | captured _ hstate hsame =>
    exact {
      orderId := rfl
      currency := hsame.symm
      left := fun _ => hleft
      processed := fun hne => ⟨rfl, rfl, rfl, hid hne⟩
      capturedTime := by simp [huncaptured (.inr hstate)] }
  | voided => exact ⟨rfl, rfl, fun _ => hleft, fun hne => ⟨rfl, rfl, rfl, hid hne⟩, fun _ h => h⟩
  | refunded => exact ⟨rfl, rfl, fun _ => hleft, fun hne => ⟨rfl, rfl, rfl, hid hne⟩, fun _ h => h⟩
  | refreshed => exact ⟨rfl, rfl, fun _ => hleft, fun hne => ⟨rfl, rfl, rfl, hid hne⟩, fun _ h => h⟩

theorem Change.amount_eq (h : Change g p action requests q) (hne : action.operation ≠ .capture) :
    q.amount = p.amount := by
  cases h with
  | captured => exact absurd rfl hne
  | charged => rfl
  | mocked => rfl
  | voided => rfl
  | refunded => rfl
  | refreshed => rfl

end Change

/-! ### One event -/

namespace Event

variable {e : Event}

theorem wellFormed_and_keeps (h : e.before.WellFormed e.step.gateway.config) :
    e.after.WellFormed e.step.gateway.config ∧ e.before.Keeps e.after := by
  obtain ⟨hkept, -⟩ | ⟨-, updated, hchange, hsave⟩ := e.kept_or_saved
  · rw [hkept]
    exact ⟨h, .refl _⟩
  · obtain ⟨-, hstored, -⟩ := Ledger.save_eq_ok.1 hsave
    rw [← hstored]
    refine ⟨hchange.wellFormed h _, hchange.keeps h ?_⟩
    intro hstate
    obtain ⟨own, hown⟩ := Option.isSome_iff_exists.1 (h.processed hstate).2.2.2.1
    rw [Ledger.idFor, hchange.id_eq, hown, Option.getD_some]

theorem amount_changes (h : e.after.amount ≠ e.before.amount) :
    e.succeedsAt [.capture] = true := by
  obtain ⟨hkept, -⟩ | ⟨hsucceeds, updated, hchange, hsave⟩ := e.kept_or_saved
  · exact absurd (by rw [hkept]) h
  · obtain ⟨-, hstored, -⟩ := Ledger.save_eq_ok.1 hsave
    by_cases hcapture : e.step.action.operation = .capture
    · simp [succeedsAt, hsucceeds, hcapture]
    · have hamount : e.after.amount = e.before.amount := by
        rw [← hstored]
        exact hchange.amount_eq hcapture
      exact absurd hamount h

end Event

/-! ### A course -/

namespace Payment

variable {config : Config} {p : Payment} {steps : List Step}

theorem WellFormed.after (h : p.WellFormed config)
    (hconfig : ∀ s ∈ steps, s.gateway.config = config) : (p.after steps).WellFormed config := by
  refine after_of_step (WellFormed config) h ?_
  rintro s hs q hq
  obtain rfl := hconfig s hs
  exact (Event.wellFormed_and_keeps (e := ⟨s, q⟩) hq).1

theorem WellFormed.keeps_after (h : p.WellFormed config)
    (hconfig : ∀ s ∈ steps, s.gateway.config = config) : p.Keeps (p.after steps) := by
  induction steps generalizing p with
  | nil => exact .refl p
  | cons s rest ih =>
    obtain rfl := hconfig s List.mem_cons_self
    obtain ⟨hafter, hkeeps⟩ := Event.wellFormed_and_keeps (e := ⟨s, p⟩) h
    exact hkeeps.trans (ih hafter fun t ht => hconfig t (List.mem_cons_of_mem _ ht))

/-- **Every record is well formed.** Let a payment begin and go through any steps under one
configuration. After each of them its state says which fields are filled in: all that is recorded
when a payment is processed is there once it is no longer new and not before, the time of the
capture is there in the captured states, the mode is that of the configuration, and before a refund
nothing is recorded as given back. What was recorded once stays to the end, and only a capture that
succeeds changes the amount. -/
theorem every_record_well_formed (config : Config) (p : Payment) (steps : List Step)
    (hbegun : p.BegunUnder config) (hconfig : ∀ s ∈ steps, s.gateway.config = config) :
    (∀ first second, steps = first ++ second →
      (p.after first).WellFormed config ∧ (p.after first).Keeps (p.after steps)) ∧
    ∀ e ∈ p.course steps, e.after.amount ≠ e.before.amount → e.succeedsAt [.capture] = true := by
  refine ⟨?_, fun e _ => Event.amount_changes⟩
  rintro first second rfl
  have hfirst : (p.after first).WellFormed config :=
    hbegun.wellFormed.after fun s hs => hconfig s (List.mem_append_left _ hs)
  refine ⟨hfirst, ?_⟩
  rw [after_append]
  exact hfirst.keeps_after fun s hs => hconfig s (List.mem_append_right _ hs)

theorem sample_record_well_formed :
    let config := Gateway.approving.config
    let first : List Step := [.approved (.create .sample false)]
    let second : List Step :=
      [.approved (.capture (some ⟨(Decimal.ofParts? 9 1).getD .zero, "USD"⟩)),
        .approved (.refund none)]
    (sample.BegunUnder config ∧ ∀ s ∈ first ++ second, s.gateway.config = config) ∧
      (sample.after first).WellFormed config ∧
      (sample.after first).Keeps (sample.after (first ++ second)) ∧
      (sample.after (first ++ second)).remoteId = some "2" ∧
      (sample.after (first ++ second)).state = .refunded := by
  intro config first second
  have hbegun : sample.BegunUnder config := .withToken "1" _ "token"
  have hconfig : ∀ s ∈ first ++ second, s.gateway.config = config := by
    simp [first, second, Step.approved, config]
  obtain ⟨hsplit, -⟩ := every_record_well_formed config sample (first ++ second) hbegun hconfig
  obtain ⟨hwell, hkeeps⟩ := hsplit first second rfl
  have hremote : (sample.after first).remoteId = some "2" := rfl
  have hleft : (sample.after first).state ≠ .new := by decide
  exact ⟨⟨hbegun, hconfig⟩, hwell, hkeeps, (hkeeps.processed hleft).1.trans hremote, by decide⟩

end Payment

end CardPayments
