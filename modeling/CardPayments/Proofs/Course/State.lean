import CardPayments.Proofs.Course
import CardPayments.Proofs.Gateway.Arrow

/-!
# States along a course

A step keeps the state or takes an arrow of its own operation. Since no arrow leads back, each kind
of step that takes a payment out of a state for good succeeds at most once; and the states that no
arrow leaves are the terminal ones.
-/

namespace CardPayments

/-! ### One event -/

namespace Event

variable {e : Event}

def succeedsAt (operations : List Operation) (e : Event) : Bool :=
  e.succeeds && e.step.action.operation ∈ operations

theorem after_of_fails (h : e.succeeds = false) : e.after = e.before := by
  rw [succeeds] at h
  cases hresult : e.outcome.result with
  | error stop => exact (e.ending.unchanged hresult).1
  | ok => simp [hresult, Except.toBool] at h

/-- The state stays, or the event is a success that takes an arrow of its operation. -/
theorem state_cases (e : Event) :
    e.after.state = e.before.state ∨
      e.succeeds = true ∧ Arrow e.step.action.operation e.before.state e.after.state ∧
        Accepted e.step.gateway e.step.action e.outcome.requests := by
  cases h : e.succeeds with
  | false => exact .inl (by rw [after_of_fails h])
  | true => exact (e.ending.arrow h).symm.imp And.left fun harrow => ⟨rfl, harrow⟩

theorem after_ne_new (h : e.before.state ≠ .new) : e.after.state ≠ .new := by
  obtain hkept | ⟨-, harrow, -⟩ := e.state_cases
  · rw [hkept]
    exact h
  · exact harrow.to_ne_new

/-- What succeeds at an operation takes an arrow of it, refunds one more part or looks up. -/
theorem arrow_of_succeedsAt {operations : List Operation} (h : e.succeedsAt operations = true) :
    e.step.action.operation ∈ operations ∧
      (Arrow e.step.action.operation e.before.state e.after.state ∨
        e.step.action.operation = .refund ∧ e.before.state = .partiallyRefunded ∨
          e.step.action.operation = .refresh) := by
  simp only [succeedsAt, Bool.and_eq_true, decide_eq_true_eq] at h
  exact ⟨h.2, (e.ending.arrow h.1).imp And.left And.right⟩

theorem processes (h : e.succeedsAt [.process] = true) :
    e.before.state = .new ∧ e.after.state ≠ .new := by
  obtain ⟨hmem, harrow⟩ := arrow_of_succeedsAt h
  rw [List.mem_singleton.1 hmem] at harrow
  obtain harrow | ⟨hrefund, -⟩ | hrefresh := harrow
  · exact ⟨harrow.process_from, harrow.to_ne_new⟩
  · cases hrefund
  · cases hrefresh

theorem captures_or_voids (h : e.succeedsAt [.capture, .void] = true) :
    e.before.state = .authorization ∧ e.after.state ≠ .authorization ∧ e.after.state ≠ .new := by
  obtain ⟨hmem, harrow | ⟨hrefund, -⟩ | hrefresh⟩ := arrow_of_succeedsAt h
  · obtain ⟨hbefore, hafter⟩ := harrow.capture_void_from hmem
    exact ⟨hbefore, hafter, harrow.to_ne_new⟩
  · simp [hrefund] at hmem
  · simp [hrefresh] at hmem

theorem refunds (h : e.succeedsAt [.refund] = true) :
    e.before.state = .completed ∨ e.before.state = .partiallyRefunded := by
  obtain ⟨hmem, harrow⟩ := arrow_of_succeedsAt h
  rw [List.mem_singleton.1 hmem] at harrow
  obtain harrow | ⟨-, hpart⟩ | hrefresh := harrow
  · exact harrow.refund_from
  · exact .inr hpart
  · cases hrefresh

theorem after_ne_authorization (hnew : e.before.state ≠ .new)
    (hne : e.before.state ≠ .authorization) : e.after.state ≠ .authorization := by
  obtain hkept | ⟨-, harrow, -⟩ := e.state_cases
  · rw [hkept]
    exact hne
  · exact harrow.to_ne_authorization hnew

theorem after_of_isTerminal (h : e.before.state.isTerminal = true) :
    e.after.state = e.before.state := by
  obtain hkept | ⟨-, harrow, -⟩ := e.state_cases
  · exact hkept
  · rw [harrow.from_not_isTerminal] at h
    cases h

theorem exists_leaving {state : PaymentState} (h : state.isTerminal = false) :
    ∃ e : Event, e.before.state = state ∧ e.after.state ≠ state := by
  let authorize := Step.approved (.create .sample false)
  let capture := Step.approved (.capture none)
  let refundPart := Step.approved (.refund (some ⟨(Decimal.ofParts? 5 1).getD .zero, "USD"⟩))
  cases state with
  | new => exact ⟨⟨authorize, .sample⟩, by decide⟩
  | authorization => exact ⟨⟨capture, Payment.sample.after [authorize]⟩, by decide⟩
  | completed => exact ⟨⟨refundPart, Payment.sample.after [authorize, capture]⟩, by decide⟩
  | partiallyRefunded =>
    let refundRest := Step.approved (.refund none)
    exact ⟨⟨refundRest, Payment.sample.after [authorize, capture, refundPart]⟩, by decide⟩
  | refunded => cases h
  | authorizationVoided => cases h

end Event

/-! ### A course -/

namespace Payment

/-- Events that close what no event opens again happen at most once. -/
theorem countP_course_le_one (Open : Payment → Prop) {counted : Event → Bool}
    (hcounted : ∀ e, counted e = true → Open e.before ∧ ¬Open e.after)
    (hclosed : ∀ e : Event, ¬Open e.before → ¬Open e.after) (p : Payment) (steps : List Step) :
    (p.course steps).countP counted ≤ 1 := by
  -- Once closed the payment stays closed, so nothing is counted from there on.
  have hnone : ∀ (rest : List Step) (q : Payment), ¬Open q →
      (q.course rest).countP counted = 0 := by
    intro rest
    induction rest with
    | nil => intro q _; rfl
    | cons s rest ih =>
      intro q hq
      have hnot : ¬counted ⟨s, q⟩ = true := fun h => hq (hcounted _ h).1
      rw [course, List.countP_cons_of_neg hnot]
      exact ih _ (hclosed ⟨s, q⟩ hq)
  induction steps generalizing p with
  | nil => exact Nat.zero_le 1
  | cons s rest ih =>
    rw [course]
    by_cases h : counted ⟨s, p⟩ = true
    · have hzero : ((s.outcome p).payment.course rest).countP counted = 0 :=
        hnone rest _ (hcounted ⟨s, p⟩ h).2
      exact Nat.le_of_eq (by rw [List.countP_cons_of_pos h, hzero])
    · rw [List.countP_cons_of_neg h]
      exact ih _

theorem countP_captures_voids_le_one (p : Payment) (steps : List Step) :
    (p.course steps).countP (Event.succeedsAt [.capture, .void]) ≤ 1 := by
  refine countP_course_le_one (fun q => q.state = .new ∨ q.state = .authorization) ?_ ?_ p steps
  · intro e h
    obtain ⟨hbefore, hauthorization, hnew⟩ := Event.captures_or_voids h
    exact ⟨.inr hbefore, not_or.2 ⟨hnew, hauthorization⟩⟩
  · intro e h
    obtain ⟨hnew, hne⟩ := not_or.1 h
    exact not_or.2 ⟨Event.after_ne_new hnew, Event.after_ne_authorization hnew hne⟩

/-- **A payment follows the arrows.** In every course each step keeps the state or takes one arrow,
and an arrow is only taken by a success that the processor approved or an accepted mock token stood
in for. A payment that is no longer new never is again, it is processed at most once and captured or
voided at most once, and it is refunded only while completed or refunded in part. The states that no
step ever leaves are the terminal ones. -/
theorem course_follows_arrows (p : Payment) (steps : List Step) :
    (∀ e ∈ p.course steps, e.after.state = e.before.state ∨
      e.succeeds = true ∧ Arrow e.step.action.operation e.before.state e.after.state ∧
        Accepted e.step.gateway e.step.action e.outcome.requests) ∧
    (∀ first second, steps = first ++ second → (p.after first).state ≠ .new →
      (p.after steps).state ≠ .new) ∧
    (p.course steps).countP (Event.succeedsAt [.process]) ≤ 1 ∧
    (p.course steps).countP (Event.succeedsAt [.capture, .void]) ≤ 1 ∧
    (∀ e ∈ p.course steps, e.succeedsAt [.refund] = true →
      e.before.state = .completed ∨ e.before.state = .partiallyRefunded) ∧
    ∀ state : PaymentState,
      (∀ e : Event, e.before.state = state → e.after.state = state) ↔ state.isTerminal = true := by
  refine ⟨fun e _ => e.state_cases, ?_, ?_, p.countP_captures_voids_le_one steps,
    fun e _ => Event.refunds, ?_⟩
  · rintro first second rfl hleft
    rw [after_append]
    exact after_of_step (fun q => q.state ≠ .new) hleft fun s _ q hq =>
      Event.after_ne_new (e := ⟨s, q⟩) hq
  · refine countP_course_le_one (fun q => q.state = .new) ?_ ?_ p steps
    · exact fun e => Event.processes
    · exact fun e => Event.after_ne_new
  · intro state
    constructor
    · intro hstays
      cases hterminal : state.isTerminal with
      | true => rfl
      | false =>
        obtain ⟨e, hbefore, hafter⟩ := Event.exists_leaving hterminal
        exact absurd (hstays e hbefore) hafter
    · rintro hterminal e rfl
      exact Event.after_of_isTerminal hterminal

end Payment

end CardPayments
