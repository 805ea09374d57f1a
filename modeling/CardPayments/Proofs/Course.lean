import CardPayments.Proofs.Gateway.Action
import CardPayments.Proofs.HostedPage

/-!
# The course of a payment

A payment begins with an order or with a return from the hosted page, and from then on one step
follows another. Every step brings its own gateway and finds its own ledger: whatever others do to
their payments in between, and whether or not saves fail, is in the ledger that the next step finds.
Facts about all courses are proved of a single step and carried along by the lemmas at the end.
-/

namespace CardPayments

/-- An action with the gateway that carries it out and the ledger that it finds. -/
structure Step where
  action : Action
  gateway : Gateway
  ledger : Ledger

def Step.outcome (s : Step) (p : Payment) : Outcome Unit := s.gateway.act s.action p s.ledger

/-- A step with the payment as the step found it. -/
structure Event where
  step : Step
  before : Payment

namespace Event

def outcome (e : Event) : Outcome Unit := e.step.outcome e.before

def after (e : Event) : Payment := e.outcome.payment

def succeeds (e : Event) : Bool := e.outcome.result.isOk

theorem ending (e : Event) :
    Ending e.step.gateway e.step.action e.before e.step.ledger e.outcome :=
  e.step.gateway.act_ending e.step.action e.before e.step.ledger

/-- An event leaves everything as it was, whether it fails or finds nothing new, or it saves one
change. -/
theorem kept_or_saved (e : Event) :
    (e.after = e.before ∧ e.outcome.ledger = e.step.ledger ∧
      (e.succeeds = true → e.before.state ≠ .new ∧ ∃ id, e.outcome.requests = [.get id])) ∨
    e.succeeds = true ∧
      ∃ updated, Change e.step.gateway e.before e.step.action e.outcome.requests updated ∧
        e.step.ledger.save updated = .ok (e.after, e.outcome.ledger) := by
  rw [after, succeeds]
  have hending := e.ending
  generalize e.outcome = outcome at hending ⊢
  cases hending with
  | failed => exact .inl ⟨rfl, rfl, fun hsucceeds => by cases hsucceeds⟩
  | kept _ hstate => exact .inl ⟨rfl, rfl, fun _ => ⟨hstate, _, rfl⟩⟩
  | changed hchange hsave => exact .inr ⟨rfl, _, hchange, hsave⟩

theorem kept_of_change (Kept : Payment → Prop) (hid : ∀ q id, Kept q → Kept { q with id })
    (hchange : ∀ {g action p requests q}, Change g p action requests q → Kept p → Kept q)
    (e : Event) (h : Kept e.before) : Kept e.after := by
  rw [after]
  generalize houtcome : e.outcome = outcome
  have hending := e.ending
  rw [houtcome] at hending
  cases hending with
  | failed => exact h
  | kept => exact h
  | changed hmade hsave =>
    obtain ⟨-, rfl, -⟩ := Ledger.save_eq_ok.1 hsave
    exact hid _ _ (hchange hmade h)

end Event

namespace Payment

def after : Payment → List Step → Payment
  | p, [] => p
  | p, s :: rest => after (s.outcome p).payment rest

def course : Payment → List Step → List Event
  | _, [] => []
  | p, s :: rest => ⟨s, p⟩ :: course (s.outcome p).payment rest

/-- The payment was begun for an order, with or without a token to charge, or recorded at a return
from the hosted page. -/
inductive Begun : Payment → Prop
  | begin (orderId : String) (amount : Price) : Begun (Payment.begin orderId amount)
  | withToken (orderId : String) (amount : Price) (token : String) :
      Begun ((Payment.begin orderId amount).withRemoteId token)
  | returned {config : Config} {now : Instant} {l : Ledger} {order : Order} {n : Notification}
      {p : Payment} (h : (HostedPage.onReturn config now l order n).result = .ok p) : Begun p

def sample : Payment :=
  (begin "1" ⟨(Decimal.ofParts? 100 2).getD .zero, "USD"⟩).withRemoteId "token"

end Payment

def Order.sample : Order := ⟨"1", "", "", Payment.sample.amount, none⟩

def Gateway.approving : Gateway :=
  ⟨.ofCredentials .live "" "", fun _ => .ok ⟨.approved, some "2", none⟩, default, false⟩

def Step.approved (action : Action) : Step := ⟨action, .approving, .empty⟩

namespace Payment

/-! ### Along a course -/

variable {p : Payment} {steps : List Step}

theorem after_append (p : Payment) (first second : List Step) :
    p.after (first ++ second) = (p.after first).after second := by
  induction first generalizing p with
  | nil => rfl
  | cons s rest ih => exact ih (s.outcome p).payment

theorem step_mem_of_mem_course {e : Event} (h : e ∈ p.course steps) : e.step ∈ steps := by
  induction steps generalizing p with
  | nil => cases h
  | cons s rest ih =>
    rcases List.mem_cons.1 h with rfl | h
    · exact List.mem_cons_self
    · exact List.mem_cons_of_mem _ (ih h)

theorem exists_mem_course {s : Step} (h : s ∈ steps) : ∃ e ∈ p.course steps, e.step = s := by
  induction steps generalizing p with
  | nil => cases h
  | cons first rest ih =>
    rcases List.mem_cons.1 h with rfl | h
    · exact ⟨⟨s, p⟩, List.mem_cons_self, rfl⟩
    · obtain ⟨e, he, hstep⟩ := ih h
      exact ⟨e, List.mem_cons_of_mem _ he, hstep⟩

/-- What every step keeps holds after the last of them. -/
theorem after_of_step (Kept : Payment → Prop) (h : Kept p)
    (hstep : ∀ s ∈ steps, ∀ q, Kept q → Kept (s.outcome q).payment) : Kept (p.after steps) := by
  induction steps generalizing p with
  | nil => exact h
  | cons s rest ih =>
    exact ih (hstep s List.mem_cons_self p h) fun t ht => hstep t (List.mem_cons_of_mem _ ht)

theorem before_of_step (Kept : Payment → Prop) (h : Kept p)
    (hstep : ∀ s ∈ steps, ∀ q, Kept q → Kept (s.outcome q).payment) :
    ∀ e ∈ p.course steps, Kept e.before := by
  induction steps generalizing p with
  | nil => intro e he; cases he
  | cons s rest ih =>
    intro e he
    rcases List.mem_cons.1 he with rfl | he
    · exact h
    · have hfirst := hstep s List.mem_cons_self p h
      exact ih hfirst (fun t ht => hstep t (List.mem_cons_of_mem _ ht)) e he

end Payment

end CardPayments
