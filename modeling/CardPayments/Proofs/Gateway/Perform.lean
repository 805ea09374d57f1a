import CardPayments.Proofs.Gateway.Plan
import CardPayments.Proofs.Ledger

/-!
# Carrying out a plan

A plan is carried out in three steps: one request, the plan's own account of the answer, one save.
The first step that fails ends it with payment and ledger as they were. `Performed` lists the five
ways in which that can end.
-/

namespace CardPayments

namespace Stage

variable {α β : Type} {x : Stage α} {f : α → Stage β} {before after : Progress} {a : α}
  {stop : Stop Failure} {updated stored : Payment} {ledger : Ledger} {e : LedgerError}

theorem run_bind_ok (h : x.run.run before = (.ok a, after)) :
    (x >>= f).run.run before = (f a).run.run after := by
  simp only [ExceptT.run_bind, StateT.run_bind, h]
  rfl

theorem run_bind_error (h : x.run.run before = (.error stop, after)) :
    (x >>= f).run.run before = (.error stop, after) := by
  simp only [ExceptT.run_bind, StateT.run_bind, h]
  rfl

theorem run_ofExcept (result : Except (Stop Failure) α) (progress : Progress) :
    (MonadExcept.ofExcept result : Stage α).run.run progress = (result, progress) := by
  cases result <;> rfl

theorem run_commit_ok (h : before.ledger.save updated = .ok (stored, ledger)) :
    (commit updated).run.run before =
      (.ok (), { before with payment := stored, ledger := ledger }) := by
  refine (run_bind_ok (x := get) (a := before) rfl).trans ?_
  rw [h]
  rfl

theorem run_commit_error (h : before.ledger.save updated = .error e) :
    (commit updated).run.run before = (.error (.error (.ledger e)), before) := by
  refine (run_bind_ok (x := get) (a := before) rfl).trans ?_
  rw [h]
  rfl

section Conclude

variable {plan : Plan} {answer : Transaction}

theorem run_settle {change : Except (Stop Failure) (Option Payment)}
    (hsettle : plan.settle answer = change) :
    (MonadExcept.ofExcept (plan.settle answer) : Stage (Option Payment)).run.run before =
      (change, before) :=
  hsettle ▸ run_ofExcept (plan.settle answer) before

theorem run_conclude_stopped (hstop : plan.settle answer = .error stop) :
    (conclude plan (.ok answer)).run.run before = (.error stop, before) :=
  run_bind_error (run_settle hstop)

theorem run_conclude_kept (hnone : plan.settle answer = .ok none) :
    (conclude plan (.ok answer)).run.run before = (.ok answer, before) :=
  run_bind_ok (run_settle hnone)

theorem run_conclude_unsaved (hsome : plan.settle answer = .ok (some updated))
    (hsave : before.ledger.save updated = .error e) :
    (conclude plan (.ok answer)).run.run before = (.error (.error (.ledger e)), before) :=
  (run_bind_ok (run_settle hsome)).trans (run_bind_error (run_commit_error hsave))

theorem run_conclude_saved (hsome : plan.settle answer = .ok (some updated))
    (hsave : before.ledger.save updated = .ok (stored, ledger)) :
    (conclude plan (.ok answer)).run.run before =
      (.ok answer, { before with payment := stored, ledger := ledger }) :=
  (run_bind_ok (run_settle hsome)).trans (run_bind_ok (run_commit_ok hsave))

end Conclude

end Stage

namespace Gateway

variable {g : Gateway} {p : Payment} {l : Ledger} {plan : Plan} {answer : Transaction}
  {updated : Payment}

theorem perform_error {stop : Stop Failure} :
    g.perform p l (.error stop) = .refused stop p l := rfl

theorem perform_ok :
    g.perform p l (.ok plan) =
      (Stage.conclude plan (g.processor plan.request)).outcome ⟨p, l, [plan.request]⟩ := rfl

theorem perform_of_unanswered {e : ApiError} (h : g.processor plan.request = .error e) :
    g.perform p l (.ok plan) =
      ⟨.error (.error (Failure.ofApiError e)), p, l, [plan.request], []⟩ := by
  rw [perform_ok, h]
  rfl

theorem perform_of_stopped {stop : Stop Failure} (hanswer : g.processor plan.request = .ok answer)
    (hstop : plan.settle answer = .error stop) :
    g.perform p l (.ok plan) = ⟨.error stop, p, l, [plan.request], []⟩ := by
  rw [perform_ok, hanswer, Stage.outcome, Stage.run_conclude_stopped hstop]

theorem perform_of_kept (hanswer : g.processor plan.request = .ok answer)
    (hnone : plan.settle answer = .ok none) :
    g.perform p l (.ok plan) = ⟨.ok answer, p, l, [plan.request], []⟩ := by
  rw [perform_ok, hanswer, Stage.outcome, Stage.run_conclude_kept hnone]

theorem perform_of_unsaved {e : LedgerError} (hanswer : g.processor plan.request = .ok answer)
    (hsome : plan.settle answer = .ok (some updated)) (hsave : l.save updated = .error e) :
    g.perform p l (.ok plan) = ⟨.error (.error (.ledger e)), p, l, [plan.request], []⟩ := by
  rw [perform_ok, hanswer, Stage.outcome, Stage.run_conclude_unsaved hsome hsave]

theorem perform_of_saved {stored : Payment} {after : Ledger}
    (hanswer : g.processor plan.request = .ok answer)
    (hsome : plan.settle answer = .ok (some updated))
    (hsave : l.save updated = .ok (stored, after)) :
    g.perform p l (.ok plan) = ⟨.ok answer, stored, after, [plan.request], []⟩ := by
  rw [perform_ok, hanswer, Stage.outcome, Stage.run_conclude_saved hsome hsave]

/-- How carrying out a plan ends. -/
inductive Performed (g : Gateway) (p : Payment) (l : Ledger) (plan : Plan) :
    Outcome Transaction → Prop
  | unanswered {e : ApiError} (hanswer : g.processor plan.request = .error e) :
      Performed g p l plan ⟨.error (.error (Failure.ofApiError e)), p, l, [plan.request], []⟩
  | stopped {answer : Transaction} {stop : Stop Failure}
      (hanswer : g.processor plan.request = .ok answer)
      (hstop : plan.settle answer = .error stop) :
      Performed g p l plan ⟨.error stop, p, l, [plan.request], []⟩
  | kept {answer : Transaction} (hanswer : g.processor plan.request = .ok answer)
      (hnone : plan.settle answer = .ok none) :
      Performed g p l plan ⟨.ok answer, p, l, [plan.request], []⟩
  | unsaved {answer : Transaction} {updated : Payment} {e : LedgerError}
      (hanswer : g.processor plan.request = .ok answer)
      (hsome : plan.settle answer = .ok (some updated)) (hsave : l.save updated = .error e) :
      Performed g p l plan ⟨.error (.error (.ledger e)), p, l, [plan.request], []⟩
  | saved {answer : Transaction} {updated stored : Payment} {after : Ledger}
      (hanswer : g.processor plan.request = .ok answer)
      (hsome : plan.settle answer = .ok (some updated))
      (hsave : l.save updated = .ok (stored, after)) :
      Performed g p l plan ⟨.ok answer, stored, after, [plan.request], []⟩

theorem performed (g : Gateway) (p : Payment) (l : Ledger) (plan : Plan) :
    Performed g p l plan (g.perform p l (.ok plan)) := by
  cases hanswer : g.processor plan.request with
  | error e => exact perform_of_unanswered hanswer ▸ .unanswered hanswer
  | ok answer =>
    cases hsettle : plan.settle answer with
    | error stop => exact perform_of_stopped hanswer hsettle ▸ .stopped hanswer hsettle
    | ok change =>
      cases change with
      | none => exact perform_of_kept hanswer hsettle ▸ .kept hanswer hsettle
      | some updated =>
        cases hsave : l.save updated with
        | error e => exact perform_of_unsaved hanswer hsettle hsave ▸ .unsaved hanswer hsettle hsave
        | ok saved => exact perform_of_saved hanswer hsettle hsave ▸ .saved hanswer hsettle hsave

/-- A plan fails and leaves everything as it was, or the processor answers its request and what the
plan makes of the answer is saved, if it makes anything of it. -/
theorem perform_cases (g : Gateway) (p : Payment) (l : Ledger)
    (plan : Except (Stop Failure) Plan) :
    (∃ stop requests, g.perform p l plan = ⟨.error stop, p, l, requests, []⟩) ∨
    ∃ made answer stored after, plan = .ok made ∧ g.processor made.request = .ok answer ∧
      g.perform p l plan = ⟨.ok answer, stored, after, [made.request], []⟩ ∧
      ((made.settle answer = .ok none ∧ p = stored ∧ l = after) ∨
        ∃ updated, made.settle answer = .ok (some updated) ∧
          l.save updated = .ok (stored, after)) := by
  cases plan with
  | error stop => exact .inl ⟨stop, [], perform_error⟩
  | ok made =>
    have hperformed := g.performed p l made
    generalize g.perform p l (.ok made) = outcome at hperformed ⊢
    cases hperformed with
    | unanswered => exact .inl ⟨_, _, rfl⟩
    | stopped => exact .inl ⟨_, _, rfl⟩
    | kept hanswer hnone =>
      exact .inr ⟨made, _, p, l, rfl, hanswer, rfl, .inl ⟨hnone, rfl, rfl⟩⟩
    | unsaved => exact .inl ⟨_, _, rfl⟩
    | saved hanswer hsome hsave =>
      exact .inr ⟨made, _, _, _, rfl, hanswer, rfl, .inr ⟨_, hsome, hsave⟩⟩

theorem perform_ok_requests : (g.perform p l (.ok plan)).requests = [plan.request] := by
  have hperformed := g.performed p l plan
  generalize g.perform p l (.ok plan) = outcome at hperformed ⊢
  cases hperformed <;> rfl

theorem perform_requests {plan : Except (Stop Failure) Plan} {request : Request}
    (h : request ∈ (g.perform p l plan).requests) :
    ∃ made, plan = .ok made ∧ made.request = request ∧
      (g.perform p l plan).requests = [made.request] := by
  cases plan with
  | error stop => cases h
  | ok made =>
    rw [perform_ok_requests, List.mem_singleton] at h
    exact ⟨made, rfl, h.symm, perform_ok_requests⟩

/-- Neither the processor nor the ledger overflows, so the plan does. -/
theorem perform_overflow {plan : Except (Stop Failure) Plan} {o : Overflow}
    (h : (g.perform p l plan).result = .error (.overflow o)) : Plan.Overflows plan o := by
  cases plan with
  | error stop => exact .inl (congrArg _ (Except.error.inj h))
  | ok made =>
    have hperformed := g.performed p l made
    generalize g.perform p l (.ok made) = outcome at hperformed h
    cases hperformed with
    | stopped hanswer hstop =>
      obtain rfl := Except.error.inj h
      exact .inr ⟨made, _, rfl, hstop⟩
    | unanswered | kept | unsaved | saved => cases h

end Gateway

end CardPayments
