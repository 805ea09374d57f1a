import CardPayments.Proofs.Checkout.Completion
import CardPayments.Proofs.Gateway.Overflow

/-!
# What a submission tells the customer

A submitted checkout gives one notice, which says how it ended. It completes a new payment and says
so, or it fails, leaves everything as it was and gives the failure's message to customers. What lies
in a failure of the processor's answer, the storage or the configuration is not for them: `masked`
blots it out wherever it can stand, a submission with all of it blotted out runs as before, and so
no notice depends on it.
-/

namespace CardPayments

/-- Failures that are not the customer's to mend: no usable answer, no token, a wrong configuration
or a ledger that does not store. -/
def Failure.isInternal : Failure → Bool
  | .transport _ => true
  | .decode _ => true
  | .missingToken => true
  | .config _ => true
  | .ledger _ => true
  | _ => false

theorem Failure.userMessage_of_isInternal {f : Failure} (h : f.isInternal = true) :
    f.userMessage = genericMessage := by
  cases f <;> simp [isInternal, userMessage] at h ⊢

/-! ### The two ends of a submission -/

namespace Gateway

variable {g : Gateway} {p : Payment} {l : Ledger} {order : Order} {s : Submission}

/-- The submission completed a new payment, stored it and told so. -/
inductive Completed (g : Gateway) (p : Payment) (l : Ledger) : Outcome Unit → Prop
  | intro {id text : String} {requests : List Request} {stored : Payment} {after : Ledger}
      (hstate : p.state = .new) (hsave : l.save (p.completedUnder g id) = .ok (stored, after)) :
      Completed g p l ⟨.ok (), stored, after, requests, [⟨.status, text⟩]⟩

theorem Completed.recorded {o : Outcome Unit} (h : Completed g p l o) :
    ∃ text, o.result = .ok () ∧ o.notices = [⟨.status, text⟩] ∧ p.state = .new ∧
      o.payment.state = .completed ∧ o.payment.authorizedTime = some g.now ∧
      o.payment.capturedTime = some g.now ∧
      ∃ id, o.payment.id = some id ∧ o.ledger.load id = .ok o.payment := by
  cases h with
  | @intro id text requests stored after hstate hsave =>
    have hloads := Ledger.exists_load_of_save hsave
    obtain ⟨-, rfl, -⟩ := Ledger.save_eq_ok.1 hsave
    exact ⟨text, rfl, rfl, hstate, rfl, rfl, rfl, hloads⟩

theorem submitProvider_ends {token : String} :
    (∃ stop requests, g.submitProvider p l order token = ⟨.error stop, p, l, requests, []⟩) ∨
      Completed g p l (g.submitProvider p l order token) := by
  rw [submitProvider, create]
  obtain ⟨stop, requests, heq⟩ | ⟨made, answer, stored, after, hmade, hanswer, heq, hsettled⟩ :=
    g.perform_cases (p.withRemoteId token) l
      (Plan.create g.config g.now (p.withRemoteId token) order true)
  · rw [heq]
    exact .inl ⟨stop, requests, rfl⟩
  · rw [heq]
    obtain ⟨hnone, -⟩ | ⟨updated, hsome, hsave⟩ := hsettled
    · exact absurd hnone (create_settle_ne_none hmade)
    · obtain ⟨hstate, -, _, -, -, -, hsettle⟩ := Plan.create_ok hmade
      obtain ⟨happroved, id, -, hupdated⟩ := (hsettle _ _).1 hsome
      rw [RemoteStatus.isApproved_iff.1 happroved] at hupdated
      obtain rfl : p.completedUnder g id = updated := Option.some.inj hupdated
      exact .inr (.intro hstate hsave)

theorem submitMock_ends {token : String} :
    (∃ stop, g.submitMock p l token = ⟨.error stop, p, l, [], []⟩) ∨
      Completed g p l (g.submitMock p l token) := by
  unfold submitMock
  split
  · next stop _ => exact .inl ⟨stop, rfl⟩
  · next updated hupdated =>
    obtain ⟨-, hstate, rfl⟩ := completedWithMock_ok hupdated
    split
    · exact .inl ⟨_, rfl⟩
    · next stored after hsave => exact .inr (.intro hstate hsave)

theorem submitToken_ends :
    (∃ stop requests, g.submitToken p l order s = ⟨.error stop, p, l, requests, []⟩) ∨
      Completed g p l (g.submitToken p l order s) := by
  unfold submitToken
  split
  · exact .inl ⟨_, [], rfl⟩
  · exact submitProvider_ends
  · obtain ⟨stop, heq⟩ | hcompleted := submitMock_ends (g := g) (p := p) (l := l)
    · exact .inl ⟨stop, [], heq⟩
    · exact .inr hcompleted

theorem submit_ends (g : Gateway) (p : Payment) (l : Ledger) (order : Order) (s : Submission) :
    (∃ requests failure, g.submit p l order s = failing p l requests failure) ∨
      Completed g p l (g.submit p l order s) := by
  have hbounded (o : Overflow) : (g.submit p l order s).result ≠ .error (.overflow o) :=
    submit_ne_overflow
  unfold submit at hbounded ⊢
  obtain ⟨stop, requests, heq⟩ | hcompleted : _ ∨ Completed g p l (g.submitToken p l order s) :=
    submitToken_ends
  · rw [heq] at hbounded ⊢
    cases stop with
    | error failure => exact .inl ⟨requests, failure, rfl⟩
    | overflow o => exact absurd rfl (hbounded o)
  · generalize g.submitToken p l order s = outcome at hcompleted
    cases hcompleted with
    | intro hstate hsave => exact .inr (.intro hstate hsave)

end Gateway

theorem recorded_or_failed {g : Gateway} {p : Payment} {l : Ledger} {o : Outcome Unit}
    (h : (∃ requests failure, o = Gateway.failing p l requests failure) ∨
      Gateway.Completed g p l o) :
    (∃ text, o.result = .ok () ∧ o.notices = [⟨.status, text⟩] ∧ p.state = .new ∧
        o.payment.state = .completed ∧ o.payment.authorizedTime = some g.now ∧
        o.payment.capturedTime = some g.now ∧
        ∃ id, o.payment.id = some id ∧ o.ledger.load id = .ok o.payment) ∨
      ∃ failure, o.result = .error (.error failure) ∧
        o.notices = [⟨.error, failure.userMessage⟩] ∧
        (failure.isInternal = true → failure.userMessage = Failure.genericMessage) ∧
        o.payment = p ∧ o.ledger = l := by
  obtain ⟨requests, failure, rfl⟩ | hcompleted := h
  · exact .inr ⟨failure, rfl, rfl, Failure.userMessage_of_isInternal, rfl, rfl⟩
  · exact .inl hcompleted.recorded

/-! ### Without the details -/

/-- The failure without what customers are not told: all internal ones look alike. -/
def Failure.masked (f : Failure) : Failure := if f.isInternal then .missingToken else f

def Processor.masked (processor : Processor) : Processor :=
  fun request => (processor request).mapError fun _ => .transport none ""

def Ledger.masked (l : Ledger) : Ledger := { l with refusal := l.refusal.map fun _ => "" }

def Gateway.masked (g : Gateway) : Gateway := { g with processor := g.processor.masked }

def Outcome.masked {α : Type} (o : Outcome α) : Outcome α :=
  { o with
    result := o.result.mapError (Stop.map Failure.masked)
    ledger := o.ledger.masked }

theorem Failure.masked_of_isInternal {f : Failure} (h : f.isInternal = true) :
    f.masked = .missingToken := if_pos h

theorem Failure.userMessage_masked (f : Failure) : f.masked.userMessage = f.userMessage := by
  unfold masked
  split
  · next h => rw [userMessage_of_isInternal h, userMessage_of_isInternal rfl]
  · rfl

theorem Failure.isInternal_ofApiError (e : ApiError) : (ofApiError e).isInternal = true := by
  cases e <;> rfl

theorem Ledger.masked_masked (l : Ledger) : l.masked.masked = l.masked := by
  unfold masked
  cases l.refusal <;> rfl

theorem Ledger.save_masked (l : Ledger) (p : Payment) :
    (∃ stored after, l.save p = .ok (stored, after) ∧
      l.masked.save p = .ok (stored, after.masked)) ∨
    ∃ e e', l.save p = .error e ∧ l.masked.save p = .error e' := by
  unfold save masked
  cases l.refusal with
  | none => exact .inl ⟨_, _, rfl, rfl⟩
  | some detail => exact .inr ⟨_, _, rfl, rfl⟩

theorem Outcome.masked_of_failure {α : Type} {p : Payment} {l : Ledger} {requests : List Request}
    {notices : List Notice} {f f' : Failure} (h : f.masked = f'.masked) :
    (⟨.error (.error f), p, l, requests, notices⟩ : Outcome α).masked =
      (⟨.error (.error f'), p, l.masked, requests, notices⟩ : Outcome α).masked := by
  have hresult : (Except.error (.error f) : Except (Stop Failure) α).mapError
      (Stop.map Failure.masked) = (Except.error (.error f')).mapError (Stop.map Failure.masked) :=
    congrArg (fun own : Failure => Except.error (Stop.error own)) h
  simp only [masked, hresult, Ledger.masked_masked]

theorem Outcome.masked_of_result {α : Type} (result : Except (Stop Failure) α) (p : Payment)
    (l : Ledger) (requests : List Request) (notices : List Notice) :
    (⟨result, p, l, requests, notices⟩ : Outcome α).masked =
      (⟨result, p, l.masked, requests, notices⟩ : Outcome α).masked := by
  simp only [masked, Ledger.masked_masked]

theorem Outcome.eq_of_masked {o o' : Outcome Unit} (h : o.masked = o'.masked) :
    o.notices = o'.notices ∧ o.requests = o'.requests ∧ o.payment = o'.payment ∧
      o.ledger.masked = o'.ledger.masked ∧ (o.result = .ok () ↔ o'.result = .ok ()) := by
  simp only [masked, Outcome.mk.injEq] at h
  obtain ⟨hresult, hpayment, hstored, hrequests, hnotices⟩ := h
  refine ⟨hnotices, hrequests, hpayment, hstored, ?_⟩
  rw [← mapError_eq_ok, hresult, mapError_eq_ok]

/-- What an operation leaves behind once its failure is told to the customer. -/
def Outcome.told (o : Outcome Unit) : Outcome Unit :=
  match o.result with
  | .error (.error failure) =>
    { o with notices := o.notices ++ [⟨.error, failure.userMessage⟩] }
  | _ => o

theorem Outcome.told_masked (o : Outcome Unit) : o.told.masked = o.masked.told := by
  obtain ⟨result, _, _, _, notices⟩ := o
  cases result with
  | ok u => rfl
  | error stop =>
    cases stop with
    | overflow o => rfl
    | error f =>
      have hnotice : notices ++ [⟨.error, f.userMessage⟩] =
          notices ++ [⟨.error, f.masked.userMessage⟩] := by rw [f.userMessage_masked]
      exact congrArg (fun own => Outcome.masked ⟨.error (.error f), _, _, _, own⟩) hnotice

namespace Gateway

variable {g : Gateway} {p : Payment} {l : Ledger} {order : Order} {s : Submission}

theorem submit_eq_told : g.submit p l order s = (g.submitToken p l order s).told := by
  unfold submit
  generalize g.submitToken p l order s = outcome
  rfl

theorem perform_masked (g : Gateway) (p : Payment) (l : Ledger)
    (plan : Except (Stop Failure) Plan) :
    (g.perform p l plan).masked = (g.masked.perform p l.masked plan).masked := by
  cases plan with
  | error stop => exact Outcome.masked_of_result _ _ _ _ _
  | ok made =>
    have hmasked : g.masked.processor made.request =
        (g.processor made.request).mapError fun _ => .transport none "" := rfl
    cases hanswer : g.processor made.request with
    | error e =>
      rw [hanswer] at hmasked
      rw [perform_of_unanswered hanswer, perform_of_unanswered hmasked]
      apply Outcome.masked_of_failure
      rw [Failure.masked_of_isInternal (Failure.isInternal_ofApiError _),
        Failure.masked_of_isInternal (Failure.isInternal_ofApiError _)]
    | ok answer =>
      rw [hanswer] at hmasked
      cases hsettle : made.settle answer with
      | error stop =>
        rw [perform_of_stopped hanswer hsettle, perform_of_stopped hmasked hsettle]
        exact Outcome.masked_of_result _ _ _ _ _
      | ok changed =>
        cases changed with
        | none =>
          rw [perform_of_kept hanswer hsettle, perform_of_kept hmasked hsettle]
          exact Outcome.masked_of_result _ _ _ _ _
        | some updated =>
          obtain ⟨stored, after, hsave, hsave'⟩ | ⟨e, e', hsave, hsave'⟩ := l.save_masked updated
          · rw [perform_of_saved hanswer hsettle hsave, perform_of_saved hmasked hsettle hsave']
            exact Outcome.masked_of_result _ _ _ _ _
          · rw [perform_of_unsaved hanswer hsettle hsave, perform_of_unsaved hmasked hsettle hsave']
            exact Outcome.masked_of_failure rfl

theorem submitProvider_masked {token : String} :
    (g.submitProvider p l order token).masked =
      (g.masked.submitProvider p l.masked order token).masked := by
  have hcreate : (g.create (p.withRemoteId token) l order true).masked =
      (g.masked.create (p.withRemoteId token) l.masked order true).masked := perform_masked _ _ _ _
  unfold submitProvider
  generalize g.create (p.withRemoteId token) l order true = charged at hcreate ⊢
  generalize g.masked.create (p.withRemoteId token) l.masked order true = charged' at hcreate ⊢
  obtain ⟨result, _, _, _, _⟩ := charged
  obtain ⟨result', _, _, _, _⟩ := charged'
  simp only [Outcome.masked, Outcome.mk.injEq] at hcreate
  obtain ⟨hresult, rfl, hledger, rfl, rfl⟩ := hcreate
  cases result with
  | ok u =>
    cases result' with
    | ok u' => simp only [Outcome.masked, hledger]
    | error stop' => cases hresult
  | error stop =>
    cases result' with
    | ok u' => cases hresult
    | error stop' =>
      have hmasked : (Except.error stop : Except (Stop Failure) Unit).mapError
          (Stop.map Failure.masked) = (Except.error stop').mapError (Stop.map Failure.masked) :=
        congrArg Except.error (Except.error.inj hresult)
      simp only [Outcome.masked, hmasked, hledger]

theorem submitMock_masked {token : String} :
    (g.submitMock p l token).masked = (g.masked.submitMock p l.masked token).masked := by
  have hcompleted : g.masked.completedWithMock p token = g.completedWithMock p token := rfl
  unfold submitMock
  rw [hcompleted]
  cases g.completedWithMock p token with
  | error stop => exact Outcome.masked_of_result _ _ _ _ _
  | ok updated =>
    obtain ⟨stored, after, hsave, hsave'⟩ | ⟨e, e', hsave, hsave'⟩ := l.save_masked updated
    · simp only [hsave, hsave']
      exact Outcome.masked_of_result _ _ _ _ _
    · simp only [hsave, hsave']
      exact Outcome.masked_of_failure rfl

theorem submitToken_masked :
    (g.submitToken p l order s).masked = (g.masked.submitToken p l.masked order s).masked := by
  have hknows : g.masked.knowsMockTokens = g.knowsMockTokens := rfl
  unfold submitToken
  rw [hknows]
  split
  · exact Outcome.masked_of_result _ _ _ _ _
  · exact submitProvider_masked
  · exact submitMock_masked

theorem submit_masked (g : Gateway) (p : Payment) (l : Ledger) (order : Order) (s : Submission) :
    (g.submit p l order s).masked = (g.masked.submit p l.masked order s).masked := by
  rw [submit_eq_told, submit_eq_told, Outcome.told_masked, Outcome.told_masked, submitToken_masked]

/-- **Every submission gives one notice, and it tells no details.** It completes a new payment at
the gateway's time, stores it as it hands it over and gives a notice of that; or it fails, leaves
payment and ledger as they were and gives the failure's message to customers, which is the same for
all failures that are not theirs to mend. Let another processor give the same answers and fail where
this one does, and another ledger hold the same and refuse saves if this one does: whatever they say
of it, the customer is told the same, and the same is asked, done and stored. -/
theorem one_notice_per_submission (g : Gateway) (p : Payment) (l : Ledger) (order : Order)
    (s : Submission) :
    let outcome := g.submit p l order s
    ((∃ text, outcome.result = .ok () ∧ outcome.notices = [⟨.status, text⟩] ∧
        p.state = .new ∧ outcome.payment.state = .completed ∧
        outcome.payment.authorizedTime = some g.now ∧ outcome.payment.capturedTime = some g.now ∧
        ∃ id, outcome.payment.id = some id ∧ outcome.ledger.load id = .ok outcome.payment) ∨
      ∃ failure, outcome.result = .error (.error failure) ∧
        outcome.notices = [⟨.error, failure.userMessage⟩] ∧
        (failure.isInternal = true → failure.userMessage = Failure.genericMessage) ∧
        outcome.payment = p ∧ outcome.ledger = l) ∧
    ∀ (processor : Processor) (ledger : Ledger), processor.masked = g.processor.masked →
      ledger.masked = l.masked →
      let other := { g with processor }.submit p ledger order s
      other.notices = outcome.notices ∧ other.requests = outcome.requests ∧
        other.payment = outcome.payment ∧ other.ledger.masked = outcome.ledger.masked ∧
        (other.result = .ok () ↔ outcome.result = .ok ()) := by
  intro outcome
  refine ⟨recorded_or_failed (g.submit_ends p l order s), ?_⟩
  intro processor ledger hprocessor hledger other
  have hgateway : { g with processor }.masked = g.masked :=
    congrArg (fun masked => { g with processor := masked }) hprocessor
  have hmasked : other.masked = outcome.masked := by
    rw [submit_masked, submit_masked g, hgateway, hledger]
  exact Outcome.eq_of_masked hmasked

/-- A charge that gets no answer, with a ledger that is full, and the same charge with an answer
that cannot be read, with a ledger that is out of order. -/
theorem sample_one_notice_per_submission :
    let p := Payment.begin "" default
    let full : Ledger := ⟨[], 0, some "disk full"⟩
    let broken : Ledger := ⟨[], 0, some "out of order"⟩
    let processor : Processor := fun _ => .error (.decode "no transaction")
    let outcome := mocking.submit p full default (sampleSubmission "token")
    let other := { mocking with processor }.submit p broken default (sampleSubmission "token")
    (processor.masked = mocking.processor.masked ∧ broken.masked = full.masked) ∧
      outcome.result = .error (.error (.transport "no answer")) ∧
      other.result = .error (.error (.decode "no transaction")) ∧
      outcome.notices = [⟨.error, Failure.genericMessage⟩] ∧
      other.notices = [⟨.error, Failure.genericMessage⟩] := by
  intro p full broken processor outcome other
  have hprocessor : processor.masked = mocking.processor.masked := rfl
  have hledger : broken.masked = full.masked := rfl
  have hresult : outcome.result = .error (.error (.transport "no answer")) := rfl
  obtain ⟨⟨text, hok, -⟩ | ⟨failure, hfailure, hnotices, hgeneric, -⟩, hsame⟩ :=
    one_notice_per_submission mocking p full default (sampleSubmission "token")
  · cases hresult.symm.trans hok
  · obtain rfl : .transport "no answer" = failure :=
      Stop.error.inj (Except.error.inj (hresult.symm.trans hfailure))
    rw [hgeneric rfl] at hnotices
    obtain ⟨hother, -⟩ := hsame processor broken hprocessor hledger
    exact ⟨⟨hprocessor, hledger⟩, hresult, rfl, hnotices, hother.trans hnotices⟩

end Gateway

end CardPayments
