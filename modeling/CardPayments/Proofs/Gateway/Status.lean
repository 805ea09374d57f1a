import CardPayments.Proofs.Gateway.Action

/-!
# Operations do not read the reported status

The status that the processor last reported is kept with a payment for people to see. Apart from the
look-up no operation reads it: on two payments that differ in nothing else, with ledgers that differ
in nothing else, an operation asks the same, ends alike, and leaves payments and ledgers that again
differ in nothing else.
-/

namespace CardPayments

/-- Two computations stop for the same reason, or their results stand in the relation. -/
inductive Alike {ε α β : Type} (R : α → β → Prop) : Except ε α → Except ε β → Prop
  | stopped (stop : ε) : Alike R (.error stop) (.error stop)
  | ended {a : α} {b : β} (h : R a b) : Alike R (.ok a) (.ok b)

namespace Alike

variable {ε δ α β γ : Type} {R : α → β → Prop}

theorem bind {x : Except ε γ} {f : γ → Except ε α} {f' : γ → Except ε β}
    (h : ∀ c, Alike R (f c) (f' c)) : Alike R (x >>= f) (x >>= f') := by
  cases x with
  | error stop => exact .stopped stop
  | ok c => exact h c

theorem unless_stop {c : Prop} [Decidable c] {failure : Failure}
    {rest : Unit → Except (Stop Failure) α} {rest' : Unit → Except (Stop Failure) β}
    (h : Alike R (rest ()) (rest' ())) :
    Alike R (if c then failure.stop >>= rest else rest ())
      (if c then failure.stop >>= rest' else rest' ()) := by
  split
  · exact .stopped _
  · exact h

end Alike

/-! ### Payments and ledgers without the status -/

/-- The payment as it is apart from the status that the processor last reported. -/
def Payment.withoutStatus (p : Payment) : Payment := { p with remoteState := none }

def Ledger.entryWithoutStatus (own : Option UInt64) (e : UInt64 × Payment) : UInt64 × Payment :=
  (e.1, if own = some e.1 then e.2.withoutStatus else e.2)

def Ledger.withoutStatus (l : Ledger) (own : Option UInt64) : Ledger :=
  { l with entries := l.entries.map (entryWithoutStatus own) }

def Outcome.withoutStatus {α : Type} (o : Outcome α) : Outcome α :=
  { o with payment := o.payment.withoutStatus, ledger := o.ledger.withoutStatus o.payment.id }

/-- Two plans ask the same and make the same of every answer apart from the status, under the id
that the payment has. -/
structure Plan.Matches (own : Option UInt64) (plan plan' : Plan) : Prop where
  request : plan.request = plan'.request
  settle : ∀ answer, Alike (fun changed changed' => ∃ q q', changed = some q ∧ changed' = some q' ∧
    q.withoutStatus = q'.withoutStatus ∧ q.id = own) (plan.settle answer) (plan'.settle answer)

namespace Payment

theorem exists_remoteState {p q : Payment} (h : p.withoutStatus = q.withoutStatus) :
    ∃ status, q = { p with remoteState := status } := by
  refine ⟨q.remoteState, ?_⟩
  cases p
  cases q
  simp only [withoutStatus, mk.injEq] at h ⊢
  simp [h]

theorem id_eq_of_withoutStatus {p q : Payment} (h : p.withoutStatus = q.withoutStatus) :
    p.id = q.id := by
  obtain ⟨status, rfl⟩ := exists_remoteState h
  rfl

theorem withRemoteId_withoutStatus {p q : Payment} (h : p.withoutStatus = q.withoutStatus)
    (token : String) :
    (p.withRemoteId token).withoutStatus = (q.withRemoteId token).withoutStatus := by
  obtain ⟨status, rfl⟩ := exists_remoteState h
  rfl

end Payment

namespace Ledger

variable {l l' : Ledger} {p q : Payment}

theorem withoutStatus_none (l : Ledger) : l.withoutStatus none = l := by
  have hentry : entryWithoutStatus none = id := rfl
  rw [withoutStatus, hentry, List.map_id]

theorem get?_withoutStatus (l : Ledger) (own : Option UInt64) (id : UInt64) :
    (l.withoutStatus own).get? id =
      (l.get? id).map fun p => if own = some id then p.withoutStatus else p := by
  obtain ⟨entries, _⟩ := l
  simp only [withoutStatus, get?]
  induction entries with
  | nil => rfl
  | cons e rest ih =>
    by_cases heq : e.1 = id
    · simp [entryWithoutStatus, heq]
    · simpa [entryWithoutStatus, List.find?_cons_of_neg, heq] using ih

theorem insertEntry_withoutStatus (id : UInt64) (p : Payment) (entries : List (UInt64 × Payment)) :
    (insertEntry id p entries).map (entryWithoutStatus (some id)) =
      insertEntry id p.withoutStatus (entries.map (entryWithoutStatus (some id))) := by
  induction entries with
  | nil => simp [insertEntry, entryWithoutStatus]
  | cons e rest ih =>
    by_cases heq : e.1 = id
    · simp [insertEntry, entryWithoutStatus, heq]
    · simp [insertEntry, entryWithoutStatus, heq, ih]

theorem insertEntry_of_stored {id : UInt64} {entries : List (UInt64 × Payment)}
    (hstored : entries.find? (fun e => e.1 == id) = some (id, p))
    (h : p.withoutStatus = q.withoutStatus) :
    (insertEntry id q entries).map (entryWithoutStatus (some id)) =
      entries.map (entryWithoutStatus (some id)) := by
  induction entries with
  | nil => cases hstored
  | cons e rest ih =>
    by_cases heq : e.1 = id
    · obtain rfl : e = (id, p) := by simpa [heq] using hstored
      simp [insertEntry, entryWithoutStatus, h]
    · rw [List.find?_cons_of_neg (by simpa using heq)] at hstored
      rw [insertEntry, if_neg heq, List.map_cons, List.map_cons, ih hstored]

/-- Another status of a payment that is stored is another status of its record. -/
theorem save_withoutStatus_of_stored {id : UInt64} {stored : Payment} {after : Ledger}
    (hstored : l.get? id = some p) (hid : p.id = some id) (h : p.withoutStatus = q.withoutStatus)
    (hsave : l.save q = .ok (stored, after)) :
    p.withoutStatus = stored.withoutStatus ∧
      after.withoutStatus (some id) = l.withoutStatus (some id) := by
  obtain ⟨status, rfl⟩ := Payment.exists_remoteState h
  obtain ⟨-, rfl, rfl⟩ := save_eq_ok.1 hsave
  have hown : l.idFor { p with remoteState := status } = id := by simp [idFor, hid]
  have hfound : l.entries.find? (fun e => e.1 == id) = some (id, p) := by
    obtain ⟨e, hfind, rfl⟩ := Option.map_eq_some_iff.1 hstored
    obtain rfl : e.1 = id := by simpa using List.find?_some hfind
    exact hfind
  have hsame : p.withoutStatus =
      Payment.withoutStatus { p with id := some id, remoteState := status } := by
    simp [Payment.withoutStatus, hid]
  rw [hown]
  refine ⟨hsame, ?_⟩
  simp only [withoutStatus, insertEntry_of_stored hfound hsame, lastIdAfter, hid,
    Option.isSome_some, if_true]

/-- A payment that has no id yet stands nowhere, and any other under its own id. -/
theorem withoutStatus_idFor (h : l.withoutStatus p.id = l'.withoutStatus p.id) :
    l.withoutStatus (some (l.idFor p)) = l'.withoutStatus (some (l.idFor p)) := by
  cases hid : p.id with
  | none =>
    rw [hid, withoutStatus_none, withoutStatus_none] at h
    rw [h]
  | some id => rwa [hid, ← show l.idFor p = id by rw [idFor, hid, Option.getD_some]] at h

theorem save_alike (hp : p.withoutStatus = q.withoutStatus)
    (hl : l.withoutStatus p.id = l'.withoutStatus p.id) :
    Alike (fun saved saved' => saved.1.withoutStatus = saved'.1.withoutStatus ∧
        saved.2.withoutStatus saved.1.id = saved'.2.withoutStatus saved.1.id)
      (l.save p) (l'.save q) := by
  obtain ⟨status, rfl⟩ := Payment.exists_remoteState hp
  obtain ⟨hlast, hrefusal⟩ : l.lastId = l'.lastId ∧ l.refusal = l'.refusal :=
    ⟨(mk.inj hl).2.1, (mk.inj hl).2.2⟩
  cases h : l.refusal with
  | some detail =>
    have h' : l'.refusal = some detail := hrefusal ▸ h
    simp only [save, h, h']
    exact .stopped _
  | none =>
    have h' : l'.refusal = none := hrefusal ▸ h
    have hentries := congrArg entries (withoutStatus_idFor hl)
    have hid : l'.idFor { p with remoteState := status } = l.idFor p := by
      simp only [idFor, hlast]
    rw [save_eq_ok.2 ⟨h, rfl, rfl⟩, save_eq_ok.2 ⟨h', rfl, rfl⟩, hid]
    refine .ended ⟨rfl, ?_⟩
    simp only [withoutStatus, insertEntry_withoutStatus, mk.injEq] at hentries ⊢
    refine ⟨?_, ?_, hrefusal⟩
    · rw [hentries]
      rfl
    · simp only [lastIdAfter, hlast]

end Ledger

namespace Plan

variable {p q : Payment}

theorem create_alike {config : Config} {now : Instant} {order : Order} {captures : Bool}
    (h : p.withoutStatus = q.withoutStatus) :
    Alike (Matches p.id) (create config now p order captures)
      (create config now q order captures) := by
  obtain ⟨status, rfl⟩ := Payment.exists_remoteState h
  refine .bind fun _ => .unless_stop (.bind fun token => .ended ⟨rfl, fun answer => ?_⟩)
  refine .bind fun _ => ?_
  cases answer.transactionId with
  | none => exact .stopped _
  | some id => exact .ended ⟨_, _, rfl, rfl, rfl, rfl⟩

theorem capture_alike {now : Instant} {given : Option Price}
    (h : p.withoutStatus = q.withoutStatus) :
    Alike (Matches p.id) (capture now p given) (capture now q given) := by
  obtain ⟨status, rfl⟩ := Payment.exists_remoteState h
  refine .bind fun _ => .bind fun _ => .bind fun _ => .bind fun above => .unless_stop ?_
  refine .bind fun id => .ended ⟨rfl, fun answer => ?_⟩
  exact .bind fun _ => .ended ⟨_, _, rfl, rfl, rfl, rfl⟩

theorem void_alike (h : p.withoutStatus = q.withoutStatus) :
    Alike (Matches p.id) (void p) (void q) := by
  obtain ⟨status, rfl⟩ := Payment.exists_remoteState h
  refine .bind fun _ => .bind fun id => .ended ⟨rfl, fun answer => ?_⟩
  exact .bind fun _ => .ended ⟨_, _, rfl, rfl, rfl, rfl⟩

theorem refund_alike {given : Option Price} (h : p.withoutStatus = q.withoutStatus) :
    Alike (Matches p.id) (refund p given) (refund q given) := by
  obtain ⟨status, rfl⟩ := Payment.exists_remoteState h
  refine .bind fun _ => .bind fun balance => .bind fun _ => .bind fun _ => .bind fun above => ?_
  refine .unless_stop (.bind fun id => .ended ⟨rfl, fun answer => ?_⟩)
  exact .bind fun _ => .bind fun total => .bind fun isPartial => .ended ⟨_, _, rfl, rfl, rfl, rfl⟩

end Plan

/-! ### Operations -/

namespace Gateway

variable {g : Gateway} {p q : Payment} {l l' : Ledger}

theorem withoutStatus_of_unchanged {result : Except (Stop Failure) Transaction}
    {requests : List Request} (hp : p.withoutStatus = q.withoutStatus)
    (hl : l.withoutStatus p.id = l'.withoutStatus p.id) :
    (⟨result, p, l, requests, []⟩ : Outcome Transaction).withoutStatus =
      (⟨result, q, l', requests, []⟩ : Outcome Transaction).withoutStatus := by
  have hid : p.id = q.id := Payment.id_eq_of_withoutStatus hp
  simp only [Outcome.withoutStatus, hp, hl, ← hid]

theorem perform_ok_withoutStatus {plan plan' : Plan} (hplan : Plan.Matches p.id plan plan')
    (hp : p.withoutStatus = q.withoutStatus)
    (hl : l.withoutStatus p.id = l'.withoutStatus p.id) :
    (g.perform p l (.ok plan)).withoutStatus = (g.perform q l' (.ok plan')).withoutStatus := by
  cases hanswer : g.processor plan.request with
  | error e =>
    rw [perform_of_unanswered hanswer, perform_of_unanswered (hplan.request ▸ hanswer),
      hplan.request]
    exact withoutStatus_of_unchanged hp hl
  | ok answer =>
    have hanswer' : g.processor plan'.request = .ok answer := hplan.request ▸ hanswer
    have halike := hplan.settle answer
    generalize hsettle : plan.settle answer = change at halike
    generalize hsettle' : plan'.settle answer = change' at halike
    cases halike with
    | stopped stop =>
      rw [perform_of_stopped hanswer hsettle, perform_of_stopped hanswer' hsettle', hplan.request]
      exact withoutStatus_of_unchanged hp hl
    | ended hchange =>
      obtain ⟨updated, updated', rfl, rfl, hupdated, hid⟩ := hchange
      have hsaves := Ledger.save_alike hupdated (hid ▸ hl)
      generalize hsave : l.save updated = ending at hsaves
      generalize hsave' : l'.save updated' = ending' at hsaves
      cases hsaves with
      | stopped e =>
        rw [perform_of_unsaved hanswer hsettle hsave, perform_of_unsaved hanswer' hsettle' hsave',
          hplan.request]
        exact withoutStatus_of_unchanged hp hl
      | @ended ended ended' hended =>
        obtain ⟨hstored, hafter⟩ := hended
        rw [perform_of_saved hanswer hsettle hsave, perform_of_saved hanswer' hsettle' hsave',
          hplan.request]
        exact withoutStatus_of_unchanged hstored hafter

theorem perform_withoutStatus {plan plan' : Except (Stop Failure) Plan}
    (hplan : Alike (Plan.Matches p.id) plan plan') (hp : p.withoutStatus = q.withoutStatus)
    (hl : l.withoutStatus p.id = l'.withoutStatus p.id) :
    (g.perform p l plan).withoutStatus = (g.perform q l' plan').withoutStatus := by
  cases hplan with
  | stopped stop => exact withoutStatus_of_unchanged hp hl
  | ended hmade => exact perform_ok_withoutStatus hmade hp hl

theorem perform_payment_of_error {plan : Except (Stop Failure) Plan} {stop : Stop Failure}
    (h : (g.perform p l plan).result = .error stop) : (g.perform p l plan).payment = p := by
  obtain ⟨_, _, heq⟩ | ⟨_, _, _, _, -, -, heq, -⟩ := g.perform_cases p l plan
  · rw [heq]
  · rw [heq] at h
    cases h

/-! ### A submitted checkout -/

theorem completedWithMock_alike (hp : p.withoutStatus = q.withoutStatus) (token : String) :
    Alike (fun updated updated' => updated.withoutStatus = updated'.withoutStatus ∧
        updated.id = p.id)
      (g.completedWithMock p token) (g.completedWithMock q token) := by
  obtain ⟨status, rfl⟩ := Payment.exists_remoteState hp
  unfold completedWithMock
  exact .unless_stop (.bind fun _ => .ended ⟨rfl, rfl⟩)

theorem submitMock_withoutStatus (hp : p.withoutStatus = q.withoutStatus)
    (hl : l.withoutStatus p.id = l'.withoutStatus p.id) (token : String) :
    (g.submitMock p l token).withoutStatus = (g.submitMock q l' token).withoutStatus := by
  have hid : p.id = q.id := Payment.id_eq_of_withoutStatus hp
  have hcompleted := completedWithMock_alike (g := g) hp token
  unfold submitMock
  generalize g.completedWithMock p token = completed at hcompleted ⊢
  generalize g.completedWithMock q token = completed' at hcompleted ⊢
  cases hcompleted with
  | stopped stop => simp only [Outcome.refused, Outcome.withoutStatus, hp, hl, ← hid]
  | @ended updated updated' h =>
    obtain ⟨hupdated, hown⟩ := h
    have hsaved := Ledger.save_alike hupdated (hown ▸ hl)
    dsimp only
    generalize l.save updated = saved at hsaved ⊢
    generalize l'.save updated' = saved' at hsaved ⊢
    cases hsaved with
    | stopped e => simp only [Outcome.refused, Outcome.withoutStatus, hp, hl, ← hid]
    | @ended saved saved' hstored =>
      have hid' : saved.1.id = saved'.1.id := Payment.id_eq_of_withoutStatus hstored.1
      simp only [Outcome.withoutStatus, hstored.1, hstored.2, ← hid']

theorem submitProvider_withoutStatus (hp : p.withoutStatus = q.withoutStatus)
    (hl : l.withoutStatus p.id = l'.withoutStatus p.id) (order : Order) (token : String) :
    (g.submitProvider p l order token).withoutStatus =
      (g.submitProvider q l' order token).withoutStatus := by
  have hcarried := Payment.withRemoteId_withoutStatus hp token
  have hcharged : (g.create (p.withRemoteId token) l order true).withoutStatus =
      (g.create (q.withRemoteId token) l' order true).withoutStatus :=
    perform_withoutStatus (Plan.create_alike hcarried) hcarried hl
  have hunchanged (stop : Stop Failure)
      (h : (g.create (p.withRemoteId token) l order true).result = .error stop) :
      (g.create (p.withRemoteId token) l order true).payment.id = p.id := by
    have hpayment : (g.create (p.withRemoteId token) l order true).payment = p.withRemoteId token :=
      perform_payment_of_error h
    rw [hpayment]
    rfl
  have hid : p.id = q.id := Payment.id_eq_of_withoutStatus hp
  unfold submitProvider
  generalize g.create (p.withRemoteId token) l order true = charged at hcharged hunchanged ⊢
  generalize g.create (q.withRemoteId token) l' order true = charged' at hcharged ⊢
  obtain ⟨result, made, after, requests, notices⟩ := charged
  obtain ⟨result', made', after', requests', notices'⟩ := charged'
  simp only [Outcome.withoutStatus, Outcome.mk.injEq] at hcharged
  obtain ⟨rfl, hmade, hafter, rfl, rfl⟩ := hcharged
  have hid' : made.id = made'.id := Payment.id_eq_of_withoutStatus hmade
  cases result with
  | error stop =>
    have hown : made.id = p.id := hunchanged stop rfl
    rw [← hid', hown] at hafter
    simp only [Outcome.withoutStatus, hp, hafter, ← hid]
  | ok answer => simp only [Outcome.withoutStatus, hmade, hafter]

theorem submit_withoutStatus (hp : p.withoutStatus = q.withoutStatus)
    (hl : l.withoutStatus p.id = l'.withoutStatus p.id) (order : Order) (submission : Submission) :
    (g.submit p l order submission).withoutStatus =
      (g.submit q l' order submission).withoutStatus := by
  have hid : p.id = q.id := Payment.id_eq_of_withoutStatus hp
  have htoken : (g.submitToken p l order submission).withoutStatus =
      (g.submitToken q l' order submission).withoutStatus := by
    unfold submitToken
    split
    · simp only [Outcome.refused, Outcome.withoutStatus, hp, hl, ← hid]
    · next token _ => exact submitProvider_withoutStatus hp hl order token
    · next token _ => exact submitMock_withoutStatus hp hl token
  unfold submit
  generalize g.submitToken p l order submission = outcome at htoken ⊢
  generalize g.submitToken q l' order submission = outcome' at htoken ⊢
  obtain ⟨result, made, after, requests, notices⟩ := outcome
  obtain ⟨result', made', after', requests', notices'⟩ := outcome'
  simp only [Outcome.withoutStatus, Outcome.mk.injEq] at htoken
  obtain ⟨rfl, hmade, hafter, rfl, rfl⟩ := htoken
  dsimp only
  split <;> simp only [Outcome.withoutStatus, hmade, hafter]

end Gateway

end CardPayments
