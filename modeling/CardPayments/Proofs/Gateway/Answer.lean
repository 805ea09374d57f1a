import CardPayments.Proofs.Gateway.Arrow
import CardPayments.Proofs.Gateway.Guard
import CardPayments.Proofs.Processor.Http

/-!
# From the answer to the payment

What becomes of a payment that may be charged, captured, voided or refunded, by what comes back from
the network. Three questions are asked in turn: whether a complete answer reports success, whether
its body reports a transaction, and whether that transaction is approved. `Judged` lists the results
by the answers to them. An approval alone is not enough twice: a charge needs the id of its
transaction, and the total of a refund needs room.
-/

namespace CardPayments

/-- The text for a refusal that brings none. A look-up is never refused. -/
def Operation.refusalText : Operation → String
  | .process => "Payment was declined."
  | .capture => "Capture failed."
  | .void => "Void failed."
  | .refund => "Refund failed."
  | .refresh => ""

def Transaction.refusal (operation : Operation) (t : Transaction) : String :=
  (t.message.filter fun message => message ≠ "").getD operation.refusalText

/-- The total given back, with what the request gives back, is more than a decimal can hold. -/
def Request.Overflows (p : Payment) : Request → Prop
  | .refund _ amount => p.refundedAmount.number.add? amount = none
  | _ => False

/-! ### Plans and their answers -/

/-- How a plan that moves money settles answers. -/
structure Settles (p : Payment) (plan : Plan) : Prop where
  refused : ∀ answer, answer.status.isApproved = false → plan.settle answer =
    .error (.error (.declined plan.request.operation (answer.refusal plan.request.operation)))
  unnamed : ∀ answer, answer.status.isApproved = true → plan.request.operation = .process →
    answer.transactionId = none →
      plan.settle answer = .error (.error (.decode "approved response without transactionId"))
  overflow : ∀ answer, answer.status.isApproved = true → plan.request.Overflows p →
    plan.settle answer = .error (.overflow .addition)
  approved : ∀ answer, answer.status.isApproved = true →
    (plan.request.operation = .process → answer.transactionId ≠ none) →
      ¬plan.request.Overflows p → ∃ updated, plan.settle answer = .ok (some updated)

theorem requireApproval_bind_of_not {α : Type} {operation : Operation} {answer : Transaction}
    {rest : Unit → Except (Stop Failure) α} (h : answer.status.isApproved = false) :
    (requireApproval operation answer operation.refusalText >>= rest) =
      .error (.error (.declined operation (answer.refusal operation))) := by
  have hrefused : requireApproval operation answer operation.refusalText =
      .error (.error (.declined operation (answer.refusal operation))) := by
    rw [requireApproval, if_neg (by simp [h]), Transaction.refusal]
    cases answer.message with
    | none => rfl
    | some message => by_cases hempty : message = "" <;> simp [hempty, Failure.stop, Option.filter]
  rw [hrefused]
  rfl

namespace Plan

variable {p : Payment} {plan : Plan}

theorem create_settles {config : Config} {now : Instant} {order : Order} {captures : Bool}
    (h : create config now p order captures = .ok plan) : Settles p plan := by
  have hopened := h
  simp only [create, unless_stop_eq_ok, bind_eq_ok, pure_eq_ok] at hopened
  obtain ⟨-, -, -, token, -, rfl⟩ := hopened
  refine ⟨fun _ hnot => requireApproval_bind_of_not hnot, ?_, ?_, ?_⟩
  · intro answer happroved _ hid
    simp [requireApproval, happroved, hid, Failure.stop, bind, Except.bind]
  · intro answer _ hover
    exact hover.elim
  · intro answer happroved hid _
    obtain ⟨id, hid⟩ := Option.ne_none_iff_exists'.1 (hid rfl)
    obtain ⟨-, -, _, -, -, -, hsettled⟩ := create_ok h
    exact ⟨_, (hsettled answer _).2 ⟨happroved, id, hid, rfl⟩⟩

theorem capture_settles {now : Instant} {given : Option Price}
    (h : capture now p given = .ok plan) : Settles p plan := by
  have hopened := h
  simp only [capture, unless_stop_eq_ok, bind_eq_ok, pure_eq_ok] at hopened
  obtain ⟨-, -, -, -, -, -, above, -, -, id, -, rfl⟩ := hopened
  refine ⟨fun _ hnot => requireApproval_bind_of_not hnot, ?_, fun _ _ hover => hover.elim, ?_⟩
  · simp [Request.operation]
  · intro answer happroved _ _
    obtain ⟨_, _, -, -, -, -, -, -, -, -, hsettled⟩ := capture_ok h
    exact ⟨_, (hsettled answer _).2 ⟨happroved, rfl⟩⟩

theorem void_settles (h : void p = .ok plan) : Settles p plan := by
  have hopened := h
  simp only [void, bind_eq_ok, pure_eq_ok] at hopened
  obtain ⟨-, -, id, -, rfl⟩ := hopened
  refine ⟨fun _ hnot => requireApproval_bind_of_not hnot, ?_, fun _ _ hover => hover.elim, ?_⟩
  · simp [Request.operation]
  · intro answer happroved _ _
    obtain ⟨-, _, -, -, -, hsettled⟩ := void_ok h
    exact ⟨_, (hsettled answer _).2 ⟨happroved, rfl⟩⟩

theorem refund_settles {given : Option Price} (h : refund p given = .ok plan) :
    Settles p plan := by
  obtain ⟨balance, amount, id, hbalance, -, -, hcurrency, -, -, -, -, hrequest, hsettled,
    hoverflow⟩ := refund_ok h
  have hown := (Price.subtract_eq_ok.1 hbalance).1
  have hopened := h
  simp only [refund, unless_stop_eq_ok, bind_eq_ok, pure_eq_ok] at hopened
  obtain ⟨-, -, _, -, -, -, -, -, above, -, -, _, -, rfl⟩ := hopened
  refine ⟨fun _ hnot => requireApproval_bind_of_not hnot, ?_, ?_, ?_⟩
  · simp [Request.operation]
  · intro answer happroved hover
    rw [hrequest] at hover
    have hadd := Price.add_eq_overflow.2 ⟨hown.symm.trans hcurrency, hover, rfl⟩
    exact (hoverflow answer _).2 ⟨happroved, hadd⟩
  · intro answer happroved _ hfits
    rw [hrequest] at hfits
    obtain ⟨total, htotal⟩ := Option.ne_none_iff_exists'.1 hfits
    have hadd : p.refundedAmount.add amount = .ok ⟨total, p.refundedAmount.currency⟩ :=
      Price.add_eq_ok.2 ⟨hown.symm.trans hcurrency, htotal, rfl⟩
    exact ⟨_, (hsettled answer _).2 ⟨happroved, _, hadd, hown.symm, rfl⟩⟩

end Plan

/-! ### Guarded actions -/

section Guarded

variable {p : Payment} {action : Action} {request : Request}

theorem Guarded.exists_made (h : Guarded p action request) (g : Gateway) (l : Ledger)
    (plan : Except (Stop Failure) Plan)
    (hguarded : ∀ made, plan = .ok made → Guarded p action made.request)
    (hblocked : ∀ stop, plan = .error stop → Blocked p action stop)
    (hsettles : ∀ made, plan = .ok made → Settles p made) :
    ∃ made, made.request = request ∧ Settles p made ∧
      (g.perform p l plan).map (fun _ => ()) = (g.perform p l (.ok made)).map fun _ => () := by
  obtain ⟨made, rfl, hrequest⟩ := Plan.exists_of_guarded h hguarded hblocked
  exact ⟨made, hrequest, hsettles made rfl, rfl⟩

theorem Guarded.exists_act (h : Guarded p action request) (hmoves : request.operation ≠ .refresh)
    (g : Gateway) (l : Ledger) :
    ∃ made, made.request = request ∧ Settles p made ∧
      g.act action p l = (g.perform p l (.ok made)).map fun _ => () := by
  cases action with
  | create order captures =>
    exact h.exists_made g l (Plan.create g.config g.now p order captures)
      (fun _ => Plan.create_guarded) (fun _ => Plan.create_error) fun _ => Plan.create_settles
  | capture given =>
    exact h.exists_made g l (Plan.capture g.now p given)
      (fun _ => Plan.capture_guarded) (fun _ => Plan.capture_error) fun _ => Plan.capture_settles
  | void =>
    exact h.exists_made g l (Plan.void p)
      (fun _ => Plan.void_guarded) (fun _ => Plan.void_error) fun _ => Plan.void_settles
  | refund given =>
    exact h.exists_made g l (Plan.refund p given)
      (fun _ => Plan.refund_guarded) (fun _ => Plan.refund_error) fun _ => Plan.refund_settles
  | refresh => cases h with | refresh => exact absurd rfl hmoves
  | submit order submission => cases h

end Guarded

/-! ### What comes back -/

/-- The transaction fulfils the request: it is approved, names itself if it is a charge, and leaves
room for the total of a refund. -/
structure Request.FulfilledBy (p : Payment) (request : Request) (t : Transaction) : Prop where
  approved : t.status.text = "APPROVED"
  named : request.operation = .process → t.transactionId ≠ none
  fits : ¬request.Overflows p

/-- The result of a request that moves money, by the body that was received. -/
inductive Judged (p : Payment) (l : Ledger) (request : Request) :
    Option (List UInt8) → Outcome Unit → Prop
  | unreceived {message : String} :
      Judged p l request none ⟨.error (.error (.transport message)), p, l, [request], []⟩
  | unreadable {body : List UInt8} {detail : String} (ht : Http.transaction? body = none) :
      Judged p l request (some body) ⟨.error (.error (.decode detail)), p, l, [request], []⟩
  | refused {body : List UInt8} {t : Transaction} (ht : Http.transaction? body = some t)
      (hother : t.status.text ≠ "APPROVED") :
      Judged p l request (some body)
        ⟨.error (.error (.declined request.operation (t.refusal request.operation))), p, l,
          [request], []⟩
  | unnamed {body : List UInt8} {t : Transaction} {detail : String}
      (ht : Http.transaction? body = some t) (happroved : t.status.text = "APPROVED")
      (hprocess : request.operation = .process) (hid : t.transactionId = none) :
      Judged p l request (some body) ⟨.error (.error (.decode detail)), p, l, [request], []⟩
  | overflow {body : List UInt8} {t : Transaction} (ht : Http.transaction? body = some t)
      (happroved : t.status.text = "APPROVED")
      (hnamed : request.operation = .process → t.transactionId ≠ none)
      (hover : request.Overflows p) :
      Judged p l request (some body) ⟨.error (.overflow .addition), p, l, [request], []⟩
  | fulfilled {body : List UInt8} {t : Transaction} {updated stored : Payment} {after : Ledger}
      (ht : Http.transaction? body = some t) (hfulfilled : request.FulfilledBy p t)
      (hsave : l.save updated = .ok (stored, after)) :
      Judged p l request (some body) ⟨.ok (), stored, after, [request], []⟩

/-! ### Reading the judgement -/

namespace Judged

variable {p : Payment} {l : Ledger} {request : Request} {received : Option (List UInt8)}
  {o : Outcome Unit}

theorem unchanged (h : Judged p l request received o) (hfailed : o.result ≠ .ok ()) :
    o.payment = p ∧ o.ledger = l := by
  cases h with
  | fulfilled => exact absurd rfl hfailed
  | _ => exact ⟨rfl, rfl⟩

end Judged

theorem Ending.exists_change {g : Gateway} {action : Action} {p : Payment} {l : Ledger}
    {o : Outcome Unit} {request : Request} (h : Ending g action p l o) (hok : o.result = .ok ())
    (hrequests : o.requests = [request]) (hmoves : request.operation ≠ .refresh) :
    ∃ updated, Change g p action [request] updated ∧
      l.save updated = .ok (o.payment, o.ledger) := by
  cases h with
  | failed => cases hok
  | kept =>
    obtain rfl := List.head_eq_of_cons_eq hrequests
    exact absurd rfl hmoves
  | changed hchange hsave => exact ⟨_, hrequests ▸ hchange, hsave⟩

/-! ### Answers decide -/

namespace Gateway

variable {g : Gateway} {p : Payment} {l : Ledger}

end Gateway

end CardPayments
