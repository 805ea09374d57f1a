import CardPayments.Proofs.Gateway.Action

/-!
# Guards

What has to hold of a payment before an operation asks the processor anything, and what stops the
operation otherwise. `Guarded` gives for each operation its one request together with its
conditions; `Blocked` gives the reasons not to ask, each with the failure that reports it. A plan is
made where the payment is guarded and fails for one of the reasons where it is not. No reason is
compatible with the guard, so whether the processor is asked is a question about the payment alone,
however many checks fail at once and whatever the processor would answer.
-/

namespace CardPayments

def Action.startStates : Action → List PaymentState
  | .create _ _ => [.new]
  | .capture _ => [.authorization]
  | .void => [.authorization]
  | .refund _ => [.completed, .partiallyRefunded]
  | .refresh => PaymentState.all.filter fun state => state ≠ .new
  | .submit _ _ => [.new]

/-- What an action asks of the processor, with everything that must hold for it to ask. A submitted
checkout brings its own token and is not among them. -/
inductive Guarded (p : Payment) : Action → Request → Prop
  | create {order : Order} {captures : Bool} {token : String} (hstate : p.state = .new)
      (horder : order.id = p.orderId) (htoken : p.remoteId = some token) (hne : token ≠ "") :
      Guarded p (.create order captures)
        (.process ⟨token, p.amount.number, p.amount.currency, captures, order.id,
          order.customerId⟩)
  | capture {given : Option Price} {amount : Price} {id : String}
      (hstate : p.state = .authorization) (hgiven : given.getD p.amount = amount)
      (hcurrency : amount.currency = p.amount.currency) (hpositive : Decimal.zero < amount.number)
      (hle : amount.number ≤ p.amount.number) (hid : p.remoteId = some id) (hne : id ≠ "") :
      Guarded p (.capture given) (.capture id amount.number)
  | void {id : String} (hstate : p.state = .authorization) (hid : p.remoteId = some id)
      (hne : id ≠ "") : Guarded p .void (.void id)
  | refund {given : Option Price} {balance amount : Price} {id : String}
      (hstate : p.state = .completed ∨ p.state = .partiallyRefunded)
      (hrefunded : p.refundedAmount.currency = p.amount.currency)
      (hbalance : p.balance = .ok balance) (hgiven : given.getD balance = amount)
      (hcurrency : amount.currency = p.amount.currency) (hpositive : Decimal.zero < amount.number)
      (hle : amount.number ≤ balance.number) (hid : p.remoteId = some id) (hne : id ≠ "") :
      Guarded p (.refund given) (.refund id amount.number)
  | refresh {id : String} (hstate : p.state ≠ .new) (hid : p.remoteId = some id) (hne : id ≠ "") :
      Guarded p .refresh (.get id)

/-- The amount that an action moves, and the most that it may move. -/
inductive Moves (p : Payment) : Action → Price → Price → Prop
  | capture {given : Option Price} : Moves p (.capture given) (given.getD p.amount) p.amount
  | refund {given : Option Price} {balance : Price} (hbalance : p.balance = .ok balance) :
      Moves p (.refund given) (given.getD balance) balance

/-- What stops an action before it asks anything. -/
inductive Blocked (p : Payment) : Action → Stop Failure → Prop
  | state {action : Action} (h : p.state ∉ action.startStates) :
      Blocked p action
        (.error (.precondition action.operation (.wrongState p.state action.startStates)))
  | notProcessed (h : p.state = .new) :
      Blocked p .refresh (.error (.precondition .refresh .notProcessed))
  | order {order : Order} {captures : Bool} (h : order.id ≠ p.orderId) :
      Blocked p (.create order captures)
        (.error (.precondition .process (.otherOrder p.orderId order.id)))
  | token {order : Order} {captures : Bool} (h : ∀ token ∈ p.remoteId, token = "") :
      Blocked p (.create order captures) (.error .missingToken)
  | transaction {action : Action} (haction : action.operation ≠ .process)
      (h : ∀ id ∈ p.remoteId, id = "") :
      Blocked p action (.error (.precondition action.operation .noTransaction))
  | mismatch {given : Option Price} (h : p.amount.currency ≠ p.refundedAmount.currency) :
      Blocked p (.refund given)
        (.error (.price (.currencyMismatch p.amount.currency p.refundedAmount.currency)))
  | overflow {given : Option Price} (h : p.balance = .error (.overflow .subtraction)) :
      Blocked p (.refund given) (.overflow .subtraction)
  | currency {action : Action} {amount limit : Price} (hmoves : Moves p action amount limit)
      (h : p.amount.currency ≠ amount.currency) :
      Blocked p action (.error (.precondition action.operation
        (.otherCurrency amount.currency p.amount.currency)))
  | notPositive {action : Action} {amount limit : Price} (hmoves : Moves p action amount limit)
      (h : ¬Decimal.zero < amount.number) :
      Blocked p action (.error (.precondition action.operation (.notPositive amount)))
  | aboveAuthorized {given : Option Price} {amount limit : Price}
      (hmoves : Moves p (.capture given) amount limit) (h : limit.number < amount.number) :
      Blocked p (.capture given) (.error (.precondition .capture (.aboveAuthorized amount limit)))
  | aboveBalance {given : Option Price} {amount limit : Price}
      (hmoves : Moves p (.refund given) amount limit) (h : limit.number < amount.number) :
      Blocked p (.refund given) (.error (.precondition .refund (.aboveBalance amount limit)))

/-! ### Guards and reasons exclude each other -/

section Exclusion

variable {p : Payment} {action : Action} {request other : Request} {stop : Stop Failure}

theorem Guarded.state_mem (h : Guarded p action request) : p.state ∈ action.startStates := by
  cases h with
  | create hstate => simp [Action.startStates, hstate]
  | capture hstate => simp [Action.startStates, hstate]
  | void hstate => simp [Action.startStates, hstate]
  | refund hstate => simpa [Action.startStates] using hstate
  | refresh hstate => simpa [Action.startStates, PaymentState.mem_all] using hstate

theorem Guarded.exists_remoteId (h : Guarded p action request) : ∃ id ∈ p.remoteId, id ≠ "" := by
  cases h with
  | create _ _ htoken hne => exact ⟨_, htoken, hne⟩
  | capture _ _ _ _ _ hid hne => exact ⟨_, hid, hne⟩
  | void _ hid hne => exact ⟨_, hid, hne⟩
  | refund _ _ _ _ _ _ _ hid hne => exact ⟨_, hid, hne⟩
  | refresh _ hid hne => exact ⟨_, hid, hne⟩

theorem Guarded.moves (h : Guarded p action request) {amount limit : Price}
    (hmoves : Moves p action amount limit) :
    p.amount.currency = amount.currency ∧ Decimal.zero < amount.number ∧
      amount.number ≤ limit.number := by
  cases hmoves with
  | capture =>
    cases h with
    | capture _ hgiven hcurrency hpositive hle =>
      rw [hgiven]
      exact ⟨hcurrency.symm, hpositive, hle⟩
  | refund hbalance =>
    cases h with
    | refund _ _ hown hgiven hcurrency hpositive hle =>
      obtain rfl := Except.ok.inj (hbalance.symm.trans hown)
      rw [hgiven]
      exact ⟨hcurrency.symm, hpositive, hle⟩

theorem Guarded.not_blocked (h : Guarded p action request) : ¬Blocked p action stop := by
  intro hblocked
  obtain ⟨id, hid, hne⟩ := h.exists_remoteId
  cases hblocked with
  | state hstate => exact hstate h.state_mem
  | notProcessed hstate => cases h with | refresh hstarted => exact hstarted hstate
  | order hother => cases h with | create _ horder => exact hother horder
  | token hempty => exact hne (hempty id hid)
  | transaction _ hempty => exact hne (hempty id hid)
  | mismatch hother => cases h with | refund _ hrefunded => exact hother hrefunded.symm
  | overflow hover =>
    cases h with
    | refund _ _ hbalance =>
      rw [hbalance] at hover
      cases hover
  | currency hmoves hother => exact hother (h.moves hmoves).1
  | notPositive hmoves hnot => exact hnot (h.moves hmoves).2.1
  | aboveAuthorized hmoves habove => exact Decimal.not_lt.2 (h.moves hmoves).2.2 habove
  | aboveBalance hmoves habove => exact Decimal.not_lt.2 (h.moves hmoves).2.2 habove

theorem Guarded.request_eq (h : Guarded p action request) (hother : Guarded p action other) :
    request = other := by
  cases h with
  | create _ _ htoken =>
    cases hother with
    | create _ _ hown => rw [Option.some.inj (htoken.symm.trans hown)]
  | capture _ hgiven _ _ _ hid =>
    cases hother with
    | capture _ hsame _ _ _ hown => rw [← hgiven, ← hsame, Option.some.inj (hid.symm.trans hown)]
  | void _ hid =>
    cases hother with
    | void _ hown => rw [Option.some.inj (hid.symm.trans hown)]
  | refund _ _ hbalance hgiven _ _ _ hid =>
    cases hother with
    | refund _ _ hownBalance hsame _ _ _ hown =>
      rw [Except.ok.inj (hbalance.symm.trans hownBalance)] at hgiven
      rw [← hgiven, ← hsame, Option.some.inj (hid.symm.trans hown)]
  | refresh _ hid =>
    cases hother with
    | refresh _ hown => rw [Option.some.inj (hid.symm.trans hown)]

end Exclusion

/-! ### Checks that fail -/

section Checks

variable {α : Type} {operation : Operation} {p : Payment} {stop : Stop Failure} {f : Failure}

theorem stop_eq_error : (f.stop : Except (Stop Failure) α) = .error stop ↔ .error f = stop := by
  simp [Failure.stop]

theorem unless_stop_eq_error {c : Prop} [Decidable c] {rest : Unit → Except (Stop Failure) α} :
    (if c then f.stop >>= rest else rest ()) = .error stop ↔
      c ∧ .error f = stop ∨ ¬c ∧ rest () = .error stop := by
  by_cases hc : c <;> simp [hc, stop_eq_error]

theorem requireState_eq_error {expected : List PaymentState} :
    requireState operation p expected = .error stop ↔
      p.state ∉ expected ∧
        .error (.precondition operation (.wrongState p.state expected)) = stop := by
  unfold requireState
  split <;> simp [*, stop_eq_error]

theorem requireTransaction_eq_error :
    requireTransaction operation p = .error stop ↔
      (∀ id ∈ p.remoteId, id = "") ∧ .error (.precondition operation .noTransaction) = stop := by
  unfold requireTransaction
  split
  · split <;> simp_all [stop_eq_error]
  · simp_all [stop_eq_error]

theorem requireToken_eq_error :
    requireToken p = .error stop ↔
      (∀ token ∈ p.remoteId, token = "") ∧ .error .missingToken = stop := by
  unfold requireToken
  split
  · split <;> simp_all [stop_eq_error]
  · simp_all [stop_eq_error]

theorem requireCurrency_eq_error {amount : Price} :
    requireCurrency operation p amount = .error stop ↔
      p.amount.currency ≠ amount.currency ∧
        .error (.precondition operation
          (.otherCurrency amount.currency p.amount.currency)) = stop := by
  unfold requireCurrency
  split <;> simp [*, stop_eq_error]

theorem requirePositive_eq_error {amount : Price} :
    requirePositive operation amount = .error stop ↔
      ¬Decimal.zero < amount.number ∧
        .error (.precondition operation (.notPositive amount)) = stop := by
  rw [← Price.isPositive_iff_zero_lt]
  unfold requirePositive
  split <;> simp [*, stop_eq_error]

theorem Price.check_greaterThan_ne_error {amount limit : Price}
    (h : amount.currency = limit.currency) :
    Price.check (amount.greaterThan limit) ≠ .error stop := by
  simp [Price.check, Price.greaterThan, Price.sameCurrency, h]

theorem Payment.balance_eq_error :
    Price.step p.balance = .error stop ↔
      p.amount.currency ≠ p.refundedAmount.currency ∧
          .error (.price (.currencyMismatch p.amount.currency p.refundedAmount.currency)) = stop ∨
        p.balance = .error (.overflow .subtraction) ∧ .overflow .subtraction = stop := by
  rw [Price.step, mapError_eq_error]
  simp only [Payment.balance, Price.subtract_eq_error, reduceCtorEq, and_false, false_or, and_true]
  constructor
  · rintro ⟨cause, ⟨hother, rfl⟩ | ⟨hsame, hnone, rfl⟩, rfl⟩
    · exact .inl ⟨hother, rfl⟩
    · exact .inr ⟨⟨hsame, hnone⟩, rfl⟩
  · rintro (⟨hother, rfl⟩ | ⟨⟨hsame, hnone⟩, rfl⟩)
    · exact ⟨_, .inl ⟨hother, rfl⟩, rfl⟩
    · exact ⟨_, .inr ⟨hsame, hnone, rfl⟩, rfl⟩

end Checks

/-! ### Plans that are not made -/

namespace Plan

variable {p : Payment} {stop : Stop Failure}

theorem create_error {config : Config} {now : Instant} {order : Order} {captures : Bool}
    (h : create config now p order captures = .error stop) :
    Blocked p (.create order captures) stop := by
  simp only [create, bind_eq_error, unless_stop_eq_error, requireState_eq_error,
    requireToken_eq_error, pure_ne_error, and_false, exists_false, or_false] at h
  obtain ⟨hstate, rfl⟩ | ⟨-, -, ⟨horder, rfl⟩ | ⟨-, htoken, rfl⟩⟩ := h
  · exact .state hstate
  · exact .order horder
  · exact .token htoken

theorem capture_error {now : Instant} {given : Option Price}
    (h : capture now p given = .error stop) : Blocked p (.capture given) stop := by
  simp only [capture, bind_eq_error, unless_stop_eq_error, requireState_eq_error,
    requireCurrency_eq_error, requireCurrency_eq_ok, requirePositive_eq_error,
    requireTransaction_eq_error, Price.check_eq_ok, Price.greaterThan_eq_ok, pure_ne_error,
    and_false, exists_false, or_false] at h
  obtain ⟨hstate, rfl⟩ | ⟨-, -, hrest⟩ := h
  · exact .state hstate
  obtain ⟨hcurrency, rfl⟩ | ⟨-, hsame, ⟨hpositive, rfl⟩ | ⟨-, -, hrest⟩⟩ := hrest
  · exact .currency .capture hcurrency
  · exact .notPositive .capture hpositive
  · obtain hcheck | ⟨above, ⟨-, rfl⟩, ⟨habove, rfl⟩ | ⟨-, hid, rfl⟩⟩ := hrest
    · exact absurd hcheck (Price.check_greaterThan_ne_error hsame.symm)
    · exact .aboveAuthorized .capture (of_decide_eq_true habove)
    · exact .transaction (by simp [Action.operation]) hid

theorem void_error (h : void p = .error stop) : Blocked p .void stop := by
  simp only [void, bind_eq_error, requireState_eq_error, requireTransaction_eq_error,
    pure_ne_error, and_false, exists_false, or_false] at h
  obtain ⟨hstate, rfl⟩ | ⟨-, -, hid, rfl⟩ := h
  · exact .state hstate
  · exact .transaction (by simp [Action.operation]) hid

theorem refund_error {given : Option Price} (h : refund p given = .error stop) :
    Blocked p (.refund given) stop := by
  simp only [refund, bind_eq_error, unless_stop_eq_error, requireState_eq_error,
    Payment.balance_eq_error, Price.step_eq_ok, requireCurrency_eq_error, requireCurrency_eq_ok,
    requirePositive_eq_error, requireTransaction_eq_error, Price.check_eq_ok,
    Price.greaterThan_eq_ok, pure_ne_error, and_false, exists_false, or_false] at h
  obtain ⟨hstate, rfl⟩ | ⟨-, -, (⟨hmismatch, rfl⟩ | ⟨hover, rfl⟩) | ⟨balance, hbalance, hrest⟩⟩ := h
  · exact .state hstate
  · exact .mismatch hmismatch
  · exact .overflow hover
  obtain ⟨hcurrency, rfl⟩ | ⟨-, hsame, ⟨hpositive, rfl⟩ | ⟨-, -, hrest⟩⟩ := hrest
  · exact .currency (.refund hbalance) hcurrency
  · exact .notPositive (.refund hbalance) hpositive
  · obtain hcheck | ⟨above, ⟨-, rfl⟩, ⟨habove, rfl⟩ | ⟨-, hid, rfl⟩⟩ := hrest
    · have hown := (Price.subtract_eq_ok.1 hbalance).2.2
      exact absurd hcheck (Price.check_greaterThan_ne_error (hsame.symm.trans hown.symm))
    · exact .aboveBalance (.refund hbalance) (of_decide_eq_true habove)
    · exact .transaction (by simp [Action.operation]) hid

theorem refresh_error (h : refresh p = .error stop) : Blocked p .refresh stop := by
  simp only [refresh, bind_eq_error, unless_stop_eq_error, requireTransaction_eq_error,
    pure_ne_error, and_false, exists_false, or_false] at h
  obtain ⟨hstate, rfl⟩ | ⟨-, hid, rfl⟩ := h
  · exact .notProcessed hstate
  · exact .transaction (by simp [Action.operation]) hid

/-! ### Plans that are made -/

variable {plan : Plan}

theorem create_guarded {config : Config} {now : Instant} {order : Order} {captures : Bool}
    (h : create config now p order captures = .ok plan) :
    Guarded p (.create order captures) plan.request := by
  obtain ⟨hstate, horder, token, htoken, hne, hrequest, -⟩ := create_ok h
  rw [hrequest]
  exact .create hstate horder htoken hne

theorem capture_guarded {now : Instant} {given : Option Price}
    (h : capture now p given = .ok plan) : Guarded p (.capture given) plan.request := by
  obtain ⟨amount, id, hgiven, hstate, hcurrency, hpositive, hle, hid, hne, hrequest, -⟩ :=
    capture_ok h
  rw [hrequest]
  exact .capture hstate hgiven hcurrency.symm (Price.isPositive_iff_zero_lt.1 hpositive) hle hid hne

theorem void_guarded (h : void p = .ok plan) : Guarded p .void plan.request := by
  obtain ⟨hstate, id, hid, hne, hrequest, -⟩ := void_ok h
  rw [hrequest]
  exact .void hstate hid hne

theorem refund_guarded {given : Option Price} (h : refund p given = .ok plan) :
    Guarded p (.refund given) plan.request := by
  obtain ⟨balance, amount, id, hbalance, hgiven, hstate, hcurrency, hpositive, hle, hid, hne,
    hrequest, -⟩ := refund_ok h
  have hrefunded := (Price.subtract_eq_ok.1 hbalance).1
  rw [hrequest]
  exact .refund hstate hrefunded.symm hbalance hgiven hcurrency.symm
    (Price.isPositive_iff_zero_lt.1 hpositive) hle hid hne

theorem refresh_guarded (h : refresh p = .ok plan) : Guarded p .refresh plan.request := by
  obtain ⟨hstate, id, hid, hne, hrequest, -⟩ := refresh_ok h
  rw [hrequest]
  exact .refresh hstate hid hne

/-- A plan is made wherever the guard holds, and it asks what the guard allows. -/
theorem exists_of_guarded {action : Action} {request : Request} {plan : Except (Stop Failure) Plan}
    (h : Guarded p action request)
    (hguarded : ∀ made, plan = .ok made → Guarded p action made.request)
    (hblocked : ∀ stop, plan = .error stop → Blocked p action stop) :
    ∃ made, plan = .ok made ∧ made.request = request := by
  cases plan with
  | error stop => exact absurd (hblocked stop rfl) h.not_blocked
  | ok made => exact ⟨made, rfl, (hguarded made rfl).request_eq h⟩

end Plan

/-! ### The guard decides -/

/-- An action asks the one request that its guard allows, or it is blocked and asks nothing. -/
inductive Decided (p : Payment) (action : Action) : Outcome Unit → Prop
  | asked {request : Request} {o : Outcome Unit} (hguarded : Guarded p action request)
      (hrequests : o.requests = [request]) : Decided p action o
  | blocked {stop : Stop Failure} {o : Outcome Unit} (hblocked : Blocked p action stop)
      (hrequests : o.requests = []) (hresult : o.result = .error stop) : Decided p action o

namespace Gateway

variable {g : Gateway} {p : Payment} {l : Ledger} {action : Action}

theorem decided_of_plan {plan : Except (Stop Failure) Plan}
    (hguarded : ∀ made, plan = .ok made → Guarded p action made.request)
    (hblocked : ∀ stop, plan = .error stop → Blocked p action stop) :
    Decided p action ((g.perform p l plan).map fun _ => ()) := by
  cases plan with
  | error stop => exact .blocked (hblocked stop rfl) rfl rfl
  | ok made => exact .asked (hguarded made rfl) perform_ok_requests

theorem act_decided (g : Gateway) (p : Payment) (l : Ledger) {action : Action}
    (hdirect : ∀ order submission, action ≠ .submit order submission) :
    Decided p action (g.act action p l) := by
  cases action with
  | create order captures =>
    exact decided_of_plan (fun _ => Plan.create_guarded) fun _ => Plan.create_error
  | capture given =>
    exact decided_of_plan (fun _ => Plan.capture_guarded) fun _ => Plan.capture_error
  | void => exact decided_of_plan (fun _ => Plan.void_guarded) fun _ => Plan.void_error
  | refund given =>
    exact decided_of_plan (fun _ => Plan.refund_guarded) fun _ => Plan.refund_error
  | refresh => exact decided_of_plan (fun _ => Plan.refresh_guarded) fun _ => Plan.refresh_error
  | submit order submission => exact absurd rfl (hdirect order submission)

theorem requests_of_guarded (g : Gateway) (l : Ledger) {request : Request}
    (h : Guarded p action request)
    (hdirect : ∀ order submission, action ≠ .submit order submission) :
    (g.act action p l).requests = [request] := by
  cases g.act_decided p l hdirect with
  | asked hguarded hrequests => rw [hrequests, h.request_eq hguarded]
  | blocked hblocked => exact absurd hblocked h.not_blocked

/-- **The guard decides whether the processor is asked.** Each operation asks at most once, and it
asks exactly the request that its guard allows. Where the guard does not hold it asks nothing and
ends in one of the reasons for that. So nothing above the authorized amount is ever captured, and
nothing above the balance given back. -/
theorem guard_decides (g : Gateway) (p : Payment) (l : Ledger) (action : Action)
    (hdirect : ∀ order submission, action ≠ .submit order submission) :
    (g.act action p l).requests.length ≤ 1 ∧
    (∀ request, (g.act action p l).requests = [request] ↔ Guarded p action request) ∧
    ((∀ request, ¬Guarded p action request) →
      (g.act action p l).requests = [] ∧
        ∃ stop, (g.act action p l).result = .error stop ∧ Blocked p action stop) ∧
    (∀ id amount, .capture id amount ∈ (g.act action p l).requests →
      p.remoteId = some id ∧ amount ≤ p.amount.number) ∧
    ∀ id amount, .refund id amount ∈ (g.act action p l).requests →
      p.remoteId = some id ∧ ∃ balance, p.balance = .ok balance ∧ amount ≤ balance.number := by
  cases act_decided g p l hdirect with
  | @asked request _ hguarded hrequests =>
    rw [hrequests]
    refine ⟨Nat.le_refl 1, ?_, fun hnone => absurd hguarded (hnone request), ?_, ?_⟩
    · intro other
      rw [List.cons.injEq, and_iff_left rfl]
      constructor
      · rintro rfl
        exact hguarded
      · exact hguarded.request_eq
    · intro id amount hmem
      rw [← List.mem_singleton.1 hmem] at hguarded
      cases hguarded with
      | capture _ _ _ _ hle hid => exact ⟨hid, hle⟩
    · intro id amount hmem
      rw [← List.mem_singleton.1 hmem] at hguarded
      cases hguarded with
      | refund _ _ hbalance _ _ _ hle hid => exact ⟨hid, _, hbalance, hle⟩
  | blocked hblocked hrequests hresult =>
    rw [hrequests]
    refine ⟨Nat.zero_le 1, ?_, fun _ => ⟨rfl, _, hresult, hblocked⟩, ?_, ?_⟩
    · intro request
      exact iff_of_false nofun fun hguarded => hguarded.not_blocked hblocked
    · intro id amount hmem
      cases hmem
    · intro id amount hmem
      cases hmem

def unanswered : Gateway :=
  ⟨.ofCredentials .live "" "", fun _ => .error (.transport none "no answer"), default, false⟩

def sampleAuthorized : Payment :=
  { (Payment.begin "1" ⟨(Decimal.ofParts? 100 2).getD .zero, "USD"⟩).withRemoteId "7" with
    state := .authorization }

theorem sample_guard_decides :
    (∀ order submission, Action.capture none ≠ .submit order submission) ∧
      (unanswered.act (.capture none) sampleAuthorized .empty).requests =
        [.capture "7" sampleAuthorized.amount.number] := by
  have hdirect : ∀ order submission, Action.capture none ≠ .submit order submission := nofun
  have hguarded : Guarded sampleAuthorized (.capture none)
      (.capture "7" sampleAuthorized.amount.number) :=
    .capture rfl rfl rfl (by decide) (by decide) rfl (by decide)
  obtain ⟨-, hrequests, -⟩ :=
    guard_decides unanswered sampleAuthorized .empty (.capture none) hdirect
  exact ⟨hdirect, (hrequests _).2 hguarded⟩

end Gateway

end CardPayments
