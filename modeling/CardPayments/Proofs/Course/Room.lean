import CardPayments.Proofs.Checkout.Mock
import CardPayments.Proofs.Course.Refunds
import CardPayments.Proofs.Course.State
import CardPayments.Proofs.Gateway.Answer

/-!
# Refunds of a payment as it is found

The books of a payment are kept from its beginning. A payment that is loaded from a ledger may be in
any state and may have given something back before. All that is asked of it is room: that its amount
and what it gave back can be written at a scale that no later amount exceeds. Then sums stay exact,
every refund that the processor approves is recorded, and what is given back from here on stays
within the amount.
-/

namespace CardPayments

/-- The payment's amounts have room at the scale, and its amount is between zero and a limit that
has room too. -/
structure Payment.HasRoom (scale : Nat) (limit : Int) (p : Payment) : Prop where
  scale_le : scale ≤ Decimal.maxScale
  limit_lt : limit < Decimal.unitBound scale
  amount_scale : p.amount.number.scale ≤ scale
  refunded_scale : p.refundedAmount.number.scale ≤ scale
  amount_pos : 0 < p.amount.number.units
  amount_le : p.amount.number.units ≤ limit
  refunded_nonneg : 0 ≤ p.refundedAmount.number.units
  refunded_lt : p.refundedAmount.number.units < Decimal.unitBound scale

/-- One payment has become another, and so much was given back on the way. Once something is given
back the amount is fixed, so nothing that is given back later exceeds it. -/
structure GivesBack (p q : Payment) (given : Int) : Prop where
  recorded : q.refundedAmount.number.units = p.refundedAmount.number.units + given
  nonneg : 0 ≤ given
  within : 0 < given → q.refundedAmount.number.units ≤ q.amount.number.units
  amount_le : q.amount.number.units ≤ p.amount.number.units
  marked : 0 < given → q.state ∈ [.partiallyRefunded, .refunded]
  fixed : p.state ∈ [.partiallyRefunded, .refunded] →
    q.amount.number.units = p.amount.number.units ∧ q.state ∈ [.partiallyRefunded, .refunded]

namespace GivesBack

variable {p q r : Payment} {first second : Int}

theorem refl (p : Payment) : GivesBack p p 0 where
  recorded := (Int.add_zero _).symm
  nonneg := Int.le_refl 0
  within := fun h => absurd h (Int.lt_irrefl 0)
  amount_le := Int.le_refl _
  marked := fun h => absurd h (Int.lt_irrefl 0)
  fixed := fun h => ⟨rfl, h⟩

theorem trans (h : GivesBack p q first) (h' : GivesBack q r second) :
    GivesBack p r (first + second) := by
  have hnonneg := h.nonneg
  have hnonneg' := h'.nonneg
  have hrecorded := h.recorded
  have hrecorded' := h'.recorded
  have hlater : 0 < first + second → 0 < second ∨ second = 0 ∧ 0 < first := by omega
  refine ⟨by omega, by omega, ?_, Int.le_trans h'.amount_le h.amount_le, ?_, ?_⟩
  · intro hpos
    obtain hsecond | ⟨hzero, hfirst⟩ := hlater hpos
    · exact h'.within hsecond
    · have hwithin := h.within hfirst
      have hfixed := (h'.fixed (h.marked hfirst)).1
      omega
  · intro hpos
    obtain hsecond | ⟨-, hfirst⟩ := hlater hpos
    · exact h'.marked hsecond
    · exact (h'.fixed (h.marked hfirst)).2
  · intro hstate
    obtain ⟨hamount, hstate⟩ := h.fixed hstate
    obtain ⟨hamount', hstate'⟩ := h'.fixed hstate
    exact ⟨hamount'.trans hamount, hstate'⟩

theorem of_not_marked (hstate : p.state ∉ [.partiallyRefunded, .refunded])
    (hrefunded : q.refundedAmount = p.refundedAmount)
    (hamount : q.amount.number.units ≤ p.amount.number.units) : GivesBack p q 0 where
  recorded := by rw [hrefunded, Int.add_zero]
  nonneg := Int.le_refl 0
  within := fun h => absurd h (Int.lt_irrefl 0)
  amount_le := hamount
  marked := fun h => absurd h (Int.lt_irrefl 0)
  fixed := fun h => absurd h hstate

theorem withId (h : GivesBack p q first) (id : Option UInt64) : GivesBack p { q with id } first :=
  { h with }

theorem le_amount (h : GivesBack p q first) (hrefunded : 0 ≤ p.refundedAmount.number.units)
    (hpos : 0 < q.amount.number.units) : first ≤ q.amount.number.units := by
  have hrecorded := h.recorded
  have hwithin := h.within
  omega

end GivesBack

/-! ### One refund -/

namespace Payment.HasRoom

variable {scale : Nat} {limit : Int} {p : Payment}

theorem withId (h : HasRoom scale limit p) (id : Option UInt64) :
    HasRoom scale limit { p with id } :=
  { h with }

theorem balance_units (h : HasRoom scale limit p) {balance : Price}
    (hbalance : p.balance = .ok balance) :
    balance.number.units = p.amount.number.units - p.refundedAmount.number.units ∧
      balance.number.scale ≤ scale := by
  obtain ⟨-, hown, -⟩ := Price.subtract_eq_ok.1 hbalance
  have hbounds : (p.amount.number.units - p.refundedAmount.number.units).natAbs <
      Decimal.unitBound scale := by
    have hlt := h.limit_lt
    have hpos := h.amount_pos
    have hle := h.amount_le
    have hnonneg := h.refunded_nonneg
    have hrefunded := h.refunded_lt
    omega
  obtain ⟨difference, hsub, hunits, hscale⟩ :=
    Decimal.sub?_of_fits h.amount_scale h.refunded_scale h.scale_le hbounds
  obtain rfl := Option.some.inj (hsub.symm.trans hown)
  exact ⟨hunits, hscale⟩

theorem exists_total (h : HasRoom scale limit p) {given : Option Price} {balance amount : Price}
    (hnamed : ∀ price, given = some price → price.number.scale ≤ scale)
    (hbalance : p.balance = .ok balance) (hgiven : given.getD balance = amount)
    (hpositive : amount.isPositive = true) (hle : amount.number ≤ balance.number) :
    0 < amount.number.units ∧
      p.refundedAmount.number.units + amount.number.units ≤ p.amount.number.units ∧
      ∃ total, p.refundedAmount.number.add? amount.number = some total ∧
        total.units = p.refundedAmount.number.units + amount.number.units ∧
        total.scale ≤ scale := by
  obtain ⟨hunits, hbalanceScale⟩ := h.balance_units hbalance
  have hscale : amount.number.scale ≤ scale := hgiven ▸ scale_getD_le hnamed hbalanceScale
  have hpos := Price.isPositive_iff.1 hpositive
  have hwithin : p.refundedAmount.number.units + amount.number.units ≤ p.amount.number.units := by
    rw [Decimal.le_iff_units] at hle
    omega
  have hbounds : (p.refundedAmount.number.units + amount.number.units).natAbs <
      Decimal.unitBound scale := by
    have hlt := h.limit_lt
    have hamount := h.amount_le
    have hnonneg := h.refunded_nonneg
    omega
  exact ⟨hpos, hwithin, Decimal.add?_of_fits h.refunded_scale hscale h.scale_le hbounds⟩

end Payment.HasRoom

/-! ### One change -/

section Change

variable {g : Gateway} {action : Action} {requests : List Request} {scale : Nat} {limit : Int}
  {p q : Payment}

def Action.NamesUpTo (scale : Nat) (action : Action) : Prop :=
  ∀ amount, action.amount? = some amount → amount.number.scale ≤ scale

theorem Change.hasRoom (hchange : Change g p action requests q) (h : p.HasRoom scale limit)
    (hnamed : action.NamesUpTo scale) : q.HasRoom scale limit := by
  cases hchange with
  | charged => exact { h with }
  | mocked => exact { h with }
  | captured hgiven _ _ hpositive hle =>
    subst hgiven
    exact { h with
      amount_scale := scale_getD_le hnamed h.amount_scale
      amount_pos := Price.isPositive_iff.1 hpositive
      amount_le := Int.le_trans hle h.amount_le }
  | voided => exact { h with }
  | refunded hbalance hgiven _ _ hpositive hle _ _ _ _ htotal =>
    obtain ⟨hpos, hwithin, total, hadd, hunits, hscale⟩ :=
      h.exists_total hnamed hbalance hgiven hpositive hle
    obtain rfl := Option.some.inj (hadd.symm.trans (Price.add_eq_ok.1 htotal).2.1)
    have hlt := h.limit_lt
    have hamount := h.amount_le
    have hnonneg := h.refunded_nonneg
    exact { h with
      refunded_scale := hscale
      refunded_nonneg := by dsimp only; omega
      refunded_lt := by dsimp only; omega }
  | refreshed => exact { h with }

theorem Change.givesBack (hchange : Change g p action requests q) (h : p.HasRoom scale limit)
    (hnamed : action.NamesUpTo scale) : GivesBack p q (askedUnits requests) := by
  cases hchange with
  | charged _ hstate => exact .of_not_marked (by simp [hstate]) rfl (Int.le_refl _)
  | mocked _ _ hstate => exact .of_not_marked (by simp [hstate]) rfl (Int.le_refl _)
  | captured _ hstate _ _ hle => exact .of_not_marked (by simp [hstate]) rfl hle
  | voided hstate => exact .of_not_marked (by simp [hstate]) rfl (Int.le_refl _)
  | refunded hbalance hgiven _ _ hpositive hle _ _ _ _ htotal =>
    obtain ⟨hpos, hwithin, total, hadd, hunits, -⟩ :=
      h.exists_total hnamed hbalance hgiven hpositive hle
    obtain rfl := Option.some.inj (hadd.symm.trans (Price.add_eq_ok.1 htotal).2.1)
    have hmarked (c : Prop) [Decidable c] :
        (if c then PaymentState.partiallyRefunded else .refunded) ∈
          [PaymentState.partiallyRefunded, .refunded] := by split <;> simp
    rw [askedUnits_singleton]
    exact ⟨hunits, Int.le_of_lt hpos, fun _ => Int.le_trans (Int.le_of_eq hunits) hwithin,
      Int.le_refl _, fun _ => hmarked _, fun _ => ⟨rfl, hmarked _⟩⟩
  | refreshed => exact { GivesBack.refl p with }

end Change

/-! ### One event -/

def Gateway.approves (g : Gateway) (request : Request) : Bool :=
  match g.processor request with
  | .ok answer => answer.status.isApproved
  | .error _ => false

/-- What the processor approved giving back in the event, in units, whatever became of it. -/
def Event.approvedUnits (e : Event) : Int :=
  askedUnits (e.outcome.requests.filter e.step.gateway.approves)

def approvedTotal (events : List Event) : Int :=
  events.foldr (fun e total => e.approvedUnits + total) 0

theorem Gateway.approves_iff {g : Gateway} {request : Request} :
    g.approves request = true ↔
      ∃ answer, g.processor request = .ok answer ∧ answer.status.isApproved = true := by
  unfold approves
  cases g.processor request <;> simp

theorem Change.approves_or_zero {g : Gateway} {action : Action} {p q : Payment}
    {requests : List Request} (h : Change g p action requests q) {request : Request}
    (hmem : request ∈ requests) : g.approves request = true ∨ request.refundUnits = 0 := by
  cases h with
  | mocked => cases hmem
  | refunded _ _ _ _ _ _ _ _ hanswer happroved =>
    rw [List.mem_singleton.1 hmem]
    exact .inl (Gateway.approves_iff.2 ⟨_, hanswer, happroved⟩)
  | charged => exact .inr (by rw [List.mem_singleton.1 hmem]; rfl)
  | captured => exact .inr (by rw [List.mem_singleton.1 hmem]; rfl)
  | voided => exact .inr (by rw [List.mem_singleton.1 hmem]; rfl)
  | refreshed => exact .inr (by rw [List.mem_singleton.1 hmem]; rfl)

theorem askedUnits_eq_zero {requests : List Request} (h : ∀ r ∈ requests, r.refundUnits = 0) :
    askedUnits requests = 0 := by
  induction requests with
  | nil => rfl
  | cons request rest ih =>
    have hrest := ih fun r hr => h r (List.mem_cons_of_mem _ hr)
    rw [askedUnits, List.foldr_cons, h request List.mem_cons_self, Int.zero_add]
    exact hrest

theorem askedUnits_filter {requests : List Request} {keeps : Request → Bool}
    (h : ∀ r ∈ requests, keeps r = true ∨ r.refundUnits = 0) :
    askedUnits (requests.filter keeps) = askedUnits requests := by
  induction requests with
  | nil => rfl
  | cons request rest ih =>
    have hrest := ih fun r hr => h r (List.mem_cons_of_mem _ hr)
    unfold askedUnits at hrest ⊢
    by_cases hkeeps : keeps request = true
    · rw [List.filter_cons_of_pos hkeeps, List.foldr_cons, List.foldr_cons, hrest]
    · have hzero := (h request List.mem_cons_self).resolve_left hkeeps
      rw [List.filter_cons_of_neg hkeeps, List.foldr_cons, hrest, hzero, Int.zero_add]

namespace Event

variable {e : Event} {scale : Nat} {limit : Int}

theorem hasRoom (h : e.before.HasRoom scale limit) (hnamed : e.step.action.NamesUpTo scale) :
    e.after.HasRoom scale limit := by
  obtain ⟨hkept, -⟩ | ⟨-, updated, hchange, hsave⟩ := e.kept_or_saved
  · rw [hkept]
    exact h
  · obtain ⟨-, hstored, -⟩ := Ledger.save_eq_ok.1 hsave
    rw [← hstored]
    exact (hchange.hasRoom h hnamed).withId _

theorem givesBack (h : e.before.HasRoom scale limit) (hnamed : e.step.action.NamesUpTo scale) :
    GivesBack e.before e.after e.refundUnits := by
  obtain ⟨hkept, -, hlooked⟩ | ⟨hsucceeds, updated, hchange, hsave⟩ := e.kept_or_saved
  · have hzero : e.refundUnits = 0 := by
      rw [refundUnits]
      split
      · next hsucceeds =>
        obtain ⟨-, id, hrequests⟩ := hlooked hsucceeds
        rw [hrequests]
        rfl
      · rfl
    rw [hkept, hzero]
    exact .refl _
  · obtain ⟨-, hstored, -⟩ := Ledger.save_eq_ok.1 hsave
    rw [refundUnits, if_pos hsucceeds, ← hstored]
    exact (hchange.givesBack h hnamed).withId _

theorem guarded_refund {id : String} {amount : Decimal}
    (hmem : .refund id amount ∈ e.outcome.requests) :
    Guarded e.before e.step.action (.refund id amount) := by
  rw [outcome, Step.outcome] at hmem
  obtain hdirect | ⟨order, submission, haction⟩ := e.step.action.direct_or_submit
  · cases e.step.gateway.act_decided e.before e.step.ledger hdirect with
    | asked hguarded hrequests =>
      rw [hrequests] at hmem
      rw [List.mem_singleton.1 hmem]
      exact hguarded
    | blocked _ hrequests =>
      rw [hrequests] at hmem
      cases hmem
  · rw [haction, Gateway.act] at hmem
    obtain ⟨charge, hrequest, -⟩ := Gateway.charge_of_submit hmem
    cases hrequest

/-- An approved refund succeeds: its total is exact, and the ledger stores it. -/
theorem succeeds_of_approved (h : e.before.HasRoom scale limit)
    (hnamed : e.step.action.NamesUpTo scale) (hsaves : e.step.ledger.refusal = none) {id : String}
    {amount : Decimal} (hmem : .refund id amount ∈ e.outcome.requests)
    (happroves : e.step.gateway.approves (.refund id amount) = true) : e.succeeds = true := by
  obtain ⟨answer, hanswer, happroved⟩ := Gateway.approves_iff.1 happroves
  have hguarded := guarded_refund hmem
  have hmoves : (Request.refund id amount).operation ≠ .refresh := by simp [Request.operation]
  obtain ⟨made, hrequest, hsettles, hact⟩ :=
    hguarded.exists_act hmoves e.step.gateway e.step.ledger
  have hfits : ¬made.request.Overflows e.before := by
    rw [hrequest]
    generalize e.step.action = action at hguarded hnamed
    cases hguarded with
    | refund _ _ hbalance hgiven _ hpositive hle =>
      obtain ⟨-, -, total, hadd, -⟩ := h.exists_total hnamed hbalance hgiven
        (Price.isPositive_iff_zero_lt.2 hpositive) hle
      simp [Request.Overflows, hadd]
  have hcharge : made.request.operation = .process → answer.transactionId ≠ none := by
    simp [hrequest, Request.operation]
  obtain ⟨updated, hupdated⟩ := hsettles.approved answer happroved hcharge hfits
  obtain ⟨stored, ledger, hsave⟩ := e.step.ledger.exists_save hsaves updated
  rw [succeeds, outcome, Step.outcome, hact,
    Gateway.perform_of_saved (hrequest ▸ hanswer) hupdated hsave]
  rfl

theorem approvedUnits_eq (h : e.before.HasRoom scale limit)
    (hnamed : e.step.action.NamesUpTo scale) (hsaves : e.step.ledger.refusal = none) :
    e.approvedUnits = e.refundUnits := by
  rw [approvedUnits, refundUnits]
  cases hsucceeds : e.succeeds with
  | false =>
    refine askedUnits_eq_zero ?_
    intro request hmem
    obtain ⟨hmem, happroves⟩ := List.mem_filter.1 hmem
    cases request with
    | refund id amount =>
      have hsuccess := succeeds_of_approved h hnamed hsaves hmem happroves
      rw [hsucceeds] at hsuccess
      cases hsuccess
    | process => rfl
    | capture => rfl
    | void => rfl
    | get => rfl
  | true =>
    refine askedUnits_filter ?_
    intro request hmem
    obtain ⟨-, -, hlooked⟩ | ⟨-, updated, hchange, -⟩ := e.kept_or_saved
    · obtain ⟨-, id, hrequests⟩ := hlooked hsucceeds
      rw [hrequests] at hmem
      exact .inr (by rw [List.mem_singleton.1 hmem]; rfl)
    · exact hchange.approves_or_zero hmem

end Event

/-! ### A course -/

namespace Payment

variable {scale : Nat} {limit : Int} {p : Payment} {steps : List Step}

theorem HasRoom.after (h : p.HasRoom scale limit)
    (hnamed : ∀ s ∈ steps, s.action.NamesUpTo scale) : (p.after steps).HasRoom scale limit :=
  after_of_step (HasRoom scale limit) h fun s hs q hq =>
    Event.hasRoom (e := ⟨s, q⟩) hq (hnamed s hs)

theorem HasRoom.givesBack_after (h : p.HasRoom scale limit)
    (hnamed : ∀ s ∈ steps, s.action.NamesUpTo scale) :
    GivesBack p (p.after steps) (p.refundUnits steps) := by
  induction steps generalizing p with
  | nil => exact .refl p
  | cons s rest ih =>
    have hfirst := hnamed s List.mem_cons_self
    have hgives := Event.givesBack (e := ⟨s, p⟩) h hfirst
    have hrest := ih (Event.hasRoom (e := ⟨s, p⟩) h hfirst) fun t ht =>
      hnamed t (List.mem_cons_of_mem _ ht)
    exact hgives.trans hrest

theorem HasRoom.approvedTotal_course (h : p.HasRoom scale limit)
    (hnamed : ∀ s ∈ steps, s.action.NamesUpTo scale)
    (hsaves : ∀ s ∈ steps, s.ledger.refusal = none) :
    approvedTotal (p.course steps) = p.refundUnits steps := by
  induction steps generalizing p with
  | nil => rfl
  | cons s rest ih =>
    have hfirst := hnamed s List.mem_cons_self
    have happroved := Event.approvedUnits_eq (e := ⟨s, p⟩) h hfirst (hsaves s List.mem_cons_self)
    have hrest : approvedTotal ((s.outcome p).payment.course rest) =
        (s.outcome p).payment.refundUnits rest :=
      ih (Event.hasRoom (e := ⟨s, p⟩) h hfirst)
        (fun t ht => hnamed t (List.mem_cons_of_mem _ ht))
        fun t ht => hsaves t (List.mem_cons_of_mem _ ht)
    calc approvedTotal (p.course (s :: rest))
        = Event.approvedUnits ⟨s, p⟩ + approvedTotal ((s.outcome p).payment.course rest) := rfl
      _ = Event.refundUnits ⟨s, p⟩ + (s.outcome p).payment.refundUnits rest := by
        rw [happroved, hrest]
      _ = p.refundUnits (s :: rest) := rfl

end Payment

end CardPayments
