import CardPayments.Proofs.Course.Books

/-!
# Refunds along a course

What a whole course gives back is the sum of what its events give back. The books of a payment begin
with nothing given back and are kept at one scale for the whole course, the largest that occurs in
it; the sum is what they say at the end.
-/

namespace CardPayments

/-- The largest scale among the payment's amount and the amounts that steps name. -/
def Payment.commonScale (p : Payment) (steps : List Step) : Nat :=
  (steps.filterMap fun s => s.action.amount?).foldr (fun amount scale =>
    max amount.number.scale scale) p.amount.number.scale

def Payment.refundUnits (p : Payment) (steps : List Step) : Int :=
  (p.course steps).foldr (fun e total => e.refundUnits + total) 0

/-! ### Scales -/

namespace Payment

variable {scale : Nat} {start given : Int} {p : Payment} {steps : List Step}

theorem scale_le_commonScale (p : Payment) (steps : List Step) :
    p.amount.number.scale ≤ p.commonScale steps := by
  rw [commonScale]
  induction steps.filterMap fun s => s.action.amount? with
  | nil => exact Nat.le_refl _
  | cons amount rest ih => exact Nat.le_trans ih (Nat.le_max_right _ _)

theorem named_scale_le_commonScale {s : Step} (hs : s ∈ steps) {amount : Price}
    (hamount : s.action.amount? = some amount) : amount.number.scale ≤ p.commonScale steps := by
  have hmem : amount ∈ steps.filterMap fun s => s.action.amount? :=
    List.mem_filterMap.2 ⟨s, hs, hamount⟩
  rw [commonScale]
  generalize (steps.filterMap fun s => s.action.amount?) = named at hmem ⊢
  induction named with
  | nil => cases hmem
  | cons other rest ih =>
    rcases List.mem_cons.1 hmem with rfl | hmem
    · exact Nat.le_max_left _ _
    · exact Nat.le_trans (ih hmem) (Nat.le_max_right _ _)

theorem commonScale_le (p : Payment) (steps : List Step) :
    p.commonScale steps ≤ Decimal.maxScale := by
  rw [commonScale]
  induction steps.filterMap fun s => s.action.amount? with
  | nil => exact p.amount.number.scale_le
  | cons amount rest ih => exact Nat.max_le.2 ⟨amount.number.scale_le, ih⟩

/-! ### From the beginning on -/

theorem Begun.refundedAmount_eq (h : p.Begun) :
    p.refundedAmount = Price.zero p.amount.currency ∧
      (p.state = .new ∨ p.state = .authorization) := by
  cases h with
  | begin => exact ⟨rfl, .inl rfl⟩
  | withToken => exact ⟨rfl, .inl rfl⟩
  | returned h =>
    obtain ⟨-, hsave⟩ := HostedPage.onReturn_ok h
    obtain ⟨-, rfl, -⟩ := Ledger.save_eq_ok.1 hsave
    exact ⟨rfl, .inr rfl⟩

theorem Begun.booked (h : p.Begun) (hpositive : p.amount.isPositive = true)
    (hfits : p.amount.number.FitsAt (p.commonScale steps)) :
    Booked (p.commonScale steps) p.amount.number.units 0 p := by
  obtain ⟨hrefunded, hstate⟩ := h.refundedAmount_eq
  have hpos := Price.isPositive_iff.1 hpositive
  have hlt := (Decimal.fitsAt_iff_units (scale_le_commonScale p steps) (commonScale_le p steps)).1
    hfits
  exact {
    scale_le := commonScale_le p steps
    start_lt := by omega
    amount_scale := scale_le_commonScale p steps
    refunded_scale := by rw [hrefunded]; exact Nat.zero_le _
    currency := by rw [hrefunded]; rfl
    amount_pos := hpos
    amount_le := Int.le_refl _
    refunded := by rw [hrefunded]; exact Decimal.units_zero
    allowed := by obtain hstate | hstate := hstate <;> rw [hstate] <;> rfl }

theorem booked_after (h : Booked scale start given p) (steps : List Step)
    (hnamed : ∀ s ∈ steps, ∀ amount, s.action.amount? = some amount →
      amount.number.scale ≤ scale) :
    Booked scale start (given + p.refundUnits steps) (p.after steps) := by
  induction steps generalizing given p with
  | nil => simpa [refundUnits, course, after] using h
  | cons s rest ih =>
    have hfirst := Event.booked (e := ⟨s, p⟩) h (hnamed s List.mem_cons_self)
    have hrest := ih hfirst fun t ht => hnamed t (List.mem_cons_of_mem _ ht)
    rw [Int.add_assoc] at hrest
    exact hrest

theorem booked_before (h : Booked scale start given p)
    (hnamed : ∀ s ∈ steps, ∀ amount, s.action.amount? = some amount →
      amount.number.scale ≤ scale) :
    ∀ e ∈ p.course steps, ∃ given, Booked scale start given e.before := by
  refine before_of_step (fun q => ∃ given, Booked scale start given q) ⟨given, h⟩ ?_
  rintro s hs q ⟨given, hq⟩
  exact ⟨_, Event.booked (e := ⟨s, q⟩) hq (hnamed s hs)⟩

/-- **Refunds add up.** Let a payment begin with a positive amount that still has room when written
at the largest scale of the course. Then no step overflows. After every step the payment records
exactly what was given back, which is between nothing and its amount, and that is at most the
starting one; once captured, its state tells whether nothing was given back, a part or all. Each
refund that succeeds gives back the amount given, or all that was left, and a refund without an
amount always ends in `refunded` if the processor approves it and the ledger stores payments. -/
theorem refunds_add_up (p : Payment) (steps : List Step) (hbegun : p.Begun)
    (hpositive : p.amount.isPositive = true)
    (hfits : p.amount.number.FitsAt (p.commonScale steps)) :
    (∀ e ∈ p.course steps, ∀ o, e.outcome.result ≠ .error (.overflow o)) ∧
    (∀ first second, steps = first ++ second →
      (p.after first).refundedAmount.number.units = p.refundUnits first ∧
      0 ≤ p.refundUnits first ∧
      (p.after first).refundedAmount.number ≤ (p.after first).amount.number ∧
      (p.after first).amount.number ≤ p.amount.number ∧
      ((p.after first).state ∈ [.completed, .partiallyRefunded, .refunded] →
        ((p.after first).state = .completed ↔ p.refundUnits first = 0) ∧
        ((p.after first).state = .partiallyRefunded ↔ 0 < p.refundUnits first ∧
          p.refundUnits first < (p.after first).amount.number.units) ∧
        ((p.after first).state = .refunded ↔
          p.refundUnits first = (p.after first).amount.number.units))) ∧
    (∀ e ∈ p.course steps, ∀ asked, e.step.action = .refund asked → e.succeeds = true →
      ∃ id amount, e.outcome.requests = [.refund id amount] ∧ e.refundUnits = amount.units ∧
        amount.units = (asked.map fun price => price.number.units).getD
          (e.before.amount.number.units - e.before.refundedAmount.number.units)) ∧
    ∀ e ∈ p.course steps, e.step.action = .refund none → e.step.ledger.refusal = none →
      ∀ request ∈ e.outcome.requests, ∀ answer,
        e.step.gateway.processor request = .ok answer → answer.status.isApproved = true →
          e.succeeds = true ∧ e.after.state = .refunded := by
  have hbooked := hbegun.booked hpositive hfits
  have hnamed : ∀ s ∈ steps, ∀ amount, s.action.amount? = some amount →
      amount.number.scale ≤ p.commonScale steps :=
    fun s hs amount hamount => named_scale_le_commonScale hs hamount
  have hbefore := booked_before hbooked hnamed
  refine ⟨?_, ?_, ?_, ?_⟩
  · intro e he o
    obtain ⟨given, h⟩ := hbefore e he
    exact Event.ne_overflow h (hnamed e.step (step_mem_of_mem_course he)) o
  · intro first second heq
    have h := booked_after hbooked first fun s hs =>
      hnamed s (heq ▸ List.mem_append_left second hs)
    rw [Int.zero_add] at h
    refine ⟨h.refunded, h.given_nonneg, ?_, h.amount_le, h.state_iff⟩
    rw [Decimal.le_iff_units, h.refunded]
    exact h.given_le
  · intro e he asked haction hsucceeds
    obtain ⟨given, h⟩ := hbefore e he
    exact Event.refund_request h haction hsucceeds
  · intro e he haction hrefusal request hrequest answer hanswer happroved
    obtain ⟨given, h⟩ := hbefore e he
    exact Event.refunds_rest h haction hrefusal hrequest hanswer happroved

/-- Ninety cents of a dollar are captured; a quarter is given back, written in three places, and
then the rest. -/
def sampleRefunds : List Step :=
  [.approved (.create .sample false),
   .approved (.capture (some ⟨(Decimal.ofParts? 9 1).getD .zero, "USD"⟩)),
   .approved (.refund (some ⟨(Decimal.ofParts? 250 3).getD .zero, "USD"⟩)),
   .approved (.refund none)]

theorem sample_refunds_add_up :
    sample.Begun ∧ sample.amount.isPositive = true ∧
      sample.amount.number.FitsAt (sample.commonScale sampleRefunds) ∧
      (sample.after sampleRefunds).refundedAmount.number.units =
        sample.refundUnits sampleRefunds ∧
      sample.refundUnits sampleRefunds = (sample.after sampleRefunds).amount.number.units ∧
      (sample.after sampleRefunds).state = .refunded := by
  have hbegun : sample.Begun := .withToken "1" _ "token"
  have hpositive : sample.amount.isPositive = true := rfl
  have hfits : sample.amount.number.FitsAt (sample.commonScale sampleRefunds) := by decide
  have hstate : (sample.after sampleRefunds).state = .refunded := by decide
  obtain ⟨-, hbooks, -⟩ := refunds_add_up sample sampleRefunds hbegun hpositive hfits
  obtain ⟨hunits, -, -, -, hstates⟩ := hbooks sampleRefunds [] (List.append_nil _).symm
  have hall := (hstates (by rw [hstate]; decide)).2.2.1 hstate
  exact ⟨hbegun, hpositive, hfits, hunits, hall, hstate⟩

end Payment

end CardPayments
