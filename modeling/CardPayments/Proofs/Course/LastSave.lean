import CardPayments.Proofs.Course.Holders

/-!
# The last save

Whoever saves a copy puts it in the place of the record. As long as every copy that is saved is the
record up to then, the record is as orderly as the payment of a single holder; on stale copies two
holders can give everything back twice, or capture and void. It does not help to look at the record
when a call asks. Two holders of an authorization can capture and void it, each on the record as it
stands, if both ask before either has its answer.
-/

namespace CardPayments

namespace Holders

/-- The events follow the arrows from one payment to another. What the processor approved giving
back in them is recorded and within the amount, and the money is captured or given back uncaptured
at most once. -/
structure Orderly (p : Payment) (events : List Event) (q : Payment) : Prop where
  course : ∃ steps, events = p.course steps ∧ q = p.after steps
  arrows : ∀ e ∈ events, e.after.state = e.before.state ∨
    e.succeeds = true ∧ Arrow e.step.action.operation e.before.state e.after.state
  once : events.countP (Event.succeedsAt [.capture, .void]) ≤ 1
  recorded : q.refundedAmount.number.units =
    p.refundedAmount.number.units + approvedTotal events
  within : approvedTotal events ≤ q.amount.number.units
  amount_le : q.amount.number ≤ p.amount.number

/-- The turns name no amount of a larger scale than this, and those of the payment have room at it.
-/
structure Fits (scale : Nat) (p : Payment) (turns : List Turn) : Prop where
  scale_le : scale ≤ Decimal.maxScale
  named : NamesUpTo scale turns
  amount_scale : p.amount.number.scale ≤ scale
  amount : p.amount.number.FitsAt scale
  refunded_scale : p.refundedAmount.number.scale ≤ scale
  refunded : p.refundedAmount.number.FitsAt scale

theorem Fits.hasRoom {scale : Nat} {p : Payment} {turns : List Turn} (h : Fits scale p turns)
    (hpositive : p.amount.isPositive = true) (hrefunded : Decimal.zero ≤ p.refundedAmount.number) :
    p.HasRoom scale p.amount.number.units := by
  have hpos := Price.isPositive_iff.1 hpositive
  have hnonneg : 0 ≤ p.refundedAmount.number.units := by
    rw [Decimal.le_iff_units, Decimal.units_zero] at hrefunded
    exact hrefunded
  have hamount := (Decimal.fitsAt_iff_units h.amount_scale h.scale_le).1 h.amount
  have hrefund := (Decimal.fitsAt_iff_units h.refunded_scale h.scale_le).1 h.refunded
  exact {
    scale_le := h.scale_le
    limit_lt := by omega
    amount_scale := h.amount_scale
    refunded_scale := h.refunded_scale
    amount_pos := hpos
    amount_le := Int.le_refl _
    refunded_nonneg := hnonneg
    refunded_lt := by omega }

theorem orderly_course {scale : Nat} {limit : Int} {p : Payment} {steps : List Step}
    (hroom : p.HasRoom scale limit)
    (hsteps : ∀ e ∈ p.course steps, e.step.ledger.refusal = none ∧
      e.step.action.NamesUpTo scale) :
    Orderly p (p.course steps) (p.after steps) := by
  have hsaves : ∀ s ∈ steps, s.ledger.refusal = none := by
    intro s hs
    obtain ⟨e, he, rfl⟩ := Payment.exists_mem_course hs
    exact (hsteps e he).1
  have hnamed : ∀ s ∈ steps, s.action.NamesUpTo scale := by
    intro s hs
    obtain ⟨e, he, rfl⟩ := Payment.exists_mem_course hs
    exact (hsteps e he).2
  have hgives := hroom.givesBack_after hnamed
  have hwithin := hgives.le_amount hroom.refunded_nonneg (hroom.after hnamed).amount_pos
  rw [← hroom.approvedTotal_course hnamed hsaves] at hgives hwithin
  refine ⟨⟨steps, rfl, rfl⟩, ?_, p.countP_captures_voids_le_one steps, hgives.recorded, hwithin,
    hgives.amount_le⟩
  intro e _
  exact e.state_cases.imp_right fun ⟨hsucceeds, harrow, _⟩ => ⟨hsucceeds, harrow⟩

theorem Kept.exists_orderly_copy {scale : Nat} {limit : Int} {h : Holders} {rest : List Turn}
    {holder : Nat} (hkept : h.Kept scale limit) (hidle : h.isWaiting holder = false)
    (hnamed : NamesUpTo scale rest) (hnever : .load holder ∉ rest) :
    ∃ loaded copy, h.ledger.get? h.id = some loaded ∧ loaded.amount.number.units ≤ limit ∧
      (h.after (.load holder :: rest)).copy? holder = some copy ∧
      Orderly loaded ((h.after [.load holder]).events (fun other => other = holder) rest) copy := by
  obtain ⟨loaded, hloaded, -, hroom⟩ := hkept.record
  have hturn : h.turn (.load holder) = (h.put holder ⟨loaded, none⟩ h.ledger, none) := by
    rw [Holders.turn, hidle, Ledger.load_eq_ok.2 hloaded]
    rfl
  have hkeptLoaded : (h.turn (.load holder)).1.Kept scale limit := hkept.turn trivial
  simp only [Holders.after]
  rw [hturn] at hkeptLoaded ⊢
  obtain ⟨steps, hcopied, hevents⟩ :=
    exists_copy_course (h := h.put holder ⟨loaded, none⟩ h.ledger) held_put_self hnever
  have hsteps : ∀ e ∈ loaded.course steps, e.step.ledger.refusal = none ∧
      e.step.action.NamesUpTo scale :=
    fun e he => hkeptLoaded.of_mem_events hnamed (hevents ▸ he)
  rw [hevents]
  exact ⟨loaded, loaded.after steps, hloaded, hroom.amount_le, hcopied,
    orderly_course hroom hsteps⟩

/-- **The last save stands.** Let holders load copies of a stored payment and call the gateway on
them in any order, whatever happens between the two turns of a call. Whoever saves puts a copy in
the place of the record. A copy takes an orderly course from the record that its holder loaded, so
the holder's own refunds stay within the amount, and the holder captures or voids at most once. If
every call ends with its copy still the record, all the events together are such a course of the
record. -/
theorem last_save_stands (id : UInt64) (l : Ledger) (p : Payment) (turns : List Turn) (scale : Nat)
    (hload : l.load id = .ok p) (hid : p.id = some id) (hsaves : l.refusal = none)
    (hpositive : p.amount.isPositive = true) (hrefunded : Decimal.zero ≤ p.refundedAmount.number)
    (hfits : Fits scale p turns) :
    let h := opening id l
    let all := h.events (fun _ => true) turns
    (h.after turns).ledger.load id = .ok (lastSaved p all) ∧
    (∀ first holder rest, turns = first ++ .load holder :: rest →
      (h.after first).isWaiting holder = false → .load holder ∉ rest →
      ∃ loaded copy, (h.after first).ledger.load id = .ok loaded ∧
        loaded.amount.number ≤ p.amount.number ∧ (h.after turns).copy? holder = some copy ∧
        Orderly loaded ((h.after (first ++ [.load holder])).events
          (fun other => other = holder) rest) copy) ∧
    ((∀ e ∈ all, e.step.ledger.load id = .ok e.before) →
      Orderly p all (lastSaved p all)) := by
  intro h all
  have hroom := hfits.hasRoom hpositive hrefunded
  have hrecord : h.ledger.get? h.id = some p := Ledger.load_eq_ok.1 hload
  have hkept : h.Kept scale p.amount.number.units :=
    ⟨hsaves, ⟨p, hrecord, hid, hroom⟩, by simp [h, opening]⟩
  have hlast : (h.after turns).ledger.get? id = some (lastSaved p all) :=
    hkept.record_after hfits.named hrecord
  refine ⟨Ledger.load_eq_ok.2 hlast, ?_, ?_⟩
  · rintro first holder rest rfl hidle hnever
    have hfirst : NamesUpTo scale first := fun t ht =>
      hfits.named t (List.mem_append_left _ ht)
    have hrest : NamesUpTo scale rest := fun t ht =>
      hfits.named t (List.mem_append_right _ (List.mem_cons_of_mem _ ht))
    obtain ⟨loaded, copy, hloaded, hle, hcopied, horderly⟩ :=
      (hkept.after hfirst).exists_orderly_copy hidle hrest hnever
    rw [h.id_after first] at hloaded
    rw [h.after_append, h.after_append]
    exact ⟨loaded, copy, Ledger.load_eq_ok.2 hloaded, hle, hcopied, horderly⟩
  · intro hfresh
    obtain ⟨steps, hstood, hevents⟩ := exists_record_course hrecord hid
      fun e he => Ledger.load_eq_ok.1 (hfresh e he)
    have hstands : lastSaved p all = p.after steps := Option.some.inj (hlast.symm.trans hstood)
    have hsteps : ∀ e ∈ p.course steps, e.step.ledger.refusal = none ∧
        e.step.action.NamesUpTo scale :=
      fun e he => hkept.of_mem_events hfits.named (hevents ▸ he)
    have hall : all = p.course steps := hevents
    rw [hstands, hall]
    exact orderly_course hroom hsteps

def sampleLedger (state : PaymentState) : Ledger :=
  ⟨[(1, { Gateway.sampleAuthorized with id := some 1, state })], 1, none⟩

/-- The two turns of a call that the processor approves, with nothing in between. -/
def approvedCall (holder : Nat) (action : Action) : List Turn :=
  [.ask holder .approving action, .answer holder]

def sampleTurns : List Turn :=
  .load 0 :: (approvedCall 0 (.capture none) ++
    .load 1 :: (approvedCall 1 (.refund (some ⟨(Decimal.ofParts? 5 1).getD .zero, "USD"⟩)) ++
      .load 0 :: approvedCall 0 (.refund none)))

theorem sample_last_save_stands :
    let p := { Gateway.sampleAuthorized with id := some 1 }
    let h := opening 1 (sampleLedger .authorization)
    let all := h.events (fun _ => true) sampleTurns
    ((sampleLedger .authorization).load 1 = .ok p ∧ p.id = some 1 ∧
      (sampleLedger .authorization).refusal = none ∧ p.amount.isPositive = true ∧
      Decimal.zero ≤ p.refundedAmount.number ∧ Fits 2 p sampleTurns ∧
      ∀ e ∈ all, e.step.ledger.load 1 = .ok e.before) ∧
    (lastSaved p all).state = .refunded ∧ Orderly p all (lastSaved p all) := by
  intro p h all
  have hload : (sampleLedger .authorization).load 1 = .ok p :=
    Ledger.load_eq_ok.2 (by decide)
  have hnamed : NamesUpTo 2 sampleTurns := by
    have hscale : ((Decimal.ofParts? 5 1).getD .zero).scale ≤ 2 := by decide
    simpa [NamesUpTo, sampleTurns, approvedCall, Turn.NamesUpTo, Action.NamesUpTo, Action.amount?]
      using hscale
  have hfits : Fits 2 p sampleTurns := {
    scale_le := by decide
    named := hnamed
    amount_scale := by decide
    amount := by decide
    refunded_scale := by decide
    refunded := by decide }
  have hpositive : p.amount.isPositive = true := rfl
  have hrefunded : Decimal.zero ≤ p.refundedAmount.number := by decide
  have hstored : ∀ e ∈ all, e.step.ledger.get? 1 = some e.before := by decide
  have hfresh : ∀ e ∈ all, e.step.ledger.load 1 = .ok e.before := fun e he =>
    Ledger.load_eq_ok.2 (hstored e he)
  obtain ⟨-, -, horderly⟩ := last_save_stands 1 (sampleLedger .authorization) p sampleTurns 2 hload
    rfl rfl hpositive hrefunded hfits
  exact ⟨⟨hload, rfl, rfl, hpositive, hrefunded, hfits, hfresh⟩, by decide, horderly hfresh⟩

def sampleLargest : Price :=
  ⟨(Decimal.ofParts? (Decimal.coefficientBound - 1) 0).getD .zero, "USD"⟩

/-- The record as such takes no orderly course. Two holders with copies of a completed payment give
back more than its amount and take the record from `refunded` to `partially refunded`. Two holders
of an authorization capture and void it, and they do so as well if both calls ask while the record
is as their copies have it. A single holder gives back more than the amount without room, since what
is left is rounded up, and if less than nothing is recorded as given back. -/
theorem stale_copies_disorder :
    (let h := opening 1 (sampleLedger .completed)
     let first : List Turn := .load 0 :: .load 1 :: approvedCall 0 (.refund none)
     let half : Price := ⟨(Decimal.ofParts? 5 1).getD .zero, "USD"⟩
     let second : List Turn := approvedCall 1 (.refund (some half))
     Gateway.sampleAuthorized.amount.number.units <
         approvedTotal (h.events (fun _ => true) (first ++ second)) ∧
       ((h.after first).ledger.get? 1).map Payment.state = some PaymentState.refunded ∧
       ((h.after (first ++ second)).ledger.get? 1).map Payment.state =
         some PaymentState.partiallyRefunded) ∧
    (let h := opening 1 (sampleLedger .authorization)
     let first : List Turn := .load 0 :: .load 1 :: approvedCall 0 (.capture none)
     let second : List Turn := approvedCall 1 .void
     (h.events (fun _ => true) (first ++ second)).countP
         (Event.succeedsAt [.capture, .void]) = 2 ∧
       ((h.after first).ledger.get? 1).map Payment.state = some PaymentState.completed ∧
       ((h.after (first ++ second)).ledger.get? 1).map Payment.state =
         some PaymentState.authorizationVoided) ∧
    (let h := opening 1 (sampleLedger .authorization)
     let asked : List Turn := [.load 0, .ask 0 .approving (.capture none),
       .load 1, .ask 1 .approving .void]
     let first : List Turn := [.answer 0]
     let both : List Turn := [.answer 0, .answer 1]
     ((h.after asked).ledger.get? 1 = h.ledger.get? 1 ∧
       (h.after asked).copy? 0 = h.ledger.get? 1 ∧ (h.after asked).copy? 1 = h.ledger.get? 1) ∧
     (h.events (fun _ => true) (asked ++ both)).countP
         (Event.succeedsAt [.capture, .void]) = 2 ∧
       ((h.after (asked ++ first)).ledger.get? 1).map Payment.state = some PaymentState.completed ∧
       ((h.after (asked ++ both)).ledger.get? 1).map Payment.state =
         some PaymentState.authorizationVoided) ∧
    (∀ operation, ¬Arrow operation .refunded .partiallyRefunded ∧
      ¬Arrow operation .completed .authorizationVoided) ∧
    (let p := { Gateway.sampleAuthorized with
      id := some 1, state := .completed, amount := sampleLargest }
     let part : Price := ⟨(Decimal.ofParts? 4 1).getD .zero, "USD"⟩
     let turns : List Turn :=
       .load 0 :: (approvedCall 0 (.refund (some part)) ++ approvedCall 0 (.refund none))
     sampleLargest.number.units <
       approvedTotal ((opening 1 ⟨[(1, p)], 1, none⟩).events (fun _ => true) turns)) ∧
    let owed : Price := ⟨Gateway.sampleAuthorized.amount.number.neg, "USD"⟩
    let p := { Gateway.sampleAuthorized with
      id := some 1, state := .completed, refundedAmount := owed }
    p.amount.number.units < approvedTotal ((opening 1 ⟨[(1, p)], 1, none⟩).events (fun _ => true)
      (.load 0 :: approvedCall 0 (.refund none))) := by
  refine ⟨by decide, by decide, by decide, ?_, by decide +kernel, by decide⟩
  intro operation
  constructor <;> intro harrow <;> cases harrow

end Holders

end CardPayments
