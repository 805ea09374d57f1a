import CardPayments.Proofs.Course.Room

/-!
# Several holders of one payment

Holders load copies of one stored payment and call the gateway's operations on them, in any order. A
call is two turns of its holder: it looks at the holder's copy alone when it asks the processor, and
when the answer has come it saves a copy in the place of the record, whatever was saved there in
between. So each copy takes a course of its own from the record as it was loaded, and what is true
of courses is true of it. The record takes a course only if every copy that is saved is the record
up to then.
-/

namespace CardPayments

/-- A call on a copy that waits for the processor's answer. -/
structure Pending (copy : Payment) where
  gateway : Gateway
  action : Action
  plan : Plan
  planned : gateway.plan copy action = some (.ok plan)

/-- The rest of the call, with the ledger as it is when the answer has come. -/
def Pending.outcome {copy : Payment} (call : Pending copy) (l : Ledger) : Outcome Transaction :=
  (Stage.conclude call.plan (call.gateway.processor call.plan.request)).outcome
    ⟨copy, l, [call.plan.request]⟩

/-- A holder's copy with the call that is under way on it. -/
structure Held where
  copy : Payment
  call : Option (Pending copy)

/-- A ledger, an id in it, and what holders have of the payment with that id. -/
structure Holders where
  id : UInt64
  ledger : Ledger
  held : Nat → Option Held

inductive Turn where
  | load (holder : Nat)
  | ask (holder : Nat) (gateway : Gateway) (action : Action)
  | answer (holder : Nat)

def Turn.holder : Turn → Nat
  | .load holder => holder
  | .ask holder _ _ => holder
  | .answer holder => holder

namespace Holders

def opening (id : UInt64) (l : Ledger) : Holders := ⟨id, l, fun _ => none⟩

def put (h : Holders) (holder : Nat) (held : Held) (l : Ledger) : Holders :=
  ⟨h.id, l, fun other => if other = holder then some held else h.held other⟩

def copy? (h : Holders) (holder : Nat) : Option Payment := (h.held holder).map Held.copy

def isWaiting (h : Holders) (holder : Nat) : Bool :=
  match h.held holder with
  | some ⟨_, some _⟩ => true
  | _ => false

/-- What a turn makes of the holders, and the event that ends with it: a call whose checks fail ends
at once, any other one with its answer. A holder whose call is under way does nothing else, and one
without a copy only loads. -/
def turn (h : Holders) : Turn → Holders × Option Event
  | .load holder =>
    if h.isWaiting holder then (h, none)
    else
      match h.ledger.load h.id with
      | .ok p => (h.put holder ⟨p, none⟩ h.ledger, none)
      | .error _ => (h, none)
  | .ask holder gateway action =>
    match h.held holder with
    | some ⟨copy, none⟩ =>
      match hplan : gateway.plan copy action with
      | some (.ok plan) =>
        (h.put holder ⟨copy, some ⟨gateway, action, plan, hplan⟩⟩ h.ledger, none)
      | some (.error _) =>
        (h.put holder ⟨copy, none⟩ h.ledger, some ⟨⟨action, gateway, h.ledger⟩, copy⟩)
      | none => (h, none)
    | _ => (h, none)
  | .answer holder =>
    match h.held holder with
    | some ⟨copy, some call⟩ =>
      let outcome := call.outcome h.ledger
      (h.put holder ⟨outcome.payment, none⟩ outcome.ledger,
        some ⟨⟨call.action, call.gateway, h.ledger⟩, copy⟩)
    | _ => (h, none)

def after : Holders → List Turn → Holders
  | h, [] => h
  | h, t :: rest => after (h.turn t).1 rest

def events (whose : Nat → Bool) : Holders → List Turn → List Event
  | _, [] => []
  | h, t :: rest =>
    (if whose t.holder then (h.turn t).2.toList else []) ++ events whose (h.turn t).1 rest

end Holders

def Held.NamesUpTo (scale : Nat) (held : Held) : Prop :=
  ∀ call ∈ held.call, call.action.NamesUpTo scale

def Turn.NamesUpTo (scale : Nat) : Turn → Prop
  | .ask _ _ action => action.NamesUpTo scale
  | _ => True

theorem Held.namesUpTo_idle {scale : Nat} {copy : Payment} :
    Held.NamesUpTo scale ⟨copy, none⟩ := by
  simp [Held.NamesUpTo]

theorem Pending.map_outcome {copy : Payment} (call : Pending copy) (l : Ledger) :
    (call.outcome l).map (fun _ => ()) = call.gateway.act call.action copy l := by
  rw [Gateway.act_of_plan call.planned, Gateway.perform_ok]
  rfl

namespace Holders

/-- What a turn does: nothing, or the holder loads the record, asks, or has an event behind it. -/
inductive Turned (h : Holders) (t : Turn) : Holders × Option Event → Prop
  | idle : Turned h t (h, none)
  | loaded (p : Payment) (hturn : t = .load t.holder) (hload : h.ledger.get? h.id = some p) :
      Turned h t (h.put t.holder ⟨p, none⟩ h.ledger, none)
  | asked (held : Held) (call : Pending held.copy) (hheld : h.held t.holder = some held)
      (hnamed : ∀ scale, t.NamesUpTo scale → call.action.NamesUpTo scale) :
      Turned h t (h.put t.holder ⟨held.copy, some call⟩ h.ledger, none)
  | ended (held : Held) (e : Event) (hheld : h.held t.holder = some held)
      (hbefore : held.copy = e.before) (hledger : e.step.ledger = h.ledger)
      (hnamed : ∀ scale, t.NamesUpTo scale → held.NamesUpTo scale →
        e.step.action.NamesUpTo scale) :
      Turned h t (h.put t.holder ⟨e.after, none⟩ e.outcome.ledger, some e)

theorem turned_ask (h : Holders) (holder : Nat) (gateway : Gateway) (action : Action) :
    h.Turned (.ask holder gateway action) (h.turn (.ask holder gateway action)) := by
  rw [turn]
  split
  · next copy hheld =>
    split
    · next plan hplan =>
      exact .asked ⟨copy, none⟩ ⟨gateway, action, plan, hplan⟩ hheld fun _ hnamed => hnamed
    · next stop hplan =>
      have hrefused : gateway.act action copy h.ledger = .refused stop copy h.ledger :=
        Gateway.act_of_plan hplan
      have hended := Turned.ended (t := .ask holder gateway action) ⟨copy, none⟩
        ⟨⟨action, gateway, h.ledger⟩, copy⟩ hheld rfl rfl fun _ hnamed _ => hnamed
      rwa [Event.after, Event.outcome, Step.outcome, hrefused] at hended
    · exact .idle
  · exact .idle

theorem turned_answer (h : Holders) (holder : Nat) :
    h.Turned (.answer holder) (h.turn (.answer holder)) := by
  rw [turn]
  split
  · next copy call hheld =>
    have hended := Turned.ended (t := .answer holder) ⟨copy, some call⟩
      ⟨⟨call.action, call.gateway, h.ledger⟩, copy⟩ hheld rfl rfl fun _ _ hnamed => hnamed call rfl
    rwa [Event.after, Event.outcome, Step.outcome, ← call.map_outcome] at hended
  · exact .idle

theorem turned (h : Holders) (t : Turn) : h.Turned t (h.turn t) := by
  cases t with
  | load holder =>
    rw [turn]
    split
    · exact .idle
    · cases hload : h.ledger.load h.id with
      | error => exact .idle
      | ok p => exact .loaded p rfl (Ledger.load_eq_ok.1 hload)
  | ask holder gateway action => exact h.turned_ask holder gateway action
  | answer holder => exact h.turned_answer holder

end Holders

/-! ### One event -/

namespace Event

variable {e : Event} {id : UInt64}

/-- An event leaves the ledger alone, or it puts the copy it made in the place of the record. -/
theorem ledger_cases (hid : e.before.id = some id) :
    e.outcome.ledger = e.step.ledger ∧ e.after = e.before ∨
      e.outcome.ledger.get? id = some e.after ∧ e.outcome.ledger.refusal = e.step.ledger.refusal ∧
        e.after.id = some id := by
  obtain ⟨hkept, hledger, -⟩ | ⟨-, updated, hchange, hsave⟩ := e.kept_or_saved
  · exact .inl ⟨hledger, hkept⟩
  · have hown : e.step.ledger.idFor updated = id := by
      rw [Ledger.idFor, hchange.id_eq, hid, Option.getD_some]
    have hstored := Ledger.get?_save_self hsave
    rw [hown] at hstored
    obtain ⟨-, hafter, hledger⟩ := Ledger.save_eq_ok.1 hsave
    refine .inr ⟨hstored, by rw [← hledger], ?_⟩
    rw [← hafter]
    exact congrArg some hown

theorem id_after_of_id (hid : e.before.id = some id) : e.after.id = some id := by
  obtain ⟨-, hkept⟩ | ⟨-, -, hstored⟩ := ledger_cases hid
  · rw [hkept]
    exact hid
  · exact hstored

end Event

namespace Holders

/-! ### What every turn keeps -/

/-- What a holder has is of this id and has room, for what the call names as well. -/
structure Belongs (id : UInt64) (scale : Nat) (limit : Int) (held : Held) : Prop where
  id : held.copy.id = some id
  room : held.copy.HasRoom scale limit
  named : held.NamesUpTo scale

/-- The ledger stores payments, there is a record, and it and all copies of it have room. -/
structure Kept (scale : Nat) (limit : Int) (h : Holders) : Prop where
  saves : h.ledger.refusal = none
  record : ∃ p, h.ledger.get? h.id = some p ∧ p.id = some h.id ∧ p.HasRoom scale limit
  held : ∀ holder held, h.held holder = some held → Belongs h.id scale limit held

section Run

variable {scale : Nat} {limit : Int} {h : Holders} {turns : List Turn} {p : Payment} {held : Held}

def NamesUpTo (scale : Nat) (turns : List Turn) : Prop :=
  ∀ t ∈ turns, t.NamesUpTo scale

theorem NamesUpTo.tail {t : Turn} (h : NamesUpTo scale (t :: turns)) : NamesUpTo scale turns :=
  fun t ht => h t (List.mem_cons_of_mem _ ht)

@[simp] theorem held_put_self {holder : Nat} {l : Ledger} :
    (h.put holder held l).held holder = some held := if_pos rfl

@[simp] theorem held_put_of_ne {holder other : Nat} {l : Ledger} (hne : other ≠ holder) :
    (h.put holder held l).held other = h.held other := if_neg hne

theorem copy?_of_held {holder : Nat} (hheld : h.held holder = some held) :
    h.copy? holder = some held.copy := by
  rw [copy?, hheld, Option.map_some]

theorem Kept.put (hkept : h.Kept scale limit) {holder : Nat} {l : Ledger}
    (hheld : Belongs h.id scale limit held) (hsaves : l.refusal = none)
    (hrecord : l.get? h.id = h.ledger.get? h.id ∨ l.get? h.id = some held.copy) :
    (h.put holder held l).Kept scale limit := by
  refine ⟨hsaves, ?_, ?_⟩
  · obtain hsame | hstored := hrecord
    · exact hsame ▸ hkept.record
    · exact ⟨held.copy, hstored, hheld.id, hheld.room⟩
  · intro other others hothers
    by_cases hother : other = holder
    · subst hother
      obtain rfl := Option.some.inj (held_put_self.symm.trans hothers)
      exact hheld
    · exact hkept.held other others ((held_put_of_ne hother).symm.trans hothers)

theorem Kept.ended (hkept : h.Kept scale limit) {holder : Nat} {e : Event}
    (hheld : Belongs h.id scale limit held) (hbefore : held.copy = e.before)
    (hledger : e.step.ledger = h.ledger) (hnamed : e.step.action.NamesUpTo scale) :
    (h.put holder ⟨e.after, none⟩ e.outcome.ledger).Kept scale limit := by
  have hid : e.before.id = some h.id := hbefore ▸ hheld.id
  have hafter : Belongs h.id scale limit ⟨e.after, none⟩ :=
    ⟨Event.id_after_of_id hid, Event.hasRoom (hbefore ▸ hheld.room) hnamed, Held.namesUpTo_idle⟩
  have hsaves : e.step.ledger.refusal = none := hledger ▸ hkept.saves
  obtain ⟨hsame, -⟩ | ⟨hstored, hrefusal, -⟩ := Event.ledger_cases hid
  · exact hkept.put hafter (hsame ▸ hsaves) (.inl (by rw [hsame, hledger]))
  · exact hkept.put hafter (hrefusal.trans hsaves) (.inr hstored)

theorem Kept.turn (hkept : h.Kept scale limit) {t : Turn} (hnamed : t.NamesUpTo scale) :
    (h.turn t).1.Kept scale limit := by
  have hturned := h.turned t
  generalize h.turn t = next at hturned ⊢
  cases hturned with
  | idle => exact hkept
  | loaded p _ hload =>
    obtain ⟨q, hrecord, hid, hroom⟩ := hkept.record
    obtain rfl := Option.some.inj (hload.symm.trans hrecord)
    exact hkept.put ⟨hid, hroom, Held.namesUpTo_idle⟩ hkept.saves (.inl rfl)
  | asked held call hheld hasked =>
    obtain ⟨hid, hroom, -⟩ := hkept.held _ held hheld
    have hcall : Held.NamesUpTo scale ⟨held.copy, some call⟩ := by
      simpa [Held.NamesUpTo] using hasked scale hnamed
    exact hkept.put ⟨hid, hroom, hcall⟩ hkept.saves (.inl rfl)
  | ended held e hheld hbefore hledger hended =>
    have hown := hkept.held _ held hheld
    exact hkept.ended hown hbefore hledger (hended scale hnamed hown.named)

theorem Kept.after (hkept : h.Kept scale limit) (hnamed : NamesUpTo scale turns) :
    (h.after turns).Kept scale limit := by
  induction turns generalizing h with
  | nil => exact hkept
  | cons t rest ih => exact ih (hkept.turn (hnamed t List.mem_cons_self)) hnamed.tail

theorem id_turn (h : Holders) (t : Turn) : (h.turn t).1.id = h.id := by
  have hturned := h.turned t
  generalize h.turn t = next at hturned ⊢
  cases hturned <;> rfl

theorem id_after (h : Holders) (turns : List Turn) : (h.after turns).id = h.id := by
  induction turns generalizing h with
  | nil => rfl
  | cons t rest ih => exact (ih (h.turn t).1).trans (h.id_turn t)

theorem after_append (h : Holders) (first second : List Turn) :
    h.after (first ++ second) = (h.after first).after second := by
  induction first generalizing h with
  | nil => rfl
  | cons t rest ih => exact ih (h.turn t).1

/-! ### What happens to a copy and to the record -/

theorem Kept.of_mem_events (hkept : h.Kept scale limit) (hnamed : NamesUpTo scale turns)
    {whose : Nat → Bool} {e : Event} (he : e ∈ h.events whose turns) :
    e.step.ledger.refusal = none ∧ e.step.action.NamesUpTo scale := by
  induction turns generalizing h with
  | nil => cases he
  | cons t rest ih =>
    have hfirst := hnamed t List.mem_cons_self
    have hturn := hkept.turn hfirst
    rw [events, List.mem_append] at he
    have hturned := h.turned t
    generalize h.turn t = next at hturned hturn he
    obtain he | he := he
    · split at he
      · cases hturned with
        | idle | loaded | asked => cases he
        | ended held e hheld hbefore hledger hended =>
          obtain rfl := List.mem_singleton.1 he
          exact ⟨hledger ▸ hkept.saves, hended scale hfirst (hkept.held _ held hheld).named⟩
      · cases he
    · exact ih hturn hnamed.tail he

/-- Until its holder loads again, a copy takes a course of its own, whatever others do. -/
theorem exists_copy_course {holder : Nat} (hheld : h.held holder = some held)
    (hnever : .load holder ∉ turns) :
    ∃ steps, (h.after turns).copy? holder = some (held.copy.after steps) ∧
      h.events (fun other => other = holder) turns = held.copy.course steps := by
  induction turns generalizing h held with
  | nil => exact ⟨[], copy?_of_held hheld, rfl⟩
  | cons t rest ih =>
    obtain ⟨hfirst, hrest⟩ := not_or.1 (mt List.mem_cons.2 hnever)
    rw [after, events]
    have hturned := h.turned t
    generalize h.turn t = next at hturned ⊢
    by_cases howner : t.holder = holder
    · subst howner
      cases hturned with
      | idle => simpa using ih hheld hrest
      | loaded _ hturn => exact absurd hturn.symm hfirst
      | asked own call hown =>
        obtain rfl := Option.some.inj (hown.symm.trans hheld)
        simpa using ih held_put_self hrest
      | ended own e hown hbefore =>
        obtain rfl := Option.some.inj (hown.symm.trans hheld)
        obtain ⟨steps, hcopied, hevents⟩ :=
          ih (h := h.put t.holder ⟨e.after, none⟩ e.outcome.ledger) held_put_self hrest
        refine ⟨e.step :: steps, ?_, ?_⟩
        · rw [hcopied, hbefore]
          rfl
        · rw [hevents, hbefore, decide_eq_true rfl]
          rfl
    · have hother := Ne.symm howner
      cases hturned with
      | idle => simpa using ih hheld hrest
      | loaded => simpa using ih ((held_put_of_ne hother).trans hheld) hrest
      | asked => simpa using ih ((held_put_of_ne hother).trans hheld) hrest
      | ended => simpa [howner] using ih ((held_put_of_ne hother).trans hheld) hrest

/-- What the last event that changed the ledger made of its copy, or else the payment given. -/
def lastSaved (p : Payment) (events : List Event) : Payment :=
  events.foldl (fun record e => if e.outcome.ledger = e.step.ledger then record else e.after) p

theorem Kept.record_after (hkept : h.Kept scale limit) (hnamed : NamesUpTo scale turns)
    (hrecord : h.ledger.get? h.id = some p) :
    (h.after turns).ledger.get? h.id = some (lastSaved p (h.events (fun _ => true) turns)) := by
  induction turns generalizing h p with
  | nil => exact hrecord
  | cons t rest ih =>
    have hturn := hkept.turn (hnamed t List.mem_cons_self)
    rw [Holders.after, events]
    have hturned := h.turned t
    generalize h.turn t = next at hturned hturn ⊢
    cases hturned with
    | idle => exact ih hkept hnamed.tail hrecord
    | loaded => exact ih (h := h.put _ _ _) hturn hnamed.tail hrecord
    | asked => exact ih (h := h.put _ _ _) hturn hnamed.tail hrecord
    | ended held e hheld hbefore hledger =>
      have hafter : e.outcome.ledger.get? h.id =
          some (if e.outcome.ledger = e.step.ledger then p else e.after) := by
        split
        · next hsame =>
          rw [hsame, hledger]
          exact hrecord
        · next hchanged =>
          have hid : e.before.id = some h.id := hbefore ▸ (hkept.held _ held hheld).id
          obtain ⟨hsame, -⟩ | ⟨hstored, -⟩ := Event.ledger_cases hid
          · exact absurd hsame hchanged
          · exact hstored
      exact ih (h := h.put _ _ e.outcome.ledger) hturn hnamed.tail hafter

/-- If every event begins with the record as it stands at its end, the record takes a course. -/
theorem exists_record_course (hrecord : h.ledger.get? h.id = some p) (hid : p.id = some h.id)
    (hfresh : ∀ e ∈ h.events (fun _ => true) turns, e.step.ledger.get? h.id = some e.before) :
    ∃ steps, (h.after turns).ledger.get? h.id = some (p.after steps) ∧
      h.events (fun _ => true) turns = p.course steps := by
  induction turns generalizing h p with
  | nil => exact ⟨[], hrecord, rfl⟩
  | cons t rest ih =>
    rw [events] at hfresh
    rw [after, events]
    have hturned := h.turned t
    generalize h.turn t = next at hturned hfresh ⊢
    cases hturned with
    | idle => exact ih hrecord hid (by simpa using hfresh)
    | loaded => exact ih (h := h.put _ _ _) hrecord hid fun e he => hfresh e (by simpa using he)
    | asked => exact ih (h := h.put _ _ _) hrecord hid fun e he => hfresh e (by simpa using he)
    | ended held e hheld hbefore hledger =>
      have hown : e.before = p := by
        have hstands := hfresh e (by simp)
        rw [hledger, hrecord] at hstands
        exact (Option.some.inj hstands).symm
      subst hown
      have hafter : e.outcome.ledger.get? h.id = some e.after := by
        obtain ⟨hsame, hkept⟩ | ⟨hstored, -⟩ := Event.ledger_cases hid
        · rw [hsame, hledger, hkept]
          exact hrecord
        · exact hstored
      obtain ⟨steps, hstood, hevents⟩ :=
        ih (h := h.put t.holder ⟨e.after, none⟩ e.outcome.ledger) hafter
          (Event.id_after_of_id hid) fun other hother => hfresh other (by simp [hother])
      exact ⟨e.step :: steps, hstood, congrArg (e :: ·) hevents⟩

end Run

end Holders

end CardPayments
