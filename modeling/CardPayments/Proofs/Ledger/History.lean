import CardPayments.Proofs.Ledger.FirstSave
import Mathlib.Data.List.Forall2
import Mathlib.Data.List.Nodup

/-!
# What a ledger remembers

A ledger that stores payments is known by the history of its saves. Under every id it has what the
last save under that id left; the payments of an order are listed by where their ids first occur in
the history, and there are as many payments as there are different ids. `Ledger.Recalls` says this
of a ledger and a history. A save adds its own payment to both sides, and a look-up adds nothing to
either.
-/

namespace CardPayments

inductive LedgerCall where
  | save (p : Payment)
  | load (id : UInt64)
  | loadForOrder (orderId : String)
  | size

/-- What a ledger answers; a save hands the payment back as it is stored. -/
inductive LedgerReply where
  | saved (p : Payment)
  | loaded (p : Payment)
  | listed (payments : List Payment)
  | counted (n : Nat)
  | refused (cause : LedgerError)

def LedgerCall.toSave? : LedgerCall → Option Payment
  | .save p => some p
  | _ => none

def LedgerReply.toSaved? : LedgerReply → Option Payment
  | .saved p => some p
  | _ => none

def savesIn (calls : List LedgerCall) : List Payment := calls.filterMap LedgerCall.toSave?

/-- The payments as their saves left them, in order. -/
def historyOf (replies : List LedgerReply) : List Payment :=
  replies.filterMap LedgerReply.toSaved?

theorem savesIn_cons (call : LedgerCall) (rest : List LedgerCall) :
    savesIn (call :: rest) = call.toSave?.toList ++ savesIn rest := by
  rw [savesIn, List.filterMap_cons, savesIn]
  cases call.toSave? <;> rfl

theorem historyOf_cons (reply : LedgerReply) (rest : List LedgerReply) :
    historyOf (reply :: rest) = reply.toSaved?.toList ++ historyOf rest := by
  rw [historyOf, List.filterMap_cons, historyOf]
  cases reply.toSaved? <;> rfl

namespace Ledger

def answer (l : Ledger) : LedgerCall → LedgerReply × Ledger
  | .save p =>
    match l.save p with
    | .ok (stored, after) => (.saved stored, after)
    | .error e => (.refused e, l)
  | .load id =>
    match l.load id with
    | .ok p => (.loaded p, l)
    | .error e => (.refused e, l)
  | .loadForOrder orderId => (.listed (l.loadForOrder orderId), l)
  | .size => (.counted l.size, l)

def afterCalls : Ledger → List LedgerCall → Ledger
  | l, [] => l
  | l, call :: rest => afterCalls (l.answer call).2 rest

def replies : Ledger → List LedgerCall → List LedgerReply
  | _, [] => []
  | l, call :: rest => (l.answer call).1 :: replies (l.answer call).2 rest

/-! ### Histories -/

def lastUnder (history : List Payment) (id : UInt64) : Option Payment :=
  history.reverse.find? fun p => p.id == some id

/-- The ids in the history, each where it occurs first. -/
def idsInOrder (history : List Payment) : List UInt64 := (history.filterMap Payment.id).eraseDups

/-- A save left the second payment of the first: it has an id now, its own if it had one before. -/
def StoredAs (p stored : Payment) : Prop :=
  ∃ id, stored = { p with id := some id } ∧ ∀ own, p.id = some own → own = id

theorem lastUnder_append {history : List Payment} {p : Payment} {id : UInt64} :
    lastUnder (history ++ [p]) id = if p.id = some id then some p else lastUnder history id := by
  rw [lastUnder, List.reverse_append, List.reverse_singleton, List.singleton_append,
    List.find?_cons, lastUnder]
  by_cases hid : p.id = some id
  · simp [hid]
  · simp [hid, beq_eq_false_iff_ne.2 hid]

theorem eraseDups_append_singleton (ids : List UInt64) (id : UInt64) :
    (ids ++ [id]).eraseDups =
      if id ∈ ids.eraseDups then ids.eraseDups else ids.eraseDups ++ [id] := by
  rw [List.eraseDups_append]
  by_cases hmem : id ∈ ids <;> simp [List.removeAll, hmem, List.eraseDups_cons]

theorem idsInOrder_append {history : List Payment} {p : Payment} {id : UInt64}
    (h : p.id = some id) :
    idsInOrder (history ++ [p]) =
      if id ∈ idsInOrder history then idsInOrder history else idsInOrder history ++ [id] := by
  rw [idsInOrder, idsInOrder, List.filterMap_append, List.filterMap_cons_some h,
    List.filterMap_nil, eraseDups_append_singleton]

theorem lastUnder_eq_none_iff {history : List Payment} {id : UInt64} :
    lastUnder history id = none ↔ ∀ p ∈ history, p.id ≠ some id := by
  simp [lastUnder]

/-! ### Entries by their ids -/

theorem map_snd_entries {entries : List (UInt64 × Payment)}
    (hnodup : (entries.map Prod.fst).Nodup) :
    entries.map Prod.snd = (entries.map Prod.fst).filterMap fun id =>
      (entries.find? fun e => e.1 == id).map Prod.snd := by
  induction entries with
  | nil => rfl
  | cons e rest ih =>
    rw [List.map_cons, List.nodup_cons] at hnodup
    obtain ⟨hfresh, hrest⟩ := hnodup
    have hskips : ∀ id ∈ rest.map Prod.fst,
        ((e :: rest).find? fun e => e.1 == id).map Prod.snd =
          (rest.find? fun e => e.1 == id).map Prod.snd := by
      intro id hid
      have hne : e.1 ≠ id := fun heq => hfresh (heq ▸ hid)
      rw [List.find?_cons_of_neg (by simpa using hne)]
    have hfound : (e :: rest).find? (fun own => own.1 == e.1) = some e :=
      List.find?_cons_of_pos (beq_self_eq_true e.1)
    rw [List.map_cons, List.map_cons, List.filterMap_cons, List.filterMap_congr hskips,
      ← ih hrest, hfound, Option.map_some]

/-! ### Ledgers and histories -/

/-- The ledger stores payments, and what it has is what the history of its saves says. -/
structure Recalls (l : Ledger) (history : List Payment) : Prop where
  stores : l.refusal = none
  nodup : l.ids.Nodup
  ids : l.ids = idsInOrder history
  found : ∀ id, l.get? id = lastUnder history id

namespace Recalls

variable {l after : Ledger} {history : List Payment} {p stored : Payment}

theorem empty : Recalls Ledger.empty [] := by
  constructor
  · rfl
  · exact List.nodup_nil
  · rfl
  · intro id
    rfl

theorem save (h : Recalls l history) (hsave : l.save p = .ok (stored, after)) :
    Recalls after (history ++ [stored]) := by
  have hid : stored.id = some (l.idFor p) := by
    obtain ⟨-, rfl, -⟩ := save_eq_ok.1 hsave
    rfl
  constructor
  · exact refusal_save hsave
  · rw [ids_save hsave]
    split
    · exact h.nodup
    · next hfresh =>
      have hdisjoint : l.ids.Disjoint [l.idFor p] := by simpa using hfresh
      exact h.nodup.append (List.nodup_singleton _) hdisjoint
  · rw [ids_save hsave, idsInOrder_append hid, h.ids]
  · intro id
    rw [lastUnder_append, hid]
    by_cases heq : l.idFor p = id
    · subst heq
      rw [if_pos rfl, get?_save_self hsave]
    · rw [if_neg (mt Option.some.inj heq), get?_save_of_ne hsave (Ne.symm heq), h.found]

theorem answer (h : Recalls l history) (call : LedgerCall) :
    Recalls (l.answer call).2 (history ++ (l.answer call).1.toSaved?.toList) := by
  have hkept : Recalls l (history ++ []) := by rwa [List.append_nil]
  cases call with
  | save p =>
    obtain ⟨stored, after, hsave⟩ := l.exists_save h.stores p
    rw [Ledger.answer, hsave]
    exact h.save hsave
  | load id =>
    rw [Ledger.answer]
    split <;> exact hkept
  | loadForOrder orderId => exact hkept
  | size => exact hkept

theorem afterCalls (h : Recalls l history) (calls : List LedgerCall) :
    Recalls (l.afterCalls calls) (history ++ historyOf (l.replies calls)) := by
  induction calls generalizing l history with
  | nil => rwa [replies, historyOf, List.filterMap_nil, List.append_nil]
  | cons call rest ih =>
    have hrest := ih (h.answer call)
    rw [List.append_assoc, ← historyOf_cons] at hrest
    exact hrest

theorem load_eq_ok (h : Recalls l history) {id : UInt64} :
    l.load id = .ok p ↔ lastUnder history id = some p := by
  rw [Ledger.load_eq_ok, h.found]

theorem load_eq_notFound (h : Recalls l history) {id : UInt64} :
    l.load id = .error (.notFound id) ↔ ∀ p ∈ history, p.id ≠ some id := by
  rw [Ledger.load_eq_notFound, ← get?_isSome_iff, h.found, ← lastUnder_eq_none_iff,
    Bool.not_eq_true, Option.isSome_eq_false_iff, Option.isNone_iff_eq_none]

theorem loadForOrder_eq (h : Recalls l history) (orderId : String) :
    l.loadForOrder orderId =
      ((idsInOrder history).filterMap (lastUnder history)).filter (·.orderId = orderId) := by
  have hpayments : l.entries.map Prod.snd = l.ids.filterMap l.get? := map_snd_entries h.nodup
  rw [loadForOrder, hpayments, h.ids, List.filterMap_congr fun id _ => h.found id]

theorem size_eq (h : Recalls l history) : l.size = (idsInOrder history).length := by
  rw [← h.ids, Ledger.ids, List.length_map, size]

end Recalls

/-! ### Calls -/

section Calls

variable {l : Ledger}

theorem afterCalls_eq_afterSaves (l : Ledger) (calls : List LedgerCall) :
    l.afterCalls calls = l.afterSaves (savesIn calls) := by
  induction calls generalizing l with
  | nil => rfl
  | cons call rest ih =>
    rw [afterCalls, ih, savesIn_cons]
    cases call with
    | save p =>
      change _ = l.afterSaves (p :: savesIn rest)
      rw [answer, afterSaves]
      cases l.save p <;> rfl
    | load id =>
      rw [answer]
      cases l.load id <;> rfl
    | loadForOrder orderId => rfl
    | size => rfl

theorem storedAs_of_save {after : Ledger} {p stored : Payment}
    (h : l.save p = .ok (stored, after)) : StoredAs p stored := by
  obtain ⟨-, rfl, -⟩ := save_eq_ok.1 h
  refine ⟨l.idFor p, rfl, fun own hown => ?_⟩
  rw [idFor, hown, Option.getD_some]

theorem forall₂_storedAs (h : l.refusal = none) (calls : List LedgerCall) :
    List.Forall₂ StoredAs (savesIn calls) (historyOf (l.replies calls)) := by
  induction calls generalizing l with
  | nil => exact .nil
  | cons call rest ih =>
    rw [replies, savesIn_cons, historyOf_cons]
    cases call with
    | save p =>
      obtain ⟨stored, after, hsave⟩ := l.exists_save h p
      rw [answer, hsave]
      exact .cons (storedAs_of_save hsave) (ih (refusal_save hsave))
    | load id =>
      rw [answer]
      cases l.load id <;> exact ih h
    | loadForOrder orderId => exact ih h
    | size => exact ih h

end Calls

/-- **A ledger remembers its last writes, in the order of the first.** Ask an empty ledger anything,
in any order. Every save hands its payment back with an id, its own if it brought one, and a ledger
is what its saves made it, whatever was looked up between them. At any point an id loads the payment
that the last save under it handed back, and nothing exactly if there was none; an order lists the
payments that are its own by now, by the first saves under their ids; and the size is the number of
different ids. -/
theorem remembers_last_writes (calls : List LedgerCall) :
    let l := empty.afterCalls calls
    let history := historyOf (empty.replies calls)
    List.Forall₂ StoredAs (savesIn calls) history ∧
    l = empty.afterSaves (savesIn calls) ∧
    (∀ id p, l.load id = .ok p ↔ lastUnder history id = some p) ∧
    (∀ id, l.load id = .error (.notFound id) ↔ ∀ p ∈ history, p.id ≠ some id) ∧
    (∀ orderId, l.loadForOrder orderId =
      ((idsInOrder history).filterMap (lastUnder history)).filter (·.orderId = orderId)) ∧
    l.size = (idsInOrder history).length := by
  intro l history
  have hrecalls : Recalls l history := by
    simpa only [List.nil_append] using Recalls.empty.afterCalls calls
  exact ⟨forall₂_storedAs rfl calls, afterCalls_eq_afterSaves empty calls,
    fun id p => hrecalls.load_eq_ok, fun id => hrecalls.load_eq_notFound,
    hrecalls.loadForOrder_eq, hrecalls.size_eq⟩

/-- The first payment moves to the second one's order and keeps its place before it. -/
example :
    let l := empty.afterCalls [.save (.begin "1" default), .save (.begin "2" default),
      .load 1, .save { Payment.begin "2" default with id := some 1 }]
    l.loadForOrder "1" = [] ∧ (l.loadForOrder "2").map Payment.id = [some 1, some 2] ∧
      l.size = 2 := by decide

end Ledger

end CardPayments
