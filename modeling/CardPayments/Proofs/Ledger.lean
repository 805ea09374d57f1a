import CardPayments.Ledger

/-!
# Saving and looking up

The ledger as a map from ids to payments. A save puts the payment under one id, its own or the next
of the counter, and leaves what stands under every other id alone; the ids stay in the order of
their first use. A ledger that refuses saves refuses all of them.
-/

namespace CardPayments

namespace Ledger

/-- The id under which the ledger stores the payment. -/
def idFor (l : Ledger) (p : Payment) : UInt64 := p.id.getD (l.lastId + 1)

/-- The counter after the payment is stored. -/
def lastIdAfter (l : Ledger) (p : Payment) : UInt64 :=
  if p.id.isSome then l.lastId else l.lastId + 1

def ids (l : Ledger) : List UInt64 := l.entries.map Prod.fst

theorem save_eq_ok {l after : Ledger} {p stored : Payment} :
    l.save p = .ok (stored, after) ↔
      l.refusal = none ∧ { p with id := some (l.idFor p) } = stored ∧
        ⟨insertEntry (l.idFor p) stored l.entries, l.lastIdAfter p, l.refusal⟩ = after := by
  unfold save
  cases hrefusal : l.refusal with
  | some detail => simp
  | none =>
    cases hid : p.id <;>
      simp only [hid, idFor, lastIdAfter, Except.ok.injEq, Prod.mk.injEq, true_and] <;>
      constructor <;> rintro ⟨rfl, rfl⟩ <;> exact ⟨rfl, rfl⟩

theorem exists_save (l : Ledger) (h : l.refusal = none) (p : Payment) :
    ∃ stored after, l.save p = .ok (stored, after) :=
  ⟨_, _, save_eq_ok.2 ⟨h, rfl, rfl⟩⟩

theorem load_eq_ok {l : Ledger} {id : UInt64} {p : Payment} :
    l.load id = .ok p ↔ l.get? id = some p := by
  unfold load
  split <;> simp [*]

/-! ### Entries -/

section Entries

variable {id other : UInt64} {p : Payment} {entries : List (UInt64 × Payment)}

theorem find?_insertEntry_self :
    (insertEntry id p entries).find? (fun e => e.1 == id) = some (id, p) := by
  induction entries with
  | nil => simp [insertEntry]
  | cons e rest ih =>
    rw [insertEntry]
    split
    · simp
    · next hne => rw [List.find?_cons_of_neg (by simpa using hne), ih]

theorem find?_insertEntry_of_ne (hne : other ≠ id) :
    (insertEntry id p entries).find? (fun e => e.1 == other) =
      entries.find? (fun e => e.1 == other) := by
  induction entries with
  | nil => simp [insertEntry, hne.symm]
  | cons e rest ih =>
    rw [insertEntry]
    split
    · next heq => simp [heq, hne.symm]
    · simp only [List.find?_cons, ih]

/-- An id that is in use keeps its place, and a new one comes last. -/
theorem map_fst_insertEntry :
    (insertEntry id p entries).map Prod.fst =
      if id ∈ entries.map Prod.fst then entries.map Prod.fst
      else entries.map Prod.fst ++ [id] := by
  induction entries with
  | nil => simp [insertEntry]
  | cons e rest ih =>
    rw [insertEntry]
    by_cases heq : e.1 = id
    · simp [heq]
    · rw [if_neg heq, List.map_cons, ih, List.map_cons]
      by_cases hmem : id ∈ rest.map Prod.fst
      · rw [if_pos hmem, if_pos (List.mem_cons_of_mem _ hmem)]
      · have hnot : id ∉ e.1 :: rest.map Prod.fst := by
          simpa [Ne.symm heq] using hmem
        rw [if_neg hmem, if_neg hnot, List.cons_append]

end Entries

/-! ### Look-ups -/

variable {l after : Ledger} {p stored : Payment}

theorem get?_isSome_iff {id : UInt64} : (l.get? id).isSome = true ↔ id ∈ l.ids := by
  simp [get?, ids, List.find?_isSome]

theorem get?_save_self (h : l.save p = .ok (stored, after)) :
    after.get? (l.idFor p) = some stored := by
  obtain ⟨-, -, rfl⟩ := save_eq_ok.1 h
  rw [get?, find?_insertEntry_self, Option.map_some]

theorem exists_load_of_save (h : l.save p = .ok (stored, after)) :
    ∃ id, stored.id = some id ∧ after.load id = .ok stored := by
  have hload := load_eq_ok.2 (get?_save_self h)
  obtain ⟨-, rfl, -⟩ := save_eq_ok.1 h
  exact ⟨_, rfl, hload⟩

theorem get?_save_of_ne (h : l.save p = .ok (stored, after)) {id : UInt64} (hne : id ≠ l.idFor p) :
    after.get? id = l.get? id := by
  obtain ⟨-, -, rfl⟩ := save_eq_ok.1 h
  rw [get?, find?_insertEntry_of_ne hne, get?]

theorem ids_save (h : l.save p = .ok (stored, after)) :
    after.ids = if l.idFor p ∈ l.ids then l.ids else l.ids ++ [l.idFor p] := by
  obtain ⟨-, -, rfl⟩ := save_eq_ok.1 h
  exact map_fst_insertEntry

/-! ### A first save -/

/-- The second ledger is the first with one payment more, which has the next id. -/
structure Gains (l after : Ledger) (p : Payment) : Prop where
  id_eq : p.id = some (l.lastId + 1)
  stored : after.get? (l.lastId + 1) = some p
  others : ∀ id, id ≠ l.lastId + 1 → after.get? id = l.get? id
  ids : l.lastId + 1 ∉ l.ids → after.ids = l.ids ++ [l.lastId + 1]

theorem gains_of_save (h : l.save p = .ok (stored, after)) (hnew : p.id = none) :
    Gains l after stored := by
  have hid : l.idFor p = l.lastId + 1 := by rw [idFor, hnew, Option.getD_none]
  have hstored := get?_save_self h
  have hids := ids_save h
  obtain ⟨-, hown, -⟩ := save_eq_ok.1 h
  rw [hid] at hstored hids hown
  constructor
  · rw [← hown]
  · exact hstored
  · intro id hne
    exact get?_save_of_ne h (hid.symm ▸ hne)
  · intro hfresh
    rw [hids, if_neg hfresh]

end Ledger

end CardPayments
