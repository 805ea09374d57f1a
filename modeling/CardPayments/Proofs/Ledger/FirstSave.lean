import CardPayments.Proofs.Ledger

/-!
# First saves

Payments without an id get theirs from a counter, and only they move it; a payment that comes with
an id is stored under it without the counter's knowledge. After any saves the next id is therefore
one above the number of first saves, and it is free unless a payment came with just that id. Where
it is free, a first save adds one record and leaves all others as they were. Where it is not, the
record of another payment is gone.
-/

namespace CardPayments

namespace Ledger

def afterSaves : Ledger → List Payment → Ledger
  | l, [] => l
  | l, p :: rest =>
    match l.save p with
    | .ok (_, after) => afterSaves after rest
    | .error _ => afterSaves l rest

/-- How many of the payments have no id when they are saved. -/
def firstSaves (saves : List Payment) : Nat := saves.countP fun p => p.id.isNone

/-- The id that the saves leave for the next payment without one. -/
def nextId (saves : List Payment) : UInt64 := .ofNat (firstSaves saves + 1)

/-! ### One save -/

section Save

variable {l after : Ledger} {p stored : Payment} {rest : List Payment}

theorem afterSaves_cons (h : l.save p = .ok (stored, after)) :
    l.afterSaves (p :: rest) = after.afterSaves rest := by
  rw [afterSaves, h]

theorem refusal_save (h : l.save p = .ok (stored, after)) : after.refusal = none := by
  obtain ⟨hrefusal, -, rfl⟩ := save_eq_ok.1 h
  exact hrefusal

theorem lastId_save (h : l.save p = .ok (stored, after)) : after.lastId = l.lastIdAfter p := by
  obtain ⟨-, -, rfl⟩ := save_eq_ok.1 h
  rfl

theorem mem_ids_save (h : l.save p = .ok (stored, after)) {id : UInt64} :
    id ∈ after.ids ↔ id ∈ l.ids ∨ id = l.idFor p := by
  rw [ids_save h]
  split
  · next hmem => exact ⟨.inl, fun hid => hid.elim (fun hid => hid) fun heq => heq ▸ hmem⟩
  · rw [List.mem_append, List.mem_singleton]

theorem size_save (h : l.save p = .ok (stored, after)) :
    after.size = if l.idFor p ∈ l.ids then l.size else l.size + 1 := by
  have hsize (l : Ledger) : l.size = l.ids.length := by rw [ids, List.length_map, size]
  rw [hsize, ids_save h, hsize]
  split
  · rfl
  · rw [List.length_append, List.length_singleton]

theorem load_save_of_ne (h : l.save p = .ok (stored, after)) {id : UInt64} (hne : id ≠ l.idFor p) :
    after.load id = l.load id := by
  rw [load, get?_save_of_ne h hne, load]

theorem load_eq_notFound {id : UInt64} : l.load id = .error (.notFound id) ↔ id ∉ l.ids := by
  rw [← get?_isSome_iff, load]
  cases l.get? id <;> simp

theorem exists_load {id : UInt64} (h : id ∈ l.ids) : ∃ q, l.load id = .ok q := by
  obtain ⟨q, hq⟩ := Option.isSome_iff_exists.1 (get?_isSome_iff.2 h)
  exact ⟨q, load_eq_ok.2 hq⟩

end Save

/-! ### Any saves -/

section Saves

variable {l : Ledger} {p : Payment} {rest : List Payment}

theorem firstSaves_of_new (h : p.id = none) : firstSaves (p :: rest) = firstSaves rest + 1 :=
  List.countP_cons_of_pos (by rw [h]; rfl)

theorem firstSaves_of_some {id : UInt64} (h : p.id = some id) :
    firstSaves (p :: rest) = firstSaves rest :=
  List.countP_cons_of_neg (by simp [h])

theorem refusal_afterSaves (h : l.refusal = none) (saves : List Payment) :
    (l.afterSaves saves).refusal = none := by
  induction saves generalizing l with
  | nil => exact h
  | cons p rest ih =>
    obtain ⟨stored, after, hsave⟩ := l.exists_save h p
    rw [afterSaves_cons hsave]
    exact ih (refusal_save hsave)

theorem add_ofNat_succ (a : UInt64) (k : Nat) : a + .ofNat (k + 1) = a + 1 + .ofNat k := by
  rw [Nat.add_comm, UInt64.ofNat_add, ← UInt64.add_assoc]
  rfl

/-- The counter counts the first saves. -/
theorem lastId_afterSaves (h : l.refusal = none) (saves : List Payment) :
    (l.afterSaves saves).lastId = l.lastId + .ofNat (firstSaves saves) := by
  induction saves generalizing l with
  | nil => simp [afterSaves, firstSaves]
  | cons p rest ih =>
    obtain ⟨stored, after, hsave⟩ := l.exists_save h p
    rw [afterSaves_cons hsave, ih (refusal_save hsave), lastId_save hsave, lastIdAfter]
    cases hid : p.id with
    | none =>
      rw [firstSaves_of_new hid, add_ofNat_succ]
      rfl
    | some id =>
      rw [firstSaves_of_some hid]
      rfl

/-- The ids in use are those that were, those that payments came with, and those that the counter
gave out. -/
theorem mem_ids_afterSaves (h : l.refusal = none) (saves : List Payment) {id : UInt64} :
    id ∈ (l.afterSaves saves).ids ↔
      id ∈ l.ids ∨ (∃ p ∈ saves, p.id = some id) ∨
        ∃ k < firstSaves saves, id = l.lastId + .ofNat (k + 1) := by
  induction saves generalizing l with
  | nil => simp [afterSaves, firstSaves]
  | cons p rest ih =>
    obtain ⟨stored, after, hsave⟩ := l.exists_save h p
    rw [afterSaves_cons hsave, ih (refusal_save hsave), mem_ids_save hsave, lastId_save hsave,
      lastIdAfter, idFor]
    cases hid : p.id with
    | none =>
      rw [firstSaves_of_new hid, Nat.exists_lt_succ_left]
      simp only [List.mem_cons, exists_eq_or_imp, hid, add_ofNat_succ l.lastId]
      simp [or_assoc, or_left_comm]
    | some own =>
      rw [firstSaves_of_some hid]
      simp [hid, or_assoc, eq_comm]

end Saves

/-! ### A first save -/

/-- A counter gives a number out again only once it has come round. -/
theorem exists_ofNat_succ_eq_iff (n : Nat) :
    (∃ k < n, UInt64.ofNat (n + 1) = .ofNat (k + 1)) ↔ UInt64.size ≤ n := by
  simp only [← UInt64.toNat_inj, UInt64.toNat_ofNat', UInt64.size]
  constructor
  · rintro ⟨k, hk, heq⟩
    omega
  · intro hle
    exact ⟨n - 2 ^ 64, by omega, by omega⟩

theorem nextId_eq (saves : List Payment) : (empty.afterSaves saves).lastId + 1 = nextId saves := by
  rw [lastId_afterSaves rfl, nextId, UInt64.ofNat_add, empty, UInt64.zero_add]
  rfl

theorem nextId_notMem_iff (saves : List Payment) :
    nextId saves ∉ (empty.afterSaves saves).ids ↔
      firstSaves saves < UInt64.size ∧ ∀ q ∈ saves, q.id ≠ some (nextId saves) := by
  have hcounted : (∃ k < firstSaves saves, nextId saves = empty.lastId + .ofNat (k + 1)) ↔
      UInt64.size ≤ firstSaves saves := by
    rw [← exists_ofNat_succ_eq_iff, empty]
    simp only [UInt64.zero_add, nextId]
  rw [mem_ids_afterSaves rfl, hcounted]
  simp only [empty, ids, List.map_nil, List.not_mem_nil, false_or, not_or, not_exists, not_and,
    Nat.not_le]
  exact and_comm

/-- **A first save adds a record if its id is free.** After any saves, a payment without an id is
stored under an id that counts the first saves, and the records under all other ids stay as they
are. Nothing stood under that id, there is one record more and all earlier ones are still there
exactly if no payment came with that id before, as long as the counter has not come round. Otherwise
the payment takes the place of another, which is lost. -/
theorem first_save_adds_iff (saves : List Payment) (p : Payment) (hnew : p.id = none) :
    let before := empty.afterSaves saves
    let id := nextId saves
    let isFree := firstSaves saves < UInt64.size ∧ ∀ q ∈ saves, q.id ≠ some id
    ∃ after, before.save p = .ok ({ p with id := some id }, after) ∧
      after.load id = .ok { p with id := some id } ∧
      (∀ other, other ≠ id → after.load other = before.load other) ∧
      (before.load id = .error (.notFound id) ∧ after.size = before.size + 1 ∧
        (∀ other q, before.load other = .ok q → after.load other = .ok q) ↔ isFree) ∧
      (¬isFree → after.size = before.size ∧ ∃ lost, before.load id = .ok lost) := by
  intro before id isFree
  obtain ⟨stored, after, hsave⟩ := before.exists_save (refusal_afterSaves rfl saves) p
  have hid : before.idFor p = id := by rw [idFor, hnew, Option.getD_none, nextId_eq saves]
  have hfree : id ∉ before.ids ↔ isFree := nextId_notMem_iff saves
  have hown := get?_save_self hsave
  have hothers (other : UInt64) (hne : other ≠ id) : after.load other = before.load other :=
    load_save_of_ne hsave (hid.symm ▸ hne)
  have hsize := size_save hsave
  obtain ⟨-, rfl, -⟩ := save_eq_ok.1 hsave
  rw [hid] at hsave hown hsize
  refine ⟨after, hsave, load_eq_ok.2 hown, hothers, ?_, ?_⟩
  · rw [← hfree, load_eq_notFound]
    refine ⟨And.left, fun hnot => ⟨hnot, by rw [hsize, if_neg hnot], ?_⟩⟩
    intro other q hq
    rw [hothers other, hq]
    rintro rfl
    rw [load_eq_notFound.2 hnot] at hq
    cases hq
  · intro hused
    have hmem : id ∈ before.ids := Decidable.not_not.1 fun hnot => hused (hfree.1 hnot)
    exact ⟨by rw [hsize, if_pos hmem], exists_load hmem⟩

/-- A payment is stored twice, and one comes with an id that the counter has not reached. -/
def sampleSaves : List Payment :=
  [.begin "1" default, { Payment.begin "1" default with id := some 1 },
   { Payment.begin "2" default with id := some 7 }]

theorem sample_first_save_adds :
    let p := Payment.begin "3" default
    p.id = none ∧ firstSaves sampleSaves < UInt64.size ∧ (∀ q ∈ sampleSaves, q.id ≠ some 2) ∧
      ∃ after, (empty.afterSaves sampleSaves).save p = .ok ({ p with id := some 2 }, after) ∧
        (empty.afterSaves sampleSaves).load 2 = .error (.notFound 2) ∧ after.size = 3 := by
  intro p
  have hcount : firstSaves sampleSaves < UInt64.size := by decide
  have hgiven : ∀ q ∈ sampleSaves, q.id ≠ some 2 := by decide
  obtain ⟨after, hsave, -, -, hadds, -⟩ := first_save_adds_iff sampleSaves p rfl
  obtain ⟨hnothing, hsize, -⟩ := hadds.2 ⟨hcount, hgiven⟩
  exact ⟨rfl, hcount, hgiven, after, hsave, hnothing, hsize⟩

/-- Not every first save adds a record: the first payment to come without an id replaces one that
came with the id `1`. -/
theorem not_adds_after_given_id :
    ¬∀ (saves : List Payment) (p : Payment), p.id = none →
      ∃ stored after id, (empty.afterSaves saves).save p = .ok (stored, after) ∧
        stored.id = some id ∧ (empty.afterSaves saves).load id = .error (.notFound id) ∧
        after.size = (empty.afterSaves saves).size + 1 ∧
        ∀ other q, (empty.afterSaves saves).load other = .ok q → after.load other = .ok q := by
  intro hall
  obtain ⟨stored, after, id, hsave, hid, hnothing, -⟩ :=
    hall [{ Payment.begin "1" default with id := some 1 }] (.begin "2" default) rfl
  obtain ⟨rfl, -⟩ := Prod.mk.inj (Except.ok.inj hsave)
  obtain rfl := Option.some.inj hid
  cases hnothing

end Ledger

end CardPayments
