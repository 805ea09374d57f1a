import CardPayments.Text.Basic

/-!
# Form fields

The fields of a submitted form, in the order in which they were first named. A field named again
takes the new value and keeps its place.
-/

namespace CardPayments

structure Form where
  entries : List (String × String)
deriving DecidableEq, Inhabited

namespace Form

def empty : Form := ⟨[]⟩

def get? (f : Form) (key : String) : Option String :=
  (f.entries.find? fun e => e.1 == key).map Prod.snd

/-- The entries with a new value for the key, at its place or at the end. -/
def insertEntry (key value : String) : List (String × String) → List (String × String)
  | [] => [(key, value)]
  | e :: rest => if e.1 = key then (key, value) :: rest else e :: insertEntry key value rest

def insert (f : Form) (key value : String) : Form := ⟨insertEntry key value f.entries⟩

def ofPairs (pairs : List (String × String)) : Form :=
  pairs.foldl (fun f pair => f.insert pair.1 pair.2) empty

theorem get?_insert_self (f : Form) (key value : String) :
    (f.insert key value).get? key = some value := by
  obtain ⟨entries⟩ := f
  simp only [get?, insert]
  induction entries with
  | nil => simp [insertEntry]
  | cons e rest ih =>
    by_cases h : e.1 = key
    · simp [insertEntry, h]
    · rw [insertEntry, if_neg h, List.find?_cons_of_neg (by simpa using h)]
      exact ih

theorem get?_insert_of_ne (f : Form) {key other : String} (value : String) (h : other ≠ key) :
    (f.insert key value).get? other = f.get? other := by
  obtain ⟨entries⟩ := f
  simp only [get?, insert]
  induction entries with
  | nil => simp [insertEntry, Ne.symm h]
  | cons e rest ih =>
    by_cases he : e.1 = key
    · have hne : ¬ e.1 = other := fun ho => h (ho.symm.trans he)
      have hk : ¬ key = other := fun ho => h ho.symm
      simp [insertEntry, he, hk]
    · rw [insertEntry, if_neg he]
      by_cases ho : e.1 = other
      · simp [ho]
      · simpa [ho] using ih

theorem get?_foldl_insert_of_not_mem {pairs : List (String × String)} {key : String}
    (h : key ∉ pairs.map Prod.fst) (f : Form) :
    (pairs.foldl (fun f pair => f.insert pair.1 pair.2) f).get? key = f.get? key := by
  induction pairs generalizing f with
  | nil => rfl
  | cons pair rest ih =>
    rw [List.map_cons, List.mem_cons, not_or] at h
    rw [List.foldl_cons, ih h.2, get?_insert_of_ne f pair.2 h.1]

theorem get?_foldl_insert_of_mem {pairs : List (String × String)} {key value : String}
    (hnodup : (pairs.map Prod.fst).Nodup) (hmem : (key, value) ∈ pairs) (f : Form) :
    (pairs.foldl (fun f pair => f.insert pair.1 pair.2) f).get? key = some value := by
  induction pairs generalizing f with
  | nil => cases hmem
  | cons pair rest ih =>
    rw [List.map_cons, List.nodup_cons] at hnodup
    obtain rfl | hmem := List.mem_cons.1 hmem
    · rw [List.foldl_cons, get?_foldl_insert_of_not_mem hnodup.1, get?_insert_self]
    · exact ih hnodup.2 hmem _

theorem get?_ofPairs_of_mem {pairs : List (String × String)} {key value : String}
    (hnodup : (pairs.map Prod.fst).Nodup) (hmem : (key, value) ∈ pairs) :
    (ofPairs pairs).get? key = some value :=
  get?_foldl_insert_of_mem hnodup hmem empty

end Form

end CardPayments
