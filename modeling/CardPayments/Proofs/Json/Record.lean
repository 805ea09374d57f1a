import CardPayments.Json.Record
import Mathlib.Data.List.Perm.Basic
import Mathlib.Logic.Function.Basic

/-!
# What the reader of a record sees

A record is read from the values of its own members, each found by its name. So the order of the
members does not matter, nor do members of other names, in the record or in a record inside it: a
document rearranged like this reads as before. A name of its own that stands twice, or a required
one that is missing, makes the document unreadable as this record, at whatever depth.
-/

namespace CardPayments

namespace Json

/-- What a reader knows of a record: the names of its members, which of these it requires, and in
which of them it looks for records again. -/
inductive Shape where
  | record (names required : List String) (records : List (String × Shape))

/-- The second document comes from the first by moves that its reader does not notice: members are
put in another order, a member of an unknown name is added, and the same inside a record. -/
inductive Rearranged : Shape → Json → Json → Prop
  | refl (shape : Shape) (j : Json) : Rearranged shape j j
  | trans {shape : Shape} {j k l : Json} (hjk : Rearranged shape j k) (hkl : Rearranged shape k l) :
    Rearranged shape j l
  | reorder {names required : List String} {records : List (String × Shape)}
    {members arranged : List (String × Json)} (h : members.Perm arranged) :
    Rearranged (.record names required records) (.obj members) (.obj arranged)
  | add {names required : List String} {records : List (String × Shape)}
    {members : List (String × Json)} {name : String} (h : name ∉ names) (value : Json) :
    Rearranged (.record names required records) (.obj members) (.obj ((name, value) :: members))
  | within {names required : List String} {records : List (String × Shape)}
    {members : List (String × Json)} {name : String} {inner : Shape} {value arranged : Json}
    (h : (name, inner) ∈ records) (hvalue : Rearranged inner value arranged) :
    Rearranged (.record names required records) (.obj ((name, value) :: members))
      (.obj ((name, arranged) :: members))

def occurrences (name : String) (members : List (String × Json)) : Nat :=
  members.countP fun m => m.1 == name

/-- A known name stands twice or a required one is missing, in the document or in a record inside
it. -/
inductive Broken : Shape → Json → Prop
  | repeated {names required : List String} {records : List (String × Shape)}
    {members : List (String × Json)} {name : String} (h : name ∈ names)
    (htwice : 2 ≤ occurrences name members) :
    Broken (.record names required records) (.obj members)
  | missing {names required : List String} {records : List (String × Shape)}
    {members : List (String × Json)} {name : String} (h : name ∈ required)
    (hnone : occurrences name members = 0) :
    Broken (.record names required records) (.obj members)
  | within {names required : List String} {records : List (String × Shape)}
    {members : List (String × Json)} {name : String} {inner : Shape} {value : Json}
    (h : (name, inner) ∈ records) (hmem : (name, value) ∈ members) (hvalue : Broken inner value) :
    Broken (.record names required records) (.obj members)

/-! ### Members by their names -/

section Members

variable {members arranged : List (String × Json)} {names : List String} {name : String}
  {value : Json}

def Once (names : List String) (members : List (String × Json)) : Prop :=
  ∀ name ∈ names, occurrences name members ≤ 1

theorem occurrences_cons (name : String) (member : String × Json)
    (members : List (String × Json)) :
    occurrences name (member :: members) =
      occurrences name members + if member.1 = name then 1 else 0 := by
  rw [occurrences, List.countP_cons]
  simp only [beq_iff_eq]
  rfl

theorem member?_eq_head? (name : String) (members : List (String × Json)) :
    member? name (.obj members) =
      (members.filter fun m => m.1 == name).head?.map Prod.snd := by
  rw [List.head?_filter]
  rfl

theorem lookup_cons (name : String) (value : Json) (members : List (String × Json)) :
    (fun n => member? n (.obj ((name, value) :: members))) =
      Function.update (fun n => member? n (.obj members)) name (some value) := by
  funext n
  rw [Function.update_apply]
  by_cases h : n = name
  · subst h
    simp [member?]
  · simp [member?, h, Ne.symm h]

theorem member?_eq_none (h : occurrences name members = 0) :
    member? name (.obj members) = none := by
  have hfilter : (members.filter fun m => m.1 == name) = [] := by
    rw [← List.length_eq_zero_iff, ← List.countP_eq_length_filter]
    exact h
  rw [member?_eq_head?, hfilter]
  rfl

/-- Of the members of one name only one is left to be found, if there is one. -/
theorem member?_perm (h : members.Perm arranged) (honce : occurrences name members ≤ 1) :
    member? name (.obj arranged) = member? name (.obj members) := by
  rw [member?_eq_head?, member?_eq_head?]
  have hperm := h.filter fun m => m.1 == name
  rw [occurrences, List.countP_eq_length_filter] at honce
  cases hfound : members.filter fun m => m.1 == name with
  | nil =>
    rw [hfound] at hperm
    rw [List.perm_nil.1 hperm.symm]
  | cons member others =>
    rw [hfound, List.length_cons] at honce
    obtain rfl : others = [] := List.length_eq_zero_iff.1 (by omega)
    rw [hfound] at hperm
    rw [List.perm_singleton.1 hperm.symm]

theorem once_perm (h : members.Perm arranged) : Once names members ↔ Once names arranged := by
  simp only [Once, occurrences, h.countP_eq]

theorem once_add (h : name ∉ names) :
    Once names ((name, value) :: members) ↔ Once names members := by
  have hcount : ∀ n ∈ names, occurrences n ((name, value) :: members) = occurrences n members := by
    intro n hn
    rw [occurrences_cons, if_neg fun heq : name = n => h (heq ▸ hn), Nat.add_zero]
  exact forall₂_congr fun n hn => by rw [hcount n hn]

theorem once_value (value' : Json) :
    Once names ((name, value) :: members) ↔ Once names ((name, value') :: members) := by
  simp only [Once, occurrences_cons]

theorem filter_known (h : name ∈ names) (members : List (String × Json)) :
    ((members.filter fun m => m.1 ∈ names).filter fun m => m.1 == name) =
      members.filter fun m => m.1 == name := by
  rw [List.filter_filter]
  refine List.filter_congr fun m _ => ?_
  by_cases hm : m.1 = name
  · simp [hm, h]
  · simp [hm]

theorem member?_known (h : name ∈ names) (members : List (String × Json)) :
    member? name (.obj (members.filter fun m => m.1 ∈ names)) = member? name (.obj members) := by
  rw [member?_eq_head?, member?_eq_head?, filter_known h]

theorem once_known (names : List String) (members : List (String × Json)) :
    Once names (members.filter fun m => m.1 ∈ names) ↔ Once names members := by
  refine forall₂_congr fun name hname => ?_
  rw [occurrences, occurrences, List.countP_eq_length_filter, List.countP_eq_length_filter,
    filter_known hname]

theorem fields?_of_once (least : Nat) (h : Once names members) :
    fields? names least (.obj members) =
      some (names.map fun name => member? name (.obj members)) := by
  rw [fields?, if_pos]
  · rfl
  · simpa [Once, occurrences] using h

theorem fields?_of_not_once (least : Nat) (h : ¬Once names members) :
    fields? names least (.obj members) = none := by
  rw [fields?, if_neg]
  simpa [Once, occurrences] using h

end Members

/-! ### Readers -/

/-- The reader does not notice a rearrangement, and refuses what is broken. -/
structure Keeps {α : Type} (shape : Shape) (read : Json → Option α) : Prop where
  rearranged : ∀ {j k}, Rearranged shape j k → read k = read j
  broken : ∀ {j}, Broken shape j → read j = none

/-- The record is built from the value under this name through its reading alone. -/
structure BuiltThrough {α β : Type} (build : (String → Option Json) → Option α) (name : String)
    (read : Json → Option β) : Prop where
  congr : ∀ lookup {value value'}, read value' = read value →
    build (Function.update lookup name (some value')) =
      build (Function.update lookup name (some value))
  fails : ∀ lookup {value}, read value = none →
    build (Function.update lookup name (some value)) = none

/-- The reader of a record: an object is read by what stands under the known names, if each of them
stands there once at most. -/
structure ReadsRecord {α : Type} (names required : List String) (records : List (String × Shape))
    (read : Json → Option α) (build : (String → Option Json) → Option α) : Prop where
  once : ∀ {members}, Once names members →
    read (.obj members) = build fun n => member? n (.obj members)
  repeated : ∀ {members}, ¬Once names members → read (.obj members) = none
  known : ∀ {lookup lookup'}, (∀ name ∈ names, lookup name = lookup' name) →
    build lookup = build lookup'
  required : ∀ {name}, name ∈ required → ∀ {lookup}, lookup name = none → build lookup = none
  records : ∀ {name inner}, (name, inner) ∈ records → ∃ (β : Type) (readInner : Json → Option β),
    Keeps inner readInner ∧ BuiltThrough build name readInner

section ReadsRecord

variable {α : Type} {names required : List String} {records : List (String × Shape)}
  {read : Json → Option α} {build : (String → Option Json) → Option α}
  {members arranged : List (String × Json)} {name : String} {inner : Shape} {value value' : Json}

theorem ReadsRecord.of_fields {least : Nat} {body : List (Option Json) → Option α}
    (hread : ∀ j, read j = (fields? names least j).bind body)
    (hbuild : ∀ lookup, body (names.map lookup) = build lookup)
    (hrequired : ∀ {name}, name ∈ required → ∀ {lookup}, lookup name = none → build lookup = none)
    (hrecords : ∀ {name inner}, (name, inner) ∈ records →
      ∃ (β : Type) (readInner : Json → Option β),
        Keeps inner readInner ∧ BuiltThrough build name readInner) :
    ReadsRecord names required records read build where
  once h := by rw [hread, fields?_of_once least h, Option.bind_some, hbuild]
  repeated h := by rw [hread, fields?_of_not_once least h, Option.bind_none]
  known h := by rw [← hbuild, ← hbuild, List.map_congr_left h]
  required := hrequired
  records := hrecords

theorem ReadsRecord.reorder (hread : ReadsRecord names required records read build)
    (h : members.Perm arranged) : read (.obj arranged) = read (.obj members) := by
  by_cases honce : Once names members
  · rw [hread.once honce, hread.once ((once_perm h).1 honce)]
    exact hread.known fun name hname => member?_perm h (honce name hname)
  · rw [hread.repeated honce, hread.repeated fun h' => honce ((once_perm h).2 h')]

theorem ReadsRecord.add (hread : ReadsRecord names required records read build)
    (h : name ∉ names) (value : Json) :
    read (.obj ((name, value) :: members)) = read (.obj members) := by
  by_cases honce : Once names members
  · rw [hread.once honce, hread.once ((once_add h).2 honce), lookup_cons]
    refine hread.known fun n hn => Function.update_of_ne ?_ _ _
    rintro rfl
    exact h hn
  · rw [hread.repeated honce, hread.repeated fun h' => honce ((once_add h).1 h')]

theorem ReadsRecord.of_known (hread : ReadsRecord names required records read build)
    (members : List (String × Json)) :
    read (.obj (members.filter fun m => m.1 ∈ names)) = read (.obj members) := by
  by_cases honce : Once names members
  · rw [hread.once honce, hread.once ((once_known names members).2 honce)]
    exact hread.known fun name hname => member?_known hname members
  · rw [hread.repeated honce, hread.repeated fun h => honce ((once_known names members).1 h)]

theorem ReadsRecord.within (hread : ReadsRecord names required records read build)
    (h : (name, inner) ∈ records) (hvalue : Rearranged inner value value') :
    read (.obj ((name, value') :: members)) = read (.obj ((name, value) :: members)) := by
  obtain ⟨β, readInner, hkeeps, hthrough⟩ := hread.records h
  by_cases honce : Once names ((name, value) :: members)
  · rw [hread.once honce, hread.once ((once_value value').1 honce), lookup_cons, lookup_cons]
    exact hthrough.congr _ (hkeeps.rearranged hvalue)
  · rw [hread.repeated honce, hread.repeated fun h' => honce ((once_value value').2 h')]

theorem ReadsRecord.rearranged (hread : ReadsRecord names required records read build) {j k : Json}
    (h : Rearranged (.record names required records) j k) : read k = read j := by
  generalize hshape : Shape.record names required records = shape at h
  induction h with
  | refl => rfl
  | trans _ _ ihjk ihkl => exact (ihkl hshape).trans (ihjk hshape)
  | reorder h =>
    cases hshape
    exact hread.reorder h
  | add h value =>
    cases hshape
    exact hread.add h value
  | within h hvalue =>
    cases hshape
    exact hread.within h hvalue

theorem ReadsRecord.broken (hread : ReadsRecord names required records read build) {j : Json}
    (h : Broken (.record names required records) j) : read j = none := by
  cases h with
  | @repeated _ _ _ members name h htwice =>
    exact hread.repeated fun honce => by have := honce name h; omega
  | @missing _ _ _ members name h hnone =>
    by_cases honce : Once names members
    · rw [hread.once honce, hread.required h (member?_eq_none hnone)]
    · exact hread.repeated honce
  | @within _ _ _ members name inner value h hmem hvalue =>
    obtain ⟨β, readInner, hkeeps, hthrough⟩ := hread.records h
    obtain ⟨before, after, rfl⟩ := List.append_of_mem hmem
    rw [hread.reorder (List.perm_middle.symm)]
    by_cases honce : Once names ((name, value) :: (before ++ after))
    · rw [hread.once honce, lookup_cons]
      exact hthrough.fails _ (hkeeps.broken hvalue)
    · exact hread.repeated honce

theorem ReadsRecord.keeps (hread : ReadsRecord names required records read build) :
    Keeps (.record names required records) read :=
  ⟨hread.rearranged, hread.broken⟩

end ReadsRecord

/-! ### What may be left out -/

section Optional

variable {α : Type} {read : Json → Option α}

theorem optional_of_ne_null {j : Json} (h : j ≠ .null) :
    optional read (some j) = (read j).map some := by
  cases j with
  | null => exact absurd rfl h
  | _ => rfl

theorem optional_eq_some_none {value : Option Json} :
    optional read value = some none ↔ value = none ∨ value = some .null := by
  rcases value with - | j
  · simp [optional]
  · by_cases hj : j = .null
    · subst hj
      simp [optional]
    · simp [optional_of_ne_null hj, hj]

/-- What may be absent is read back from what was written for it, since null is no value. -/
theorem optional_ofOption {write : α → Json} (h : ∀ a, read (write a) = some a)
    (hnull : read .null = none) (value : Option α) :
    optional read (some (ofOption write value)) = some value := by
  cases value with
  | none => rfl
  | some a =>
    have hne : write a ≠ .null := by
      intro hwrite
      have hread := h a
      rw [hwrite, hnull] at hread
      cases hread
    rw [ofOption, optional_of_ne_null hne, h, Option.map_some]

end Optional

theorem Rearranged.eq_or_obj {shape : Shape} {j k : Json} (h : Rearranged shape j k) :
    j = k ∨ ∃ members arranged, j = .obj members ∧ k = .obj arranged := by
  induction h with
  | refl => exact .inl rfl
  | trans _ _ ihjk ihkl =>
    rcases ihjk with rfl | ⟨members, arranged, rfl, rfl⟩
    · exact ihkl
    · rcases ihkl with rfl | ⟨_, arranged, -, rfl⟩ <;> exact .inr ⟨members, _, rfl, rfl⟩
  | _ => exact .inr ⟨_, _, rfl, rfl⟩

theorem Broken.exists_obj {shape : Shape} {j : Json} (h : Broken shape j) :
    ∃ members, j = .obj members := by
  cases h <;> exact ⟨_, rfl⟩

/-- Null stands for no record, but no rearrangement makes null of a record or a record of null. -/
theorem Keeps.optional {α : Type} {shape : Shape} {read : Json → Option α}
    (h : Keeps shape read) : Keeps shape fun value => optional read (some value) where
  rearranged := by
    intro j k hjk
    rcases hjk.eq_or_obj with rfl | ⟨members, arranged, rfl, rfl⟩
    · rfl
    · show (read (.obj arranged)).map some = (read (.obj members)).map some
      rw [h.rearranged hjk]
  broken := by
    intro j hj
    obtain ⟨members, rfl⟩ := hj.exists_obj
    show (read (.obj members)).map some = none
    rw [h.broken hj, Option.map_none]

end Json

end CardPayments
