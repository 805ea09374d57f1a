import CardPayments.Card

/-!
# Blanks in a card number

A number is printed in groups of four. The groups hold all of the number but its blanks, and one
blank stands between two of them, so the groups are found again in the printed form. Every reader
of a card goes through the number without blanks, which is all that two spellings of a number have
in common; the printed form is the one that all spellings lead to.
-/

namespace CardPayments

namespace Text

/-! ### Texts up to their blanks -/

/-- The second text comes from the first by inserting and deleting blanks, any number of them and
at any place. -/
inductive Respaced : List Char → List Char → Prop
  | nil : Respaced [] []
  | keep {s t : List Char} (c : Char) (h : Respaced s t) : Respaced (c :: s) (c :: t)
  | insert {s t : List Char} {c : Char} (hc : isBlank c = true) (h : Respaced s t) :
    Respaced s (c :: t)
  | delete {s t : List Char} {c : Char} (hc : isBlank c = true) (h : Respaced s t) :
    Respaced (c :: s) t

theorem not_isBlank_of_mem_withoutBlanks {s : String} {c : Char} (h : c ∈ withoutBlanks s) :
    isBlank c = false := by
  have hkept := (List.mem_filter.1 h).2
  rwa [Bool.not_eq_true'] at hkept

section Filter

variable {s t : List Char} {c : Char}

theorem filter_cons_of_blank (hc : isBlank c = true) :
    ((c :: s).filter fun d => !isBlank d) = s.filter fun d => !isBlank d :=
  List.filter_cons_of_neg (by simp [hc])

theorem filter_cons_of_not_blank (hc : isBlank c = false) :
    ((c :: s).filter fun d => !isBlank d) = c :: s.filter fun d => !isBlank d :=
  List.filter_cons_of_pos (by simp [hc])

theorem Respaced.filter_eq (h : Respaced s t) :
    (s.filter fun d => !isBlank d) = t.filter fun d => !isBlank d := by
  induction h with
  | nil => rfl
  | keep c _ ih => rw [List.filter_cons, List.filter_cons, ih]
  | insert hc _ ih => rw [filter_cons_of_blank hc, ih]
  | delete hc _ ih => rw [filter_cons_of_blank hc, ih]

theorem Respaced.insertAll {blanks : List Char} (hblanks : ∀ c ∈ blanks, isBlank c = true)
    (h : Respaced s t) : Respaced s (blanks ++ t) := by
  induction blanks with
  | nil => exact h
  | cons c blanks ih =>
    rw [List.forall_mem_cons] at hblanks
    exact .insert hblanks.1 (ih hblanks.2)

theorem respaced_of_filter_eq
    (h : (s.filter fun d => !isBlank d) = t.filter fun d => !isBlank d) : Respaced s t := by
  induction s generalizing t with
  | nil =>
    have hblanks := List.filter_eq_nil_iff.1 h.symm
    rw [← List.append_nil t]
    exact .insertAll (by simpa using hblanks) .nil
  | cons c s ih =>
    cases hc : isBlank c with
    | true =>
      rw [filter_cons_of_blank hc] at h
      exact .delete hc (ih h)
    | false =>
      rw [filter_cons_of_not_blank hc] at h
      obtain ⟨blanks, rest, rfl, hblanks, -, hrest⟩ := List.filter_eq_cons_iff.1 h.symm
      exact .insertAll (by simpa using hblanks) (.keep c (ih hrest.symm))

end Filter

theorem respaced_iff {s t : String} :
    Respaced s.toList t.toList ↔ withoutBlanks s = withoutBlanks t :=
  ⟨Respaced.filter_eq, respaced_of_filter_eq⟩

/-! ### Groups between blanks -/

/-- The parts of a text that are divided by single blanks. An empty text has none. -/
def groups (s : String) : List (List Char) := if s = "" then [] else s.toList.splitOn ' '

theorem filter_intercalate (parts : List (List Char)) :
    (([' '].intercalate parts).filter fun c => !isBlank c) =
      parts.flatten.filter fun c => !isBlank c := by
  match parts with
  | [] => rfl
  | [part] => rw [List.intercalate_singleton, List.flatten_singleton]
  | part :: next :: parts =>
    have hblank : ([' '].filter fun c => !isBlank c) = [] := by decide
    rw [List.intercalate_cons_cons, List.flatten_cons, List.filter_append, List.filter_append,
      List.filter_append, hblank, List.append_nil, filter_intercalate]

end Text

open Text

/-! ### Groups of four -/

/-- Groups of four characters without a blank, of which the last may be shorter. -/
structure InFours (groups : List (List Char)) : Prop where
  full : ∀ group ∈ groups.dropLast, group.length = 4
  last : ∀ group ∈ groups.getLast?, group ≠ [] ∧ group.length ≤ 4
  noBlank : ∀ group ∈ groups, ∀ c ∈ group, isBlank c = false

section Groups

variable {fuel : Nat} {s : List Char}

theorem InFours.nil : InFours [] := ⟨nofun, nofun, nofun⟩

theorem InFours.singleton {group : List Char} (hne : group ≠ []) (hlength : group.length ≤ 4)
    (hblank : ∀ c ∈ group, isBlank c = false) : InFours [group] := by
  refine ⟨nofun, ?_, ?_⟩
  · intro g hg
    obtain rfl := Option.some.inj hg
    exact ⟨hne, hlength⟩
  · intro g hg
    rwa [List.mem_singleton.1 hg]

theorem InFours.cons {group : List Char} {groups : List (List Char)} (hgroups : groups ≠ [])
    (hlength : group.length = 4) (hblank : ∀ c ∈ group, isBlank c = false)
    (h : InFours groups) : InFours (group :: groups) := by
  refine ⟨?_, ?_, List.forall_mem_cons.2 ⟨hblank, h.noBlank⟩⟩
  · rw [List.dropLast_cons_of_ne_nil hgroups]
    exact List.forall_mem_cons.2 ⟨hlength, h.full⟩
  · obtain ⟨first, rest, rfl⟩ := List.exists_cons_of_ne_nil hgroups
    rw [List.getLast?_cons_cons]
    exact h.last

theorem groupsOfFour_nil (fuel : Nat) : groupsOfFour fuel [] = [] := by
  cases fuel <;> rfl

theorem length_drop_four_le {c : Char} (h : (c :: s).length ≤ fuel + 1) :
    ((c :: s).drop 4).length ≤ fuel := by
  rw [List.length_drop]
  omega

theorem flatten_groupsOfFour (h : s.length ≤ fuel) : (groupsOfFour fuel s).flatten = s := by
  fun_induction groupsOfFour fuel s with
  | case1 s => exact (List.length_eq_zero_iff.1 (Nat.le_zero.1 h)).symm
  | case2 => rfl
  | case3 fuel c rest ih =>
    rw [List.flatten_cons, ih (length_drop_four_le h), List.take_append_drop]

theorem groupsOfFour_ne_nil (hs : s ≠ []) (h : s.length ≤ fuel) : groupsOfFour fuel s ≠ [] := by
  intro hnil
  have hflatten := flatten_groupsOfFour h
  rw [hnil] at hflatten
  exact hs hflatten.symm

theorem inFours_groupsOfFour (h : s.length ≤ fuel) (hblank : ∀ c ∈ s, isBlank c = false) :
    InFours (groupsOfFour fuel s) := by
  fun_induction groupsOfFour fuel s with
  | case1 => exact .nil
  | case2 => exact .nil
  | case3 fuel c rest ih =>
    have hrest := length_drop_four_le h
    have hgroup : ∀ d ∈ (c :: rest).take 4, isBlank d = false :=
      fun d hd => hblank d (List.mem_of_mem_take hd)
    by_cases hnone : (c :: rest).drop 4 = []
    · rw [hnone, groupsOfFour_nil]
      exact .singleton (by simp) (List.length_take_le _ _) hgroup
    · refine .cons (groupsOfFour_ne_nil hnone hrest) ?_ hgroup
        (ih hrest fun d hd => hblank d (List.mem_of_mem_drop hd))
      rw [List.drop_eq_nil_iff] at hnone
      rw [List.length_take]
      omega

end Groups

/-! ### The printed number -/

variable {n m : String}

def numberGroups (n : String) : List (List Char) :=
  groupsOfFour (withoutBlanks n).length (withoutBlanks n)

theorem toList_formatCardNumber (n : String) :
    (formatCardNumber n).toList = [' '].intercalate (numberGroups n) :=
  String.toList_ofList

theorem flatten_numberGroups (n : String) : (numberGroups n).flatten = withoutBlanks n :=
  flatten_groupsOfFour (Nat.le_refl _)

theorem inFours_numberGroups (n : String) : InFours (numberGroups n) :=
  inFours_groupsOfFour (Nat.le_refl _) fun _ => not_isBlank_of_mem_withoutBlanks

theorem withoutBlanks_formatCardNumber (n : String) :
    withoutBlanks (formatCardNumber n) = withoutBlanks n := by
  rw [withoutBlanks, toList_formatCardNumber, filter_intercalate, flatten_numberGroups,
    withoutBlanks, List.filter_filter]
  simp only [Bool.and_self]

theorem groups_formatCardNumber (n : String) : groups (formatCardNumber n) = numberGroups n := by
  by_cases hnone : withoutBlanks n = []
  · rw [formatCardNumber, numberGroups, hnone]
    rfl
  · have hprinted : formatCardNumber n ≠ "" := by
      intro hempty
      apply hnone
      rw [← withoutBlanks_formatCardNumber, hempty]
      rfl
    rw [groups, if_neg hprinted, toList_formatCardNumber]
    apply List.splitOn_intercalate
    · intro group hgroup hmem
      have hblank := (inFours_numberGroups n).noBlank group hgroup ' ' hmem
      cases hblank
    · exact groupsOfFour_ne_nil hnone (Nat.le_refl _)

theorem respaced_formatCardNumber (n : String) :
    Respaced n.toList (formatCardNumber n).toList :=
  respaced_iff.2 (withoutBlanks_formatCardNumber n).symm

theorem formatCardNumber_eq_iff :
    formatCardNumber n = formatCardNumber m ↔ Respaced n.toList m.toList := by
  rw [respaced_iff]
  constructor
  · intro h
    rw [← withoutBlanks_formatCardNumber n, h, withoutBlanks_formatCardNumber]
  · intro h
    rw [formatCardNumber, formatCardNumber, h]

/-! ### The readers of a number -/

/-- No reader of a card tells the two numbers apart, whatever else stands on it and on whatever day
it is checked. -/
structure ReadAlike (n m : String) : Prop where
  detect : CardType.detect n = CardType.detect m
  last4 : ∀ c : Card, { c with number := n }.last4 = { c with number := m }.last4
  shown : ∀ c : Card, { c with number := n }.shown = { c with number := m }.shown
  validate : ∀ (c : Card) (today : Date),
    { c with number := n }.validate today = { c with number := m }.validate today

theorem Card.shown_congr {c d : Card} (hlast4 : c.last4 = d.last4)
    (hmonth : c.expMonth = d.expMonth) (hyear : c.expYear = d.expYear) : c.shown = d.shown := by
  unfold Card.shown
  rw [hlast4, hmonth, hyear]

theorem readAlike_of_withoutBlanks (h : withoutBlanks n = withoutBlanks m) : ReadAlike n m := by
  have hdetect : CardType.detect n = CardType.detect m := by
    rw [CardType.detect, CardType.detect, h]
  have hlast4 (c : Card) : { c with number := n }.last4 = { c with number := m }.last4 := by
    rw [Card.last4, Card.last4, h]
  refine ⟨hdetect, hlast4, ?_, ?_⟩
  · intro c
    exact Card.shown_congr (hlast4 c) rfl rfl
  · intro c today
    have hnumber :
        { c with number := n }.numberProblem? = { c with number := m }.numberProblem? := by
      rw [Card.numberProblem?, Card.numberProblem?, h]
    have hcvv : { c with number := n }.cvvProblem? = { c with number := m }.cvvProblem? := by
      rw [Card.cvvProblem?, Card.cvvProblem?, Card.cardType, Card.cardType, hdetect]
    have hproblems :
        { c with number := n }.problems today = { c with number := m }.problems today := by
      rw [Card.problems, Card.problems, hnumber, hcvv]
      rfl
    rw [Card.validate, Card.validate, hproblems]

theorem Text.Respaced.readAlike (h : Respaced n.toList m.toList) : ReadAlike n m :=
  readAlike_of_withoutBlanks (respaced_iff.1 h)

/-- **Formatting a number is transparent.** It keeps all of the number but its blanks, puts that in
groups of four, and changes nothing when it is done again. The printed form is read like the number,
and so is every text that comes from the number by inserting or deleting blanks. -/
theorem formatting_transparent (n : String) :
    withoutBlanks (formatCardNumber n) = withoutBlanks n ∧
      InFours (groups (formatCardNumber n)) ∧
      formatCardNumber (formatCardNumber n) = formatCardNumber n ∧
      ReadAlike n (formatCardNumber n) ∧
      ∀ m : String, Respaced n.toList m.toList → ReadAlike n m := by
  have hrespaced := respaced_formatCardNumber n
  refine ⟨withoutBlanks_formatCardNumber n, ?_, ?_, hrespaced.readAlike, ?_⟩
  · rw [groups_formatCardNumber]
    exact inFours_numberGroups n
  · exact (formatCardNumber_eq_iff.2 hrespaced).symm
  · intro m hm
    exact hm.readAlike

theorem sample_formatting_transparent :
    Respaced "3782 822463 10005".toList "\u30003782 82\u00a02463 1000  5".toList ∧
      ReadAlike "3782 822463 10005" "\u30003782 82\u00a02463 1000  5" := by
  have hrespaced : Respaced "3782 822463 10005".toList "\u30003782 82\u00a02463 1000  5".toList :=
    respaced_iff.2 (by decide)
  exact ⟨hrespaced, (formatting_transparent _).2.2.2.2 _ hrespaced⟩

example : groups (formatCardNumber "3782 822463 10005") =
    ["3782", "8224", "6310", "005"].map String.toList := by
  decide

end CardPayments
