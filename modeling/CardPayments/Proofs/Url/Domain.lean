import CardPayments.Proofs.Url.Percent
import CardPayments.Proofs.Url.Punycode
import Mathlib.Data.List.Chain

/-!
# One spelling of a name

A name that is spelled for comparison is spelled so already: folding it again changes nothing, and
neither does writing its labels in ASCII once more. The tables are searched once, for what the
foldings and compositions lead to, and everything else about them follows from that.
-/

namespace CardPayments

namespace Domain

/-! ### The tables -/

def runFrom (start : Nat) : Nat × Nat × Nat × Nat → List Nat := fun (first, last, step, _) =>
  (List.range ((last - first) / step + 1)).map fun k => start + step * k

/-- A set of numbers as the number with these bits. -/
def maskOf (ns : List Nat) : Nat := ns.foldr (fun n mask => 1 <<< n ||| mask) 0

/-- The code points that no name is spelled with: those that are folded, as large letters and both
wide full stops are, and those that are ignored. -/
def unsettled : List Nat :=
  runFrom 0x41 (0x41, 0x5A, 1, 0) ++ [0x3002, 0xFF61, 0xAD, 0x200B, 0x2060, 0xFEFF] ++
    foldingRuns.flatMap fun row => runFrom row.1 row

def images : List Nat := foldingRuns.flatMap fun row => runFrom row.2.2.2 row

def accents : List Nat := compositions.map fun row => row.1.toNat

def letters : List Nat := compositions.flatMap fun row => row.2.2.toList.map Char.toNat

def areDisjoint (ms ns : List Nat) : Bool := maskOf ms &&& maskOf ns == 0

theorem images_settled : areDisjoint images unsettled = true := by
  decide +kernel

theorem images_valid : ∀ n ∈ images, n < 0xD800 := by
  decide +kernel

theorem letters_settled : areDisjoint letters (unsettled ++ accents) = true := by
  rw [letters, compositions]
  simp only [List.flatMap_cons, List.flatMap_nil]
  repeat rw [String.toList_ofList]
  decide +kernel

theorem testBit_maskOf {ns : List Nat} {n : Nat} : (maskOf ns).testBit n = true ↔ n ∈ ns := by
  induction ns with
  | nil => simp [maskOf]
  | cons m ns ih =>
    rw [maskOf, List.foldr_cons, ← maskOf, Nat.testBit_or, Bool.or_eq_true, ih, List.mem_cons,
      Nat.one_shiftLeft, Nat.testBit_two_pow, decide_eq_true_eq, eq_comm]

theorem not_mem_of_areDisjoint {ms ns : List Nat} (h : areDisjoint ms ns = true) {n : Nat}
    (hn : n ∈ ms) : n ∉ ns := by
  intro hmem
  have hboth : (maskOf ms &&& maskOf ns).testBit n = true := by
    rw [Nat.testBit_and, testBit_maskOf.2 hn, testBit_maskOf.2 hmem]
    rfl
  rw [beq_iff_eq.1 h, Nat.zero_testBit] at hboth
  cases hboth

theorem mem_runFrom {start first last step form n : Nat} (hfirst : first ≤ n) (hlast : n ≤ last)
    (hstep : (n - first) % step = 0) :
    start + (n - first) ∈ runFrom start (first, last, step, form) := by
  refine List.mem_map.2 ⟨(n - first) / step, List.mem_range.2 ?_, ?_⟩
  · have : (n - first) / step ≤ (last - first) / step := Nat.div_le_div_right (by omega)
    omega
  · rw [Nat.mul_div_cancel' (Nat.dvd_of_mod_eq_zero hstep)]

theorem find?_foldingRuns_eq_some {n : Nat} {row : Nat × Nat × Nat × Nat}
    (h : (foldingRuns.find? fun (first, last, step, _) =>
      first ≤ n && n ≤ last && (n - first) % step == 0) = some row) :
    n ∈ unsettled ∧ row.2.2.2 + (n - row.1) ∈ images := by
  obtain ⟨first, last, step, form⟩ := row
  have hin := List.find?_some h
  simp only [Bool.and_eq_true, decide_eq_true_eq, beq_iff_eq] at hin
  obtain ⟨⟨hfirst, hlast⟩, hstep⟩ := hin
  have hrow := List.mem_of_find?_eq_some h
  constructor
  · refine List.mem_append_right _ (List.mem_flatMap.2 ⟨_, hrow, ?_⟩)
    have hmem : first + (n - first) ∈ runFrom first (first, last, step, form) :=
      mem_runFrom hfirst hlast hstep
    rwa [Nat.add_sub_cancel' hfirst] at hmem
  · exact List.mem_flatMap.2 ⟨_, hrow, mem_runFrom hfirst hlast hstep⟩

/-! ### Folding characters -/

theorem toNat_ofNat {n : Nat} (h : n.isValidChar) : (Char.ofNat n).toNat = n := by
  rw [Char.ofNat, dif_pos h]
  rfl

theorem foldChar_cases (c : Char) :
    (c.toNat < 0x80 ∧ foldChar c = c.toLower) ∨
      (c.toNat ∈ unsettled ∧ (foldChar c = '.' ∨ (foldChar c).toNat ∈ images)) ∨
        (0x80 ≤ c.toNat ∧ foldChar c = c) := by
  unfold foldChar
  by_cases hascii : c.toNat < 0x80
  · exact .inl ⟨hascii, if_pos hascii⟩
  by_cases hstop : c.toNat = 0x3002 ∨ c.toNat = 0xFF61
  · have hmem : c.toNat ∈ unsettled := by
      obtain hstop | hstop := hstop <;> rw [hstop] <;> decide
    rw [if_neg hascii, if_pos hstop]
    exact .inr (.inl ⟨hmem, .inl rfl⟩)
  · simp only [if_neg hascii, if_neg hstop]
    split
    · next hfind =>
      obtain ⟨hmem, himage⟩ := find?_foldingRuns_eq_some hfind
      refine .inr (.inl ⟨hmem, .inr ?_⟩)
      rwa [toNat_ofNat (.inl (images_valid _ himage))]
    · exact .inr (.inr ⟨Nat.not_lt.1 hascii, rfl⟩)

def Spelled (c : Char) : Prop := foldChar c = c ∧ isIgnored c = false

theorem spelled_of_not_unsettled {c : Char} (h : c.toNat ∉ unsettled) : Spelled c := by
  constructor
  · obtain ⟨hascii, hfold⟩ | ⟨hmem, -⟩ | ⟨-, hfold⟩ := foldChar_cases c
    · have hlarge : c.toNat ∉ runFrom 0x41 (0x41, 0x5A, 1, 0) := fun hmem =>
        h (List.mem_append_left _ (List.mem_append_left _ hmem))
      have hsmall : c.toNat ∉ runFrom 0x41 (0x41, 0x5A, 1, 0) → c.toLower = c := by
        apply Text.forall_ascii c hascii
        decide
      rw [hfold, hsmall hlarge]
    · exact absurd hmem h
    · exact hfold
  · rw [Bool.eq_false_iff]
    intro hmem
    simp only [isIgnored, Bool.or_eq_true, decide_eq_true_eq] at hmem
    obtain ((rfl | rfl) | rfl) | rfl := hmem <;> exact h (by decide)

theorem spelled_foldChar {c : Char} (h : isIgnored c = false) : Spelled (foldChar c) := by
  obtain ⟨hascii, hfold⟩ | ⟨-, hfold | himage⟩ | ⟨-, hfold⟩ := foldChar_cases c
  · rw [hfold, Spelled]
    apply Text.forall_ascii c hascii
    decide
  · rw [hfold]
    exact ⟨by decide, by decide⟩
  · exact spelled_of_not_unsettled (not_mem_of_areDisjoint images_settled himage)
  · rw [hfold]
    exact ⟨hfold, h⟩

theorem spelled_of_mem_letters {c : Char} (h : c.toNat ∈ letters) : Spelled c :=
  spelled_of_not_unsettled fun hmem =>
    not_mem_of_areDisjoint letters_settled h (List.mem_append_left _ hmem)

/-! ### Joining accents -/

theorem compose?_of_not_accent {c : Char} (h : c.toNat ∉ accents) (base : Char) :
    compose? base c = none := by
  have hnone : (compositions.find? fun row => row.1 == c) = none := by
    rw [List.find?_eq_none]
    intro row hrow heq
    exact h (List.mem_map.2 ⟨row, hrow, congrArg Char.toNat (beq_iff_eq.1 heq)⟩)
  rw [compose?, hnone]
  rfl

theorem mem_letters_of_compose? {base accent letter : Char}
    (h : compose? base accent = some letter) : letter.toNat ∈ letters := by
  rw [compose?, Option.bind_eq_bind, Option.bind_eq_some_iff] at h
  obtain ⟨row, hrow, h⟩ := h
  rw [Option.bind_eq_bind, Option.bind_eq_some_iff] at h
  obtain ⟨pair, hpair, hletter⟩ := h
  obtain rfl := Option.some.inj hletter
  have hmem : pair.2 ∈ row.2.2.toList := (List.of_mem_zip (List.mem_of_find?_eq_some hpair)).2
  exact List.mem_flatMap.2 ⟨row, List.mem_of_find?_eq_some hrow, List.mem_map_of_mem hmem⟩

/-- A text as names are spelled for comparison: its characters are, and no accent stands behind a
letter that it can be joined to. -/
structure Settled (s : List Char) : Prop where
  spelled : ∀ c ∈ s, Spelled c
  joined : s.IsChain fun base c => compose? base c = none

theorem Settled.within {s t : List Char} (h : Settled t) (hpart : s <:+: t) : Settled s :=
  ⟨fun c hc => h.spelled c (hpart.subset hc), h.joined.infix hpart⟩

theorem Settled.composeInto {done : List Char} {c : Char} (h : Settled done.reverse)
    (hc : Spelled c) : Settled (composeInto done c).reverse := by
  obtain ⟨hspelled, hjoined⟩ := h
  simp only [List.mem_reverse] at hspelled
  rw [List.isChain_reverse] at hjoined
  suffices hall : (∀ d ∈ Domain.composeInto done c, Spelled d) ∧
      (Domain.composeInto done c).IsChain fun c base => compose? base c = none by
    refine ⟨fun d hd => hall.1 d (List.mem_reverse.1 hd), ?_⟩
    rw [List.isChain_reverse]
    exact hall.2
  cases done with
  | nil => exact ⟨fun d hd => List.mem_singleton.1 hd ▸ hc, List.isChain_singleton c⟩
  | cons base rest =>
    rw [Domain.composeInto]
    rw [List.forall_mem_cons] at hspelled
    split
    · next letter hletter =>
      have hmem := mem_letters_of_compose? hletter
      have hno : letter.toNat ∉ accents := fun haccent =>
        not_mem_of_areDisjoint letters_settled hmem (List.mem_append_right _ haccent)
      rw [List.isChain_cons] at hjoined ⊢
      exact ⟨List.forall_mem_cons.2 ⟨spelled_of_mem_letters hmem, hspelled.2⟩,
        fun before _ => compose?_of_not_accent hno before, hjoined.2⟩
    · next hnone =>
      exact ⟨List.forall_mem_cons.2 ⟨hc, List.forall_mem_cons.2 hspelled⟩,
        List.isChain_cons_cons.2 ⟨hnone, hjoined⟩⟩

theorem Settled.foldl_composeInto {s done : List Char} (h : Settled done.reverse)
    (hs : ∀ c ∈ s, Spelled c) : Settled (s.foldl Domain.composeInto done).reverse := by
  induction s generalizing done with
  | nil => exact h
  | cons c s ih =>
    rw [List.forall_mem_cons] at hs
    exact ih (h.composeInto hs.1) hs.2

theorem settled_folded (name : List Char) : Settled (folded name) := by
  refine Settled.foldl_composeInto ⟨by simp, List.isChain_nil⟩ fun c hc => ?_
  obtain ⟨d, hd, rfl⟩ := List.mem_map.1 hc
  exact spelled_foldChar (by simpa using (List.mem_filter.1 hd).2)

theorem foldl_composeInto_of_joined {s done : List Char}
    (h : (done.reverse ++ s).IsChain fun base c => compose? base c = none) :
    s.foldl composeInto done = s.reverse ++ done := by
  induction s generalizing done with
  | nil => rfl
  | cons c s ih =>
    have hkept : composeInto done c = c :: done := by
      cases done with
      | nil => rfl
      | cons base rest =>
        have hnone : compose? base c = none :=
          (List.isChain_append.1 h).2.2 base (by simp) c (by simp)
        rw [composeInto, hnone]
    rw [List.foldl_cons, hkept, ih (by simpa using h)]
    simp

theorem folded_of_settled {s : List Char} (h : Settled s) : folded s = s := by
  have hfilter : s.filter (fun c => !isIgnored c) = s :=
    List.filter_eq_self.2 fun c hc => by rw [(h.spelled c hc).2]; rfl
  have hmap : s.map foldChar = s :=
    (List.map_congr_left fun c hc => (h.spelled c hc).1).trans (List.map_id' s)
  have hfold : s.foldl composeInto [] = s.reverse ++ [] := foldl_composeInto_of_joined h.joined
  rw [folded, hfilter, hmap, hfold, List.append_nil, List.reverse_reverse]

/-! ### Splitting -/

theorem mapM_eq_some_iff {α β : Type} {f : α → Option β} {as : List α} {bs : List β} :
    as.mapM f = some bs ↔ as.map f = bs.map some := by
  induction as generalizing bs with
  | nil => cases bs <;> simp
  | cons a as ih => cases bs <;> simp [Option.bind_eq_some_iff, ih]

theorem splitOn_append {sign : Char} {part : List Char} (h : sign ∉ part) (rest : List Char) :
    splitOn sign (part ++ sign :: rest) = part :: splitOn sign rest := by
  induction part with
  | nil => rw [List.nil_append, splitOn, if_pos rfl]
  | cons c part ih =>
    rw [List.mem_cons, not_or] at h
    rw [List.cons_append, splitOn, if_neg fun heq => h.1 heq.symm, ih h.2]

theorem splitOn_of_not_mem {sign : Char} {s : List Char} (h : sign ∉ s) : splitOn sign s = [s] := by
  induction s with
  | nil => rfl
  | cons c s ih =>
    rw [List.mem_cons, not_or] at h
    rw [splitOn, if_neg fun heq => h.1 heq.symm, ih h.2]

theorem splitOn_intercalate {sign : Char} {parts : List (List Char)} (hne : parts ≠ [])
    (h : ∀ part ∈ parts, sign ∉ part) : splitOn sign ([sign].intercalate parts) = parts := by
  match parts, hne with
  | [part], _ =>
    rw [List.intercalate_singleton]
    exact splitOn_of_not_mem (h part List.mem_cons_self)
  | part :: next :: parts, _ =>
    rw [List.forall_mem_cons] at h
    rw [List.intercalate_cons_cons, List.append_assoc, List.singleton_append, splitOn_append h.1,
      splitOn_intercalate (List.cons_ne_nil _ _) h.2]

theorem mem_intercalate {sign c : Char} {parts : List (List Char)}
    (h : c ∈ [sign].intercalate parts) : c = sign ∨ ∃ part ∈ parts, c ∈ part := by
  match parts with
  | [] => cases h
  | [part] =>
    rw [List.intercalate_singleton] at h
    exact .inr ⟨part, List.mem_cons_self, h⟩
  | part :: next :: parts =>
    rw [List.intercalate_cons_cons, List.append_assoc, List.mem_append, List.mem_append] at h
    obtain h | h | h := h
    · exact .inr ⟨part, List.mem_cons_self, h⟩
    · exact .inl (List.mem_singleton.1 h)
    · obtain heq | ⟨p, hp, hc⟩ := mem_intercalate h
      · exact .inl heq
      · exact .inr ⟨p, List.mem_cons_of_mem _ hp, hc⟩

theorem exists_splitOn_eq (sign : Char) (s : List Char) :
    ∃ part parts, splitOn sign s = part :: parts ∧ part <+: s ∧
      ∀ p ∈ part :: parts, p <:+: s ∧ sign ∉ p := by
  induction s with
  | nil => exact ⟨[], [], rfl, List.prefix_rfl, by simp⟩
  | cons c s ih =>
    obtain ⟨part, parts, heq, hstart, hall⟩ := ih
    have hlater (p : List Char) (hp : p ∈ part :: parts) : p <:+: c :: s ∧ sign ∉ p :=
      ⟨(hall p hp).1.trans (List.suffix_cons c s).isInfix, (hall p hp).2⟩
    rw [splitOn]
    split
    · refine ⟨[], part :: parts, by rw [heq], List.nil_prefix, ?_⟩
      exact List.forall_mem_cons.2 ⟨⟨List.nil_infix, List.not_mem_nil⟩, hlater⟩
    · next hne =>
      have hfront : c :: part <+: c :: s := List.cons_prefix_cons.2 ⟨rfl, hstart⟩
      rw [List.forall_mem_cons] at hlater
      refine ⟨c :: part, parts, by rw [heq], hfront,
        List.forall_mem_cons.2 ⟨⟨hfront.isInfix, ?_⟩, hlater.2⟩⟩
      rw [List.mem_cons, not_or]
      exact ⟨fun heq => hne heq.symm, hlater.1.2⟩

theorem mem_splitOn {sign : Char} {s part : List Char} (h : part ∈ splitOn sign s) :
    part <:+: s ∧ sign ∉ part := by
  obtain ⟨first, parts, heq, -, hall⟩ := exists_splitOn_eq sign s
  exact hall part (heq ▸ h)

/-! ### Names in ASCII -/

def isNameChar (c : Char) : Bool := c.toNat < 0x80 && foldChar c == c && !isForbidden c

theorem isNameChar_iff {c : Char} :
    isNameChar c = true ↔ c.toNat < 0x80 ∧ foldChar c = c ∧ isForbidden c = false := by
  simp only [isNameChar, Bool.and_eq_true, decide_eq_true_eq, beq_iff_eq, Bool.not_eq_true',
    and_assoc]

theorem settled_of_isNameChar {s : List Char} (h : ∀ c ∈ s, isNameChar c = true) : Settled s := by
  have haccents : ∀ n ∈ accents, 0x80 ≤ n := by decide
  induction s with
  | nil => exact ⟨by simp, List.isChain_nil⟩
  | cons c s ih =>
    rw [List.forall_mem_cons] at h
    obtain ⟨hspelled, hjoined⟩ := ih h.2
    obtain ⟨hascii, hfold, -⟩ := isNameChar_iff.1 h.1
    have hkept : isIgnored c = false := by
      apply Text.forall_ascii c hascii
      decide
    refine ⟨List.forall_mem_cons.2 ⟨⟨hfold, hkept⟩, hspelled⟩, List.isChain_cons.2 ⟨?_, hjoined⟩⟩
    intro d hd
    obtain ⟨hdascii, -⟩ := isNameChar_iff.1 (h.2 d (List.mem_of_mem_head? hd))
    exact compose?_of_not_accent (fun haccent => by have := haccents _ haccent; omega) c

theorem isNameChar_of_mem_encode {label : List Char} (hsettled : Settled label)
    (hallowed : ∀ c ∈ label, isForbidden c = false) (hdot : '.' ∉ label) {c : Char}
    (hc : c ∈ Punycode.encode label) : isNameChar c = true ∧ c ≠ '.' := by
  have hdigit : ∀ c ∈ Punycode.digitChars, isNameChar c = true ∧ c ≠ '.' :=
    Text.forall_mem (by decide)
  obtain ⟨digits, hdigits, hencode, -⟩ := Punycode.exists_encode_eq label
  rw [hencode, List.mem_append] at hc
  obtain hc | hc := hc
  · split at hc
    · cases hc
    · obtain hc | hc := List.mem_append.1 hc
      · obtain ⟨hmem, hascii⟩ := List.mem_filter.1 hc
        exact ⟨isNameChar_iff.2
            ⟨of_decide_eq_true hascii, (hsettled.spelled c hmem).1, hallowed c hmem⟩,
          fun heq => hdot (heq ▸ hmem)⟩
      · obtain rfl := List.mem_singleton.1 hc
        exact ⟨by decide, by decide⟩
  · exact hdigit c (hdigits c hc)

/-- A label in ASCII is its own ASCII form. -/
theorem labelToAscii?_spec {label ascii : List Char} (hsettled : Settled label)
    (hallowed : ∀ c ∈ label, isForbidden c = false) (hdot : '.' ∉ label)
    (h : labelToAscii? label = some ascii) :
    (∀ c ∈ ascii, isNameChar c = true ∧ c ≠ '.') ∧ labelToAscii? ascii = some ascii := by
  have hown (hascii : isAscii label = true) (c : Char) (hc : c ∈ label) :
      isNameChar c = true ∧ c ≠ '.' :=
    ⟨isNameChar_iff.2 ⟨of_decide_eq_true (List.all_eq_true.1 hascii c hc),
      (hsettled.spelled c hc).1, hallowed c hc⟩, fun heq => hdot (heq ▸ hc)⟩
  have hread := h
  rw [labelToAscii?] at h
  split at h
  · rw [Option.bind_eq_bind, Option.bind_eq_some_iff] at h
    obtain ⟨decoded, -, h⟩ := h
    split at h
    · next hchecked =>
      obtain rfl := Option.some.inj h
      simp only [Bool.and_eq_true] at hchecked
      exact ⟨hown hchecked.1.1.1.1, hread⟩
    · cases h
  · split at h
    · next hascii =>
      obtain rfl := Option.some.inj h
      exact ⟨hown hascii, hread⟩
    · next hbeyond =>
      obtain rfl := Option.some.inj h
      have hmark : ∀ c ∈ asciiMark, isNameChar c = true ∧ c ≠ '.' :=
        Text.forall_mem (by decide)
      have hchars (c : Char) (hc : c ∈ asciiMark ++ Punycode.encode label) :
          isNameChar c = true ∧ c ≠ '.' :=
        (List.mem_append.1 hc).elim (hmark c) (isNameChar_of_mem_encode hsettled hallowed hdot)
      refine ⟨hchars, ?_⟩
      have hascii : isAscii (asciiMark ++ Punycode.encode label) = true :=
        List.all_eq_true.2 fun c hc => decide_eq_true (isNameChar_iff.1 (hchars c hc).1).1
      have hnone : label.any isForbidden = false :=
        List.any_eq_false.2 fun c hc => by simp [hallowed c hc]
      have hdrop : (asciiMark ++ Punycode.encode label).drop 4 = Punycode.encode label := rfl
      have hstart : asciiMark.isPrefixOf (asciiMark ++ Punycode.encode label) = true :=
        List.isPrefixOf_iff_prefix.2 (List.prefix_append _ _)
      rw [labelToAscii?, if_pos hstart, hdrop, Punycode.decode?_encode]
      simp only [Option.bind_eq_bind, Option.bind_some, hascii, hnone, folded_of_settled hsettled,
        Bool.eq_false_iff.2 hbeyond, beq_self_eq_true, Bool.not_false, Bool.and_self, if_true]

theorem toAscii?_eq_some {name ascii : List Char} :
    toAscii? name = some ascii ↔ (∀ c ∈ folded name, isForbidden c = false) ∧
      ∃ forms, (splitOn '.' (folded name)).map labelToAscii? = forms.map some ∧
        ascii = ['.'].intercalate forms := by
  rw [toAscii?]
  cases hany : (folded name).any isForbidden with
  | false =>
    have hallowed : ∀ c ∈ folded name, isForbidden c = false := fun c hc =>
      Bool.eq_false_iff.2 (List.any_eq_false.1 hany c hc)
    simp only [Bool.false_eq_true, if_false, Option.bind_eq_bind, Option.bind_eq_some_iff,
      mapM_eq_some_iff, Option.some_inj]
    exact ⟨fun ⟨forms, hforms, heq⟩ => ⟨hallowed, forms, hforms, heq.symm⟩,
      fun ⟨_, forms, hforms, heq⟩ => ⟨forms, hforms, heq.symm⟩⟩
  | true =>
    obtain ⟨c, hc, hforbidden⟩ := List.any_eq_true.1 hany
    simp only [if_true, Option.bind_eq_bind, Option.bind_none, reduceCtorEq, false_iff, not_and]
    intro hallowed
    rw [hallowed c hc] at hforbidden
    cases hforbidden

theorem toAscii?_intercalate {forms : List (List Char)} (hne : forms ≠ [])
    (h : ∀ form ∈ forms, (∀ c ∈ form, isNameChar c = true ∧ c ≠ '.') ∧
      labelToAscii? form = some form) :
    (∀ c ∈ ['.'].intercalate forms, isNameChar c = true) ∧
      toAscii? (['.'].intercalate forms) = some (['.'].intercalate forms) := by
  have hchars : ∀ c ∈ ['.'].intercalate forms, isNameChar c = true := by
    intro c hc
    obtain rfl | ⟨form, hform, hc⟩ := mem_intercalate hc
    · decide
    · exact ((h form hform).1 c hc).1
  refine ⟨hchars, toAscii?_eq_some.2 ?_⟩
  rw [folded_of_settled (settled_of_isNameChar hchars),
    splitOn_intercalate hne fun form hform hdot => ((h form hform).1 _ hdot).2 rfl]
  exact ⟨fun c hc => (isNameChar_iff.1 (hchars c hc)).2.2, forms,
    List.map_congr_left fun form hform => (h form hform).2, rfl⟩

/-- **A name in ASCII is its own ASCII form**, and it has no characters that names do not have. -/
theorem toAscii?_spec {name ascii : List Char} (h : toAscii? name = some ascii) :
    (∀ c ∈ ascii, isNameChar c = true) ∧ toAscii? ascii = some ascii := by
  obtain ⟨hallowed, forms, hforms, rfl⟩ := toAscii?_eq_some.1 h
  refine toAscii?_intercalate ?_ fun form hform => ?_
  · rintro rfl
    obtain ⟨part, parts, heq, -⟩ := exists_splitOn_eq '.' (folded name)
    simp [heq] at hforms
  · obtain ⟨label, hlabel, hread⟩ := List.mem_map.1 (hforms ▸ List.mem_map_of_mem hform)
    obtain ⟨hpart, hdot⟩ := mem_splitOn hlabel
    exact labelToAscii?_spec ((settled_folded name).within hpart)
      (fun c hc => hallowed c (hpart.subset hc)) hdot hread

end Domain

end CardPayments
