import CardPayments.Proofs.Url.Domain
import CardPayments.Url.Host

/-!
# Addresses there and back

An IPv4 address is written as its four bytes, an IPv6 address as its eight numbers with the longest
run of zeros left out. Both are read back as they were, and what is read is never too large to be
written so.
-/

namespace CardPayments

namespace Host

/-! ### Digits -/

theorem digitsValue?_append_singleton {base n d : Nat} {s : List Char}
    (hs : digitsValue? base s = some n) (hd : d < base) (hbase : base ≤ 16) :
    digitsValue? base (s ++ [Nat.digitChar d]) = some (n * base + d) := by
  rw [digitsValue?, List.foldlM_append, ← digitsValue?, hs, Option.bind_eq_bind, Option.bind_some,
    List.foldlM_cons, Text.hexValue?_digitChar (by omega)]
  simp [hd]

theorem digitsValue?_toDigits {base : Nat} (hpos : 1 < base) (hbase : base ≤ 16) (n : Nat) :
    digitsValue? base (Nat.toDigits base n) = some n := by
  induction n using Nat.strongRecOn with
  | _ n ih =>
    rw [Nat.toDigits_eq_if hpos]
    split
    · next hlt =>
      simpa using digitsValue?_append_singleton (n := 0) (s := []) rfl hlt hbase
    · next hge =>
      have hlt : n / base < n := Nat.div_lt_self (by omega) hpos
      rw [digitsValue?_append_singleton (ih _ hlt) (Nat.mod_lt n (by omega)) hbase,
        Nat.div_add_mod']

theorem digitsValue?_lt {base n : Nat} {s : List Char} (h : digitsValue? base s = some n) :
    n < base ^ s.length := by
  induction s using List.reverseRecOn generalizing n with
  | nil =>
    obtain rfl : 0 = n := Option.some.inj h
    exact Nat.one_pos
  | append_singleton s c ih =>
    rw [digitsValue?, List.foldlM_append, ← digitsValue?] at h
    simp only [Option.bind_eq_bind, Option.bind_eq_some_iff, List.foldlM_cons, List.foldlM_nil] at h
    obtain ⟨m, hm, k, ⟨d, -, hd⟩, hk⟩ := h
    obtain rfl := Option.some.inj hk
    split at hd
    · next hlt =>
      have hfront := Nat.mul_le_mul_right base (Nat.succ_le_of_lt (ih hm))
      have hlast := Option.some.inj hd
      rw [List.length_append, List.length_singleton, Nat.pow_succ]
      rw [Nat.succ_mul] at hfront
      omega
    · cases hd

theorem mem_toDigits {base n : Nat} (hpos : 1 < base) {c : Char} (h : c ∈ Nat.toDigits base n) :
    ∃ d < base, c = Nat.digitChar d := by
  induction n using Nat.strongRecOn with
  | _ n ih =>
    rw [Nat.toDigits_eq_if hpos] at h
    split at h
    · next hlt => exact ⟨n, hlt, List.mem_singleton.1 h⟩
    · next hge =>
      obtain h | h := List.mem_append.1 h
      · exact ih _ (Nat.div_lt_self (by omega) hpos) h
      · exact ⟨n % base, Nat.mod_lt n (by omega), List.mem_singleton.1 h⟩

/-! ### IPv4 -/

theorem ipv4Number?_digits {n : Nat} (h : n < 256) : ipv4Number? (Text.digits n) = some n := by
  have hall : ∀ n < 256, ipv4Number? (Text.digits n) = some n := by decide +kernel
  exact hall n h

def ipv4Bytes (address : Nat) : List Nat := [3, 2, 1, 0].map fun i => address / Nat.pow 256 i % 256

theorem lt_of_mem_ipv4Bytes {address b : Nat} (h : b ∈ ipv4Bytes address) : b < 256 := by
  obtain ⟨i, -, rfl⟩ := List.mem_map.1 h
  exact Nat.mod_lt _ (by decide)

theorem ipv4Chars_eq (address : Nat) :
    ipv4Chars address = ['.'].intercalate ((ipv4Bytes address).map Text.digits) := rfl

theorem splitOn_ipv4Chars (address : Nat) :
    Domain.splitOn '.' (ipv4Chars address) = (ipv4Bytes address).map Text.digits := by
  rw [ipv4Chars_eq]
  refine Domain.splitOn_intercalate (List.cons_ne_nil _ _) fun part hpart hdot => ?_
  obtain ⟨n, -, rfl⟩ := List.mem_map.1 hpart
  exact absurd (Text.isDigit_of_mem_digits hdot) (by decide)

theorem nameParts_ipv4Chars (address : Nat) :
    nameParts (ipv4Chars address) = (ipv4Bytes address).map Text.digits := by
  have hlast := Text.digits_ne_nil (address / Nat.pow 256 0 % 256)
  rw [nameParts, splitOn_ipv4Chars]
  simp only [ipv4Bytes, List.map_cons, List.map_nil, List.reverse_cons, List.reverse_nil,
    List.nil_append, List.cons_append]
  generalize Text.digits (address / Nat.pow 256 0 % 256) = last at hlast
  cases last with
  | nil => exact absurd rfl hlast
  | cons c cs => rfl

theorem endsInNumber_ipv4Chars (address : Nat) : endsInNumber (ipv4Chars address) = true := by
  have hdigits (n : Nat) : (Text.digits n).all Char.isDigit = true :=
    List.all_eq_true.2 fun _ => Text.isDigit_of_mem_digits
  have hempty (n : Nat) : (Text.digits n).isEmpty = false :=
    List.isEmpty_eq_false_iff.2 (Text.digits_ne_nil n)
  rw [endsInNumber, nameParts_ipv4Chars]
  simp [ipv4Bytes, hdigits, hempty]

theorem ipv4?_ipv4Chars {address : Nat} (h : address < 256 ^ 4) :
    ipv4? (ipv4Chars address) = some address := by
  have hnumbers : ((ipv4Bytes address).map Text.digits).mapM ipv4Number? =
      some (ipv4Bytes address) := by
    rw [Domain.mapM_eq_some_iff, List.map_map]
    exact List.map_congr_left fun b hb => ipv4Number?_digits (lt_of_mem_ipv4Bytes hb)
  rw [ipv4?, nameParts_ipv4Chars]
  simp only [hnumbers, Option.bind_eq_bind, Option.bind_some]
  simp [ipv4Bytes]
  omega

theorem foldr_bytes {bytes : List Nat} (weight : Nat) (h : ∀ b ∈ bytes, b ≤ 255) :
    let sum := bytes.foldr (fun b sum => (sum.1 + b * sum.2, sum.2 * 256)) (0, weight)
    sum.2 = weight * 256 ^ bytes.length ∧ sum.1 + weight ≤ sum.2 := by
  induction bytes with
  | nil => simp
  | cons b bytes ih =>
    rw [List.forall_mem_cons] at h
    obtain ⟨hweight, hle⟩ := ih h.2
    have hb := Nat.mul_le_mul_right (weight * 256 ^ bytes.length) h.1
    simp only [List.foldr_cons, List.length_cons, Nat.pow_succ, hweight] at hle ⊢
    exact ⟨by rw [Nat.mul_assoc], by omega⟩

theorem ipv4?_lt {name : List Char} {address : Nat} (h : ipv4? name = some address) :
    address < 256 ^ 4 := by
  rw [ipv4?] at h
  simp only [Option.bind_eq_bind] at h
  split at h
  · cases h
  · next hfew =>
    simp only [Option.bind_eq_some_iff] at h
    obtain ⟨numbers, hnumbers, last, -, h⟩ := h
    split at h
    · cases h
    · next hbounds =>
      simp only [Bool.or_eq_true, decide_eq_true_eq, not_or, Nat.not_le, Bool.not_eq_true,
        List.any_eq_false, Nat.not_lt] at hbounds
      have hlength := congrArg List.length (Domain.mapM_eq_some_iff.1 hnumbers)
      rw [List.length_map, List.length_map] at hlength
      have hfew' : numbers.dropLast.length ≤ 3 := by
        rw [List.length_dropLast]
        omega
      obtain ⟨hweight, hle⟩ := foldr_bytes (Nat.pow 256 (4 - numbers.dropLast.length)) hbounds.1
      have htotal : Nat.pow 256 (4 - numbers.dropLast.length) * 256 ^ numbers.dropLast.length =
          256 ^ 4 := by
        rw [Nat.pow_eq, ← Nat.pow_add, Nat.sub_add_cancel (by omega)]
      have haddress := Option.some.inj h
      omega

theorem toAscii?_ipv4Chars (address : Nat) :
    (∀ c ∈ ipv4Chars address, Domain.isNameChar c = true) ∧
      Domain.toAscii? (ipv4Chars address) = some (ipv4Chars address) := by
  have hdigit (c : Char) (h : c.isDigit = true) :
      c.toNat < 0x80 ∧ (Domain.isNameChar c = true ∧ c ≠ '.') ∧ c ≠ 'x' := by
    have hascii : c.toNat < 128 := Nat.lt_of_le_of_lt (Char.isDigit_iff_toNat.1 h).2 (by decide)
    refine ⟨hascii, ?_⟩
    revert h
    apply Text.forall_ascii c hascii
    decide
  rw [ipv4Chars_eq]
  refine Domain.toAscii?_intercalate (List.cons_ne_nil _ _) fun form hform => ?_
  obtain ⟨n, -, rfl⟩ := List.mem_map.1 hform
  refine ⟨fun c hc => (hdigit c (Text.isDigit_of_mem_digits hc)).2.1, ?_⟩
  have hascii : Domain.isAscii (Text.digits n) = true :=
    List.all_eq_true.2 fun c hc => decide_eq_true (hdigit c (Text.isDigit_of_mem_digits hc)).1
  have hmark : ¬Domain.asciiMark.isPrefixOf (Text.digits n) = true := by
    intro hstart
    have hmem : 'x' ∈ Text.digits n := (List.isPrefixOf_iff_prefix.1 hstart).subset (by decide)
    exact (hdigit 'x' (Text.isDigit_of_mem_digits hmem)).2.2 rfl
  rw [Domain.labelToAscii?, if_neg hmark, if_pos hascii]

/-! ### IPv6 -/

theorem hexPiece?_hexDigits {n : Nat} (h : n < 65536) : hexPiece? (Text.hexDigits n) = some n := by
  have hlength : (Text.hexDigits n).length ≤ 4 :=
    (Nat.length_toDigits_le_iff (by decide) (by decide)).2 h
  have hne : Text.hexDigits n ≠ [] := Nat.toDigits_ne_nil
  rw [hexPiece?, if_neg (by simp [hne, hlength])]
  exact digitsValue?_toDigits (by decide) (by decide) n

theorem hexPiece?_lt {s : List Char} {n : Nat} (h : hexPiece? s = some n) : n < 65536 := by
  rw [hexPiece?] at h
  split at h
  · cases h
  · next hlength =>
    simp only [Bool.or_eq_true, decide_eq_true_eq, not_or, Nat.not_lt] at hlength
    exact Nat.lt_of_lt_of_le (digitsValue?_lt h) (Nat.pow_le_pow_right (by decide) hlength.2)

theorem embeddedIpv4?_lt {s : List Char} {pieces : List Nat} (h : embeddedIpv4? s = some pieces) :
    ∀ n ∈ pieces, n < 65536 := by
  rw [embeddedIpv4?, Option.bind_eq_bind, Option.bind_eq_some_iff] at h
  obtain ⟨bytes, -, h⟩ := h
  split at h
  · split at h
    · next hall =>
      simp only [List.all_cons, List.all_nil, Bool.and_eq_true, decide_eq_true_eq] at hall
      obtain rfl := Option.some.inj h
      exact List.forall_mem_cons.2 ⟨by omega, List.forall_mem_singleton.2 (by omega)⟩
    · cases h
  · cases h

theorem pieces?_lt {parts : List (List Char)} {pieces : List Nat}
    (h : pieces? parts = some pieces) : ∀ n ∈ pieces, n < 65536 := by
  induction parts generalizing pieces with
  | nil =>
    obtain rfl := Option.some.inj h
    simp
  | cons part parts ih =>
    cases parts with
    | nil =>
      rw [pieces?] at h
      split at h
      · exact embeddedIpv4?_lt h
      · obtain ⟨n, hn, rfl⟩ := Option.map_eq_some_iff.1 h
        exact List.forall_mem_singleton.2 (hexPiece?_lt hn)
    | cons next parts =>
      simp only [pieces?, Option.bind_eq_bind, Option.bind_eq_some_iff] at h
      obtain ⟨n, hn, rest, hrest, heq⟩ := h
      obtain rfl := Option.some.inj heq
      exact List.forall_mem_cons.2 ⟨hexPiece?_lt hn, ih hrest⟩

theorem run?_lt {s : List Char} {pieces : List Nat} (h : run? s = some pieces) :
    ∀ n ∈ pieces, n < 65536 := by
  rw [run?] at h
  split at h
  · obtain rfl := Option.some.inj h
    simp
  · exact pieces?_lt h

/-- Eight numbers of sixteen bits. -/
structure IsIpv6 (pieces : List Nat) : Prop where
  length : pieces.length = 8
  lt : ∀ n ∈ pieces, n < 65536

theorem isIpv6_of_ipv6? {s : List Char} {pieces : List Nat} (h : ipv6? s = some pieces) :
    IsIpv6 pieces := by
  rw [ipv6?] at h
  split at h
  simp only [Option.bind_eq_bind] at h
  split at h
  · rw [Option.bind_eq_some_iff] at h
    obtain ⟨run, hrun, h⟩ := h
    split at h
    · next hlength =>
      obtain rfl := Option.some.inj h
      exact ⟨hlength, run?_lt hrun⟩
    · cases h
  · split at h
    · cases h
    · simp only [Option.bind_eq_some_iff] at h
      obtain ⟨front, hfront, back, hback, h⟩ := h
      split at h
      · next hroom =>
        obtain rfl := Option.some.inj h
        refine ⟨by simp; omega, fun n hn => ?_⟩
        simp only [List.mem_append, List.mem_replicate] at hn
        obtain (hn | ⟨-, rfl⟩) | hn := hn
        · exact run?_lt hfront n hn
        · decide
        · exact run?_lt hback n hn
      · cases h

/-! ### Runs of pieces -/

def joined (pieces : List Nat) : List Char := [':'].intercalate (pieces.map pieceChars)

theorem hexDigit_of_mem_pieceChars {n : Nat} {c : Char} (h : c ∈ pieceChars n) :
    c ∈ "0123456789abcdef".toList := by
  have hall : ∀ d < 16, Nat.digitChar d ∈ "0123456789abcdef".toList := by decide
  obtain ⟨d, hd, rfl⟩ := mem_toDigits (by decide) h
  exact hall d hd

theorem pieces?_map {pieces : List Nat} (h : ∀ n ∈ pieces, n < 65536) :
    pieces? (pieces.map pieceChars) = some pieces := by
  induction pieces with
  | nil => rfl
  | cons n pieces ih =>
    rw [List.forall_mem_cons] at h
    have hread : hexPiece? (pieceChars n) = some n := hexPiece?_hexDigits h.1
    cases pieces with
    | nil =>
      have hdot : ¬(pieceChars n).contains '.' = true := by
        rw [List.contains_iff_mem]
        exact fun hmem => absurd (hexDigit_of_mem_pieceChars hmem) (by decide)
      rw [List.map_singleton, pieces?, if_neg hdot, hread]
      rfl
    | cons m pieces =>
      have hrest := ih h.2
      rw [List.map_cons] at hrest
      simp only [List.map_cons, pieces?, hread, hrest, Option.bind_eq_bind, Option.bind_some]
      rfl

theorem colon_not_mem_pieceChars (n : Nat) : ':' ∉ pieceChars n := fun h =>
  absurd (hexDigit_of_mem_pieceChars h) (by decide)

theorem pieceChars_ne_nil (n : Nat) : pieceChars n ≠ [] := Nat.toDigits_ne_nil

theorem joined_cons_cons (n m : Nat) (pieces : List Nat) :
    joined (n :: m :: pieces) = pieceChars n ++ ':' :: joined (m :: pieces) := by
  simp [joined]

theorem mem_joined {pieces : List Nat} {c : Char} (h : c ∈ joined pieces) :
    c ∈ ":0123456789abcdef".toList := by
  obtain rfl | ⟨part, hpart, hc⟩ := Domain.mem_intercalate h
  · decide
  · obtain ⟨n, -, rfl⟩ := List.mem_map.1 hpart
    have hsubset : "0123456789abcdef".toList ⊆ ":0123456789abcdef".toList := by decide
    exact hsubset (hexDigit_of_mem_pieceChars hc)

theorem run?_joined {pieces : List Nat} (h : ∀ n ∈ pieces, n < 65536) :
    run? (joined pieces) = some pieces := by
  cases pieces with
  | nil => rfl
  | cons n pieces =>
    have hsplit : Domain.splitOn ':' (joined (n :: pieces)) = (n :: pieces).map pieceChars := by
      refine Domain.splitOn_intercalate (by simp) fun part hpart => ?_
      obtain ⟨m, -, rfl⟩ := List.mem_map.1 hpart
      exact colon_not_mem_pieceChars m
    have hne : joined (n :: pieces) ≠ [] := by
      intro hnil
      rw [hnil, List.map_cons] at hsplit
      exact pieceChars_ne_nil n (List.cons.inj hsplit).1.symm
    rw [run?, if_neg (by simpa using hne), hsplit, pieces?_map h]

/-! ### The gap -/

def NoGap (s : List Char) : Prop := s.IsChain fun a b => ¬(a = ':' ∧ b = ':')

theorem noGap_append {part t : List Char} (hpart : ':' ∉ part) (ht : NoGap t) :
    NoGap (part ++ t) := by
  induction part with
  | nil => exact ht
  | cons c part ih =>
    rw [List.mem_cons, not_or] at hpart
    exact List.isChain_cons.2 ⟨fun d _ hboth => hpart.1 hboth.1.symm, ih hpart.2⟩

theorem noGap_colon_piece (n : Nat) {t : List Char} (ht : NoGap t) :
    NoGap (':' :: (pieceChars n ++ t)) := by
  have hpart := colon_not_mem_pieceChars n
  refine List.isChain_cons.2 ⟨?_, noGap_append hpart ht⟩
  obtain ⟨c, cs, hcons⟩ := List.exists_cons_of_ne_nil (pieceChars_ne_nil n)
  rw [hcons, List.mem_cons, not_or] at hpart
  rw [hcons]
  rintro d hd ⟨-, rfl⟩
  exact hpart.1 (Option.some.inj hd).symm

theorem noGap_colon_joined {n : Nat} {pieces : List Nat} {t : List Char} (ht : NoGap t) :
    NoGap (':' :: (joined (n :: pieces) ++ t)) := by
  induction pieces generalizing n with
  | nil =>
    rw [joined, List.map_singleton, List.intercalate_singleton]
    exact noGap_colon_piece n ht
  | cons m pieces ih =>
    rw [joined_cons_cons, List.append_assoc, List.cons_append]
    exact noGap_colon_piece n ih

theorem noGap_joined (pieces : List Nat) : NoGap (joined pieces ++ [':']) := by
  have hcolon : NoGap [':'] := List.isChain_singleton _
  cases pieces with
  | nil => exact hcolon
  | cons n pieces => exact (noGap_colon_joined hcolon).tail

theorem splitAtGap_of_noGap {s : List Char} (h : NoGap s) : splitAtGap s = (s, none) := by
  induction s with
  | nil => rfl
  | cons c s ih =>
    rw [NoGap, List.isChain_cons] at h
    rw [splitAtGap, ih h.2]
    rintro rest rfl rfl
    exact h.1 ':' rfl ⟨rfl, rfl⟩

theorem splitAtGap_append {s : List Char} (h : NoGap (s ++ [':'])) (rest : List Char) :
    splitAtGap (s ++ ':' :: ':' :: rest) = (s, some rest) := by
  induction s with
  | nil => rfl
  | cons c s ih =>
    rw [List.cons_append, NoGap, List.isChain_cons] at h
    rw [List.cons_append, splitAtGap, ih h.2]
    rintro more rfl hmore
    refine h.1 ':' ?_ ⟨rfl, rfl⟩
    cases s with
    | nil => rfl
    | cons d s => exact congrArg some (List.cons.inj hmore).1

/-! ### The longest run of zeros -/

/-- All the zeros from a place on, and how many they are. -/
def IsZeroRun (pieces : List Nat) (run : Nat × Nat) : Prop :=
  run.2 = ((pieces.drop run.1).takeWhile (· == 0)).length

theorem IsZeroRun.eq_append {pieces : List Nat} {start size : Nat}
    (h : IsZeroRun pieces (start, size)) :
    pieces = pieces.take start ++ (List.replicate size 0 ++ pieces.drop (start + size)) := by
  have hzeros : (pieces.drop start).takeWhile (· == 0) = List.replicate size 0 :=
    List.eq_replicate_iff.2 ⟨h.symm, fun n hn => by simpa using List.mem_takeWhile_imp hn⟩
  have hsplit : pieces.drop start =
      List.replicate size 0 ++ (pieces.drop start).dropWhile (· == 0) := by
    rw [← hzeros, List.takeWhile_append_dropWhile]
  have hrest : pieces.drop (start + size) = (pieces.drop start).dropWhile (· == 0) := by
    rw [← List.drop_drop, hsplit, List.drop_left' List.length_replicate, ← hsplit]
  rw [hrest, ← hsplit, List.take_append_drop]

theorem zeroRun_spec (pieces : List Nat) :
    (zeroRun pieces).2 = 0 ∨ 2 ≤ (zeroRun pieces).2 ∧ IsZeroRun pieces (zeroRun pieces) := by
  rw [zeroRun]
  have hruns : ∀ run ∈ (List.range pieces.length).map fun i =>
      (i, ((pieces.drop i).takeWhile (· == 0)).length), IsZeroRun pieces run := by
    intro run hrun
    obtain ⟨i, -, rfl⟩ := List.mem_map.1 hrun
    rfl
  generalize ((List.range pieces.length).map fun i =>
    (i, ((pieces.drop i).takeWhile (· == 0)).length)) = runs at hruns
  -- What holds of the best run so far holds of the next, whichever run it begins with.
  have hbest : ((0, 0) : Nat × Nat).2 = 0 ∨ 2 ≤ ((0, 0) : Nat × Nat).2 ∧ IsZeroRun pieces (0, 0) :=
    .inl rfl
  generalize ((0, 0) : Nat × Nat) = best at hbest
  induction runs generalizing best with
  | nil => exact hbest
  | cons run runs ih =>
    rw [List.forall_mem_cons] at hruns
    refine ih hruns.2 _ ?_
    beta_reduce
    split
    · next hbetter => exact .inr ⟨hbetter.2, hruns.1⟩
    · exact hbest

theorem ipv6?_joined {pieces : List Nat} (h : IsIpv6 pieces) :
    ipv6? (joined pieces) = some pieces := by
  have hgap : splitAtGap (joined pieces) = (joined pieces, none) :=
    splitAtGap_of_noGap (List.isChain_append.1 (noGap_joined pieces)).1
  rw [ipv6?, hgap]
  simp only [run?_joined h.lt, Option.bind_eq_bind, Option.bind_some, h.length, if_true]

theorem ipv6?_gap {front back : List Nat} {size : Nat} (hsize : 0 < size)
    (h : IsIpv6 (front ++ (List.replicate size 0 ++ back))) :
    ipv6? (joined front ++ "::".toList ++ joined back) =
      some (front ++ (List.replicate size 0 ++ back)) := by
  have hgap : splitAtGap (joined front ++ "::".toList ++ joined back) =
      (joined front, some (joined back)) := by
    rw [List.append_assoc]
    exact splitAtGap_append (noGap_joined front) (joined back)
  have hlt := h.lt
  simp only [List.forall_mem_append] at hlt
  have hlength := h.length
  simp only [List.length_append, List.length_replicate] at hlength
  have hdot : ¬(joined front).contains '.' = true := by
    rw [List.contains_iff_mem]
    exact fun hmem => absurd (mem_joined hmem) (by decide)
  have hzeros : 8 - front.length - back.length = size := by omega
  rw [ipv6?, hgap]
  simp only [if_neg hdot, run?_joined hlt.1, run?_joined hlt.2.2, Option.bind_eq_bind,
    Option.bind_some, hzeros, List.append_assoc]
  rw [if_pos (by omega)]

/-- **An IPv6 address is read back as it was.** -/
theorem ipv6?_ipv6Chars {pieces : List Nat} (h : IsIpv6 pieces) :
    ipv6? (ipv6Chars pieces) = some pieces := by
  have hspec := zeroRun_spec pieces
  rw [ipv6Chars]
  generalize zeroRun pieces = run at hspec ⊢
  obtain ⟨start, size⟩ := run
  cases size with
  | zero => exact ipv6?_joined h
  | succ size =>
    have heq := (hspec.resolve_left size.succ_ne_zero).2.eq_append
    have hread := ipv6?_gap size.succ_pos (heq ▸ h)
    rw [← heq] at hread
    exact hread

theorem mem_ipv6Chars {pieces : List Nat} {c : Char} (h : c ∈ ipv6Chars pieces) :
    c ∈ ":0123456789abcdef".toList := by
  rw [ipv6Chars] at h
  split at h
  · exact mem_joined h
  · simp only [List.mem_append] at h
    obtain (h | h) | h := h
    · exact mem_joined h
    · exact (show "::".toList ⊆ ":0123456789abcdef".toList by decide) h
    · exact mem_joined h

end Host

end CardPayments
