import CardPayments.Url.Reader

/-!
# Percent triples

What is encoded once has nothing left to encode, and it stands for the same bytes as before. So a
text that escapes the percent sign too stands for its own bytes, and whether a segment is a dot
segment is seen from the bytes that it stands for.
-/

namespace CardPayments

namespace Text

/-- The bytes of a character tell where they end and which character it is. -/
theorem utf8EncodeChar_append_inj {a b : Char} {s t : List UInt8}
    (h : String.utf8EncodeChar a ++ s = String.utf8EncodeChar b ++ t) : a = b := by
  have hread (c : Char) (r : List UInt8) :
      (String.utf8EncodeChar c ++ r).toByteArray.utf8DecodeChar? 0 = some c := by
    rw [List.toByteArray_append, ByteArray.utf8DecodeChar?_utf8EncodeChar_append]
  exact Option.some.inj ((hread a s).symm.trans (h ▸ hread b t))

/-- What holds of the 128 characters of ASCII holds of each. -/
theorem forall_ascii {p : Char → Prop} (c : Char) (hc : c.toNat < 128)
    (h : ∀ n < 128, p (Char.ofNat n)) : p c := Char.ofNat_toNat c ▸ h c.toNat hc

theorem forall_mem {p : Char → Prop} [DecidablePred p] {s : List Char}
    (h : s.all (fun c => decide (p c)) = true) : ∀ c ∈ s, p c := fun c hc =>
  of_decide_eq_true (List.all_eq_true.1 h c hc)

theorem toNat_lt_of_isAlphanum {c : Char} (h : c.isAlphanum = true) : c.toNat < 128 := by
  unfold Char.isAlphanum Char.isAlpha Char.isUpper Char.isLower Char.isDigit at h
  simp only [Bool.or_eq_true, Bool.and_eq_true, decide_eq_true_eq, ge_iff_le,
    UInt32.le_iff_toNat_le] at h
  change c.val.toNat < 128
  obtain ((⟨-, h⟩ | ⟨-, h⟩) | ⟨-, h⟩) := h <;> exact Nat.lt_of_le_of_lt h (by decide)

end Text

namespace Percent

def tripleChars : List Char := "%0123456789ABCDEFabcdef".toList

/-- A set that leaves percent triples as they are. -/
def KeepsTriples (isEncoded : Char → Bool) : Prop := ∀ c ∈ tripleChars, isEncoded c = false

theorem isControlSet_eq_false {c : Char} :
    isControlSet c = false ↔ 0x20 ≤ c.toNat ∧ c.toNat ≤ 0x7E := by
  simp only [isControlSet, Bool.or_eq_false_iff, decide_eq_false_iff_not, Nat.not_lt]

theorem isControlSet_of_isPathSet {c : Char} (h : isPathSet c = false) :
    isControlSet c = false := by
  simp only [isPathSet, isFragmentSet, Bool.or_eq_false_iff] at h
  exact h.1.1.1

theorem toNat_lt_of_isControlSet {c : Char} (h : isControlSet c = false) : c.toNat < 128 :=
  Nat.lt_of_le_of_lt (isControlSet_eq_false.1 h).2 (by decide)

theorem keepsTriples_isControlSet : KeepsTriples isControlSet := Text.forall_mem (by decide)

theorem keepsTriples_isPathSet : KeepsTriples isPathSet := Text.forall_mem (by decide)

theorem keepsTriples_isUserInfoSet : KeepsTriples isUserInfoSet := Text.forall_mem (by decide)

/-! ### Encoded texts -/

theorem upperHexDigit_mem {n : Nat} (h : n < 16) : upperHexDigit n ∈ tripleChars := by
  have hall : ∀ n < 16, upperHexDigit n ∈ tripleChars := by decide
  exact hall n h

theorem mem_encodeByte {b : UInt8} {c : Char} (h : c ∈ encodeByte b) : c ∈ tripleChars := by
  have hb : b.toNat < 256 := b.toNat_lt
  simp only [encodeByte, List.mem_cons, List.not_mem_nil, or_false] at h
  obtain rfl | rfl | rfl := h
  · decide
  · exact upperHexDigit_mem (by omega)
  · exact upperHexDigit_mem (by omega)

variable {isEncoded : Char → Bool}

theorem encode_cons (c : Char) (s : List Char) :
    encode isEncoded (c :: s) =
      (if isEncoded c then (String.utf8EncodeChar c).flatMap encodeByte else [c]) ++
        encode isEncoded s := rfl

theorem mem_encode {s : List Char} {c : Char} (h : c ∈ encode isEncoded s) :
    (c ∈ s ∧ isEncoded c = false) ∨ c ∈ tripleChars := by
  obtain ⟨d, hd, hc⟩ := List.mem_flatMap.1 h
  split at hc
  · obtain ⟨b, -, hc⟩ := List.mem_flatMap.1 hc
    exact .inr (mem_encodeByte hc)
  · next hkept =>
    obtain rfl := List.mem_singleton.1 hc
    exact .inl ⟨hd, Bool.eq_false_iff.2 hkept⟩

theorem isEncoded_of_mem_encode (hkeeps : KeepsTriples isEncoded) {s : List Char} {c : Char}
    (h : c ∈ encode isEncoded s) : isEncoded c = false := by
  obtain ⟨-, hc⟩ | hc := mem_encode h
  · exact hc
  · exact hkeeps c hc

theorem encode_of_kept {s : List Char} (h : ∀ c ∈ s, isEncoded c = false) :
    encode isEncoded s = s := by
  induction s with
  | nil => rfl
  | cons c s ih =>
    rw [encode_cons, h c List.mem_cons_self, ih fun d hd => h d (List.mem_cons_of_mem _ hd)]
    rfl

theorem encode_of_not_mem {s : List Char} (h : '%' ∉ encode isEncoded s) :
    encode isEncoded s = s := by
  refine encode_of_kept fun c hc => Bool.eq_false_iff.2 fun hencoded => h ?_
  obtain ⟨b, bytes, hbytes⟩ := List.exists_cons_of_ne_nil (@String.utf8EncodeChar_ne_nil c)
  refine List.mem_flatMap.2 ⟨c, hc, ?_⟩
  rw [if_pos hencoded, hbytes]
  exact List.mem_append_left _ List.mem_cons_self

theorem encode_encode (hkeeps : KeepsTriples isEncoded) (s : List Char) :
    encode isEncoded (encode isEncoded s) = encode isEncoded s :=
  encode_of_kept fun _ hc => isEncoded_of_mem_encode hkeeps hc

theorem encode_eq_nil_iff {s : List Char} : encode isEncoded s = [] ↔ s = [] := by
  constructor
  · intro h
    cases s with
    | nil => rfl
    | cons c s =>
      rw [encode_cons, List.append_eq_nil_iff] at h
      obtain ⟨hc, -⟩ := h
      split at hc
      · obtain ⟨b, bytes, hbytes⟩ := List.exists_cons_of_ne_nil (@String.utf8EncodeChar_ne_nil c)
        simp [hbytes, encodeByte] at hc
      · simp at hc
  · rintro rfl
    rfl

/-! ### Decoding -/

theorem decode_of_ne {c : Char} (h : c ≠ '%') (s : List Char) :
    decode (c :: s) = String.utf8EncodeChar c ++ decode s := by
  rw [decode]
  rintro a b rest heq -
  exact h heq

theorem decode_of_not_mem {s : List Char} (h : '%' ∉ s) : decode s = Text.utf8 s := by
  induction s with
  | nil => rfl
  | cons c s ih =>
    rw [List.mem_cons, not_or] at h
    rw [decode_of_ne fun heq => h.1 heq.symm, ih h.2, Text.utf8, Text.utf8, List.flatMap_cons]

theorem decode_encodeByte_append (b : UInt8) (s : List Char) :
    decode (encodeByte b ++ s) = b :: decode s := by
  have hdigit : ∀ n < 16, Text.hexValue? (upperHexDigit n) = some n := by decide
  have hb : b.toNat < 256 := b.toNat_lt
  rw [encodeByte, List.cons_append, List.cons_append, List.cons_append, List.nil_append, decode,
    hdigit _ (by omega), hdigit _ (by omega)]
  simp only [List.cons.injEq, and_true]
  rw [show 16 * (b.toNat / 16) + b.toNat % 16 = b.toNat by omega, UInt8.ofNat_toNat]

theorem decode_encodeBytes_append (bytes : List UInt8) (s : List Char) :
    decode (bytes.flatMap encodeByte ++ s) = bytes ++ decode s := by
  induction bytes with
  | nil => rfl
  | cons b bytes ih =>
    rw [List.flatMap_cons, List.append_assoc, decode_encodeByte_append, ih, List.cons_append]

theorem decode_encode_of_escaped (h : isEncoded '%' = true) (s : List Char) :
    decode (encode isEncoded s) = Text.utf8 s := by
  induction s with
  | nil => rfl
  | cons c s ih =>
    rw [encode_cons, Text.utf8, List.flatMap_cons]
    split
    · rw [decode_encodeBytes_append, ih, Text.utf8]
    · next hkept =>
      have hne : c ≠ '%' := by
        rintro rfl
        exact hkept h
      rw [List.singleton_append, decode_of_ne hne, ih, Text.utf8]

theorem toNat_lt_of_hexValue? {c : Char} (h : (Text.hexValue? c).isSome = true) :
    c.toNat < 128 := by
  rw [Text.hexValue?] at h
  split at h
  · next hdigit =>
    exact Nat.lt_of_le_of_lt (Char.isDigit_iff_toNat.1 hdigit).2 (by decide)
  · split at h
    · next hlower =>
      simp only [Bool.and_eq_true, decide_eq_true_eq] at hlower
      exact Nat.lt_of_le_of_lt (Char.le_def.1 hlower.2) (by decide)
    · split at h
      · next hupper =>
        simp only [Bool.and_eq_true, decide_eq_true_eq] at hupper
        exact Nat.lt_of_le_of_lt (Char.le_def.1 hupper.2) (by decide)
      · cases h

theorem mem_tripleChars_of_hexValue? {c : Char} (h : (Text.hexValue? c).isSome = true) :
    c ∈ tripleChars := by
  have hascii := toNat_lt_of_hexValue? h
  revert h
  apply Text.forall_ascii c hascii
  decide

/-- Whether two hexadecimal digits stand in front, so that a percent sign before them makes a
triple. -/
def StartsWithDigits (s : List Char) : Prop :=
  ∃ a b rest, s = a :: b :: rest ∧ (Text.hexValue? a).isSome = true ∧
    (Text.hexValue? b).isSome = true

theorem decode_percent {s : List Char} (h : ¬StartsWithDigits s) :
    decode ('%' :: s) = '%'.toUInt8 :: decode s := by
  match s, h with
  | [], _ => rfl
  | [a], _ => rfl
  | a :: b :: rest, h =>
    rw [decode]
    split
    · next x y hx hy => exact absurd ⟨a, b, rest, rfl, by rw [hx]; rfl, by rw [hy]; rfl⟩ h
    · rfl

theorem hexValue?_head_encode {b x : Char} {s t : List Char} (hb : Text.hexValue? b = none)
    (h : encode isEncoded (b :: s) = x :: t) : Text.hexValue? x = none := by
  rw [encode_cons] at h
  split at h
  · obtain ⟨byte, bytes, hbytes⟩ := List.exists_cons_of_ne_nil (@String.utf8EncodeChar_ne_nil b)
    rw [hbytes, List.flatMap_cons, encodeByte] at h
    obtain rfl : '%' = x := (List.cons.inj h).1
    decide
  · obtain rfl : b = x := (List.cons.inj h).1
    exact hb

theorem startsWithDigits_of_encode (hkeeps : KeepsTriples isEncoded) {s : List Char}
    (h : StartsWithDigits (encode isEncoded s)) : StartsWithDigits s := by
  obtain ⟨a, b, rest, heq, ha, hb⟩ := h
  match s with
  | [] => cases heq
  | c :: s =>
    cases hc : Text.hexValue? c with
    | none => simp [hexValue?_head_encode hc heq] at ha
    | some m =>
      have hkept : isEncoded c = false :=
        hkeeps c (mem_tripleChars_of_hexValue? (Option.isSome_iff_exists.2 ⟨m, hc⟩))
      rw [encode_cons, hkept] at heq
      obtain ⟨rfl, hrest⟩ : c = a ∧ encode isEncoded s = b :: rest := List.cons.inj heq
      match s with
      | [] => cases hrest
      | d :: s =>
        cases hd : Text.hexValue? d with
        | none => simp [hexValue?_head_encode hd hrest] at hb
        | some n => exact ⟨c, d, s, rfl, ha, Option.isSome_iff_exists.2 ⟨n, hd⟩⟩

/-- A set that leaves triples as they are does not change the bytes that a text stands for. -/
theorem decode_encode (hkeeps : KeepsTriples isEncoded) (s : List Char) :
    decode (encode isEncoded s) = decode s := by
  have hpercent : isEncoded '%' = false := hkeeps _ (by decide)
  induction s using decode.induct with
  | case1 => rfl
  | case2 a b rest x y hb ha ih =>
    have hakept : isEncoded a = false :=
      hkeeps a (mem_tripleChars_of_hexValue? (Option.isSome_iff_exists.2 ⟨x, ha⟩))
    have hbkept : isEncoded b = false :=
      hkeeps b (mem_tripleChars_of_hexValue? (Option.isSome_iff_exists.2 ⟨y, hb⟩))
    rw [encode_cons, encode_cons, encode_cons, hpercent, hakept, hbkept]
    simp only [Bool.false_eq_true, if_false, List.singleton_append, decode, ha, hb, ih]
  | case3 a b rest hno ih =>
    have hstart : ¬StartsWithDigits (a :: b :: rest) := by
      rintro ⟨_, _, _, ⟨⟩, ha, hb⟩
      obtain ⟨x, hx⟩ := Option.isSome_iff_exists.1 ha
      obtain ⟨y, hy⟩ := Option.isSome_iff_exists.1 hb
      exact hno x y hx hy
    rw [decode_percent hstart, encode_cons, hpercent, if_neg Bool.false_ne_true,
      List.singleton_append, decode_percent fun h => hstart (startsWithDigits_of_encode hkeeps h),
      ih]
  | case4 c rest hno ih =>
    by_cases hc : c = '%'
    · subst hc
      have hstart : ¬StartsWithDigits rest := by
        rintro ⟨a, b, s, rfl, -, -⟩
        exact hno a b s rfl rfl
      rw [decode_percent hstart, encode_cons, hpercent, if_neg Bool.false_ne_true,
        List.singleton_append,
        decode_percent fun h => hstart (startsWithDigits_of_encode hkeeps h), ih]
    · rw [decode_of_ne hc, encode_cons, ← ih]
      split
      · exact decode_encodeBytes_append _ _
      · exact decode_of_ne hc _

end Percent

end CardPayments
