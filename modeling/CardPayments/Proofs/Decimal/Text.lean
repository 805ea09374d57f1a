import CardPayments.Price
import CardPayments.Proofs.Text.Blank

/-!
# Decimals as texts

Every decimal is read back from its own text, with its scale. The whole part is read up to the point
and the fraction behind it; neither runs out of room on the way, because what is read never gets
smaller and ends as the coefficient. The text has no blanks and no exponent, so trimming leaves it
alone and no power of ten is looked for.
-/

namespace CardPayments

namespace Decimal

/-! ### Rows of digits -/

theorem ofDigitChars_cons (c : Char) (ds : List Char) (n : Nat) :
    Nat.ofDigitChars 10 (c :: ds) n = Nat.ofDigitChars 10 ds (10 * n + Text.digitValue c) :=
  Nat.ofDigitChars_cons

theorem le_ofDigitChars (ds : List Char) (n : Nat) : n ≤ Nat.ofDigitChars 10 ds n := by
  rw [Nat.ofDigitChars_eq_ofDigitChars_zero]
  have hpow : 1 ≤ 10 ^ ds.length := Nat.one_le_pow _ _ (by decide)
  calc n = 1 * n := (Nat.one_mul n).symm
    _ ≤ 10 ^ ds.length * n := Nat.mul_le_mul_right n hpow
    _ ≤ _ := Nat.le_add_right _ _

theorem isDigit_of_mem_fixedDigits {width n : Nat} {c : Char} (h : c ∈ Text.fixedDigits width n) :
    c.isDigit = true := by
  induction width generalizing n with
  | zero => cases h
  | succ width ih =>
    rw [Text.fixedDigits, List.mem_append, List.mem_singleton] at h
    obtain h | rfl := h
    · exact ih h
    · rw [Nat.isDigit_digitChar, decide_eq_true_eq]
      exact Nat.mod_lt n (by decide)

/-- The digits of a fixed width are the number in that many places, behind what was read. -/
theorem ofDigitChars_fixedDigits (width n read : Nat) :
    Nat.ofDigitChars 10 (Text.fixedDigits width n) read =
      tenTo width * read + n % tenTo width := by
  induction width generalizing n with
  | zero => simp [Text.fixedDigits, Nat.mod_one]
  | succ width ih =>
    have hlast : Text.digitValue (Nat.digitChar (n % 10)) = n % 10 := by
      rw [Text.digitValue, Nat.toNat_digitChar_of_lt_ten (Nat.mod_lt n (by decide))]
      exact Nat.add_sub_cancel_left 48 _
    have hmod : n % tenTo (width + 1) = n % 10 + 10 * (n / 10 % tenTo width) := by
      rw [tenTo_succ, Nat.mul_comm, Nat.mod_mul]
    rw [Text.fixedDigits, Nat.ofDigitChars_append, ih, ofDigitChars_cons, Nat.ofDigitChars_nil,
      hlast, hmod, tenTo_succ, Nat.mul_add, ← Nat.mul_assoc, Nat.mul_comm 10 (tenTo width)]
    omega

theorem head?_digits {n : Nat} (h : (Text.digits n).head? = some '0') : n = 0 := by
  induction n using Nat.strongRecOn with
  | _ n ih =>
    by_cases hlt : n < 10
    · rw [Text.digits, Nat.toDigits_of_lt_base hlt] at h
      have hsmall : ∀ m < 10, Nat.digitChar m = '0' → m = 0 := by decide
      exact hsmall n hlt (Option.some.inj h)
    · obtain ⟨c, ds, hdigits⟩ := List.exists_cons_of_ne_nil (Text.digits_ne_nil (n / 10))
      rw [Text.digits, Nat.toDigits_of_base_le (by decide) (by omega), ← Text.digits, hdigits,
        List.cons_append, List.head?_cons] at h
      have := ih (n / 10) (by omega) (by rw [hdigits, List.head?_cons, h])
      omega

theorem ofDigitChars_zeros {ds : List Char} (h : ∀ c ∈ ds, c = '0') :
    Nat.ofDigitChars 10 ds 0 = 0 := by
  induction ds with
  | nil => rfl
  | cons c ds ih =>
    rw [ofDigitChars_cons, h c List.mem_cons_self]
    exact ih fun d hd => h d (List.mem_cons_of_mem c hd)

/-! ### Reading digits -/

theorem readWhole_digits {ds rest : List Char} {n : Nat} {seen : Bool}
    (hdigits : ∀ c ∈ ds, c.isDigit = true) (hlt : Nat.ofDigitChars 10 ds n < coefficientBound) :
    readWhole n seen (ds ++ rest) =
      readWhole (Nat.ofDigitChars 10 ds n) (seen || !ds.isEmpty) rest := by
  induction ds generalizing n seen with
  | nil => simp
  | cons c ds ih =>
    rw [ofDigitChars_cons] at hlt ⊢
    have hnext : 10 * n + Text.digitValue c < coefficientBound :=
      Nat.lt_of_le_of_lt (le_ofDigitChars ds _) hlt
    rw [List.cons_append, readWhole, if_pos (hdigits c List.mem_cons_self), if_pos hnext,
      ih (fun d hd => hdigits d (List.mem_cons_of_mem c hd)) hlt]
    simp

theorem readFraction_digits {ds : List Char} {n scale : Nat}
    (hdigits : ∀ c ∈ ds, c.isDigit = true) (hlt : Nat.ofDigitChars 10 ds n < coefficientBound)
    (hscale : scale + ds.length ≤ maxScale) :
    readFraction n scale true ds = some (Nat.ofDigitChars 10 ds n, scale + ds.length) := by
  induction ds generalizing n scale with
  | nil => rfl
  | cons c ds ih =>
    rw [ofDigitChars_cons] at hlt ⊢
    rw [List.length_cons] at hscale ⊢
    have hnext : 10 * n + Text.digitValue c < coefficientBound :=
      Nat.lt_of_le_of_lt (le_ofDigitChars ds _) hlt
    rw [readFraction, if_pos (hdigits c List.mem_cons_self), if_pos ⟨by omega, hnext⟩,
      ih (fun d hd => hdigits d (List.mem_cons_of_mem c hd)) hlt (by omega)]
    rw [Nat.add_assoc, Nat.add_comm 1]

/-- The whole part of a magnitude is read if there is room for it, and then the fraction. -/
theorem readWhole_magnitudeText_of_lt {n scale : Nat} (hlt : n / tenTo scale < coefficientBound)
    (hscale : scale ≠ 0) :
    readWhole 0 false (magnitudeText n scale) =
      readFraction (n / tenTo scale) 0 true (Text.fixedDigits scale n) := by
  have hwhole : Nat.ofDigitChars 10 (Text.digits (n / tenTo scale)) 0 = n / tenTo scale :=
    Nat.ofDigitChars_toDigits (by decide) (by decide)
  have hseen : (Text.digits (n / tenTo scale)).isEmpty = false :=
    List.isEmpty_eq_false_iff.2 (Text.digits_ne_nil _)
  rw [magnitudeText, readWhole_digits (fun _ => Text.isDigit_of_mem_digits) (hwhole.symm ▸ hlt),
    hwhole, hseen, if_neg hscale]
  rfl

theorem ofDigitChars_fraction (n scale : Nat) :
    Nat.ofDigitChars 10 (Text.fixedDigits scale n) (n / tenTo scale) = n := by
  rw [ofDigitChars_fixedDigits, Nat.div_add_mod]

theorem readWhole_magnitudeText {n scale : Nat} (hlt : n < coefficientBound)
    (hscale : scale ≤ maxScale) :
    readWhole 0 false (magnitudeText n scale) = some (n, scale) := by
  by_cases hzero : scale = 0
  · have hwhole : Nat.ofDigitChars 10 (Text.digits n) 0 = n :=
      Nat.ofDigitChars_toDigits (by decide) (by decide)
    have hseen : (Text.digits n).isEmpty = false :=
      List.isEmpty_eq_false_iff.2 (Text.digits_ne_nil n)
    rw [hzero, magnitudeText, if_pos rfl, tenTo_zero, Nat.div_one,
      readWhole_digits (fun _ => Text.isDigit_of_mem_digits) (hwhole.symm ▸ hlt), hwhole, hseen]
    rfl
  · have hle : n / tenTo scale < coefficientBound := Nat.lt_of_le_of_lt (Nat.div_le_self _ _) hlt
    rw [readWhole_magnitudeText_of_lt hle hzero, readFraction_digits
      (fun _ => isDigit_of_mem_fixedDigits) ((ofDigitChars_fraction n scale).symm ▸ hlt)
      (by simpa using hscale), ofDigitChars_fraction, Text.length_fixedDigits, Nat.zero_add]

/-! ### The characters of a decimal -/

theorem mem_magnitudeText {n scale : Nat} {c : Char} (h : c ∈ magnitudeText n scale) :
    c = '.' ∨ c.isDigit = true := by
  rw [magnitudeText, List.mem_append] at h
  obtain h | h := h
  · exact .inr (Text.isDigit_of_mem_digits h)
  · split at h
    · cases h
    · obtain rfl | h := List.mem_cons.1 h
      · exact .inl rfl
      · exact .inr (isDigit_of_mem_fixedDigits h)

section Signed

variable {negative : Bool} {magnitude scale : Nat} {c : Char}

theorem mem_signed (h : c ∈ signText negativeegative ++ magnitudeText magnitude scale) :
    c = '-' ∨ c = '.' ∨ c.isDigit = true := by
  rw [List.mem_append] at h
  obtain h | h := h
  · unfold signText at h
    split at h
    · exact .inl (List.mem_singleton.1 h)
    · cases h
  · exact .inr (mem_magnitudeText h)

theorem not_isExponentMark_of_mem_signed
    (h : c ∈ signText negative ++ magnitudeText magnitude scale) : isExponentMark c = false := by
  rw [isExponentMark, Bool.or_eq_false_iff, decide_eq_false_iff_not, decide_eq_false_iff_not]
  obtain rfl | rfl | hdigit := mem_signed h
  · decide
  · decide
  · constructor <;> rintro rfl <;> exact absurd hdigit (by decide)

theorem not_isBlank_of_mem_signed (h : c ∈ signText negative ++ magnitudeText magnitude scale) :
    Text.isBlank c = false := by
  obtain rfl | rfl | hdigit := mem_signed h
  · decide
  · decide
  · exact Text.not_isBlank_of_isDigit hdigit

theorem trim_signed (negative : Bool) (magnitude scale : Nat) :
    Text.trim (String.ofList (signText negative ++ magnitudeText magnitude scale)) =
      String.ofList (signText negative ++ magnitudeText magnitude scale) := by
  refine Text.trim_of_trimmed (Text.trimmed_of_not_blank fun c hc => ?_)
  rw [String.toList_ofList] at hc
  exact not_isBlank_of_mem_signed hc

end Signed

/-! ### Reading a decimal -/

/-- The same decimal, where a zero has lost its sign. -/
def unsigned (d : Decimal) : Decimal :=
  ofParts d.coefficient d.scale d.coefficient_lt d.scale_le

theorem units_unsigned (d : Decimal) : d.unsigned.units = d.units := units_ofParts

theorem unsigned_eq_self {d : Decimal} (h : d.isSignedZero = false) : d.unsigned = d := by
  have hnegative : decide (d.coefficient < 0) = d.negative := by
    rw [isSignedZero, Bool.and_eq_false_imp, isZero] at h
    rw [coefficient]
    cases hd : d.negative with
    | false => exact decide_eq_false (by simp)
    | true =>
      have hne := of_decide_eq_false (h hd)
      exact decide_eq_true (by simp; omega)
  simp only [unsigned, ofParts, hnegative, natAbs_coefficient]

theorem readPlain_of_isDigit {c : Char} {rest : List Char} (h : c.isDigit = true) :
    readPlain (c :: rest) =
      (readWhole 0 false (c :: rest)).bind fun read => ofParts? read.1 read.2 := by
  have hminus : c ≠ '-' := by
    rintro rfl
    exact absurd h (by decide)
  have hplus : c ≠ '+' := by
    rintro rfl
    exact absurd h (by decide)
  simp [readPlain, hminus, hplus]

theorem readPlain_signed {negative : Bool} {magnitude scale read readScale : Nat}
    (h : readWhole 0 false (magnitudeText magnitude scale) = some (read, readScale)) :
    readPlain (signText negative ++ magnitudeText magnitude scale) =
      ofParts? (if negative then -read else read) readScale := by
  unfold signText
  split
  · simp only [List.cons_append, List.nil_append, readPlain, h, if_true, Option.bind_eq_bind,
      Option.bind_some]
  · obtain ⟨c, rest, hdigits⟩ :=
      List.exists_cons_of_ne_nil (Text.digits_ne_nil (magnitude / tenTo scale))
    have hc : c.isDigit = true := Text.isDigit_of_mem_digits (hdigits ▸ List.mem_cons_self)
    rw [List.nil_append]
    rw [magnitudeText, hdigits, List.cons_append] at h ⊢
    rw [readPlain_of_isDigit hc, h, Option.bind_some]

theorem ofText?_signed (negative : Bool) (magnitude scale : Nat) :
    ofText? (String.ofList (signText negative ++ magnitudeText magnitude scale)) =
      readPlain (signText negative ++ magnitudeText magnitude scale) := by
  have hmarks : (signText negative ++ magnitudeText magnitude scale).dropWhile
      (fun c => !isExponentMark c) = [] := by
    rw [← List.append_nil (signText negative ++ _), List.dropWhile_append_of_pos]
    · rfl
    · intro c hc
      rw [not_isExponentMark_of_mem_signed hc, Bool.not_false]
  rw [ofText?, String.toList_ofList, ofChars?, hmarks]

/-- **A decimal is read back from its text**, with its scale, but for the sign of a zero. -/
theorem ofText?_text (d : Decimal) : ofText? d.text = some d.unsigned := by
  rw [text, chars, ofText?_signed,
    readPlain_signed (readWhole_magnitudeText d.magnitude_lt d.scale_le)]
  exact dif_pos ⟨d.coefficient_lt, d.scale_le⟩

theorem trim_text (d : Decimal) : Text.trim d.text = d.text := trim_signed _ _ _

end Decimal

namespace Price

def unsigned (p : Price) : Price := { p with number := p.number.unsigned }

theorem unsigned_eq_self {p : Price} (h : p.number.isSignedZero = false) : p.unsigned = p := by
  rw [unsigned, Decimal.unsigned_eq_self h]

theorem parse_text (p : Price) : parse p.number.text p.currency = .ok p.unsigned := by
  rw [parse, p.number.trim_text, p.number.ofText?_text, unsigned]

end Price

end CardPayments
