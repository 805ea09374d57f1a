import CardPayments.Proofs.Decimal.Sum
import CardPayments.Proofs.Decimal.TwoPlaces

/-!
# Reading back two places

The text in two places is read back as the amount that it shows, the decimal rounded to hundredths.
Large decimals have two digits more in the text than a coefficient has room for. These are zeros,
because so large a decimal has no hundredths of its own, and the reading stops at the first of them
without loss: what is read is a whole number of the places that were given up. The rest follows from
what rounding does to values.
-/

namespace CardPayments

/-! ### Rounding half away from zero -/

theorem roundHalfAway_intCast (n : ℤ) : roundHalfAway (n : ℚ) = n := by
  have hhalf (m : ℤ) : ⌊(m : ℚ) + 1 / 2⌋ = m := by
    rw [Int.floor_intCast_add]
    norm_num
  unfold roundHalfAway
  split
  · rw [← Int.cast_neg, hhalf, neg_neg]
  · exact hhalf n

theorem roundHalfAway_mono {x y : ℚ} (h : x ≤ y) : roundHalfAway x ≤ roundHalfAway y := by
  have hnonneg {z : ℚ} (hz : 0 ≤ z) : 0 ≤ ⌊z + 1 / 2⌋ := Int.floor_nonneg.2 (by linarith)
  unfold roundHalfAway
  by_cases hx : x < 0 <;> by_cases hy : y < 0
  · rw [if_pos hx, if_pos hy]
    exact neg_le_neg (Int.floor_le_floor (by linarith))
  · rw [if_pos hx, if_neg hy]
    have hleft : 0 ≤ ⌊-x + 1 / 2⌋ := hnonneg (by linarith)
    have hright : 0 ≤ ⌊y + 1 / 2⌋ := hnonneg (by linarith)
    omega
  · exact absurd (lt_of_le_of_lt h hy) hx
  · rw [if_neg hx, if_neg hy]
    exact Int.floor_le_floor (by linarith)

theorem abs_roundHalfAway_sub_le (x : ℚ) : |roundHalfAway x - x| ≤ 1 / 2 := by
  have hfloor (z : ℚ) : |(⌊z + 1 / 2⌋ : ℚ) - z| ≤ 1 / 2 := by
    rw [abs_le]
    constructor
    · linarith [Int.lt_floor_add_one (z + 1 / 2)]
    · linarith [Int.floor_le (z + 1 / 2)]
  unfold roundHalfAway
  split
  · have hmirror : ((-⌊-x + 1 / 2⌋ : ℤ) : ℚ) - x = -((⌊-x + 1 / 2⌋ : ℚ) - -x) := by
      push_cast
      ring
    rw [hmirror, abs_neg]
    exact hfloor (-x)
  · exact hfloor x

namespace Decimal

/-! ### Values -/

theorem value_eq_units (d : Decimal) : d.value = d.units / 10 ^ maxScale := by
  have hsplit : (10 : ℚ) ^ maxScale = 10 ^ d.scale * 10 ^ (maxScale - d.scale) := by
    rw [← pow_add, Nat.add_sub_cancel' d.scale_le]
  rw [value, units, hsplit, Int.cast_mul, Int.cast_natCast, cast_tenTo]
  field_simp

theorem le_iff_value {a b : Decimal} : a ≤ b ↔ a.value ≤ b.value := by
  rw [value_eq_units, value_eq_units, le_iff_units, div_le_div_iff_of_pos_right (by positivity),
    Int.cast_le]

/-! ### Magnitudes without room -/

theorem ofDigitChars_lt {ds : List Char} (hdigits : ∀ c ∈ ds, c.isDigit = true) :
    Nat.ofDigitChars 10 ds 0 < tenTo ds.length := by
  induction ds with
  | nil => decide
  | cons c ds ih =>
    have hrest := ih fun d hd => hdigits d (List.mem_cons_of_mem c hd)
    have hdigit : Text.digitValue c < 10 := by
      have hc := hdigits c List.mem_cons_self
      simp only [Char.isDigit, Bool.and_eq_true, decide_eq_true_eq, UInt32.le_iff_toNat_le] at hc
      rw [Text.digitValue]
      change c.toNat - 48 < 10
      have : c.toNat ≤ 57 := hc.2
      omega
    rw [ofDigitChars_cons, Nat.ofDigitChars_eq_ofDigitChars_zero, List.length_cons, tenTo_succ]
    change tenTo ds.length * _ + _ < _
    have hlead : tenTo ds.length * (10 * 0 + Text.digitValue c) ≤ tenTo ds.length * 9 :=
      Nat.mul_le_mul_left _ (by omega)
    omega

/-- A fraction is read as far as there is room. Where the whole amount is a coefficient with room
and zeros behind it, only zeros are left unread. -/
theorem readFraction_of_multiple {ds : List Char} {n scale c j : Nat}
    (hdigits : ∀ d ∈ ds, d.isDigit = true) (hn : n < coefficientBound) (hc : c < coefficientBound)
    (htotal : Nat.ofDigitChars 10 ds n = c * tenTo j) (hscale : scale + ds.length ≤ maxScale) :
    ∃ m s, readFraction n scale true ds = some (m, s) ∧ m < coefficientBound ∧
      s ≤ scale + ds.length ∧ m * tenTo (scale + ds.length - s) = Nat.ofDigitChars 10 ds n := by
  induction ds generalizing n scale with
  | nil => exact ⟨n, scale, rfl, hn, Nat.le_refl _, by simp⟩
  | cons d ds ih =>
    have hd := hdigits d List.mem_cons_self
    have hrest : ∀ e ∈ ds, e.isDigit = true := fun e he => hdigits e (List.mem_cons_of_mem d he)
    rw [List.length_cons] at hscale ⊢
    rw [readFraction, if_pos hd]
    by_cases hnext : 10 * n + Text.digitValue d < coefficientBound
    · rw [if_pos ⟨by omega, hnext⟩]
      have hroom : scale + 1 + ds.length ≤ maxScale := by omega
      obtain ⟨m, s, hread, hm, hs, hvalue⟩ := ih hrest hnext htotal hroom
      rw [Nat.add_assoc, Nat.add_comm 1] at hs hvalue
      exact ⟨m, s, hread, hm, hs, hvalue⟩
    · have hsplit : Nat.ofDigitChars 10 (d :: ds) n =
          tenTo (ds.length + 1) * n + Nat.ofDigitChars 10 (d :: ds) 0 :=
        Nat.ofDigitChars_eq_ofDigitChars_zero
      have hsmall : Nat.ofDigitChars 10 (d :: ds) 0 < tenTo (ds.length + 1) :=
        ofDigitChars_lt hdigits
      have hlarge : coefficientBound * tenTo ds.length ≤ c * tenTo j := by
        rw [← htotal, ofDigitChars_cons, Nat.ofDigitChars_eq_ofDigitChars_zero, Nat.mul_comm]
        exact Nat.le_trans (Nat.mul_le_mul_left _ (Nat.not_lt.1 hnext)) (Nat.le_add_right _ _)
      have hj : ds.length < j := by
        by_contra hle
        have hpow : tenTo j ≤ tenTo ds.length := tenTo_le_of_le (Nat.not_lt.1 hle)
        have hlt : c * tenTo ds.length < coefficientBound * tenTo ds.length :=
          Nat.mul_lt_mul_of_pos_right hc (tenTo_pos _)
        exact absurd (Nat.le_trans hlarge (Nat.mul_le_mul_left c hpow)) (Nat.not_le.2 hlt)
      have hzero : Nat.ofDigitChars 10 (d :: ds) 0 = 0 := by
        have hdvd : tenTo (ds.length + 1) ∣ Nat.ofDigitChars 10 (d :: ds) n :=
          htotal ▸ Dvd.dvd.mul_left (Nat.pow_dvd_pow 10 hj) c
        rw [hsplit, Nat.dvd_add_right (Nat.dvd_mul_right _ _)] at hdvd
        exact Nat.eq_zero_of_dvd_of_lt hdvd hsmall
      have hdigit : Text.digitValue d = 0 := by
        rw [ofDigitChars_cons] at hzero
        have := le_ofDigitChars ds (10 * 0 + Text.digitValue d)
        omega
      rw [if_neg fun h => hnext h.2, hdigit]
      refine ⟨n, scale, rfl, hn, by omega, ?_⟩
      rw [hsplit, hzero, Nat.add_sub_cancel_left]
      exact Nat.mul_comm n _

theorem readWhole_of_multiple {n scale c j : Nat} (hn : n = c * tenTo j) (hc : c < coefficientBound)
    (hj : j ≤ scale) (hscale : scale ≤ maxScale) (hpos : scale ≠ 0) :
    ∃ m s, readWhole 0 false (magnitudeText n scale) = some (m, s) ∧ m < coefficientBound ∧
      s ≤ scale ∧ m * tenTo (scale - s) = n := by
  have hlt : n / tenTo scale < coefficientBound := by
    have hle : n ≤ c * tenTo scale := hn ▸ Nat.mul_le_mul_left c (tenTo_le_of_le hj)
    exact Nat.lt_of_le_of_lt (Nat.div_le_of_le_mul (Nat.mul_comm c _ ▸ hle)) hc
  have hroom : 0 + (Text.fixedDigits scale n).length ≤ maxScale := by simpa using hscale
  obtain ⟨m, s, hread, hm, hs, hvalue⟩ := readFraction_of_multiple
    (fun _ => isDigit_of_mem_fixedDigits) hlt hc ((ofDigitChars_fraction n scale).trans hn) hroom
  rw [Text.length_fixedDigits, Nat.zero_add, ofDigitChars_fraction] at hvalue
  rw [Text.length_fixedDigits, Nat.zero_add] at hs
  exact ⟨m, s, (readWhole_magnitudeText_of_lt hlt hpos).trans hread, hm, hs, hvalue⟩

/-! ### Hundredths -/

theorem divHalfUp_le {n d : ℕ} (hd : 2 ≤ d) : divHalfUp n d ≤ n := by
  rw [divHalfUp]
  cases n with
  | zero => rw [Nat.mul_zero, Nat.zero_add, Nat.div_eq_of_lt (by omega)]
  | succ n =>
    refine Nat.div_le_of_le_mul ?_
    have hscaled : 2 * (n + 1) ≤ d * (n + 1) := Nat.mul_le_mul_right _ hd
    nlinarith

theorem exists_natAbs_hundredths (d : Decimal) :
    ∃ c j, d.hundredths.natAbs = c * tenTo j ∧ c < coefficientBound ∧ j ≤ 2 := by
  have hmagnitude : d.hundredths.natAbs =
      if d.scale ≤ 2 then d.coefficient.natAbs * tenTo (2 - d.scale)
      else divHalfUp d.coefficient.natAbs (tenTo (d.scale - 2)) := by
    rw [hundredths]
    generalize (if d.scale ≤ 2 then _ else _) = magnitude
    split <;> omega
  rw [hmagnitude]
  split
  · exact ⟨_, _, rfl, d.coefficient_lt, by omega⟩
  · next hscale =>
    have hd : 2 ≤ tenTo (d.scale - 2) := by
      have := tenTo_le_of_le (show 1 ≤ d.scale - 2 by omega)
      exact Nat.le_trans (by decide) this
    exact ⟨_, 0, (Nat.mul_one _).symm, Nat.lt_of_le_of_lt (divHalfUp_le hd) d.coefficient_lt,
      by omega⟩

/-- **The text in two places is read back** as the hundredths that it shows, a zero without a sign.
-/
theorem exists_ofText?_fixedText (d : Decimal) :
    ∃ e, ofText? d.fixedText = some e ∧ 100 * e.value = d.hundredths ∧
      e.isSignedZero = false := by
  obtain ⟨c, j, hn, hc, hj⟩ := d.exists_natAbs_hundredths
  obtain ⟨m, s, hread, hm, hs, hvalue⟩ := readWhole_of_multiple hn hc hj (by decide) (by decide)
  have hlt : (if (decide (d.hundredths < 0) || d.isSignedZero) = true then -(m : Int)
      else m).natAbs < coefficientBound := by
    split <;> simpa using hm
  have hscale : s ≤ maxScale := Nat.le_trans hs (by decide)
  refine ⟨ofParts _ s hlt hscale, ?_, ?_, isSignedZero_ofParts⟩
  · rw [fixedText, fixedChars, ofText?_signed, readPlain_signed hread]
    exact dif_pos ⟨hlt, hscale⟩
  · have hplaces : (100 : ℚ) = 10 ^ s * 10 ^ (2 - s) := by
      rw [← pow_add, Nat.add_sub_cancel' hs]
      norm_num
    have hsigned : (if (decide (d.hundredths < 0) || d.isSignedZero) = true then -(m : ℤ)
        else m) * (tenTo (2 - s) : ℤ) = d.hundredths := by
      have hcast : (m : ℤ) * (tenTo (2 - s) : ℤ) = d.hundredths.natAbs := by exact_mod_cast hvalue
      have hzero := hundredths_of_isSignedZero (d := d)
      simp only [Bool.or_eq_true, decide_eq_true_eq]
      split
      · next hminus =>
        have hle : d.hundredths ≤ 0 := hminus.elim Int.le_of_lt fun h => Int.le_of_eq (hzero h)
        rw [neg_mul, hcast]
        omega
      · rw [hcast]
        omega
    have hcoefficient := congrArg (Int.cast : ℤ → ℚ) hsigned
    rw [Int.cast_mul, Int.cast_natCast, cast_tenTo] at hcoefficient
    refine Eq.trans ?_ hcoefficient
    rw [value, coefficient_ofParts, scale_ofParts, hplaces]
    field_simp

/-! ### The form of the text -/

/-- A text with two places: perhaps a minus, but not before a zero, a whole part without leading
zeros, a point and two digits. -/
def InTwoPlaces (s : List Char) : Prop :=
  ∃ sign whole tenths hundredths, s = sign ++ whole ++ ['.', tenths, hundredths] ∧
    (sign = [] ∨ sign = ['-'] ∧ ∃ c ∈ whole ++ [tenths, hundredths], c ≠ '0') ∧
    (∀ c ∈ whole ++ [tenths, hundredths], c.isDigit = true) ∧
    whole ≠ [] ∧ (whole.head? = some '0' → whole = ['0'])

theorem InTwoPlaces.exists_ne_zero {s : List Char} (h : InTwoPlaces s) (hminus : '-' ∈ s) :
    ∃ c ∈ s, c.isDigit = true ∧ c ≠ '0' := by
  obtain ⟨sign, whole, tenths, hundredths, rfl, hsign, hdigits, -⟩ := h
  have hmem {c : Char} (hc : c ∈ whole ++ [tenths, hundredths]) :
      c ∈ sign ++ whole ++ ['.', tenths, hundredths] := by
    simp only [List.mem_append, List.mem_cons] at hc ⊢
    tauto
  obtain rfl | ⟨-, c, hc, hne⟩ := hsign
  · have hdigit : '-' ∈ whole ++ [tenths, hundredths] := by
      simp only [List.nil_append, List.mem_append, List.mem_cons] at hminus ⊢
      simpa using hminus
    exact absurd (hdigits _ hdigit) (by decide)
  · exact ⟨c, hmem hc, hdigits c hc, hne⟩

theorem inTwoPlaces_fixedChars {d : Decimal} (hsigned : d.isSignedZero = false) :
    InTwoPlaces d.fixedChars := by
  have htext : d.fixedChars = signText (d.hundredths < 0) ++
      Text.digits (d.hundredths.natAbs / 100) ++
      ['.', Nat.digitChar (d.hundredths.natAbs / 10 % 10),
        Nat.digitChar (d.hundredths.natAbs % 10)] := by
    rw [List.append_assoc, fixedChars, hsigned, Bool.or_false]
    rfl
  have hdigits : ∀ c ∈ Text.digits (d.hundredths.natAbs / 100) ++
      Text.fixedDigits 2 d.hundredths.natAbs, c.isDigit = true := by
    intro c hc
    obtain hc | hc := List.mem_append.1 hc
    · exact Text.isDigit_of_mem_digits hc
    · exact isDigit_of_mem_fixedDigits hc
  refine ⟨_, _, _, _, htext, ?_, hdigits, Text.digits_ne_nil _, fun hzero => ?_⟩
  · unfold signText
    split
    · next hnegative =>
      refine .inr ⟨rfl, ?_⟩
      rw [decide_eq_true_eq] at hnegative
      by_contra hzeros
      have hvalue : Nat.ofDigitChars 10 (Text.digits (d.hundredths.natAbs / 100) ++
          Text.fixedDigits 2 d.hundredths.natAbs) 0 = 0 :=
        ofDigitChars_zeros fun c hc => by_contra fun hne => hzeros ⟨c, hc, hne⟩
      have hmagnitude : Nat.ofDigitChars 10 (Text.digits (d.hundredths.natAbs / 100) ++
          Text.fixedDigits 2 d.hundredths.natAbs) 0 = d.hundredths.natAbs := by
        rw [Nat.ofDigitChars_append]
        exact (congrArg _ (Nat.ofDigitChars_toDigits (by decide) (by decide))).trans
          (ofDigitChars_fraction d.hundredths.natAbs 2)
      omega
    · exact .inl rfl
  · rw [head?_digits hzero]
    rfl

theorem fixedText_of_isSignedZero {d : Decimal} (h : d.isSignedZero = true) :
    d.fixedText = "-0.00" := by
  rw [fixedText, fixedChars, hundredths_of_isSignedZero h, h]
  rfl

theorem fixedText_eq_iff (a b : Decimal) :
    a.fixedText = b.fixedText ↔
      a.hundredths = b.hundredths ∧ a.isSignedZero = b.isSignedZero := by
  rw [fixedText, fixedText, String.ofList_inj, fixedChars_eq_iff]

theorem hundredths_of_value {d : Decimal} {n : ℤ} (h : 100 * d.value = n) : d.hundredths = n := by
  rw [hundredths_eq_round, h, roundHalfAway_intCast]

theorem hundredths_mono {a b : Decimal} (h : a ≤ b) : a.hundredths ≤ b.hundredths := by
  rw [hundredths_eq_round, hundredths_eq_round]
  exact roundHalfAway_mono (mul_le_mul_of_nonneg_left (le_iff_value.1 h) (by norm_num))

end Decimal

namespace Price

theorem exists_parse_fixedText (p : Price) :
    ∃ x : Price, parse p.fixedText p.currency = .ok x ∧ x.currency = p.currency ∧
      100 * x.number.value = p.number.hundredths ∧ x.number.isSignedZero = false := by
  obtain ⟨d, hread, hvalue, hsigned⟩ := p.number.exists_ofText?_fixedText
  refine ⟨⟨d, p.currency⟩, ?_, rfl, hvalue, hsigned⟩
  have htrim : Text.trim p.fixedText = p.fixedText := Decimal.trim_signed _ _ _
  rw [parse, htrim, fixedText, hread]

/-- **The text in two places is exact.** It is read back as the price with its amount rounded to
hundredths, a half away from zero, which moves it by half a hundredth at most, and a price that is
not above another is not above it in its text either. But for a zero that carries a sign, which is
written `-0.00` at every scale, the text has the form that amounts are written in and is written
again when it is read, prices of the same amount have the same text whatever their scales, and two
texts are the same exactly if the rounded amounts are. -/
theorem fixedText_exact (p q : Price) :
    (p.number.isSignedZero = false → Decimal.InTwoPlaces p.fixedText.toList) ∧
    (p.number.isSignedZero = true → p.fixedText = "-0.00") ∧
    ∃ x y : Price, parse p.fixedText p.currency = .ok x ∧ parse q.fixedText q.currency = .ok y ∧
      x.currency = p.currency ∧ x.number.isSignedZero = false ∧
      x.number.value = roundHalfAway (100 * p.number.value) / 100 ∧
      |x.number.value - p.number.value| ≤ 1 / 200 ∧
      (p.number.isSignedZero = false → x.fixedText = p.fixedText) ∧
      (p.number.value = q.number.value → p.number.isSignedZero = q.number.isSignedZero →
        p.fixedText = q.fixedText) ∧
      (p.number ≤ q.number → x.number ≤ y.number) ∧
      (p.fixedText = q.fixedText ↔
        x.number.value = y.number.value ∧ p.number.isSignedZero = q.number.isSignedZero) := by
  obtain ⟨x, hx, hcurrency, hxvalue, hxsigned⟩ := p.exists_parse_fixedText
  obtain ⟨y, hy, -, hyvalue, -⟩ := q.exists_parse_fixedText
  have hround := p.number.hundredths_eq_round
  have htexts : p.fixedText = q.fixedText ↔ p.number.hundredths = q.number.hundredths ∧
      p.number.isSignedZero = q.number.isSignedZero := p.number.fixedText_eq_iff q.number
  refine ⟨fun hsigned => ?_, Decimal.fixedText_of_isSignedZero, x, y, hx, hy, hcurrency, hxsigned,
    ?_, ?_, fun hsigned => ?_, fun hvalue hsigned => ?_, fun hle => ?_, ?_⟩
  · rw [fixedText, Decimal.fixedText, String.toList_ofList]
    exact Decimal.inTwoPlaces_fixedChars hsigned
  · rw [← hround, ← hxvalue]
    ring
  · have hmoved := abs_roundHalfAway_sub_le (100 * p.number.value)
    rw [← hround, ← hxvalue, ← mul_sub, abs_mul, abs_of_pos (by norm_num : (0 : ℚ) < 100)]
      at hmoved
    linarith
  · exact (x.number.fixedText_eq_iff p.number).2
      ⟨Decimal.hundredths_of_value hxvalue, hxsigned.trans hsigned.symm⟩
  · rw [htexts, hround, q.number.hundredths_eq_round, hvalue]
    exact ⟨rfl, hsigned⟩
  · have hhundredths : (p.number.hundredths : ℚ) ≤ q.number.hundredths :=
      Int.cast_le.2 (Decimal.hundredths_mono hle)
    rw [Decimal.le_iff_value]
    linarith
  · rw [htexts, ← @Int.cast_inj ℚ, ← hxvalue, ← hyvalue, mul_right_inj' (by norm_num)]

theorem sample_fixedText_exact :
    let p : Price := ⟨(Decimal.ofParts? 10005 3).getD .zero, "USD"⟩
    let q : Price := ⟨(Decimal.ofParts? 79228162514264337593543950335 0).getD .zero, "USD"⟩
    p.number ≤ q.number ∧ p.fixedText = "10.01" ∧
      q.fixedText = "79228162514264337593543950335.00" ∧
      p.number.isSignedZero = false ∧ Decimal.InTwoPlaces "10.01".toList ∧
      ∃ x y : Price, parse "10.01" "USD" = .ok x ∧
        parse "79228162514264337593543950335.00" "USD" = .ok y ∧ x.number ≤ y.number := by
  intro p q
  have hle : p.number ≤ q.number := by decide
  have hp : p.fixedText = "10.01" := by decide
  have hq : q.fixedText = "79228162514264337593543950335.00" := by decide
  have hsigned : p.number.isSignedZero = false := by decide
  obtain ⟨hform, -, x, y, hx, hy, -, -, -, -, -, -, hmono, -⟩ := fixedText_exact p q
  exact ⟨hle, hp, hq, hsigned, hp ▸ hform hsigned, x, y, hp ▸ hx, hq ▸ hy, hmono hle⟩

/-- A zero with a sign has the amount of the other zero, but a minus in its text, which is lost when
the text is read. -/
theorem negativeZero_shows_minus :
    let p : Price := ⟨Decimal.negativeZero, "USD"⟩
    let q : Price := ⟨(Decimal.ofParts? 0 2).getD .zero, "USD"⟩
    p.number.value = q.number.value ∧ p.fixedText = "-0.00" ∧ q.fixedText = "0.00" ∧
      ¬Decimal.InTwoPlaces p.fixedText.toList ∧ parse p.fixedText "USD" = .ok q := by
  intro p q
  have hvalue : p.number.value = q.number.value := by
    rw [Decimal.value, Decimal.value, show p.number.coefficient = 0 by decide,
      show q.number.coefficient = 0 by decide]
    norm_num
  have hp : p.fixedText = "-0.00" := by decide
  have hq : q.fixedText = "0.00" := by decide
  refine ⟨hvalue, hp, hq, fun hform => ?_, by rw [hp]; rfl⟩
  rw [hp] at hform
  obtain ⟨c, hc, hdigit, hne⟩ := hform.exists_ne_zero (by decide)
  simp only [String.reduceToList, List.mem_cons, List.not_mem_nil, or_false] at hc
  obtain rfl | rfl | rfl | rfl | rfl := hc <;> simp_all

end Price

end CardPayments
