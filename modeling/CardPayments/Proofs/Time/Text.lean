import CardPayments.Proofs.Decimal.Text
import CardPayments.Time.Pattern

/-!
# Dates and times there and back

What is written of a date, of a time of day or of an instant is read back by the pattern for it. A
part of the pattern takes its number off the front of the text; it takes no more, because the number
already has as many digits as the part can take, or because no digit follows.
-/

namespace CardPayments

namespace Time

/-! ### Numbers -/

/-- The number is not longer than the part, and does not run on into what follows. -/
theorem readNumber_append {width : Nat} {ds rest : List Char} (hne : ds ≠ [])
    (hds : ∀ c ∈ ds, c.isDigit = true) (hwidth : ds.length ≤ width)
    (hstop : ds.length = width ∨ ∀ c, rest.head? = some c → c.isDigit = false) :
    readNumber width (ds ++ rest) = some (Nat.ofDigitChars 10 ds 0, rest) := by
  have htake : ((ds ++ rest).takeWhile Char.isDigit).take width = ds := by
    rw [List.takeWhile_append_of_pos hds]
    rcases hstop with hlength | hrest
    · exact List.take_left' hlength
    · have hnone : rest.takeWhile Char.isDigit = [] := by
        cases rest with
        | nil => rfl
        | cons c rest => simp [hrest c rfl]
      rw [hnone, List.append_nil, List.take_of_length_le hwidth]
  have hempty : ds.isEmpty = false := List.isEmpty_eq_false_iff.2 hne
  simp only [readNumber, htake, hempty, Bool.false_eq_true, if_false, List.drop_left]

theorem readNumber_fixedDigits {width n : Nat} (h : n < tenTo width) (hwidth : width ≠ 0)
    (rest : List Char) :
    readNumber width (Text.fixedDigits width n ++ rest) = some (n, rest) := by
  have hne : Text.fixedDigits width n ≠ [] := by
    rw [← List.length_pos_iff, Text.length_fixedDigits]
    omega
  rw [readNumber_append hne (fun _ => Decimal.isDigit_of_mem_fixedDigits)
    (Nat.le_of_eq (Text.length_fixedDigits width n)) (.inl (Text.length_fixedDigits width n)),
    Decimal.ofDigitChars_fixedDigits, Nat.mul_zero, Nat.zero_add, Nat.mod_eq_of_lt h]

theorem trimStart_of_head {c : Char} (h : Text.isBlank c = false) (rest : List Char) :
    Text.trimStart (c :: rest) = c :: rest :=
  List.dropWhile_cons_of_neg (by simp [h])

theorem trimStart_fixedDigits {width : Nat} (hwidth : width ≠ 0) (n : Nat) (rest : List Char) :
    Text.trimStart (Text.fixedDigits width n ++ rest) = Text.fixedDigits width n ++ rest := by
  have hpos : 0 < (Text.fixedDigits width n).length := by
    rw [Text.length_fixedDigits]
    omega
  obtain ⟨c, ds, hdigits⟩ := List.exists_cons_of_length_pos hpos
  have hc : c.isDigit = true := Decimal.isDigit_of_mem_fixedDigits (hdigits ▸ List.mem_cons_self)
  rw [hdigits, List.cons_append, trimStart_of_head (Text.not_isBlank_of_isDigit hc)]

theorem readNumber_two {n : Nat} (h : n < 100) (rest : List Char) :
    readNumber 2 (Text.trimStart (Text.fixedDigits 2 n ++ rest)) = some (n, rest) := by
  rw [trimStart_fixedDigits (by decide), readNumber_fixedDigits h (by decide)]

/-! ### Years -/

theorem ofDigitChars_paddedDigits (width n : Nat) :
    Nat.ofDigitChars 10 (Text.paddedDigits width n) 0 = n := by
  rw [Text.paddedDigits, Nat.ofDigitChars_append,
    Decimal.ofDigitChars_zeros fun c hc => List.eq_of_mem_replicate hc]
  exact Nat.ofDigitChars_toDigits (by decide) (by decide)

theorem isDigit_of_mem_paddedDigits {width n : Nat} {c : Char}
    (h : c ∈ Text.paddedDigits width n) : c.isDigit = true := by
  rcases List.mem_append.1 h with h | h
  · rw [List.eq_of_mem_replicate h]
    rfl
  · exact Text.isDigit_of_mem_digits h

theorem paddedDigits_ne_nil (width n : Nat) : Text.paddedDigits width n ≠ [] :=
  List.append_ne_nil_of_right_ne_nil _ (Text.digits_ne_nil n)

theorem length_paddedDigits {width n : Nat} (h : n < tenTo width) (hwidth : 0 < width) :
    (Text.paddedDigits width n).length = width := by
  have hle : (Text.digits n).length ≤ width :=
    (Nat.length_toDigits_le_iff (by decide) hwidth).2 h
  rw [Text.paddedDigits, List.length_append, List.length_replicate]
  omega

theorem readYear_of_isDigit {c : Char} (h : c.isDigit = true) (s : List Char) :
    readYear (c :: s) = (readNumber 4 (c :: s)).map fun read => ((read.1 : Int), read.2) := by
  unfold readYear
  split
  · next heq =>
    obtain ⟨rfl, -⟩ := List.cons.inj heq
    exact absurd h (by decide)
  · next heq =>
    obtain ⟨rfl, -⟩ := List.cons.inj heq
    exact absurd h (by decide)
  · rfl

theorem readNumber_signed (n : Nat) {rest : List Char}
    (hrest : ∀ c, rest.head? = some c → c.isDigit = false) :
    readNumber (Text.paddedDigits 4 n ++ rest).length (Text.paddedDigits 4 n ++ rest) =
      some (n, rest) := by
  rw [readNumber_append (paddedDigits_ne_nil 4 n) (fun _ => isDigit_of_mem_paddedDigits)
    (by simp) (.inr hrest), ofDigitChars_paddedDigits]

theorem readYear_yearChars (year : Int) {rest : List Char}
    (hrest : ∀ c, rest.head? = some c → c.isDigit = false) :
    readYear (Text.trimStart (Date.yearChars year ++ rest)) = some (year, rest) := by
  unfold Date.yearChars
  split
  · next hfour =>
    have hlength := length_paddedDigits (show year.toNat < tenTo 4 by
      show year.toNat < 10000
      omega) (by decide)
    have hread := readNumber_append (paddedDigits_ne_nil 4 year.toNat)
      (fun _ => isDigit_of_mem_paddedDigits) (Nat.le_of_eq hlength) (.inr hrest)
    obtain ⟨c, ds, hdigits⟩ := List.exists_cons_of_ne_nil (paddedDigits_ne_nil 4 year.toNat)
    have hc : c.isDigit = true := isDigit_of_mem_paddedDigits (hdigits ▸ List.mem_cons_self)
    rw [ofDigitChars_paddedDigits] at hread
    rw [hdigits, List.cons_append] at hread ⊢
    rw [trimStart_of_head (Text.not_isBlank_of_isDigit hc), readYear_of_isDigit hc, hread,
      Option.map_some, Int.toNat_of_nonneg hfour.1]
  · next hmore =>
    have hread := readNumber_signed year.natAbs hrest
    split
    · next hneg =>
      rw [List.cons_append, trimStart_of_head (by decide), readYear, hread, Option.map_some]
      simp only [Option.some.injEq, Prod.mk.injEq, and_true]
      omega
    · next hpos =>
      rw [List.cons_append, trimStart_of_head (by decide), readYear, hread, Option.map_some]
      simp only [Option.some.injEq, Prod.mk.injEq, and_true]
      omega

/-! ### Dates -/

theorem readParts_cons (f : Fields) (s : List Char) (part : Part) (parts : List Part) :
    readParts f s (part :: parts) =
      (readPart f s part).bind fun read => readParts read.1 read.2 parts := rfl

theorem readParts_append (f : Fields) (s : List Char) (parts more : List Part) :
    readParts f s (parts ++ more) =
      (readParts f s parts).bind fun read => readParts read.1 read.2 more := by
  induction parts generalizing f s with
  | nil => rfl
  | cons part parts ih =>
    rw [List.cons_append, readParts_cons, readParts_cons, Option.bind_assoc]
    congr 1
    funext read
    exact ih read.1 read.2

def Fields.put (f : Fields) (n : Nat) : Part → Fields
  | .month => { f with month := n }
  | .day => { f with day := n }
  | .hour => { f with hour := n }
  | .minute => { f with minute := n }
  | .second => { f with second := n }
  | _ => f

section Parts

variable (f : Fields) (rest : List Char)

theorem readPart_two {part : Part} (hpart : part ∈ [Part.month, .day, .hour, .minute, .second])
    {n : Nat} (h : n < 100) :
    readPart f (Text.fixedDigits 2 n ++ rest) part = some (f.put n part, rest) := by
  simp only [List.mem_cons, List.not_mem_nil, or_false] at hpart
  rcases hpart with rfl | rfl | rfl | rfl | rfl <;> rw [readPart, readNumber_two h] <;> rfl

theorem readPart_mark (c : Char) : readPart f (c :: rest) (.mark c) = some (f, rest) := by
  rw [readPart, if_pos rfl]

theorem readPart_blanks {c : Char} (h : Text.isBlank c = false) :
    readPart f (c :: rest) .blanks = some (f, c :: rest) := by
  rw [readPart, trimStart_of_head h]

theorem readPart_year (year : Int) {rest : List Char}
    (h : ∀ c, rest.head? = some c → c.isDigit = false) :
    readPart f (Date.yearChars year ++ rest) .year = some ({ f with year := year }, rest) := by
  rw [readPart, readYear_yearChars year h, Option.map_some]

end Parts

theorem month_lt (d : Date) : d.month < 100 := by
  have := d.month_range.2
  omega

theorem daysInMonth_le (year : Int) (month : Nat) : daysInMonth year month ≤ 31 := by
  unfold daysInMonth
  split
  · split <;> omega
  · split <;> omega

theorem day_lt (d : Date) : d.day < 100 := by
  have := daysInMonth_le d.year d.month
  have := d.day_range.2
  omega

theorem readParts_date (f : Fields) (d : Date) (rest : List Char) :
    readParts f (d.chars ++ rest) dateParts =
      some ({ f with year := d.year, month := d.month, day := d.day }, rest) := by
  have hmark : ∀ c, ('-' :: (Text.fixedDigits 2 d.month ++ '-' ::
      (Text.fixedDigits 2 d.day ++ rest))).head? = some c → c.isDigit = false := by
    intro c hc
    obtain rfl := Option.some.inj hc
    rfl
  simp only [Date.chars, List.append_assoc, List.cons_append, dateParts, readParts_cons,
    readPart_year f d.year hmark, readPart_blanks _ _ (show Text.isBlank '-' = false by decide),
    readPart_mark, readPart_two _ _ (show Part.month ∈ _ by decide) (month_lt d),
    readPart_two _ _ (show Part.day ∈ _ by decide) (day_lt d), Option.bind_some]
  rfl

/-! ### Times of day -/

theorem readFraction_append {ds rest : List Char} (hne : ds ≠ []) (hds : ∀ c ∈ ds, c.isDigit = true)
    (hwidth : ds.length ≤ 9) (hrest : ∀ c, rest.head? = some c → c.isDigit = false) :
    readFraction ('.' :: (ds ++ rest)) =
      some (Nat.ofDigitChars 10 ds 0 * tenTo (9 - ds.length), rest) := by
  have hdrop : rest.dropWhile Char.isDigit = rest := by
    cases rest with
    | nil => rfl
    | cons c rest => exact List.dropWhile_cons_of_neg (by simp [hrest c rfl])
  have hplaces : (ds ++ rest).length - rest.length = ds.length := by
    rw [List.length_append, Nat.add_sub_cancel]
  rw [readFraction, readNumber_append hne hds hwidth (.inr hrest)]
  simp only [Option.bind_eq_bind, Option.bind_some, hplaces, hdrop]

theorem readFraction_places {places n : Nat} {rest : List Char} (hpos : places ≠ 0)
    (hplaces : places ≤ 9) (h : n < tenTo places)
    (hrest : ∀ c, rest.head? = some c → c.isDigit = false) :
    readFraction ('.' :: (Text.fixedDigits places n ++ rest)) =
      some (n * tenTo (9 - places), rest) := by
  have hlength := Text.length_fixedDigits places n
  have hne : Text.fixedDigits places n ≠ [] := by
    rw [← List.length_pos_iff]
    omega
  rw [readFraction_append hne (fun _ => Decimal.isDigit_of_mem_fixedDigits) (by omega) hrest,
    Decimal.ofDigitChars_fixedDigits, Nat.mul_zero, Nat.zero_add, Nat.mod_eq_of_lt h, hlength]

theorem readFraction_fractionChars {nano : Nat} (h : nano < nanosPerSecond) {rest : List Char}
    (hrest : ∀ c, rest.head? = some c → c.isDigit = false ∧ c ≠ '.') :
    readFraction (Instant.fractionChars nano ++ rest) = some (nano, rest) := by
  have hdigit : ∀ c, rest.head? = some c → c.isDigit = false := fun c hc => (hrest c hc).1
  have hnano : nano < 1000000000 := h
  unfold Instant.fractionChars
  split
  · next hzero =>
    rw [List.nil_append, hzero]
    unfold readFraction
    split
    · exact absurd rfl (hrest '.' rfl).2
    · rfl
  · split
    · next hmilli =>
      rw [List.cons_append, readFraction_places (by decide) (by decide)
        (show nano / 1000000 < 1000 by omega) hdigit]
      show some (nano / 1000000 * 1000000, rest) = _
      rw [Nat.div_mul_cancel (Nat.dvd_of_mod_eq_zero hmilli)]
    · split
      · next hmicro =>
        rw [List.cons_append, readFraction_places (by decide) (by decide)
          (show nano / 1000 < 1000000 by omega) hdigit]
        show some (nano / 1000 * 1000, rest) = _
        rw [Nat.div_mul_cancel (Nat.dvd_of_mod_eq_zero hmicro)]
      · rw [List.cons_append, readFraction_places (by decide) (by decide) hnano hdigit]
        show some (nano * 1, rest) = _
        rw [Nat.mul_one]

theorem readParts_clock (f : Fields) (t : Instant) (rest : List Char)
    (hrest : ∀ c, rest.head? = some c →
      c.isDigit = false ∧ c ≠ '.' ∧ Text.isBlank c = false) :
    readParts f (t.clockChars ++ rest) clockParts =
      some ({ f with
        hour := t.second / 3600
        minute := t.second / 60 % 60
        second := t.second % 60 + t.nano / nanosPerSecond
        nano := t.nano % nanosPerSecond }, rest) := by
  have hsecond := t.second_lt
  have hnano : t.nano / nanosPerSecond < 2 := Nat.div_lt_of_lt_mul t.nano_lt
  have hfraction :=
    readFraction_fractionChars (Nat.mod_lt t.nano (show 0 < nanosPerSecond by decide))
    fun c hc => ⟨(hrest c hc).1, (hrest c hc).2.1⟩
  have htrim : Text.trimStart rest = rest := by
    cases rest with
    | nil => rfl
    | cons c rest => exact trimStart_of_head (hrest c rfl).2.2 rest
  simp only [Instant.clockChars, List.append_assoc, List.cons_append, clockParts, readParts_cons,
    readPart_blanks _ _ (show Text.isBlank ':' = false by decide), readPart_mark,
    readPart_two _ _ (show Part.hour ∈ _ by decide) (show t.second / 3600 < 100 by omega),
    readPart_two _ _ (show Part.minute ∈ _ by decide) (show t.second / 60 % 60 < 100 by omega),
    readPart_two _ _ (show Part.second ∈ _ by decide)
      (show t.second % 60 + t.nano / nanosPerSecond < 100 by omega), Option.bind_some]
  rw [readPart, hfraction, Option.map_some, Option.bind_some, readPart, htrim, Option.bind_some]
  rfl

end Time

/-! ### Instants -/

theorem Date.ofParts?_self (d : Date) : ofParts? d.year d.month d.day = some d :=
  dif_pos ⟨d.year_range, d.month_range, d.day_range⟩

namespace Instant

theorem ofParts?_self (t : Instant) : ofParts? t.date t.second t.nano = some t :=
  dif_pos ⟨t.second_lt, t.nano_lt, t.leap_at_end⟩

/-- The clock shows the instant, a leap second as second 60. -/
theorem ofClock?_clock (t : Instant) :
    ofClock? t.date (t.second / 3600) (t.second / 60 % 60) (t.second % 60 + t.nano / nanosPerSecond)
      (t.nano % nanosPerSecond) = some t := by
  have hsecond := t.second_lt
  have hnano := t.nano_lt
  by_cases hleap : nanosPerSecond ≤ t.nano
  · have hlast : t.second % 60 = 59 := t.leap_at_end hleap
    have hone : t.nano / 1000000000 = 1 := by
      have : 1000000000 ≤ t.nano := hleap
      omega
    have hclock : t.second / 3600 * 3600 + t.second / 60 % 60 * 60 + 59 = t.second := by omega
    have hrest : t.nano % 1000000000 + 1000000000 = t.nano := by omega
    rw [ofClock?, if_pos ⟨by omega, by omega, by rw [hone]; omega, Nat.mod_lt _ (by decide)⟩,
      if_pos (by rw [hone]; omega), hclock, hrest, ofParts?_self]
  · have hzero : t.nano / 1000000000 = 0 := Nat.div_eq_of_lt (Nat.lt_of_not_le hleap)
    have hclock : t.second / 3600 * 3600 + t.second / 60 % 60 * 60 + (t.second % 60 + 0) =
        t.second := by omega
    have hrest : t.nano % 1000000000 = t.nano := Nat.mod_eq_of_lt (Nat.lt_of_not_le hleap)
    rw [ofClock?, hzero, hrest, if_pos ⟨by omega, by omega, by omega, Nat.lt_of_not_le hleap⟩,
      if_neg (by omega), hclock, ofParts?_self]

theorem minusOffset?_zero (t : Instant) : t.minusOffset? 0 = some t := by
  have hsecond := t.second_lt
  have hlt : (t.second : Int) - 0 < secondsPerDay := by
    show (t.second : Int) - 0 < 86400
    omega
  rw [minusOffset?, if_neg (by omega), if_pos hlt, Int.sub_zero, Int.toNat_natCast, ofParts?_self]

theorem instant?_clock (t : Instant) :
    Time.Fields.instant?
      { year := t.date.year, month := t.date.month, day := t.date.day,
        hour := t.second / 3600, minute := t.second / 60 % 60,
        second := t.second % 60 + t.nano / nanosPerSecond, nano := t.nano % nanosPerSecond } =
      some t := by
  rw [Time.Fields.instant?, Time.Fields.date?, Date.ofParts?_self, Option.bind_eq_bind,
    Option.bind_some, ofClock?_clock]

/-- Behind the date stands a letter, and behind the time of day the offset. -/
theorem ofChars?_of_date {s rest : List Char} {f : Time.Fields}
    (h : Time.readParts {} s Time.dateParts = some (f, 'T' :: rest)) :
    ofChars? s = (Time.readParts f rest Time.clockParts).bind fun clock =>
      (Time.readOffset clock.2).bind fun offset =>
        if (Text.trimStart offset.2).isEmpty then
          clock.1.instant?.bind fun t => t.minusOffset? offset.1
        else none := by
  rw [ofChars?, h]
  rfl

/-- **An instant is read back from its text**, to the nanosecond and with its leap second. -/
theorem ofText?_text (t : Instant) : ofText? t.text = some t := by
  have hzulu : ∀ c, ['Z'].head? = some c →
      c.isDigit = false ∧ c ≠ '.' ∧ Text.isBlank c = false := by
    intro c hc
    obtain rfl := Option.some.inj hc
    decide
  have hoffset : Time.readOffset ['Z'] = some (0, []) := by decide
  rw [ofText?, text, String.toList_ofList, chars, List.append_assoc, List.cons_append,
    ofChars?_of_date (Time.readParts_date _ _ _), Time.readParts_clock _ _ _ hzulu,
    Option.bind_some, hoffset, Option.bind_some]
  show (Time.Fields.instant? _).bind _ = _
  rw [instant?_clock, Option.bind_some, minusOffset?_zero]

end Instant

end CardPayments
