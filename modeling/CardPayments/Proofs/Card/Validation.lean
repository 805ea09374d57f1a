import CardPayments.Card
import CardPayments.Proofs.Text.Blank
import CardPayments.Proofs.Time.Date

/-!
# What makes a card valid

The check of a card reports the broken rules, each once and in a fixed order. It measures texts in
bytes and compares months, while the rules speak of digits and days; both come to the same, since a
digit is one byte and since no day of a month comes after its last. So a valid card has been valid
on all earlier days.
-/

namespace CardPayments

def CardProblem.all : List CardProblem := [.number, .expiryMissing, .expired, .cvv, .holderName]

theorem CardProblem.mem_all (problem : CardProblem) : problem ∈ all := by
  cases problem <;> decide

namespace Card

/-! ### The rules -/

/-- A number of the brand whose verification codes may have four digits. -/
def HasLongCode (digits : List Char) : Prop := ['3', '4'] <+: digits ∨ ['3', '7'] <+: digits

instance (digits : List Char) : Decidable (HasLongCode digits) :=
  inferInstanceAs (Decidable (_ ∨ _))

/-- What is wrong with the card on this day: the number is not of at least thirteen digits, a month
of the year and a year are not both chosen, the last day of that month is over, the verification
code is not of three digits or of as many as the brand allows, the name is shorter than two
characters. -/
def Breaks (c : Card) (today : Date) : CardProblem → Prop
  | .number =>
    ¬(13 ≤ (Text.withoutBlanks c.number).length ∧
      ∀ d ∈ Text.withoutBlanks c.number, d.isDigit = true)
  | .expiryMissing =>
    ¬∃ month ∈ c.expMonth, ∃ _year ∈ c.expYear, 1 ≤ month.toNat ∧ month.toNat ≤ 12
  | .expired =>
    ∃ month ∈ c.expMonth, ∃ year ∈ c.expYear, (1 ≤ month.toNat ∧ month.toNat ≤ 12) ∧
      Date.numberOf year.toInt month.toNat (daysInMonth year.toInt month.toNat) < today.dayNumber
  | .cvv =>
    ¬((∀ d ∈ (Text.trim c.cvv).toList, d.isDigit = true) ∧
      3 ≤ (Text.trim c.cvv).toList.length ∧
      (Text.trim c.cvv).toList.length ≤
        if HasLongCode (Text.withoutBlanks c.number) then 4 else 3)
  | .holderName => (Text.trim c.holderName).toList.length < 2

instance (c : Card) (today : Date) : (problem : CardProblem) → Decidable (c.Breaks today problem)
  | .number => inferInstanceAs (Decidable ¬_)
  | .expiryMissing => inferInstanceAs (Decidable ¬_)
  | .expired => inferInstanceAs (Decidable (∃ _ ∈ c.expMonth, _))
  | .cvv => inferInstanceAs (Decidable ¬_)
  | .holderName => inferInstanceAs (Decidable (_ < _))

/-! ### Field by field -/

variable {c : Card} {today : Date}

theorem length_utf8_of_digits {s : List Char} (h : s.all Char.isDigit = true) :
    (Text.utf8 s).length = s.length :=
  Text.length_utf8_of_ascii fun d hd =>
    Nat.lt_of_le_of_lt (Text.toNat_of_isDigit (List.all_eq_true.1 h d hd)).2 (by decide)

theorem ofDigits_eq_amex {digits : List Char} :
    CardType.ofDigits digits = .amex ↔ HasLongCode digits := by
  constructor
  · intro h
    unfold CardType.ofDigits at h
    split at h
    case h_2 rest => exact .inl ⟨rest, rfl⟩
    case h_3 rest => exact .inr ⟨rest, rfl⟩
    all_goals cases h
  · rintro (⟨rest, rfl⟩ | ⟨rest, rfl⟩) <;> rfl

theorem maxCvv_eq (c : Card) :
    c.cardType.maxCvv = if HasLongCode (Text.withoutBlanks c.number) then 4 else 3 := by
  have hmax (brand : CardType) : brand.maxCvv = if brand = .amex then 4 else 3 := by
    cases brand <;> rfl
  rw [hmax, cardType, CardType.detect]
  simp only [ofDigits_eq_amex]

theorem numberProblem?_eq (c : Card) (today : Date) :
    c.numberProblem? = if c.Breaks today .number then some .number else none := by
  unfold numberProblem?
  refine if_congr ?_ rfl rfl
  rw [Breaks, ← List.all_eq_true]
  cases hdigits : (Text.withoutBlanks c.number).all Char.isDigit with
  | false => simp
  | true => simp [length_utf8_of_digits hdigits]

theorem cvvProblem?_eq (c : Card) (today : Date) :
    c.cvvProblem? = if c.Breaks today .cvv then some .cvv else none := by
  unfold cvvProblem?
  refine if_congr ?_ rfl rfl
  rw [Breaks, ← List.all_eq_true, maxCvv_eq]
  cases hdigits : (Text.trim c.cvv).toList.all Char.isDigit with
  | false => simp
  | true =>
    rw [length_utf8_of_digits hdigits]
    generalize (if HasLongCode (Text.withoutBlanks c.number) then 4 else 3) = longest
    simp
    omega

theorem holderProblem?_eq (c : Card) (today : Date) :
    c.holderProblem? = if c.Breaks today .holderName then some .holderName else none := rfl

/-- No day of a month comes after its last, so only the months count. -/
theorem lastDay_lt_iff {year : Int} {month : Nat} (hmonth : 1 ≤ month ∧ month ≤ 12) :
    Date.numberOf year month (daysInMonth year month) < today.dayNumber ↔
      year < today.year ∨ year = today.year ∧ month < today.month := by
  have hlast : 1 ≤ daysInMonth year month ∧ daysInMonth year month ≤ daysInMonth year month :=
    ⟨Date.daysInMonth_pos year month, le_rfl⟩
  rw [Date.dayNumber_eq, Date.numberOf_lt_iff hmonth today.month_range hlast today.day_range]
  have hday := today.day_range.2
  constructor
  · intro h
    rcases h with h | ⟨hyear, h | ⟨hmonth, h⟩⟩
    · exact .inl h
    · exact .inr ⟨hyear, h⟩
    · rw [← hyear, ← hmonth] at hday
      omega
  · intro h
    rcases h with h | ⟨hyear, h⟩
    · exact .inl h
    · exact .inr ⟨hyear, .inl h⟩

theorem expiryProblem?_eq (c : Card) (today : Date) :
    c.expiryProblem? today =
      if c.Breaks today .expiryMissing then some .expiryMissing
      else if c.Breaks today .expired then some .expired else none := by
  unfold expiryProblem?
  split
  case h_1 month year hmonth hyear =>
    have hmissing : c.Breaks today .expiryMissing ↔ ¬(1 ≤ month.toNat ∧ month.toNat ≤ 12) := by
      simp [Breaks, hmonth, hyear]
    have hexpired : c.Breaks today .expired ↔ (1 ≤ month.toNat ∧ month.toNat ≤ 12) ∧
        (year.toInt < today.year ∨ year.toInt = today.year ∧ month.toNat < today.month) := by
      have hlast := @lastDay_lt_iff today year.toInt month.toNat
      simpa [Breaks, hmonth, hyear] using and_congr_right hlast
    by_cases hrange : 1 ≤ month.toNat ∧ month.toNat ≤ 12
    · simp [hmissing, hexpired, hrange]
    · simp [hmissing, hrange]
  case h_2 hnone =>
    have hmissing : c.Breaks today .expiryMissing := by
      rintro ⟨month, hmonth, year, hyear, -⟩
      exact hnone month year hmonth hyear
    rw [if_pos hmissing]

/-! ### All rules -/

theorem not_expired_of_missing (h : c.Breaks today .expiryMissing) : ¬c.Breaks today .expired := by
  rintro ⟨month, hmonth, year, hyear, hrange, -⟩
  exact h ⟨month, hmonth, year, hyear, hrange⟩

theorem problems_eq (c : Card) (today : Date) :
    c.problems today = CardProblem.all.filter fun problem => c.Breaks today problem := by
  have hrule (p : Prop) [Decidable p] (problem : CardProblem) (others : List CardProblem) :
      (if p then some problem else none).toList ++ others =
        if p then problem :: others else others := by
    split <;> rfl
  have hexpiry (others : List CardProblem) : (c.expiryProblem? today).toList ++ others =
      if c.Breaks today .expiryMissing then
        .expiryMissing :: if c.Breaks today .expired then .expired :: others else others
      else if c.Breaks today .expired then .expired :: others else others := by
    rw [expiryProblem?_eq]
    by_cases hmissing : c.Breaks today .expiryMissing
    · rw [if_pos hmissing, if_pos hmissing, if_neg (not_expired_of_missing hmissing)]
      rfl
    · rw [if_neg hmissing, if_neg hmissing, hrule]
  rw [problems, List.append_assoc, List.append_assoc, numberProblem?_eq c today, hrule, hexpiry,
    cvvProblem?_eq c today, hrule, holderProblem?_eq c today, ← List.append_nil (Option.toList _),
    hrule]
  simp only [CardProblem.all, List.filter_cons, List.filter_nil, decide_eq_true_eq]

theorem problems_eq_nil : c.problems today = [] ↔ ∀ problem, ¬c.Breaks today problem := by
  simp only [problems_eq, List.filter_eq_nil_iff, CardProblem.mem_all, true_implies,
    decide_eq_true_eq]

theorem validate_eq_ok : c.validate today = .ok () ↔ ∀ problem, ¬c.Breaks today problem := by
  rw [validate, ← problems_eq_nil, ← List.isEmpty_iff]
  split
  · next h => exact iff_of_true rfl h
  · next h => exact iff_of_false nofun h

theorem validate_eq_error {reported : List CardProblem} :
    c.validate today = .error reported ↔
      (∃ problem, c.Breaks today problem) ∧
        reported = CardProblem.all.filter fun problem => c.Breaks today problem := by
  rw [validate, ← problems_eq, ← not_forall_not, ← problems_eq_nil, ← List.isEmpty_iff]
  split
  · next h => exact iff_of_false nofun fun hnot => hnot.1 h
  · next h => rw [Except.error.injEq, eq_comm, and_iff_right h]

/-- What is broken on a day is broken on every later one: only the expiry looks at the day. -/
theorem Breaks.later {problem : CardProblem} {later : Date} (h : c.Breaks today problem)
    (hlater : today.dayNumber < later.dayNumber) : c.Breaks later problem := by
  cases problem with
  | expired =>
    obtain ⟨month, hmonth, year, hyear, hrange, hover⟩ := h
    exact ⟨month, hmonth, year, hyear, hrange, hover.trans hlater⟩
  | _ => exact h

/-- **A card is refused for exactly the rules that it breaks.** They are reported together, each of
them once and in their order. A card that is valid on some day is valid on all days before. -/
theorem reports_broken_rules (c : Card) (today : Date) :
    ((∃ reported, c.validate today = .error reported) ↔ ∃ problem, c.Breaks today problem) ∧
      (∀ reported, c.validate today = .error reported →
        reported = (CardProblem.all.filter fun problem => c.Breaks today problem) ∧
          (reported.map CardProblem.message).Nodup) ∧
      ∀ earlier : Date, earlier.dayNumber < today.dayNumber →
        c.validate today = .ok () → c.validate earlier = .ok () := by
  refine ⟨?_, ?_, ?_⟩
  · simp only [validate_eq_error, exists_and_left, exists_eq, and_true]
  · intro reported h
    obtain ⟨-, rfl⟩ := validate_eq_error.1 h
    have hall : (CardProblem.all.map CardProblem.message).Nodup := by decide
    exact ⟨rfl, hall.sublist (List.filter_sublist.map _)⟩
  · intro earlier hearlier hvalid
    rw [validate_eq_ok] at hvalid ⊢
    exact fun problem h => hvalid problem (h.later hearlier)

def sampleCard : Card := ⟨"4111 1111 1111 1111", some 2, some 2028, "123", "A B"⟩

/-- It is good on the last day of the month and so in the year before. On the next day one rule is
broken and no other. -/
theorem sample_reports_broken_rules :
    sampleCard.validate ⟨2027, 12, 31, by decide, by decide, by decide⟩ = .ok () ∧
      [.expired] = CardProblem.all.filter fun problem =>
        sampleCard.Breaks ⟨2028, 3, 1, by decide, by decide, by decide⟩ problem := by
  have hlastDay : sampleCard.validate ⟨2028, 2, 29, by decide, by decide, by decide⟩ = .ok () := by
    decide
  have hover : sampleCard.validate ⟨2028, 3, 1, by decide, by decide, by decide⟩ =
      .error [.expired] := by
    decide
  exact ⟨(reports_broken_rules sampleCard _).2.2 _ (by decide) hlastDay,
    ((reports_broken_rules sampleCard _).2.1 _ hover).1⟩

end Card

end CardPayments
