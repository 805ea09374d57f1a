import CardPayments.Proofs.HostedPage.RoundTrip
import CardPayments.Proofs.Time.Text

/-!
# The time of a reported authorization

A return reports date and time as two texts, which are trimmed and read together, as a stamp with
seconds or else as one without. The longer pattern is the shorter one with seconds behind it, so a
text that ends with its minutes is never taken for the longer one. Only what neither of them reads
is recorded under the time of the clock.
-/

namespace CardPayments

namespace Time

/-! ### Stamps -/

theorem longStamp_eq : longStamp = shortStamp ++ [.mark ':', .second] := rfl

def secondChars : Option Nat → List Char
  | some second => ':' :: Text.fixedDigits 2 second
  | none => []

def clockChars (hour minute : Nat) (second : Option Nat) : List Char :=
  Text.fixedDigits 2 hour ++ ':' :: (Text.fixedDigits 2 minute ++ secondChars second)

theorem readParts_shortStamp (d : Date) {hour minute : Nat} (hhour : hour < 100)
    (hminute : minute < 100) (rest : List Char) :
    readParts {} (d.chars ++ ' ' :: (Text.fixedDigits 2 hour ++ ':' ::
      (Text.fixedDigits 2 minute ++ rest))) shortStamp =
      some ({ year := d.year, month := d.month, day := d.day, hour, minute }, rest) := by
  have hmark : ∀ tail c, ('-' :: tail).head? = some c → c.isDigit = false := by
    intro tail c hc
    obtain rfl := Option.some.inj hc
    rfl
  have hblanks (f : Fields) (tail : List Char) :
      readPart f (' ' :: (Text.fixedDigits 2 hour ++ tail)) .blanks =
        some (f, Text.fixedDigits 2 hour ++ tail) := by
    rw [readPart, Text.trimStart, List.dropWhile_cons_of_pos (by decide), ← Text.trimStart,
      trimStart_fixedDigits (by decide)]
  simp only [Date.chars, List.append_assoc, List.cons_append, shortStamp, readParts_cons,
    readPart_year {} d.year (hmark _), readPart_mark,
    readPart_two _ _ (show Part.month ∈ _ by decide) (month_lt d),
    readPart_two _ _ (show Part.day ∈ _ by decide) (day_lt d), hblanks,
    readPart_two _ _ (show Part.hour ∈ _ by decide) hhour,
    readPart_two _ _ (show Part.minute ∈ _ by decide) hminute, Option.bind_some]
  rfl

/-- What the shorter pattern reads to the end has no seconds for the longer one. -/
theorem readAll_longStamp_of_shortStamp {s : List Char} {f : Fields}
    (h : readAll shortStamp s = some f) : readAll longStamp s = none := by
  unfold readAll at h ⊢
  split at h
  · next g hread =>
    rw [longStamp_eq, readParts_append, hread]
    rfl
  · cases h

theorem stamp?_longStamp_of_shortStamp {s : List Char} {t : Instant}
    (h : stamp? shortStamp s = some t) : stamp? longStamp s = none := by
  obtain ⟨f, hread, -⟩ := Option.bind_eq_some_iff.1 h
  rw [stamp?, readAll_longStamp_of_shortStamp hread]
  rfl

theorem instant?_put (d : Date) (hour minute second : Nat) :
    Fields.instant? { year := d.year, month := d.month, day := d.day, hour, minute, second } =
      Instant.ofClock? d hour minute second 0 := by
  rw [Fields.instant?, Fields.date?, Date.ofParts?_self]
  rfl

section Clock

variable (d : Date) {hour minute : Nat} (hhour : hour < 24) (hminute : minute < 60)
include hhour hminute

theorem stamp?_minutes :
    stamp? shortStamp (d.chars ++ ' ' :: clockChars hour minute none) =
      Instant.ofClock? d hour minute 0 0 := by
  have hread := readParts_shortStamp d (Nat.lt_trans hhour (by decide))
    (Nat.lt_trans hminute (by decide)) []
  rw [stamp?, readAll, clockChars, secondChars, hread, ← instant?_put]
  rfl

theorem stamp?_seconds {second : Nat} (hsecond : second ≤ 60) :
    stamp? longStamp (d.chars ++ ' ' :: clockChars hour minute (some second)) =
      Instant.ofClock? d hour minute second 0 := by
  have hread := readParts_shortStamp d (Nat.lt_trans hhour (by decide))
    (Nat.lt_trans hminute (by decide)) (':' :: Text.fixedDigits 2 second)
  have hdigits (f : Fields) : readParts f (':' :: Text.fixedDigits 2 second) [.mark ':', .second] =
      some (f.put second .second, []) := by
    have hlt : second < 100 := by omega
    have htwo := readPart_two f [] (show Part.second ∈ _ by decide) hlt
    rw [List.append_nil] at htwo
    rw [readParts_cons, readPart_mark, Option.bind_some, readParts_cons, htwo]
    rfl
  rw [stamp?, readAll, clockChars, secondChars, longStamp_eq, readParts_append, hread,
    Option.bind_some, hdigits, ← instant?_put]
  rfl

theorem exists_ofClock? {second : Nat} (hsecond : second ≤ 60) :
    ∃ t, Instant.ofClock? d hour minute second 0 = some t := by
  rw [Instant.ofClock?, if_pos ⟨hhour, hminute, hsecond, by decide⟩]
  split
  · exact ⟨_, dif_pos ⟨by omega, by decide, by omega⟩⟩
  · exact ⟨_, dif_pos ⟨by omega, by decide, by omega⟩⟩

end Clock

/-! ### What surrounds a stamp -/

theorem not_isBlank_of_mem_yearChars {year : Int} {c : Char} (h : c ∈ Date.yearChars year) :
    Text.isBlank c = false := by
  have hdigit {n : Nat} (h : c ∈ Text.paddedDigits 4 n) : Text.isBlank c = false :=
    Text.not_isBlank_of_isDigit (isDigit_of_mem_paddedDigits h)
  unfold Date.yearChars at h
  split at h
  · exact hdigit h
  · rcases List.mem_cons.1 h with rfl | h
    · split <;> decide
    · exact hdigit h

theorem not_isBlank_of_mem_fixedDigits {width n : Nat} {c : Char}
    (h : c ∈ Text.fixedDigits width n) : Text.isBlank c = false :=
  Text.not_isBlank_of_isDigit (Decimal.isDigit_of_mem_fixedDigits h)

theorem not_isBlank_of_mem_dateChars {d : Date} {c : Char} (h : c ∈ d.chars) :
    Text.isBlank c = false := by
  simp only [Date.chars, List.append_assoc, List.cons_append, List.mem_append, List.mem_cons] at h
  rcases h with h | rfl | h | rfl | h
  · exact not_isBlank_of_mem_yearChars h
  · decide
  · exact not_isBlank_of_mem_fixedDigits h
  · decide
  · exact not_isBlank_of_mem_fixedDigits h

theorem not_isBlank_of_mem_clockChars {hour minute : Nat} {second : Option Nat} {c : Char}
    (h : c ∈ clockChars hour minute second) : Text.isBlank c = false := by
  have hsecond (h : c ∈ secondChars second) : Text.isBlank c = false := by
    cases second with
    | none => cases h
    | some second =>
      rcases List.mem_cons.1 h with rfl | h
      · decide
      · exact not_isBlank_of_mem_fixedDigits h
  simp only [clockChars, List.mem_append, List.mem_cons] at h
  rcases h with h | rfl | h | h
  · exact not_isBlank_of_mem_fixedDigits h
  · decide
  · exact not_isBlank_of_mem_fixedDigits h
  · exact hsecond h

end Time

namespace HostedPage

variable {config : Config} {now : Instant} {l : Ledger} {order : Order} {n : Notification}
  {d : Date} {hour minute : Nat} {second : Option Nat} {t : Instant}

/-! ### The recorded time -/

theorem stampChars_of_padded (hdate : Text.Padded (String.ofList d.chars) n.date)
    (htime : Text.Padded (String.ofList (Time.clockChars hour minute second)) n.time) :
    stampChars n = d.chars ++ ' ' :: Time.clockChars hour minute second := by
  have htrimmed {s : List Char} (h : ∀ c ∈ s, Text.isBlank c = false) :
      Text.Trimmed (String.ofList s) :=
    Text.trimmed_of_not_blank fun c hc => h c (by rwa [String.toList_ofList] at hc)
  rw [stampChars, Text.trim_of_padded hdate (htrimmed fun _ => Time.not_isBlank_of_mem_dateChars),
    Text.trim_of_padded htime (htrimmed fun _ => Time.not_isBlank_of_mem_clockChars),
    String.toList_ofList, String.toList_ofList]

theorem authorizedTime_of_stamp (hhour : hour < 24) (hminute : minute < 60)
    (hsecond : ∀ s ∈ second, s ≤ 60)
    (hstamp : stampChars n = d.chars ++ ' ' :: Time.clockChars hour minute second)
    (ht : Instant.ofClock? d hour minute (second.getD 0) 0 = some t) :
    authorizedTime now n = t := by
  rw [authorizedTime, hstamp]
  -- The pattern with seconds is tried first, but it reads only a text that has them.
  cases second with
  | none =>
    have hshort := (Time.stamp?_minutes d hhour hminute).trans ht
    rw [Time.stamp?_longStamp_of_shortStamp hshort, hshort]
    rfl
  | some second =>
    have hlong := (Time.stamp?_seconds d hhour hminute (hsecond second rfl)).trans ht
    rw [hlong]
    rfl

/-- Where the recorded time comes from. -/
inductive TimeSource (now : Instant) (n : Notification) : Instant → Prop
  | long {t : Instant} (h : Time.stamp? Time.longStamp (stampChars n) = some t) :
    TimeSource now n t
  | short {t : Instant} (hlong : Time.stamp? Time.longStamp (stampChars n) = none)
    (h : Time.stamp? Time.shortStamp (stampChars n) = some t) : TimeSource now n t
  | clock (hlong : Time.stamp? Time.longStamp (stampChars n) = none)
    (hshort : Time.stamp? Time.shortStamp (stampChars n) = none) : TimeSource now n now

theorem timeSource (now : Instant) (n : Notification) :
    TimeSource now n (authorizedTime now n) := by
  cases hlong : Time.stamp? Time.longStamp (stampChars n) with
  | some t =>
    have htime : authorizedTime now n = t := by
      rw [authorizedTime, hlong]
      rfl
    rw [htime]
    exact .long hlong
  | none =>
    cases hshort : Time.stamp? Time.shortStamp (stampChars n) with
    | some t =>
      have htime : authorizedTime now n = t := by
        rw [authorizedTime, hlong, hshort]
        rfl
      rw [htime]
      exact .short hlong hshort
    | none =>
      have htime : authorizedTime now n = now := by
        rw [authorizedTime, hlong, hshort]
        rfl
      rw [htime]
      exact .clock hlong hshort

/-- **The recorded time of an authorization is the reported one.** A trusted return is always
recorded with a time: the one that a stamp with seconds names, or else one without, or else the
present. Where a date and a time of day are reported, in whatever blanks, it is the instant that
they are in UTC, and the clock does not matter. Years from 0 to 9999 stand in a date with their four
digits. -/
theorem reported_time_recorded (hnames : namesOrder order n = true)
    (htrusted : isTrusted config order n = true) (hsaves : l.refusal = none) (now : Instant) :
    ∃ stored id recorded, (onReturn config now l order n).result = .ok stored ∧
      stored.id = some id ∧ (onReturn config now l order n).ledger.get? id = some stored ∧
      stored.authorizedTime = some recorded ∧ TimeSource now n recorded ∧
      ∀ (d : Date) (hour minute : Nat) (second : Option Nat),
        hour < 24 → minute < 60 → (∀ s ∈ second, s ≤ 60) →
        Text.Padded (String.ofList d.chars) n.date →
        Text.Padded (String.ofList (Time.clockChars hour minute second)) n.time →
        Instant.ofClock? d hour minute (second.getD 0) 0 = some recorded := by
  obtain ⟨stored, hresult, hsave⟩ := onReturn_of_trusted hnames htrusted hsaves
  have hkept := Ledger.get?_save_self hsave
  obtain ⟨-, rfl, -⟩ := Ledger.save_eq_ok.1 hsave
  refine ⟨_, _, authorizedTime now n, hresult, rfl, hkept, rfl, timeSource now n, ?_⟩
  intro d hour minute second hhour hminute hsecond hdate htime
  have hsecond' : second.getD 0 ≤ 60 := by
    cases second with
    | none => exact Nat.zero_le 60
    | some s => exact hsecond s rfl
  obtain ⟨t, ht⟩ := Time.exists_ofClock? d hhour hminute hsecond'
  rw [authorizedTime_of_stamp hhour hminute hsecond (stampChars_of_padded hdate htime) ht, ht]

def sampleStamped : Notification :=
  { (default : Notification) with
    date := " 2026-03-14"
    time := "09:30\n"
    amountHash := amountHash sampleConfig.hashKey sampleOrder.totalPrice }

def sampleDay : Date := ⟨2026, 3, 14, by decide, by decide, by decide⟩

theorem sample_reported_time_recorded :
    namesOrder sampleOrder sampleStamped = true ∧
      isTrusted sampleConfig sampleOrder sampleStamped = true ∧
      ∃ stored, (onReturn sampleConfig default .empty sampleOrder sampleStamped).result =
          .ok stored ∧
        stored.authorizedTime = Instant.ofClock? sampleDay 9 30 0 0 := by
  have hnames : namesOrder sampleOrder sampleStamped = true := by decide
  have htrusted : isTrusted sampleConfig sampleOrder sampleStamped = true := beq_self_eq_true _
  have hdate : Text.Padded (String.ofList sampleDay.chars) sampleStamped.date :=
    ⟨[' '], [], by decide, List.all_eq_true.1 (by decide)⟩
  have hclock : Text.Padded (String.ofList (Time.clockChars 9 30 none)) sampleStamped.time :=
    ⟨[], ['\n'], by decide, List.all_eq_true.1 (by decide)⟩
  obtain ⟨stored, -, recorded, hresult, -, -, htime, -, hreported⟩ :=
    reported_time_recorded hnames htrusted (show Ledger.empty.refusal = none from rfl) default
  have hinstant := hreported sampleDay 9 30 none (by decide) (by decide) nofun hdate hclock
  exact ⟨hnames, htrusted, stored, hresult, htime.trans hinstant.symm⟩

end HostedPage

end CardPayments
