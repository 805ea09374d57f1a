import CardPayments.Proofs.Decimal.Sum

/-!
# Rounded sums of decimals

What becomes of a sum that has no room: it is rounded at the largest scale at which the rounded
amount fits. Amounts are compared in units of the twenty-eighth place, so a scale is known by the
number of these units in its last place, and a sum is rounded to a multiple of that number. Two
facts carry the rest. Rounding keeps order and leaves multiples alone; and whether the rounded
amount fits at a scale is a linear bound on the amount.
-/

namespace CardPayments

/-! ### The nearest whole number -/

/-- `k` is a whole number nearest to `n / d`, and of two the even one. -/
structure IsNearest (n d k : Nat) : Prop where
  above : 2 * (k * d) ≤ 2 * n + d
  below : 2 * n ≤ 2 * (k * d) + d
  tie : 2 * (k * d) = 2 * n + d ∨ 2 * n = 2 * (k * d) + d → k % 2 = 0

theorem divHalfEven_isNearest (n : Nat) {d : Nat} (hd : 0 < d) :
    IsNearest n d (divHalfEven n d) := by
  have hsplit : n / d * d + n % d = n := by rw [Nat.mul_comm]; exact Nat.div_add_mod n d
  have hlt : n % d < d := Nat.mod_lt n hd
  rw [divHalfEven]
  generalize n / d = q at hsplit ⊢
  generalize n % d = m at hsplit hlt ⊢
  split
  · next hup =>
    have hnext : (q + 1) * d = q * d + d := Nat.succ_mul q d
    constructor <;> omega
  · next hdown => constructor <;> omega

namespace IsNearest

variable {n m d k j : Nat}

theorem mono (h : IsNearest n d k) (h' : IsNearest m d j) (hd : 0 < d) (hle : n ≤ m) : k ≤ j := by
  by_cases hgt : k ≤ j
  · exact hgt
  · -- Only a tie could be rounded past what is rounded from above, and it would be the even one.
    have hstep : (j + 1) * d ≤ k * d := Nat.mul_le_mul_right d (Nat.not_le.1 hgt)
    rw [Nat.succ_mul] at hstep
    obtain ⟨habove, -, htie⟩ := h
    obtain ⟨-, hbelow, htie'⟩ := h'
    have hk : k % 2 = 0 := htie (.inl (by omega))
    have hj : j % 2 = 0 := htie' (.inr (by omega))
    have hadjacent : (j + 1) * d = k * d := by rw [Nat.succ_mul]; omega
    have := Nat.eq_of_mul_eq_mul_right hd hadjacent
    omega

theorem unique (h : IsNearest n d k) (h' : IsNearest n d j) (hd : 0 < d) : k = j :=
  Nat.le_antisymm (h.mono h' hd (Nat.le_refl n)) (h'.mono h hd (Nat.le_refl n))

theorem eq_divHalfEven (h : IsNearest n d k) (hd : 0 < d) : divHalfEven n d = k :=
  (divHalfEven_isNearest n hd).unique h hd

theorem of_mul (k : Nat) (hd : 0 < d) : IsNearest (k * d) d k := by
  constructor <;> omega

theorem of_half_above (hd : 0 < d) (hodd : k % 2 = 1) (h : 2 * n = 2 * (k * d) + d) :
    IsNearest n d (k + 1) := by
  have hnext : (k + 1) * d = k * d + d := Nat.succ_mul k d
  constructor <;> omega

theorem of_half_below (hd : 0 < d) (hodd : k % 2 = 1) (h : 2 * n + d = 2 * (k * d)) :
    IsNearest n d (k - 1) := by
  have hprevious : (k - 1) * d + d = k * d := by
    rw [← Nat.succ_mul, Nat.succ_eq_add_one, Nat.sub_add_cancel (by omega)]
  constructor <;> omega

/-- What lies half a unit below an even bound is rounded up to it. -/
theorem lt_iff {b : Nat} (h : IsNearest n d k) (hd : 0 < d) (hb : b % 2 = 0) :
    k < b ↔ 2 * n + d < 2 * (b * d) := by
  obtain ⟨habove, hbelow, htie⟩ := h
  constructor
  · intro hlt
    have hstep : (k + 1) * d ≤ b * d := Nat.mul_le_mul_right d hlt
    rw [Nat.succ_mul] at hstep
    by_cases hroom : 2 * n + d < 2 * (b * d)
    · exact hroom
    · have hk : k % 2 = 0 := htie (.inr (by omega))
      have hlast : (k + 1) * d = b * d := by rw [Nat.succ_mul]; omega
      have := Nat.eq_of_mul_eq_mul_right hd hlast
      omega
  · intro hroom
    by_cases hlt : k < b
    · exact hlt
    · have hle : b * d ≤ k * d := Nat.mul_le_mul_right d (Nat.not_lt.1 hlt)
      omega

end IsNearest

theorem divHalfEven_mul_right (n d : Nat) {c : Nat} (hc : 0 < c) :
    divHalfEven (n * c) (d * c) = divHalfEven n d := by
  have htwice : 2 * (n * c % (d * c)) = 2 * (n % d) * c := by
    rw [Nat.mul_mod_mul_right, Nat.mul_assoc]
  have hlt : d * c < 2 * (n % d) * c ↔ d < 2 * (n % d) := Nat.mul_lt_mul_right hc
  have heq : 2 * (n % d) * c = d * c ↔ 2 * (n % d) = d := Nat.mul_left_inj (Nat.ne_of_gt hc)
  simp only [divHalfEven, htwice, Nat.mul_div_mul_right n d hc, hlt, heq]

namespace Decimal

/-! ### Places -/

/-- One unit of the last place at the scale, in units of the twenty-eighth place. -/
def place (scale : Nat) : Nat := tenTo (maxScale - scale)

theorem place_pos (scale : Nat) : 0 < place scale := tenTo_pos _

theorem place_eq_mul {s t : Nat} (h : s ≤ t) (ht : t ≤ maxScale) :
    place s = tenTo (t - s) * place t := by
  rw [place, place, ← tenTo_add]
  congr 1
  omega

theorem place_le {s t : Nat} (h : s ≤ t) (ht : t ≤ maxScale) : place t ≤ place s := by
  rw [place_eq_mul h ht]
  exact Nat.le_mul_of_pos_left _ (tenTo_pos _)

theorem place_succ {s : Nat} (h : s < maxScale) : place s = 10 * place (s + 1) := by
  rw [place_eq_mul (Nat.le_succ s) h, Nat.succ_sub (Nat.le_refl s), Nat.sub_self]
  rfl

theorem ten_mul_place_le {s t : Nat} (h : s < t) (ht : t ≤ maxScale) : 10 * place t ≤ place s := by
  have hnext : place t ≤ place (s + 1) := place_le h ht
  rw [place_succ (Nat.lt_of_lt_of_le h ht)]
  omega

def nearest (v scale : Nat) : Nat := divHalfEven v (place scale)

theorem nearest_isNearest (v scale : Nat) : IsNearest v (place scale) (nearest v scale) :=
  divHalfEven_isNearest v (place_pos scale)

theorem nearest_eq {v scale k : Nat} (h : IsNearest v (place scale) k) : nearest v scale = k :=
  h.eq_divHalfEven (place_pos scale)

theorem nearest_mono {v w : Nat} (h : v ≤ w) (scale : Nat) : nearest v scale ≤ nearest w scale :=
  (nearest_isNearest v scale).mono (nearest_isNearest w scale) (place_pos scale) h

theorem unitBound_eq (scale : Nat) : unitBound scale = coefficientBound * place scale := rfl

theorem nearest_lt_iff {v scale : Nat} :
    nearest v scale < coefficientBound ↔ 2 * v + place scale < 2 * unitBound scale :=
  (nearest_isNearest v scale).lt_iff (place_pos scale) rfl

/-- What fits at a scale fits at every smaller one. -/
theorem nearest_lt_of_le {v s t : Nat} (hst : s ≤ t) (ht : t ≤ maxScale)
    (h : nearest v t < coefficientBound) : nearest v s < coefficientBound := by
  rw [nearest_lt_iff] at h ⊢
  have hplace := place_eq_mul hst ht
  have hpos := tenTo_pos (t - s)
  have hroom : 2 * v < 2 * unitBound t - place t := by omega
  have hmore : 2 * unitBound t - place t ≤ tenTo (t - s) * (2 * unitBound t - place t) :=
    Nat.le_mul_of_pos_left _ hpos
  have hbound : tenTo (t - s) * (2 * unitBound t) = 2 * unitBound s := by
    rw [unitBound_eq, unitBound_eq, hplace, Nat.mul_left_comm, Nat.mul_left_comm coefficientBound]
  rw [Nat.mul_sub, hbound, ← hplace] at hmore
  omega

/-! ### The search -/

/-- The decimal is the amount rounded at the largest scale, up to the given one, where it fits. -/
structure Rounds (v scale : Nat) (d : Decimal) : Prop where
  scale_le : d.scale ≤ scale
  coefficient_eq : d.coefficient = nearest v d.scale
  largest : ∀ s, d.scale < s → s ≤ scale → coefficientBound ≤ nearest v s

/-- What comes of an amount that is to be rounded at a scale up to the given one. -/
inductive Rounding (v scale : Nat) : Option Decimal → Prop
  | fits {d : Decimal} (h : Rounds v scale d) : Rounding v scale (some d)
  | overflows (h : ∀ s ≤ scale, coefficientBound ≤ nearest v s) : Rounding v scale none

section Search

variable {v scale s : Nat} {d : Decimal} {found : Option Decimal}

theorem Rounds.units_eq (h : Rounds v scale d) :
    d.units = (nearest v d.scale * place d.scale : Nat) := by
  rw [units, h.coefficient_eq, Int.natCast_mul, place]

theorem Rounds.le_scale (h : Rounds v scale d) (hs : s ≤ scale)
    (hfits : nearest v s < coefficientBound) : s ≤ d.scale :=
  Nat.not_lt.1 fun hlt => Nat.not_lt.2 (h.largest s hlt hs) hfits

theorem Rounds.scale_lt (h : Rounds v scale d) (hover : coefficientBound ≤ nearest v s) :
    d.scale < s := by
  have hfits : nearest v d.scale < coefficientBound := by
    have hlt := d.coefficient_lt
    rwa [h.coefficient_eq, Int.natAbs_natCast] at hlt
  exact Nat.not_le.1 fun hle => Nat.not_lt.2 hover (nearest_lt_of_le hle d.scale_le hfits)

namespace Rounding

theorem exists_of_fits (h : Rounding v scale found) (hs : s ≤ scale)
    (hfits : nearest v s < coefficientBound) :
    ∃ d, found = some d ∧ Rounds v scale d ∧ s ≤ d.scale := by
  cases h with
  | fits hrounds => exact ⟨_, rfl, hrounds, hrounds.le_scale hs hfits⟩
  | overflows hover => exact absurd hfits (Nat.not_lt.2 (hover s hs))

theorem of_over (h : Rounding v scale found) (hs : s ≤ scale)
    (hover : coefficientBound ≤ nearest v (s + 1)) : Rounding v s found := by
  cases h with
  | fits hrounds =>
    exact .fits ⟨Nat.le_of_lt_succ (hrounds.scale_lt hover), hrounds.coefficient_eq,
      fun t hlt hle => hrounds.largest t hlt (Nat.le_trans hle hs)⟩
  | overflows hovers => exact .overflows fun t ht => hovers t (Nat.le_trans ht hs)

theorem succ (h : Rounding v scale found) (hover : coefficientBound ≤ nearest v (scale + 1)) :
    Rounding v (scale + 1) found := by
  cases h with
  | fits hrounds =>
    refine .fits ⟨Nat.le_succ_of_le hrounds.scale_le, hrounds.coefficient_eq, fun s hlt hle => ?_⟩
    obtain hle | rfl := Nat.le_succ_iff.1 hle
    · exact hrounds.largest s hlt hle
    · exact hover
  | overflows hovers =>
    refine .overflows fun s hs => ?_
    obtain hle | rfl := Nat.le_succ_iff.1 hs
    · exact hovers s hle
    · exact hover

end Rounding

/-- One step of the search finds the amount rounded at its scale, if that fits. -/
theorem rounded?_cases (magnitude dropped : Nat) (hscale : scale + dropped ≤ maxScale) :
    let v := magnitude * place (scale + dropped)
    (∃ d : Decimal, rounded? false magnitude dropped scale = some d ∧ d.scale = scale ∧
      d.coefficient = nearest v scale) ∨
    rounded? false magnitude dropped scale = none ∧ coefficientBound ≤ nearest v scale := by
  intro v
  have hplace : place scale = tenTo dropped * place (scale + dropped) := by
    rw [place_eq_mul (Nat.le_add_right scale dropped) hscale, Nat.add_sub_cancel_left]
  have hrounded : rounded? false magnitude dropped scale = ofParts? (nearest v scale) scale := by
    rw [rounded?, nearest, hplace, divHalfEven_mul_right _ _ (place_pos _)]
    rfl
  rw [hrounded, ofParts?]
  split
  · exact .inl ⟨_, rfl, rfl, rfl⟩
  · next hnot =>
    refine .inr ⟨rfl, Nat.not_lt.1 fun hlt => hnot ⟨?_, by omega⟩⟩
    rwa [Int.natAbs_natCast]

theorem closest?_rounding (magnitude dropped : Nat) (hscale : scale + dropped ≤ maxScale) :
    Rounding (magnitude * place (scale + dropped)) scale
      (closest? false magnitude dropped scale) := by
  have hrounded := rounded?_cases magnitude dropped hscale
  induction scale generalizing dropped with
  | zero =>
    rw [closest?]
    obtain ⟨d, hd, hown, hcoefficient⟩ | ⟨hnone, hover⟩ := hrounded
    · rw [hd]
      exact .fits ⟨Nat.le_of_eq hown, hown.symm ▸ hcoefficient, by omega⟩
    · rw [hnone]
      refine .overflows fun s hs => ?_
      rwa [Nat.le_zero.1 hs]
  | succ scale ih =>
    rw [closest?]
    obtain ⟨d, hd, hown, hcoefficient⟩ | ⟨hnone, hover⟩ := hrounded
    · rw [hd]
      exact .fits ⟨Nat.le_of_eq hown, hown.symm ▸ hcoefficient, by omega⟩
    · have hnext : scale + (dropped + 1) = scale + 1 + dropped := by omega
      have hrest := ih (dropped + 1) (by omega) (rounded?_cases magnitude _ (by omega))
      rw [hnext] at hrest
      rw [hnone, Option.orElse_eq_orElse, Option.orElse_eq_or, Option.none_or]
      exact hrest.succ hover

end Search

/-! ### Sums -/

section Sums

variable {a b c : Decimal} {v : Nat}

theorem nearest_mul (k s : Nat) : nearest (k * place s) s = k :=
  nearest_eq (.of_mul k (place_pos s))

theorem exists_eq_mul {n : Int} {s : Nat} (h : n * place s = v) :
    ∃ k : Nat, n = k ∧ v = k * place s := by
  have hpos : (0 : Int) < place s := Int.natCast_pos.2 (place_pos s)
  have hnonneg : 0 ≤ n := Int.nonneg_of_mul_nonneg_left (by omega) hpos
  obtain ⟨k, rfl⟩ := Int.eq_ofNat_of_zero_le hnonneg
  exact ⟨k, rfl, by exact_mod_cast h.symm⟩

/-- An amount is a multiple of every place from its own on, so no rounding changes it there. -/
theorem nearest_mul_place {s : Nat} (hc : c.units = v) (hle : c.scale ≤ s) (hs : s ≤ maxScale) :
    nearest v s * place s = v := by
  obtain ⟨k, -, rfl⟩ := exists_eq_mul ((units_eq_at hle hs).symm.trans hc)
  rw [nearest_mul]

theorem nearest_lt (hc : c.units = v) {s : Nat} (hle : s ≤ c.scale) :
    nearest v s < coefficientBound := by
  refine nearest_lt_of_le hle c.scale_le ?_
  obtain ⟨k, hk, rfl⟩ := exists_eq_mul hc
  have hlt := c.coefficient_lt
  rw [nearest_mul]
  rwa [hk, Int.natAbs_natCast] at hlt

theorem scales_le (a b : Decimal) : max a.scale b.scale ≤ maxScale :=
  Nat.max_le.2 ⟨a.scale_le, b.scale_le⟩

theorem exists_sumAt (hv : a.units + b.units = v) :
    ∃ k : Nat, sumAt (max a.scale b.scale) a b = k ∧ v = k * place (max a.scale b.scale) := by
  have hunits := sumAt_units (Nat.le_max_left a.scale b.scale) (Nat.le_max_right _ _)
    (scales_le a b)
  exact exists_eq_mul (hunits.trans hv)

theorem add?_rounding (ha : a.units ≠ 0) (hb : b.units ≠ 0) (hv : a.units + b.units = v) :
    Rounding v (max a.scale b.scale) (a.add? b) := by
  obtain ⟨k, hk, rfl⟩ := exists_sumAt hv
  have hsum : a.add? b = closest? false k 0 (max a.scale b.scale) := by
    have hsign : decide ((k : Int) < 0) = false := by simp
    rw [add?, if_neg (mt isZero_iff.1 ha), if_neg (mt isZero_iff.1 hb)]
    simp only [hk, hsign, Int.natAbs_natCast]
  rw [hsum]
  exact closest?_rounding k 0 (scales_le a b)

/-- **A sum of at most an amount** is rounded to at most that amount, and to all of it if it is all
of it. -/
theorem add?_le (hv : a.units + b.units = v) (hle : (v : Int) ≤ c.units) :
    ∃ d, a.add? b = some d ∧ d.units ≤ c.units ∧ ((v : Int) = c.units → d.units = c.units) := by
  by_cases ha : a.units = 0
  · have hadd : a.add? b = some b := by rw [add?, if_pos (isZero_iff.2 ha)]
    refine ⟨b, hadd, ?_, ?_⟩ <;> omega
  by_cases hb : b.units = 0
  · have hadd : a.add? b = some a := by
      rw [add?, if_neg (mt isZero_iff.1 ha), if_pos (isZero_iff.2 hb)]
    refine ⟨a, hadd, ?_, ?_⟩ <;> omega
  obtain ⟨w, hw⟩ := Int.eq_ofNat_of_zero_le (show 0 ≤ c.units by omega)
  have hvw : v ≤ w := by omega
  have hfits : nearest v (min (max a.scale b.scale) c.scale) < coefficientBound :=
    Nat.lt_of_le_of_lt (nearest_mono hvw _) (nearest_lt hw (Nat.min_le_right _ _))
  obtain ⟨d, hd, hrounds, hmin⟩ :=
    (add?_rounding ha hb hv).exists_of_fits (Nat.min_le_left _ _) hfits
  refine ⟨d, hd, ?_⟩
  rw [hrounds.units_eq, hw]
  by_cases hscale : c.scale ≤ d.scale
  · have hexact : nearest w d.scale * place d.scale = w := nearest_mul_place hw hscale d.scale_le
    have hmono : nearest v d.scale * place d.scale ≤ nearest w d.scale * place d.scale :=
      Nat.mul_le_mul_right _ (nearest_mono hvw _)
    rw [hexact] at hmono
    refine ⟨Int.ofNat_le.2 hmono, fun heq => ?_⟩
    obtain rfl : v = w := Int.ofNat_inj.1 heq
    rw [hexact]
  · have hlast : d.scale = max a.scale b.scale := by
      have hle := hrounds.scale_le
      omega
    obtain ⟨k, -, hk⟩ := exists_sumAt hv
    have hexact : nearest v d.scale * place d.scale = v := by rw [hlast, hk, nearest_mul]
    rw [hexact]
    exact ⟨Int.ofNat_le.2 hvw, fun heq => heq⟩

end Sums

end Decimal

end CardPayments
