import CardPayments.Proofs.Decimal.Rounded

/-!
# Taking away and adding back

What is left of an amount when some of it is taken away, and the sum of what was taken and a part of
what is left. Both are rounded, each at a scale of its own, so the sum of what was taken and all of
the rest need not be the whole amount again. `LosesHalf` says when it is not: the rest was rounded
by exactly half a unit of its last place, and the whole amount is an odd number of these units, so
that the sum is rounded away from it.
-/

namespace CardPayments

namespace Decimal

/-- The rest was rounded by half a unit of its last place, and the whole amount is an odd number of
these units. -/
structure LosesHalf (whole taken rest : Decimal) : Prop where
  scale_eq : rest.scale = whole.scale
  odd : whole.coefficient % 2 = 1
  half : 2 * (rest.units - (whole.units - taken.units)).natAbs = place rest.scale

/-- The exact rest, `v`, did not fit at the scale of what was taken and was rounded by at most half
a unit. -/
structure RoundsRest (whole taken rest : Decimal) (v : Nat) : Prop where
  whole_scale_le : whole.scale ≤ rest.scale
  scale_lt : rest.scale < taken.scale
  above : 2 * rest.units ≤ 2 * v + place rest.scale
  below : 2 * (v : Int) ≤ 2 * rest.units + place rest.scale
  exceeds : coefficientBound ≤ nearest v (rest.scale + 1)
  taken_ne_zero : taken.units ≠ 0

variable {whole taken rest part : Decimal} {a v w s : Nat} {found : Option Decimal}

/-! ### Taking away -/

/-- A rest is exact or rounded at a scale between those of the whole and of what was taken. -/
theorem sub?_cases (hwhole : whole.units = a) (hv : whole.units - taken.units = v)
    (htaken : 0 ≤ taken.units) (hrest : whole.sub? taken = some rest) :
    rest.units = v ∨ RoundsRest whole taken rest v := by
  have hsum : whole.units + taken.neg.units = v := by rw [units_neg]; omega
  by_cases hzero : taken.units = 0
  · have hle : (v : Int) ≤ whole.units := by omega
    obtain ⟨d, hd, -, hexact⟩ := add?_le hsum hle
    obtain rfl := Option.some.inj (hd.symm.trans hrest)
    exact .inl ((hexact (by omega)).trans (by omega))
  have hneg : taken.neg.units ≠ 0 := by rw [units_neg]; omega
  have hrounding := add?_rounding (by omega) hneg hsum
  rw [show whole.add? taken.neg = some rest from hrest] at hrounding
  cases hrounding with
  | fits hrounds =>
    have hunits := hrounds.units_eq
    by_cases hlast : rest.scale = max whole.scale taken.neg.scale
    · obtain ⟨k, -, hk⟩ := exists_sumAt hsum
      rw [hlast, hk, nearest_mul] at hunits
      exact .inl (by rw [hunits, hk])
    · have hle := hrounds.scale_le
      have hover := hrounds.largest (rest.scale + 1) (Nat.lt_succ_self _) (by omega)
      have hwholeScale : whole.scale ≤ rest.scale := by
        refine Nat.not_lt.1 fun hlt => Nat.not_lt.2 hover ?_
        exact Nat.lt_of_le_of_lt (nearest_mono (by omega) _) (nearest_lt hwhole hlt)
      have hnegScale : taken.neg.scale = taken.scale := taken.scale_neg
      obtain ⟨habove, hbelow, -⟩ := nearest_isNearest v rest.scale
      exact .inr ⟨hwholeScale, by omega, by omega, by omega, hover, hzero⟩

namespace RoundsRest

theorem le_sum (h : RoundsRest whole taken rest v) (hwhole : whole.units = a)
    (hv : whole.units - taken.units = v) (htaken : 0 ≤ taken.units) :
    (v : Int) ≤ taken.units + rest.units := by
  obtain ⟨hscale, -, -, hbelow, -, hne⟩ := h
  by_cases hup : (v : Int) ≤ rest.units
  · omega
  have hmultiple := nearest_mul_place hwhole hscale rest.scale_le
  generalize nearest a rest.scale = k at hmultiple
  have hrest : rest.units = rest.coefficient * place rest.scale := rfl
  have hpos : (0 : Int) < place rest.scale := Int.natCast_pos.2 (place_pos _)
  have hlt : rest.coefficient * place rest.scale < k * place rest.scale := by
    rw [← hrest, ← Int.natCast_mul, hmultiple]
    omega
  have hnext : (rest.coefficient + 1) * place rest.scale ≤ k * place rest.scale :=
    Int.mul_le_mul_of_nonneg_right (Int.lt_of_mul_lt_mul_right hlt (Int.le_of_lt hpos))
      (Int.le_of_lt hpos)
  rw [Int.add_mul, Int.one_mul, ← hrest, ← Int.natCast_mul, hmultiple] at hnext
  omega

theorem rounding (h : RoundsRest whole taken rest v) (hpart : part.units ≠ 0)
    (hw : taken.units + part.units = w) (hle : v ≤ w) :
    Rounding w rest.scale (taken.add? part) := by
  have hstart : rest.scale ≤ max taken.scale part.scale :=
    Nat.le_trans (Nat.le_of_lt h.scale_lt) (Nat.le_max_left _ _)
  exact (add?_rounding h.taken_ne_zero hpart hw).of_over hstart
    (Nat.le_trans h.exceeds (nearest_mono hle _))

end RoundsRest

/-! ### Rounding near an amount -/

/-- An amount is what is rounded from what is less than half a unit away from it, and from what is
half a unit away if it is even. -/
theorem nearest_of_near {t : Nat} (hwhole : whole.units = a) (hle : whole.scale ≤ t) (hts : t ≤ s)
    (hs : s ≤ maxScale) (habove : 2 * v ≤ 2 * a + place s) (hbelow : 2 * a ≤ 2 * v + place s)
    (htie : 2 * v = 2 * a + place s ∨ 2 * a = 2 * v + place s →
      whole.scale = s → whole.coefficient % 2 = 0) :
    nearest v t * place t = a := by
  obtain ⟨k, hk, rfl⟩ := exists_eq_mul ((units_eq_at hle (Nat.le_trans hts hs)).symm.trans hwhole)
  have hplace : place s ≤ place t := place_le hts hs
  have hnearest : IsNearest v (place t) k := by
    refine ⟨by omega, by omega, fun heq => ?_⟩
    obtain rfl : t = s := by
      refine Nat.le_antisymm hts (Nat.not_lt.1 fun hlt => ?_)
      have hten := ten_mul_place_le hlt hs
      have hpos := place_pos s
      omega
    by_cases hscale : whole.scale = t
    · have heven := htie (by omega) hscale
      rw [hscale, Nat.sub_self, tenTo_zero] at hk
      omega
    · obtain ⟨n, hn⟩ : ∃ n, t - whole.scale = n + 1 := ⟨t - whole.scale - 1, by omega⟩
      rw [hn, tenTo_succ, Int.natCast_mul, ← Int.mul_assoc] at hk
      omega
  rw [nearest_eq hnearest]

/-- Half a unit above the largest coefficient an amount fits one place before, where it is rounded
up too. -/
theorem nearest_above_largest {t : Nat} (ht : t < maxScale)
    (hv : 2 * v = 2 * ((coefficientBound - 1) * place (t + 1)) + place (t + 1)) :
    nearest v t < coefficientBound ∧
      (coefficientBound - 1) * place (t + 1) < nearest v t * place t := by
  have hpos := place_pos (t + 1)
  have hplace := place_succ ht
  obtain ⟨k, hk⟩ : 10 ∣ coefficientBound + 4 := by decide
  have hmore : k * place t = (coefficientBound - 1) * place (t + 1) + 5 * place (t + 1) := by
    have hsame : coefficientBound + 4 = coefficientBound - 1 + 5 := by decide
    rw [hplace, ← Nat.mul_assoc, Nat.mul_comm k, ← hk, ← Nat.add_mul, hsame]
  have hnearest : nearest v t = k := nearest_eq ⟨by omega, by omega, by omega⟩
  rw [hnearest]
  exact ⟨by omega, by omega⟩

namespace Rounding

theorem eq_whole (h : Rounding v s found) (hwhole : whole.units = a) (hle : whole.scale ≤ s)
    (hs : s ≤ maxScale) (habove : 2 * v ≤ 2 * a + place s) (hbelow : 2 * a ≤ 2 * v + place s)
    (htie : 2 * v = 2 * a + place s ∨ 2 * a = 2 * v + place s →
      whole.scale = s → whole.coefficient % 2 = 0) :
    ∃ total, found = some total ∧ total.units = whole.units := by
  have hexact {t : Nat} (hlo : whole.scale ≤ t) (hhi : t ≤ s) : nearest v t * place t = a :=
    nearest_of_near hwhole hlo hhi hs habove hbelow htie
  have hfits : nearest v whole.scale < coefficientBound := by
    have hsame : nearest v whole.scale = nearest a whole.scale :=
      Nat.eq_of_mul_eq_mul_right (place_pos _) ((hexact (Nat.le_refl _) hle).trans
        (nearest_mul_place hwhole (Nat.le_refl _) whole.scale_le).symm)
    rw [hsame]
    exact nearest_lt hwhole (Nat.le_refl _)
  obtain ⟨d, hd, hrounds, hlo⟩ := h.exists_of_fits hle hfits
  exact ⟨d, hd, by rw [hrounds.units_eq, hwhole, hexact hlo hrounds.scale_le]⟩

theorem half_below (h : Rounding v whole.scale found) (hwhole : whole.units = a)
    (hodd : whole.coefficient % 2 = 1) (hhalf : 2 * v + place whole.scale = 2 * a) :
    ∃ total, found = some total ∧ total.units < whole.units := by
  have hpos := place_pos whole.scale
  have hlt := whole.coefficient_lt
  obtain ⟨c, hc, rfl⟩ := exists_eq_mul hwhole
  have hprevious : nearest v whole.scale = c - 1 :=
    nearest_eq (.of_half_below hpos (by omega) hhalf)
  obtain ⟨d, hd, hrounds, hge⟩ := h.exists_of_fits (Nat.le_refl _) (by omega)
  have hunits := hrounds.units_eq
  rw [Nat.le_antisymm hrounds.scale_le hge, hprevious] at hunits
  have hless : (c - 1) * place whole.scale < c * place whole.scale :=
    Nat.mul_lt_mul_of_pos_right (by omega) hpos
  exact ⟨d, hd, by omega⟩

theorem half_above (h : Rounding v whole.scale found) (hwhole : whole.units = a)
    (hodd : whole.coefficient % 2 = 1) (hhalf : 2 * v = 2 * a + place whole.scale) :
    ∀ total, found = some total → whole.units < total.units := by
  rintro total rfl
  have hpos := place_pos whole.scale
  have hlt := whole.coefficient_lt
  obtain ⟨c, hc, rfl⟩ := exists_eq_mul hwhole
  have hnext : nearest v whole.scale = c + 1 :=
    nearest_eq (.of_half_above hpos (by omega) hhalf)
  cases h with
  | fits hrounds =>
    have hunits := hrounds.units_eq
    obtain heq | hsmaller := Nat.eq_or_lt_of_le hrounds.scale_le
    · rw [heq, hnext, Nat.succ_mul] at hunits
      omega
    · -- The next coefficient is out of bounds, so it is the place before that counts.
      have hlargest := hrounds.largest _ hsmaller (Nat.le_refl _)
      have hmax := whole.scale_le
      obtain rfl : c = coefficientBound - 1 := by omega
      obtain ⟨t, ht⟩ : ∃ t, whole.scale = t + 1 := ⟨whole.scale - 1, by omega⟩
      rw [ht] at hwhole hhalf
      obtain ⟨hfits, hmore⟩ := nearest_above_largest (v := v) (by omega) hhalf
      have hge : t ≤ total.scale := hrounds.le_scale (by omega) hfits
      rw [show total.scale = t by omega] at hunits
      omega

end Rounding

/-! ### Adding back -/

/-- **Adding back a part of the rest** gives at most the whole amount, and adding back all of it
gives the whole amount, unless half a unit was lost. -/
theorem add?_part (hrange : 0 ≤ taken.units ∧ taken.units ≤ whole.units)
    (hrest : whole.sub? taken = some rest) (hpos : 0 < part.units)
    (hle : part.units ≤ rest.units)
    (hkeeps : ¬(LosesHalf whole taken rest ∧ part.SameAmount rest)) :
    ∃ total, taken.add? part = some total ∧ total.units ≤ whole.units ∧
      (part.SameAmount rest → total.SameAmount whole) := by
  obtain ⟨a, hwhole⟩ := Int.eq_ofNat_of_zero_le (show 0 ≤ whole.units by omega)
  obtain ⟨v, hv⟩ := Int.eq_ofNat_of_zero_le (show 0 ≤ whole.units - taken.units by omega)
  obtain ⟨w, hw⟩ := Int.eq_ofNat_of_zero_le (show 0 ≤ taken.units + part.units by omega)
  obtain hexact | hrounds := sub?_cases hwhole hv hrange.1 hrest
  · obtain ⟨total, htotal, hwithin, hall⟩ := add?_le (c := whole) hw (by omega)
    refine ⟨total, htotal, hwithin, fun hsame => hall ?_⟩
    rw [SameAmount] at hsame
    omega
  by_cases hsmall : w ≤ a ∧ part.units ≠ rest.units
  · obtain ⟨total, htotal, hwithin, -⟩ := add?_le (c := whole) hw (by omega)
    exact ⟨total, htotal, hwithin, fun hsame => absurd hsame hsmall.2⟩
  · have hsum := hrounds.le_sum hwhole hv hrange.1
    have hrounding := hrounds.rounding (by omega) hw (by omega)
    obtain ⟨hscale, -, habove, hbelow, -, -⟩ := hrounds
    -- Only the sum of what was taken and all of the rest can be as far away as half a unit.
    have htie : 2 * w = 2 * a + place rest.scale ∨ 2 * a = 2 * w + place rest.scale →
        whole.scale = rest.scale → whole.coefficient % 2 = 0 := by
      intro hhalf hscales
      have hall : part.units = rest.units := by omega
      refine (Int.emod_two_eq whole.coefficient).resolve_right fun hodd => hkeeps ⟨?_, hall⟩
      exact ⟨hscales.symm, hodd, by omega⟩
    obtain ⟨total, htotal, hsame⟩ :=
      hrounding.eq_whole hwhole hscale rest.scale_le (by omega) (by omega) htie
    exact ⟨total, htotal, Int.le_of_eq hsame, fun _ => hsame⟩

/-- **Where half a unit was lost**, adding back all of the rest misses the whole amount: it fails or
exceeds the amount if the rest was rounded up, and falls short of it if the rest was rounded down.
-/
theorem add?_of_losesHalf (hrange : 0 ≤ taken.units ∧ taken.units ≤ whole.units)
    (hrest : whole.sub? taken = some rest) (hpos : 0 < part.units) (hall : part.SameAmount rest)
    (hloses : LosesHalf whole taken rest) :
    (whole.units - taken.units < rest.units ∧
      ∀ total, taken.add? part = some total → whole.units < total.units) ∨
    rest.units < whole.units - taken.units ∧
      ∃ total, taken.add? part = some total ∧ total.units < whole.units := by
  obtain ⟨hscale, hodd, hhalf⟩ := hloses
  obtain ⟨a, hwhole⟩ := Int.eq_ofNat_of_zero_le (show 0 ≤ whole.units by omega)
  obtain ⟨v, hv⟩ := Int.eq_ofNat_of_zero_le (show 0 ≤ whole.units - taken.units by omega)
  obtain ⟨w, hw⟩ := Int.eq_ofNat_of_zero_le (show 0 ≤ taken.units + part.units by omega)
  have hplace := place_pos rest.scale
  rw [SameAmount] at hall
  obtain hexact | hrounds := sub?_cases hwhole hv hrange.1 hrest
  · omega
  have hsum := hrounds.le_sum hwhole hv hrange.1
  have hrounding := hrounds.rounding (by omega) hw (by omega)
  rw [hscale] at hrounding hhalf hplace
  by_cases hup : whole.units - taken.units < rest.units
  · exact .inl ⟨hup, hrounding.half_above hwhole hodd (by omega)⟩
  · exact .inr ⟨by omega, hrounding.half_below hwhole hodd (by omega)⟩

end Decimal

end CardPayments
