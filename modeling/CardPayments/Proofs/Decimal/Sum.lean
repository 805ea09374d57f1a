import CardPayments.Price

/-!
# Exact sums of decimals

A sum is exact wherever the exact amount, written at a scale that neither summand exceeds, needs
fewer than 96 bits: it is then the first candidate that the search for a sum tries, and its scale
stays below the common one. `Decimal.FitsAt` says that an amount has that room, in units of the
twenty-eighth place, in which amounts are plain whole numbers; whatever lies between zero and an
amount with room has it too, so room is checked once for the largest amount around.
-/

namespace CardPayments

namespace Decimal

/-- Fewer units than this leave an amount room at the scale. -/
def unitBound (scale : Nat) : Nat := coefficientBound * tenTo (maxScale - scale)

/-- The amount, rewritten at the scale, still has a coefficient within bounds. -/
def FitsAt (scale : Nat) (d : Decimal) : Prop :=
  d.coefficient.natAbs * tenTo (scale - d.scale) < coefficientBound

instance (scale : Nat) (d : Decimal) : Decidable (FitsAt scale d) :=
  inferInstanceAs (Decidable (_ < _))

theorem tenTo_le_of_le {m n : Nat} (h : m ≤ n) : tenTo m ≤ tenTo n :=
  Nat.pow_le_pow_right (by decide) h

theorem lt_iff_units {a b : Decimal} : a < b ↔ a.units < b.units := Iff.rfl

theorem le_iff_units {a b : Decimal} : a ≤ b ↔ a.units ≤ b.units := Iff.rfl

theorem not_lt {a b : Decimal} : ¬a < b ↔ b ≤ a := Int.not_lt

theorem units_zero : zero.units = 0 := by decide

theorem units_neg (d : Decimal) : d.neg.units = -d.units := by
  rw [units, units, coefficient_neg, scale_neg, Int.neg_mul]

theorem isZero_iff {d : Decimal} : d.isZero = true ↔ d.units = 0 := by
  have hpos : (tenTo (maxScale - d.scale) : Int) ≠ 0 :=
    Int.natCast_ne_zero.2 (Nat.ne_of_gt (tenTo_pos _))
  rw [isZero_iff_coefficient, units, Int.mul_eq_zero, or_iff_left hpos]

theorem coefficient_pos_iff {d : Decimal} : 0 < d.coefficient ↔ 0 < d.units := by
  have hpos : (0 : Int) < tenTo (maxScale - d.scale) := Int.natCast_pos.2 (tenTo_pos _)
  exact ⟨fun h => Int.mul_pos h hpos, fun h => Int.pos_of_mul_pos_left h hpos⟩

/-- Writing the amount at a larger scale first does not change it. -/
theorem units_eq_at {d : Decimal} {scale : Nat} (hd : d.scale ≤ scale) (hscale : scale ≤ maxScale) :
    d.units = d.coefficient * tenTo (scale - d.scale) * tenTo (maxScale - scale) := by
  have hsplit : maxScale - d.scale = (scale - d.scale) + (maxScale - scale) := by omega
  rw [units, hsplit, tenTo_add, Int.natCast_mul, Int.mul_assoc]

theorem fitsAt_iff_units {d : Decimal} {scale : Nat} (hd : d.scale ≤ scale)
    (hscale : scale ≤ maxScale) :
    FitsAt scale d ↔ d.units.natAbs < unitBound scale := by
  rw [units_eq_at hd hscale, Int.natAbs_mul, Int.natAbs_mul, Int.natAbs_natCast,
    Int.natAbs_natCast, FitsAt, unitBound]
  exact (Nat.mul_lt_mul_right (tenTo_pos _)).symm

/-! ### The search for a sum -/

theorem sumAt_units {a b : Decimal} {scale : Nat} (ha : a.scale ≤ scale) (hb : b.scale ≤ scale)
    (hscale : scale ≤ maxScale) :
    sumAt scale a b * tenTo (maxScale - scale) = a.units + b.units := by
  rw [sumAt, Int.add_mul, units_eq_at ha hscale, units_eq_at hb hscale]

theorem rounded?_exact {exact : Int} {scale : Nat} (hlt : exact.natAbs < coefficientBound)
    (hscale : scale ≤ maxScale) :
    rounded? (exact < 0) exact.natAbs 0 scale = some (ofParts exact scale hlt hscale) := by
  have hsign :
      (if decide (exact < 0) = true then -(exact.natAbs : Int) else exact.natAbs) = exact := by
    simp only [decide_eq_true_eq]
    split <;> omega
  simp only [rounded?, tenTo_zero, divHalfEven_one, hsign, ofParts?]
  rw [dif_pos ⟨hlt, hscale⟩]

theorem closest?_exact {exact : Int} {scale : Nat} (hlt : exact.natAbs < coefficientBound)
    (hscale : scale ≤ maxScale) :
    closest? (exact < 0) exact.natAbs 0 scale = some (ofParts exact scale hlt hscale) := by
  cases scale with
  | zero => exact rounded?_exact hlt hscale
  | succ scale =>
    rw [closest?, rounded?_exact hlt hscale]
    rfl

/-- **A sum with room is exact**, and its scale is no larger than those of its summands. -/
theorem add?_of_fits {a b : Decimal} {scale : Nat} (ha : a.scale ≤ scale) (hb : b.scale ≤ scale)
    (hscale : scale ≤ maxScale) (hfits : (a.units + b.units).natAbs < unitBound scale) :
    ∃ sum, a.add? b = some sum ∧ sum.units = a.units + b.units ∧ sum.scale ≤ scale := by
  unfold add?
  split
  · next hzero => exact ⟨b, rfl, by rw [isZero_iff.1 hzero, Int.zero_add], hb⟩
  split
  · next hzero => exact ⟨a, rfl, by rw [isZero_iff.1 hzero, Int.add_zero], ha⟩
  have hmax : max a.scale b.scale ≤ scale := Nat.max_le.2 ⟨ha, hb⟩
  have hunits := sumAt_units (Nat.le_max_left a.scale b.scale) (Nat.le_max_right _ _)
    (Nat.le_trans hmax hscale)
  have hlt : (sumAt (max a.scale b.scale) a b).natAbs < coefficientBound := by
    have hroom : unitBound scale ≤ unitBound (max a.scale b.scale) :=
      Nat.mul_le_mul_left _ (tenTo_le_of_le (Nat.sub_le_sub_left hmax _))
    rw [← hunits, Int.natAbs_mul, Int.natAbs_natCast] at hfits
    exact Nat.lt_of_mul_lt_mul_right (Nat.lt_of_lt_of_le hfits hroom)
  exact ⟨_, closest?_exact hlt (Nat.le_trans hmax hscale), units_ofParts.trans hunits, hmax⟩

theorem sub?_of_fits {a b : Decimal} {scale : Nat} (ha : a.scale ≤ scale) (hb : b.scale ≤ scale)
    (hscale : scale ≤ maxScale) (hfits : (a.units - b.units).natAbs < unitBound scale) :
    ∃ difference, a.sub? b = some difference ∧ difference.units = a.units - b.units ∧
      difference.scale ≤ scale := by
  have hneg : a.units + b.neg.units = a.units - b.units := by rw [units_neg, Int.sub_eq_add_neg]
  rw [← hneg] at hfits ⊢
  exact add?_of_fits ha (b.scale_neg.symm ▸ hb) hscale hfits

end Decimal

end CardPayments
