import CardPayments.Time.Date
import Mathlib.Order.Monotone.Basic

/-!
# The order of dates

Months are numbered through, twelve to a year, and each begins where the one before it ends. So the
starts of the months rise with their numbers, every day lies between the start of its month and that
of the next, and the days are numbered in the order of year, month and day.
-/

namespace CardPayments

namespace Date

/-! ### Months in a row -/

theorem daysBeforeMonth_succ (year : Int) (month : Nat) :
    daysBeforeMonth year (month + 2) =
      daysBeforeMonth year (month + 1) + daysInMonth year (month + 1) := by
  simp only [daysBeforeMonth, Nat.add_sub_cancel, show month + 2 - 1 = month + 1 from rfl,
    List.range_succ, List.foldl_append, List.foldl_cons, List.foldl_nil]

theorem daysInMonth_pos (year : Int) (month : Nat) : 0 < daysInMonth year month := by
  unfold daysInMonth
  repeat' split
  all_goals decide

theorem daysBeforeYear_succ (year : Int) :
    daysBeforeYear (year + 1) = daysBeforeYear year + if isLeapYear year then 366 else 365 := by
  simp only [daysBeforeYear, isLeapYear, decide_eq_true_eq]
  split <;> omega

theorem daysBeforeMonth_thirteen (year : Int) :
    daysBeforeMonth year 13 = if isLeapYear year then 366 else 365 := by
  cases h : isLeapYear year <;> simp [daysBeforeMonth, daysInMonth, List.range_succ, h]

/-- The number of a month among all months. -/
def monthIndex (year : Int) (month : Nat) : Int := 12 * year + month - 1

/-- The days before the month of this number, counted from the first year. -/
def monthStart (index : Int) : Int :=
  daysBeforeYear (index / 12) + daysBeforeMonth (index / 12) ((index % 12).toNat + 1)

def monthLength (index : Int) : Nat := daysInMonth (index / 12) ((index % 12).toNat + 1)

theorem monthIndex_ediv {year : Int} {month : Nat} (h : 1 ≤ month ∧ month ≤ 12) :
    monthIndex year month / 12 = year := by
  unfold monthIndex
  omega

theorem monthIndex_emod {year : Int} {month : Nat} (h : 1 ≤ month ∧ month ≤ 12) :
    (monthIndex year month % 12).toNat + 1 = month := by
  unfold monthIndex
  omega

theorem monthStart_succ (index : Int) :
    monthStart (index + 1) = monthStart index + monthLength index := by
  by_cases hlast : index % 12 = 11
  · have hyear : (index + 1) / 12 = index / 12 + 1 := by omega
    have hmonth : (index + 1) % 12 = 0 := by omega
    have hdays : daysBeforeMonth (index / 12) 12 + daysInMonth (index / 12) 12 =
        if isLeapYear (index / 12) then 366 else 365 := by
      rw [← daysBeforeMonth_thirteen]
      exact (daysBeforeMonth_succ (index / 12) 11).symm
    have hfirst : daysBeforeMonth (index / 12 + 1) 1 = 0 := rfl
    simp only [monthStart, monthLength, hyear, hmonth, hlast, daysBeforeYear_succ]
    show _ + (daysBeforeMonth (index / 12 + 1) 1 : Int) =
      _ + (daysBeforeMonth (index / 12) 12 : Int) + (daysInMonth (index / 12) 12 : Nat)
    rw [hfirst]
    by_cases hleap : isLeapYear (index / 12) = true
    · rw [if_pos hleap] at hdays ⊢
      omega
    · rw [if_neg hleap] at hdays ⊢
      omega
  · have hyear : (index + 1) / 12 = index / 12 := by omega
    have hmonth : ((index + 1) % 12).toNat = (index % 12).toNat + 1 := by omega
    simp only [monthStart, monthLength, hyear, hmonth, daysBeforeMonth_succ]
    omega

theorem monthStart_mono {index later : Int} (h : index ≤ later) :
    monthStart index ≤ monthStart later := by
  refine monotone_int_of_le_succ (fun index => ?_) h
  rw [monthStart_succ]
  omega

/-! ### Days in a row -/

/-- The days from the epoch to this day, which need not be in the range of dates. -/
def numberOf (year : Int) (month day : Nat) : Int :=
  daysBeforeYear year + daysBeforeMonth year month + day - 1 - daysBeforeYear 1970

theorem dayNumber_eq (d : Date) : d.dayNumber = numberOf d.year d.month d.day := rfl

theorem numberOf_eq {year : Int} {month : Nat} (h : 1 ≤ month ∧ month ≤ 12) (day : Nat) :
    numberOf year month day =
      monthStart (monthIndex year month) + day - 1 - daysBeforeYear 1970 := by
  rw [monthStart, monthIndex_ediv h, monthIndex_emod h, numberOf]

theorem monthLength_monthIndex {year : Int} {month : Nat} (h : 1 ≤ month ∧ month ≤ 12) :
    monthLength (monthIndex year month) = daysInMonth year month := by
  rw [monthLength, monthIndex_ediv h, monthIndex_emod h]

section Order

variable {year year' : Int} {month month' day day' : Nat}

theorem numberOf_lt_of_month (hmonth : 1 ≤ month ∧ month ≤ 12) (hmonth' : 1 ≤ month' ∧ month' ≤ 12)
    (hday : day ≤ daysInMonth year month) (hday' : 1 ≤ day')
    (h : monthIndex year month < monthIndex year' month') :
    numberOf year month day < numberOf year' month' day' := by
  have hnext : monthStart (monthIndex year month + 1) ≤ monthStart (monthIndex year' month') :=
    monthStart_mono (by omega)
  rw [monthStart_succ, monthLength_monthIndex hmonth] at hnext
  rw [numberOf_eq hmonth, numberOf_eq hmonth']
  omega

/-- **Days are numbered in the order of year, month and day.** -/
theorem numberOf_lt_iff (hmonth : 1 ≤ month ∧ month ≤ 12) (hmonth' : 1 ≤ month' ∧ month' ≤ 12)
    (hday : 1 ≤ day ∧ day ≤ daysInMonth year month)
    (hday' : 1 ≤ day' ∧ day' ≤ daysInMonth year' month') :
    numberOf year month day < numberOf year' month' day' ↔
      year < year' ∨ year = year' ∧ (month < month' ∨ month = month' ∧ day < day') := by
  have hindex : monthIndex year month < monthIndex year' month' ↔
      year < year' ∨ year = year' ∧ month < month' := by
    unfold monthIndex
    omega
  rcases lt_trichotomy (monthIndex year month) (monthIndex year' month') with h | h | h
  · refine iff_of_true (numberOf_lt_of_month hmonth hmonth' hday.2 hday'.1 h) ?_
    rw [hindex] at h
    omega
  · obtain ⟨rfl, rfl⟩ : year = year' ∧ month = month' := by
      unfold monthIndex at h
      omega
    rw [numberOf_eq hmonth, numberOf_eq hmonth]
    omega
  · refine iff_of_false ?_ ?_
    · exact (numberOf_lt_of_month hmonth' hmonth hday'.2 hday.1 h).not_gt
    · unfold monthIndex at h
      omega

end Order

end Date

end CardPayments
