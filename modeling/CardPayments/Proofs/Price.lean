import CardPayments.Proofs.Decimal.Sum
import CardPayments.Proofs.Sequence

/-!
# Operations on prices

When prices are added, subtracted and compared, and with which result. An overflow is a sum that no
decimal holds; sums with room for their amount are exact and never overflow.
-/

namespace CardPayments

namespace Price

variable {a b c : Price} {o : Overflow} {r : Bool}

theorem isPositive_iff {p : Price} : p.isPositive = true ↔ 0 < p.number.units := by
  simp only [isPositive, decide_eq_true_eq, Decimal.coefficient_pos_iff]

theorem isPositive_iff_zero_lt {p : Price} :
    p.isPositive = true ↔ Decimal.zero < p.number := by
  rw [Decimal.lt_iff_units, Decimal.units_zero, isPositive_iff]

@[simp] theorem sameCurrency_eq_ok {u : Unit} :
    a.sameCurrency b = .ok u ↔ a.currency = b.currency := by
  unfold sameCurrency
  split <;> simp [*]

theorem sameCurrency_eq_error {e : PriceError} :
    a.sameCurrency b = .error e ↔
      a.currency ≠ b.currency ∧ .currencyMismatch a.currency b.currency = e := by
  unfold sameCurrency
  split <;> simp [*]

theorem ofAmount_eq_ok {currency : String} {amount : Option Decimal} :
    ofAmount o currency amount = .ok c ↔ amount = some c.number ∧ c.currency = currency := by
  cases amount <;> cases c <;> simp [ofAmount, eq_comm]

theorem ofAmount_eq_overflow {operation : Overflow} {currency : String} {amount : Option Decimal} :
    ofAmount operation currency amount = .error (.overflow o) ↔ amount = none ∧ operation = o := by
  cases amount <;> simp [ofAmount]

theorem add_eq_ok :
    a.add b = .ok c ↔
      a.currency = b.currency ∧ a.number.add? b.number = some c.number ∧
        c.currency = a.currency := by
  simp [add, ofAmount_eq_ok]

theorem add_eq_overflow :
    a.add b = .error (.overflow o) ↔
      a.currency = b.currency ∧ a.number.add? b.number = none ∧ .addition = o := by
  simp [add, ofAmount_eq_overflow]

theorem subtract_eq_ok :
    a.subtract b = .ok c ↔
      a.currency = b.currency ∧ a.number.sub? b.number = some c.number ∧
        c.currency = a.currency := by
  simp [subtract, ofAmount_eq_ok]

theorem subtract_eq_error {stop : Stop PriceError} :
    a.subtract b = .error stop ↔
      a.currency ≠ b.currency ∧ .error (.currencyMismatch a.currency b.currency) = stop ∨
        a.currency = b.currency ∧ a.number.sub? b.number = none ∧
          .overflow .subtraction = stop := by
  cases hdifference : a.number.sub? b.number <;>
    simp [subtract, sameCurrency_eq_error, ofAmount, hdifference, and_assoc]

theorem lessThan_eq_ok :
    a.lessThan b = .ok r ↔ a.currency = b.currency ∧ decide (a.number < b.number) = r := by
  simp [lessThan]

theorem greaterThan_eq_ok :
    a.greaterThan b = .ok r ↔ a.currency = b.currency ∧ decide (b.number < a.number) = r := by
  simp [greaterThan]

end Price

end CardPayments
