/-!
# Powers and rounded quotients

The powers that place values are made of, `twoTo n` for binary digits and `tenTo n` for decimal
ones, and the whole number nearest to a quotient of two whole numbers, with the two ways to settle a
tie.
-/

namespace CardPayments

/-! ### Powers -/

def twoTo (n : Nat) : Nat := Nat.pow 2 n

def tenTo (n : Nat) : Nat := Nat.pow 10 n

@[simp] theorem tenTo_zero : tenTo 0 = 1 := rfl

theorem tenTo_succ (n : Nat) : tenTo (n + 1) = tenTo n * 10 := rfl

theorem tenTo_pos (n : Nat) : 0 < tenTo n := Nat.pow_pos (by decide)

theorem tenTo_add (m n : Nat) : tenTo (m + n) = tenTo m * tenTo n := Nat.pow_add 10 m n

/-! ### Quotients -/

/-- The whole number nearest to `n / d`; of two the even one. -/
def divHalfEven (n d : Nat) : Nat :=
  let q := n / d
  let twice := 2 * (n % d)
  if d < twice ∨ (twice = d ∧ q % 2 = 1) then q + 1 else q

/-- The whole number nearest to `n / d`; of two the larger one. -/
def divHalfUp (n d : Nat) : Nat := (2 * n + d) / (2 * d)

theorem divHalfEven_one (n : Nat) : divHalfEven n 1 = n := by
  simp [divHalfEven, Nat.mod_one]

end CardPayments
