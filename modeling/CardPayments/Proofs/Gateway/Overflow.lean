import CardPayments.Proofs.Gateway.Action

/-!
# Where overflows come from

Amounts are added and subtracted only to give money back. So only a refund can overflow: at the
balance, before the processor is asked, or at the new total, once the processor has approved.
-/

namespace CardPayments

namespace Gateway

variable {g : Gateway} {p : Payment} {l : Ledger} {o : Overflow}

theorem overflows_of_map {plan : Except (Stop Failure) Plan}
    (h : ((g.perform p l plan).map fun _ => ()).result = .error (.overflow o)) :
    Plan.Overflows plan o :=
  perform_overflow (map_eq_error.1 h)

theorem submit_ne_overflow {order : Order} {submission : Submission} :
    (g.submit p l order submission).result ≠ .error (.overflow o) := by
  have htoken : (g.submitToken p l order submission).result ≠ .error (.overflow o) := by
    unfold submitToken
    split
    · simp [Outcome.refused]
    · next token _ =>
      unfold submitProvider
      dsimp only
      split
      · next stop hstop =>
        rintro hoverflow
        rw [Except.error.inj hoverflow, create] at hstop
        exact Plan.not_overflows_create (perform_overflow hstop)
      · simp
    · next token _ =>
      unfold submitMock
      split
      · next stop hstop =>
        rintro hoverflow
        rw [Except.error.inj hoverflow] at hstop
        simp [completedWithMock, unless_stop_eq_overflow] at hstop
      · split <;> simp [Outcome.refused]
  unfold submit
  dsimp only
  split
  · next failure hfailure => simp [hfailure]
  · exact htoken

/-- **Only a refund overflows**, at its balance or at its new total. -/
theorem act_overflow {action : Action} (h : (g.act action p l).result = .error (.overflow o)) :
    ∃ given, action = .refund given ∧ Plan.Overflows (Plan.refund p given) o := by
  cases action with
  | create order captures =>
    exact absurd (overflows_of_map h) Plan.not_overflows_create
  | capture given =>
    exact absurd (overflows_of_map h) Plan.not_overflows_capture
  | void => exact absurd (overflows_of_map h) Plan.not_overflows_void
  | refund given => exact ⟨given, rfl, overflows_of_map h⟩
  | refresh => exact absurd (overflows_of_map h) Plan.not_overflows_refresh
  | submit order submission =>
    rw [act] at h
    exact absurd h submit_ne_overflow

end Gateway

end CardPayments
