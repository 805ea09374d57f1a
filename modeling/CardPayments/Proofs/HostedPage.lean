import CardPayments.HostedPage
import CardPayments.Proofs.Ledger

/-!
# What a return from the hosted page leaves behind

A return is refused, or the payment it reports is saved. Only a save changes the ledger.
-/

namespace CardPayments

namespace HostedPage

variable {config : Config} {now : Instant} {l : Ledger} {order : Order} {n : Notification}

theorem onReturn_ok {p : Payment} (h : (onReturn config now l order n).result = .ok p) :
    (namesOrder order n && isTrusted config order n) = true ∧
      l.save (reportedPayment config now order n) =
        .ok (p, (onReturn config now l order n).ledger) := by
  unfold onReturn at h ⊢
  split at h
  · next htrusted =>
    refine ⟨htrusted, ?_⟩
    rw [if_pos htrusted]
    cases hsave : l.save (reportedPayment config now order n) with
    | error e => simp [hsave] at h
    | ok ending =>
      obtain ⟨stored, after⟩ := ending
      simp only [hsave, Except.ok.injEq] at h
      rw [h]
  · cases h

theorem onReturn_notices {p : Payment} (h : (onReturn config now l order n).result = .ok p) :
    (onReturn config now l order n).notices =
      [⟨.status, "You have returned from " ++ config.displayLabel ++ "."⟩] := by
  have htrusted := (onReturn_ok h).1
  unfold onReturn
  rw [if_pos htrusted]
  cases l.save (reportedPayment config now order n) <;> rfl

theorem onReturn_of_untrusted (h : (namesOrder order n && isTrusted config order n) ≠ true) :
    onReturn config now l order n = ⟨.error (.untrusted order.id), l, []⟩ := if_neg h

theorem onReturn_error {failure : Failure}
    (h : (onReturn config now l order n).result = .error failure) :
    (onReturn config now l order n).ledger = l := by
  unfold onReturn at h ⊢
  split
  · next htrusted =>
    rw [if_pos htrusted] at h
    cases hsave : l.save (reportedPayment config now order n) with
    | error e => rfl
    | ok ending => simp [hsave] at h
  · rfl

/-- A return that can be trusted is saved, if the ledger saves anything. -/
theorem onReturn_of_trusted (hnames : namesOrder order n = true)
    (htrusted : isTrusted config order n = true) (hsaves : l.refusal = none) :
    ∃ stored, (onReturn config now l order n).result = .ok stored ∧
      l.save (reportedPayment config now order n) =
        .ok (stored, (onReturn config now l order n).ledger) := by
  obtain ⟨stored, after, hsave⟩ := l.exists_save hsaves (reportedPayment config now order n)
  have hresult : (onReturn config now l order n).result = .ok stored := by
    simp [onReturn, hnames, htrusted, hsave]
  exact ⟨stored, hresult, (onReturn_ok hresult).2⟩

end HostedPage

end CardPayments
