import CardPayments.Checkout.Token
import CardPayments.Proofs.Text.Blank

/-!
# Reading tokens

A submitted text is trimmed before it is told apart, so the token that is read has no blanks around
it and reads as itself. What kind it is of depends on how it begins and on nothing else; the build
decides only whether mock tokens are read at all.
-/

namespace CardPayments

def StartsAsMock (s : String) : Prop := mockTokenStart <+: s.toList

instance (s : String) : Decidable (StartsAsMock s) :=
  inferInstanceAs (Decidable (mockTokenStart <+: s.toList))

namespace CheckoutToken

/-- The token is of the kind that its text says, and of one that the build knows. -/
def Known (knowsMockTokens : Bool) : CheckoutToken → Prop
  | .provider text => ¬StartsAsMock text
  | .mock text => StartsAsMock text ∧ knowsMockTokens = true

variable {knows : Bool} {submitted : String} {token : CheckoutToken}

theorem parse_eq (knows : Bool) (submitted : String) :
    parse knows submitted =
      if Text.trim submitted = "" then .error .missingToken
      else if StartsAsMock (Text.trim submitted) then
        if knows then .ok (.mock (Text.trim submitted)) else .error .mockTokenRejected
      else .ok (.provider (Text.trim submitted)) := by
  unfold parse StartsAsMock
  simp only [String.isEmpty_iff, List.isPrefixOf_iff_prefix]
  congr

theorem parse_eq_ok :
    parse knows submitted = .ok token ↔
      token.text = Text.trim submitted ∧ token.text ≠ "" ∧ token.Known knows := by
  rw [parse_eq]
  constructor
  · intro h
    split at h
    · cases h
    · next hne =>
      split at h
      · next hmock =>
        split at h
        · next hknows =>
          obtain rfl := Except.ok.inj h
          exact ⟨rfl, hne, hmock, hknows⟩
        · cases h
      · next hprovider =>
        obtain rfl := Except.ok.inj h
        exact ⟨rfl, hne, hprovider⟩
  · intro h
    obtain ⟨htext, hne, hknown⟩ := h
    rw [← htext, if_neg hne]
    cases token with
    | provider text => exact if_neg hknown
    | mock text => exact (if_pos hknown.1).trans (if_pos hknown.2)

theorem parse_of_provider (hne : Text.trim submitted ≠ "")
    (hprovider : ¬StartsAsMock (Text.trim submitted)) :
    parse knows submitted = .ok (.provider (Text.trim submitted)) :=
  parse_eq_ok.2 ⟨rfl, hne, hprovider⟩

/-- **A token reads as itself.** -/
theorem parse_text (h : parse knows submitted = .ok token) :
    parse knows token.text = .ok token := by
  obtain ⟨htext, hne, hknown⟩ := parse_eq_ok.1 h
  have htrimmed : Text.trim token.text = token.text := by rw [htext, Text.trim_trim]
  exact parse_eq_ok.2 ⟨htrimmed.symm, hne, hknown⟩

end CheckoutToken

/-! ### Mock tokens -/

theorem not_isBlank_base36Digit (n : Fin 36) : Text.isBlank (base36Digit n) = false := by
  revert n
  decide

theorem startsAsMock_mockToken (now : Instant) (tail : List (Fin 36)) :
    StartsAsMock (mockToken now tail) := by
  rw [StartsAsMock, mockToken, String.toList_ofList, List.append_assoc]
  exact List.prefix_append mockTokenStart _

theorem trimmed_mockToken (now : Instant) (tail : List (Fin 36)) :
    Text.Trimmed (mockToken now tail) := by
  intro c hc
  rw [mockToken, String.toList_ofList] at hc
  obtain hfirst | hlast := hc
  · obtain rfl : 't' = c := Option.some.inj hfirst
    decide
  · have hend : ∀ d ∈ '_' :: tail.map base36Digit, Text.isBlank d = false := by
      intro d hd
      obtain rfl | htail := List.mem_cons.1 hd
      · decide
      · obtain ⟨n, -, rfl⟩ := List.mem_map.1 htail
        exact not_isBlank_base36Digit n
    rw [List.getLast?_append, List.getLast?_cons, Option.some_or, ← List.getLast?_cons] at hlast
    exact hend c (List.mem_of_getLast? hlast)

theorem parse_mockToken (now : Instant) (tail : List (Fin 36)) :
    CheckoutToken.parse true (mockToken now tail) = .ok (.mock (mockToken now tail)) := by
  have hstart := startsAsMock_mockToken now tail
  have hne : mockToken now tail ≠ "" := by
    intro hempty
    rw [hempty] at hstart
    exact absurd hstart (by decide)
  exact CheckoutToken.parse_eq_ok.2
    ⟨(Text.trim_of_trimmed (trimmed_mockToken now tail)).symm, hne, hstart, rfl⟩

end CardPayments
