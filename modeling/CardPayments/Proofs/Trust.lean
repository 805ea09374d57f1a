import CardPayments.Proofs.Decimal.TwoPlaces
import CardPayments.Notification

/-!
# What an amount hash stands for

An amount hash says as much about an amount as the digest does. The hexadecimal digits give the
digest back, the bytes of the message give back its characters, and behind the key these are the
amount in two places. So under one key two amounts have different messages unless they read alike in
two places, and only a collision of the digest can give different messages the same hash.
-/

namespace CardPayments

namespace Text

theorem utf8_inj {s t : List Char} (h : utf8 s = utf8 t) : s = t := by
  have hbytes : (String.ofList s).toByteArray = (String.ofList t).toByteArray := by
    rw [String.toByteArray_ofList, String.toByteArray_ofList]
    exact congrArg List.toByteArray h
  exact String.ofList_inj.1 (String.toByteArray_inj.1 hbytes)

end Text

namespace Sha256

/-! ### Hexadecimal digits -/

theorem not_isBlank_of_mem_hexChars {bytes : List UInt8} {c : Char} (h : c ∈ hexChars bytes) :
    Text.isBlank c = false := by
  have hdigits : ∀ n < 16, Text.isBlank (Nat.digitChar n) = false := by decide
  obtain ⟨b, -, hc⟩ := List.mem_flatMap.1 h
  have hb : b.toNat < 256 := b.toNat_lt
  simp only [List.mem_cons, List.not_mem_nil, or_false] at hc
  obtain rfl | rfl := hc
  · exact hdigits _ (by omega)
  · exact hdigits _ (by omega)

theorem digitChar_inj {m n : ℕ} (hm : m < 16) (hn : n < 16)
    (h : Nat.digitChar m = Nat.digitChar n) : m = n := by
  have hdigits : ∀ m < 16, ∀ n < 16, Nat.digitChar m = Nat.digitChar n → m = n := by decide
  exact hdigits m hm n hn h

theorem hexChars_inj {bytes others : List UInt8} (h : hexChars bytes = hexChars others) :
    bytes = others := by
  induction bytes generalizing others with
  | nil =>
    cases others with
    | nil => rfl
    | cons b others => simp [hexChars] at h
  | cons a bytes ih =>
    cases others with
    | nil => simp [hexChars] at h
    | cons b others =>
      simp only [hexChars, List.flatMap_cons, List.cons_append, List.nil_append,
        List.cons.injEq] at h
      obtain ⟨hhigh, hlow, hrest⟩ := h
      have ha : a.toNat < 256 := a.toNat_lt
      have hb : b.toNat < 256 := b.toNat_lt
      have hhigh := digitChar_inj (by omega) (by omega) hhigh
      have hlow := digitChar_inj (by omega) (by omega) hlow
      have hbyte : a = b := UInt8.toNat_inj.1 (by omega)
      rw [hbyte, ih hrest]

end Sha256

/-! ### Hashes and messages -/

theorem trimmed_amountHash (key : String) (amount : Price) :
    Text.Trimmed (amountHash key amount) := by
  refine Text.trimmed_of_not_blank fun c hc => ?_
  rw [amountHash, String.toList_ofList] at hc
  exact Sha256.not_isBlank_of_mem_hexChars hc

def amountBytes (key : String) (amount : Price) : List UInt8 := Text.utf8 (amountMessage key amount)

variable {key : String} {a b : Price}

theorem amountHash_eq_iff :
    amountHash key a = amountHash key b ↔
      Sha256.digest (amountBytes key a) = Sha256.digest (amountBytes key b) := by
  constructor
  · intro h
    exact Sha256.hexChars_inj (String.ofList_inj.1 h)
  · intro h
    rw [amountHash, ← amountBytes, h, amountBytes, amountHash]

theorem amountBytes_eq_iff :
    amountBytes key a = amountBytes key b ↔
      a.number.hundredths = b.number.hundredths ∧
        a.number.isSignedZero = b.number.isSignedZero := by
  rw [← Decimal.fixedChars_eq_iff]
  constructor
  · intro h
    exact List.append_cancel_left (Text.utf8_inj h)
  · intro h
    rw [amountBytes, amountMessage, h, amountBytes, amountMessage]

theorem verifyAmountHash_iff {reported : String} :
    verifyAmountHash key a reported = true ↔ amountHash key a = reported := by
  rw [verifyAmountHash, beq_iff_eq]

/-- **A hash verifies the amounts that agree with its own in hundredths** and in whether they are a
zero with a sign, unless two messages collide. -/
theorem verifyAmountHash_amountHash
    (hcollision : Sha256.digest (amountBytes key a) = Sha256.digest (amountBytes key b) →
      amountBytes key a = amountBytes key b) :
    verifyAmountHash key a (amountHash key b) = true ↔
      a.number.hundredths = b.number.hundredths ∧
        a.number.isSignedZero = b.number.isSignedZero := by
  rw [verifyAmountHash_iff, amountHash_eq_iff, ← amountBytes_eq_iff]
  constructor
  · exact hcollision
  · intro h
    rw [h]

end CardPayments
