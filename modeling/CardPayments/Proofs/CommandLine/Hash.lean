import CardPayments.CommandLine
import CardPayments.Proofs.Sequence
import CardPayments.Proofs.Trust

/-!
# Hashes on the command line

The hash command prints the hash of an amount and checks a reported one, with the key of the
selected gateway. It takes the key, the amount and the blanks around a reported hash as the return
from the hosted page does, so what it accepts is what a return for that amount would be believed
with.
-/

namespace CardPayments

namespace CommandLine

section Hash

variable {network : Network} {ctx : Context} {name amount currency : String}
  {config : Config} {price : Price}

/-- What the command does once the gateway is selected and the amount is read. -/
theorem hash_eq (hconfig : ctx.config = .ok (name, config)) (hkey : config.hashKey ≠ "")
    (hprice : Price.parse amount currency = .ok price) (verify : Option String) :
    hash ctx ⟨amount, currency, verify⟩ =
      match verify with
      | none => .ok [amountHash config.hashKey price]
      | some reported =>
        if verifyAmountHash config.hashKey price (Text.trim reported) then
          .ok [tick ("Hash matches " ++ price.display)]
        else .error (.hashMismatch price) := by
  have hnonempty : config.hashKey.isEmpty = false := by simpa using hkey
  have hread : (Price.parse amount currency).mapError CommandError.price = .ok price :=
    mapError_eq_ok.2 hprice
  simp only [hash, hconfig, bind, Except.bind, hnonempty, hread]
  cases verify <;> rfl

theorem execute_hash_none (hconfig : ctx.config = .ok (name, config)) (hkey : config.hashKey ≠ "")
    (hprice : Price.parse amount currency = .ok price) :
    execute network ctx (.hash ⟨amount, currency, none⟩) =
      ⟨[amountHash config.hashKey price], .ok ()⟩ := by
  rw [execute, hash_eq hconfig hkey hprice, Report.ofExcept]

theorem execute_hash_some (hconfig : ctx.config = .ok (name, config)) (hkey : config.hashKey ≠ "")
    (hprice : Price.parse amount currency = .ok price) (reported : String) :
    (execute network ctx (.hash ⟨amount, currency, some reported⟩)).result = .ok () ↔
      verifyAmountHash config.hashKey price (Text.trim reported) = true := by
  rw [execute, hash_eq hconfig hkey hprice]
  by_cases hverified : verifyAmountHash config.hashKey price (Text.trim reported) = true
  · simp [hverified, Report.ofExcept]
  · simp [hverified, Report.ofExcept, Report.failed]

end Hash

/-- **What an amount hash binds.** As long as two messages do not collide, the hash of one amount
verifies another exactly when their values are the same in hundredths, rounded half away from zero,
and both or none of them is a zero that carries a sign.
The hash command verifies a reported hash exactly when the selected gateway would trust a return
that reports it for an order of that total, and it verifies what it prints itself, whatever blanks
come with it. -/
theorem hash_binds_hundredths :
    (∀ (key : String) (a b : Price),
      (Sha256.digest (amountBytes key a) = Sha256.digest (amountBytes key b) →
        amountBytes key a = amountBytes key b) →
      (verifyAmountHash key a (amountHash key b) = true ↔
        roundHalfAway (100 * a.number.value) = roundHalfAway (100 * b.number.value) ∧
          a.number.isSignedZero = b.number.isSignedZero)) ∧
    ∀ (network : Network) (ctx : Context) (name : String) (config : Config),
      ctx.config = .ok (name, config) → config.hashKey ≠ "" →
      ∀ (amount currency : String) (price : Price), Price.parse amount currency = .ok price →
        (∀ (reported : String) (order : Order) (n : Notification), order.totalPrice = price →
          n.amountHash = Text.trim reported →
            ((execute network ctx (.hash ⟨amount, currency, some reported⟩)).result = .ok () ↔
              isTrusted config order n = true)) ∧
        ∃ printed, execute network ctx (.hash ⟨amount, currency, none⟩) = ⟨[printed], .ok ()⟩ ∧
          ∀ reported, Text.Padded printed reported →
            (execute network ctx (.hash ⟨amount, currency, some reported⟩)).result = .ok () := by
  constructor
  · intro key a b hcollision
    rw [verifyAmountHash_amountHash hcollision, a.number.hundredths_eq_round,
      b.number.hundredths_eq_round]
  · intro network ctx name config hconfig hkey amount currency price hprice
    constructor
    · intro reported order n htotal hreported
      rw [execute_hash_some hconfig hkey hprice, isTrusted, htotal, hreported]
    · refine ⟨_, execute_hash_none hconfig hkey hprice, ?_⟩
      intro reported hpadded
      apply (execute_hash_some hconfig hkey hprice reported).2
      rw [Text.trim_of_padded hpadded (trimmed_amountHash _ _), verifyAmountHash_iff]

def sampleContext : Context :=
  ⟨manifestName, .empty, none, ⟨[(secretKeyVariable, "abc")]⟩⟩

def samplePrice (coefficient : ℤ) (scale : ℕ) : Price :=
  ⟨(Decimal.ofParts? coefficient scale).getD .zero, "USD"⟩

theorem sample_hash_binds_hundredths :
    verifyAmountHash "abc" (samplePrice 1999 2) (amountHash "abc" (samplePrice 19984 3)) = false ∧
      ∃ printed, execute (fun _ => .unreachable "") sampleContext (.hash ⟨"19.99", "USD", none⟩) =
        ⟨[printed], .ok ()⟩ ∧
      (execute (fun _ => .unreachable "") sampleContext
        (.hash ⟨"19.99", "USD", some (printed ++ "\n")⟩)).result = .ok () := by
  have hdigests : Sha256.digest (amountBytes "abc" (samplePrice 1999 2)) ≠
      Sha256.digest (amountBytes "abc" (samplePrice 19984 3)) := by decide +kernel
  have hvalues : roundHalfAway (100 * (samplePrice 1999 2).number.value) ≠
      roundHalfAway (100 * (samplePrice 19984 3).number.value) := by
    rw [← Decimal.hundredths_eq_round, ← Decimal.hundredths_eq_round]
    decide
  have hconfig : sampleContext.config = .ok (defaultGateway, .ofCredentials .test "" "abc") := rfl
  have hprice : Price.parse "19.99" "USD" = .ok (samplePrice 1999 2) := by decide
  obtain ⟨hbinds, hcommand⟩ := hash_binds_hundredths
  obtain ⟨-, printed, hprinted, haccepted⟩ :=
    hcommand (fun _ => .unreachable "") sampleContext _ _ hconfig (by decide) "19.99" "USD" _ hprice
  have hpadded : Text.Padded printed (printed ++ "\n") :=
    ⟨[], ['\n'], by simp, List.all_eq_true.1 (by decide)⟩
  refine ⟨?_, printed, hprinted, haccepted _ hpadded⟩
  rw [Bool.eq_false_iff]
  exact fun h => hvalues ((hbinds "abc" _ _ fun h => absurd h hdigests).1 h).1

/-- The zero that carries a sign is not verified by the hash of the other one, though the two
messages do not collide. -/
theorem negativeZero_not_verified :
    let signed : Price := ⟨.negativeZero, "USD"⟩
    let unsigned := samplePrice 0 2
    roundHalfAway (100 * signed.number.value) = roundHalfAway (100 * unsigned.number.value) ∧
      Sha256.digest (amountBytes "abc" signed) ≠ Sha256.digest (amountBytes "abc" unsigned) ∧
      verifyAmountHash "abc" signed (amountHash "abc" unsigned) = false := by
  intro signed unsigned
  have hdigests : Sha256.digest (amountBytes "abc" signed) ≠
      Sha256.digest (amountBytes "abc" unsigned) := by decide +kernel
  refine ⟨?_, hdigests, ?_⟩
  · rw [← Decimal.hundredths_eq_round, ← Decimal.hundredths_eq_round]
    decide
  · rw [Bool.eq_false_iff]
    exact fun h => hdigests (amountHash_eq_iff.1 (verifyAmountHash_iff.1 h))

end CommandLine

end CardPayments
