import CardPayments.Checkout
import CardPayments.Proofs.HostedPage.RoundTrip
import CardPayments.Proofs.Sequence

/-!
# The key behind returns

A return is believed by its hash, so whoever knows the key of the hashes can forge one. Secrecy is
about two runs: the customer's browser is given the same under two configurations that differ in the
key alone. The redirect form is, whatever the configuration. The settings of the tokenizer carry the
secret key as their token, so they are the same only where a hash key of its own stands beside the
secret key; elsewhere the two are one key and the browser is given it.
-/

namespace CardPayments

namespace Config

/-- Whether amount hashes have a key of their own, beside the secret key. -/
def hasOwnHashKey (c : Config) : Bool := c.secretHashKey.any fun key => !key.isEmpty

def withHashKey (c : Config) (key : String) : Config :=
  if c.hasOwnHashKey then { c with secretHashKey := some key } else { c with secretKey := key }

variable {c : Config}

theorem hashKey_of_some {own : String} (h : c.secretHashKey = some own) (hne : own ≠ "") :
    c.hashKey = own := by
  have hnonempty : ¬own.isEmpty = true := by simpa using hne
  unfold hashKey
  rw [h]
  exact if_neg hnonempty

theorem hashKey_of_not_own (h : c.hasOwnHashKey = false) : c.hashKey = c.secretKey := by
  unfold hasOwnHashKey at h
  unfold hashKey
  cases hown : c.secretHashKey with
  | none => rfl
  | some own =>
    have hempty : own.isEmpty = true := by simpa [hown] using h
    exact if_pos hempty

theorem hashKey_ne_empty_of_own (h : c.hasOwnHashKey = true) : c.hashKey ≠ "" := by
  unfold hasOwnHashKey at h
  cases hown : c.secretHashKey with
  | none => simp [hown] at h
  | some own =>
    have hne : own ≠ "" := by simpa [hown] using h
    rw [hashKey_of_some hown hne]
    exact hne

theorem hashKey_withHashKey (c : Config) {key : String} (hkey : key ≠ "") :
    (c.withHashKey key).hashKey = key := by
  unfold withHashKey
  cases hown : c.hasOwnHashKey with
  | true => exact hashKey_of_some rfl hkey
  | false => exact hashKey_of_not_own hown

theorem secretKey_ne_empty_of_validate (h : c.validate = .ok ()) : c.secretKey ≠ "" := by
  intro hempty
  have hmissing : c.secretKey.isEmpty = true := by rw [hempty]; rfl
  unfold validate at h
  rw [if_pos hmissing] at h
  split at h
  · cases h
  · split at h <;> cases h

theorem hashKey_ne_empty_of_validate (h : c.validate = .ok ()) : c.hashKey ≠ "" := by
  cases hown : c.hasOwnHashKey with
  | true => exact hashKey_ne_empty_of_own hown
  | false =>
    rw [hashKey_of_not_own hown]
    exact secretKey_ne_empty_of_validate h

/-! ### What stays when the key changes -/

theorem mode_withHashKey (c : Config) (key : String) : (c.withHashKey key).mode = c.mode := by
  unfold withHashKey
  split <;> rfl

theorem hostedPage_withHashKey (c : Config) (key : String) :
    (c.withHashKey key).hostedPage = c.hostedPage := by
  unfold withHashKey
  split <;> rfl

theorem secretKey_withHashKey (c : Config) (key : String) :
    (c.withHashKey key).secretKey = if c.hasOwnHashKey then c.secretKey else key := by
  unfold withHashKey
  split <;> rfl

end Config

def Gateway.withHashKey (g : Gateway) (key : String) : Gateway :=
  { g with config := g.config.withHashKey key }

namespace HostedPage

/-- Some return is believed under the configuration. -/
def Accepts (config : Config) : Prop :=
  ∃ now l order n p, (onReturn config now l order n).result = .ok p

theorem redirectForm_withHashKey (config : Config) (key : String) (payment : Payment)
    (order : Order) (urls : CallbackUrls) :
    redirectForm (config.withHashKey key) payment order urls =
      redirectForm config payment order urls := by
  have hfields : redirectFields (config.withHashKey key) payment order urls =
      redirectFields config payment order urls := by
    unfold redirectFields
    rw [config.mode_withHashKey]
  unfold redirectForm
  rw [config.hostedPage_withHashKey, hfields]

theorem tokenizerSettings_withHashKey (g : Gateway) (key : String) (payment : Payment) :
    (g.withHashKey key).tokenizerSettings payment =
      { g.tokenizerSettings payment with
        token := if g.config.hasOwnHashKey then g.config.secretKey else key } := by
  unfold Gateway.tokenizerSettings Gateway.withHashKey
  rw [g.config.mode_withHashKey, g.config.secretKey_withHashKey]

theorem accepts (config : Config) : Accepts config := by
  let n : Notification :=
    { (default : Notification) with
      amountHash := amountHash config.hashKey (default : Order).totalPrice }
  have hnames : namesOrder default n = true := by
    change namesOrder default default = true
    decide
  have htrusted : isTrusted config default n = true := verifyAmountHash_iff.2 rfl
  have hsaves : Ledger.empty.refusal = none := rfl
  obtain ⟨p, hresult, -⟩ := onReturn_of_trusted hnames htrusted hsaves
  exact ⟨default, .empty, default, n, p, hresult⟩

/-- **The browser is not given a hash key of its own.** A configuration with valid credentials has a
key. Replacing it changes nothing in the redirect form; in the settings of the tokenizer it changes
nothing where the key is one of its own, and elsewhere the token alone, which is the key. -/
theorem browser_not_given_own_key :
    (∀ config : Config, config.validate = .ok () → config.hashKey ≠ "") ∧
      ∀ (g : Gateway) (key : String), key ≠ "" →
        (g.withHashKey key).config.hashKey = key ∧
        ∀ (payment : Payment) (order : Order) (urls : CallbackUrls),
          redirectForm (g.withHashKey key).config payment order urls =
            redirectForm g.config payment order urls ∧
          (g.config.hasOwnHashKey = true →
            (g.withHashKey key).tokenizerSettings payment = g.tokenizerSettings payment) ∧
          (g.config.hasOwnHashKey = false →
            (g.tokenizerSettings payment).token = g.config.hashKey ∧
              (g.withHashKey key).tokenizerSettings payment =
                { g.tokenizerSettings payment with token := key }) := by
  refine ⟨fun config => Config.hashKey_ne_empty_of_validate, ?_⟩
  intro g key hkey
  refine ⟨g.config.hashKey_withHashKey hkey, ?_⟩
  intro payment order urls
  refine ⟨redirectForm_withHashKey g.config key payment order urls, ?_, ?_⟩
  · intro hown
    rw [tokenizerSettings_withHashKey, if_pos hown]
    rfl
  · intro hshared
    have hnot : ¬g.config.hasOwnHashKey = true := by simp [hshared]
    constructor
    · exact (Config.hashKey_of_not_own hshared).symm
    · rw [tokenizerSettings_withHashKey, if_neg hnot]

def sampleGateway (secretKey : String) (hashKey : Option String) : Gateway :=
  ⟨{ Config.ofCredentials .test "a-long-token" secretKey with secretHashKey := hashKey },
    fun _ => .error (.client ""), default, false⟩

theorem sample_browser_not_given_own_key :
    ((sampleGateway "a-long-enough-secret-key" (some "")).config.validate = .ok () ∧
      (sampleGateway "a-long-enough-secret-key" (some "")).config.hashKey ≠ "") ∧
    "other" ≠ "" ∧
    (sampleGateway "secret" (some "own")).config.hasOwnHashKey = true ∧
      ((sampleGateway "secret" (some "own")).withHashKey "other").config.hashKey = "other" ∧
      ((sampleGateway "secret" (some "own")).withHashKey "other").tokenizerSettings default =
        (sampleGateway "secret" (some "own")).tokenizerSettings default := by
  have hvalid : (sampleGateway "a-long-enough-secret-key" (some "")).config.validate = .ok () := by
    rfl
  have hother : "other" ≠ "" := by decide
  have hown : (sampleGateway "secret" (some "own")).config.hasOwnHashKey = true := rfl
  obtain ⟨hnonempty, hchanged⟩ := browser_not_given_own_key
  obtain ⟨hkey, hbrowser⟩ := hchanged (sampleGateway "secret" (some "own")) "other" hother
  obtain ⟨-, hsettings, -⟩ := hbrowser default default ⟨samplePage, samplePage⟩
  exact ⟨⟨hvalid, hnonempty _ hvalid⟩, hother, hown, hkey, hsettings hown⟩

/-- Without valid credentials returns may be believed under an empty key, and a gateway without a
hash key of its own gives its key to the browser. -/
theorem browser_given_shared_key :
    (¬∀ g : Gateway, Accepts g.config → g.config.hashKey ≠ "") ∧
      ¬∀ g : Gateway, Accepts g.config → ∀ key ≠ "", ∀ payment : Payment,
        (g.withHashKey key).tokenizerSettings payment = g.tokenizerSettings payment := by
  constructor
  · intro h
    exact h (sampleGateway "" none) (accepts _) rfl
  · intro h
    have hsame := h (sampleGateway "secret" none) (accepts _) "other" (by decide) default
    exact absurd (congrArg TokenizerSettings.token hsame) (by decide)

end HostedPage

end CardPayments
