import CardPayments.Proofs.HostedPage
import CardPayments.Proofs.HostedPage.Posted

/-!
# There and back

The order's id and the amount leave with the redirect form and come back by different ways: the id
in the posted fields and in the visitor's cookie, the amount only as a hash. Whoever reads them on
the way back trims them. So an id without blanks around it names the same order everywhere, and the
hash of the amount that the form writes is the hash of the order's total. A total of zero that
carries a sign is the exception: the sign is in the form, but it is lost when the amount is read,
and not in the hash that the return is checked against.
-/

namespace CardPayments

theorem routeReturn_of_padded {fields : Form} {orderId reported : String}
    (hreported : fields.get? "orderId" = some reported) (hpadded : Text.Padded orderId reported)
    (htrimmed : Text.Trimmed orderId) (hne : orderId ≠ "") :
    routeReturn fields = .checkoutReturn orderId fields :=
  routeReturn_eq_checkoutReturn.2 ⟨Form.posted_of_padded hreported hpadded htrimmed, hne, rfl⟩

theorem routeCancel_of_trimmed {orderId : String} (htrimmed : Text.Trimmed orderId)
    (hne : orderId ≠ "") : routeCancel (some orderId) = .checkoutCancel orderId := by
  have hread : trimmed? (some orderId) = some orderId := by
    simp [trimmed?, Text.trim_of_trimmed htrimmed, hne]
  rw [routeCancel, hread]

namespace HostedPage

/-- The posted fields echo the form: they bring its order's id, and the hash of the price that its
amount and its currency write. Blanks around the two do not matter, nor do other fields. -/
inductive Echoes (config : Config) (form fields : Form) : Prop
  | intro {orderId amount currency reportedId reportedHash : String} {price : Price}
      (horder : form.get? "orderId" = some orderId) (hamount : form.get? "amount" = some amount)
      (hcurrency : form.get? "currency" = some currency)
      (hprice : Price.parse amount currency = .ok price)
      (hid : fields.get? "orderId" = some reportedId) (hidPadded : Text.Padded orderId reportedId)
      (hhash : fields.get? "amountHash" = some reportedHash)
      (hhashPadded : Text.Padded (amountHash config.hashKey price) reportedHash)

/-! ### The form -/

theorem exists_redirectForm {config : Config} {url : Url} (hpage : config.hostedPageUrl = some url)
    (payment : Payment) (order : Order) (urls : CallbackUrls) :
    ∃ form, redirectForm config payment order urls = .ok form ∧
      form.fields = redirectFields config payment order urls ∧
      form.cookie = .set orderCookie payment.orderId := by
  rw [redirectForm, Config.hostedPage, hpage]
  generalize redirectFields config payment order urls = fields
  exact ⟨_, rfl, rfl, rfl⟩

theorem get?_redirectFields (config : Config) (payment : Payment) (order : Order)
    (urls : CallbackUrls) :
    let form := redirectFields config payment order urls
    form.get? "orderId" = some payment.orderId ∧
      form.get? "amount" = some payment.amount.number.text ∧
      form.get? "currency" = some payment.amount.currency := by
  unfold redirectFields
  refine ⟨Form.get?_ofPairs_of_mem ?_ ?_, Form.get?_ofPairs_of_mem ?_ ?_,
    Form.get?_ofPairs_of_mem ?_ ?_⟩ <;> cases config.mode.isTest <;> simp

/-- What the form writes is what it was made of, whatever the amount's scale, but for the sign of a
zero. -/
theorem Echoes.returned {config : Config} {order : Order} {urls : CallbackUrls} {fields : Form}
    (h : Echoes config
      (redirectFields config (Payment.begin order.id order.totalPrice) order urls) fields) :
    ∃ reportedId reportedHash, fields.get? "orderId" = some reportedId ∧
      Text.Padded order.id reportedId ∧ fields.get? "amountHash" = some reportedHash ∧
      Text.Padded (amountHash config.hashKey order.totalPrice.unsigned) reportedHash := by
  obtain ⟨horder, hamount, hcurrency, hprice, hid, hidPadded, hhash, hhashPadded⟩ := h
  obtain ⟨hownOrder, hownAmount, hownCurrency⟩ :=
    get?_redirectFields config (Payment.begin order.id order.totalPrice) order urls
  obtain rfl := Option.some.inj (hownOrder.symm.trans horder)
  obtain rfl := Option.some.inj (hownAmount.symm.trans hamount)
  obtain rfl := Option.some.inj (hownCurrency.symm.trans hcurrency)
  obtain rfl := Except.ok.inj ((Price.parse_text order.totalPrice).symm.trans hprice)
  exact ⟨_, _, hid, hidPadded, hhash, hhashPadded⟩

/-! ### The return -/

section Return

variable {config : Config} {order : Order} {fields : Form} {reportedId reportedHash : String}

theorem namesOrder_of_padded (htrimmed : Text.Trimmed order.id)
    (hid : fields.get? "orderId" = some reportedId) (hpadded : Text.Padded order.id reportedId) :
    namesOrder order (Notification.ofForm fields) = true :=
  namesOrder_ofForm.2 (.inr (Form.posted_of_padded hid hpadded htrimmed))

theorem isTrusted_iff_of_padded {price : Price}
    (hhash : fields.get? "amountHash" = some reportedHash)
    (hpadded : Text.Padded (amountHash config.hashKey price) reportedHash) :
    isTrusted config order (Notification.ofForm fields) = true ↔
      amountHash config.hashKey price = amountHash config.hashKey order.totalPrice := by
  rw [isTrusted_ofForm, Form.posted_of_padded hhash hpadded (trimmed_amountHash _ _)]

theorem onReturn_of_digests {price : Price} (now : Instant) (l : Ledger)
    (hhash : fields.get? "amountHash" = some reportedHash)
    (hpadded : Text.Padded (amountHash config.hashKey price) reportedHash)
    (hdigests : Sha256.digest (amountBytes config.hashKey price) ≠
      Sha256.digest (amountBytes config.hashKey order.totalPrice)) :
    onReturn config now l order (Notification.ofForm fields) =
      ⟨.error (.untrusted order.id), l, []⟩ := by
  refine onReturn_of_untrusted fun htrusted => ?_
  rw [Bool.and_eq_true, isTrusted_iff_of_padded hhash hpadded, amountHash_eq_iff] at htrusted
  exact hdigests htrusted.2

theorem exists_saved {n : Notification} {now : Instant} {l : Ledger}
    (hnames : namesOrder order n = true) (htrusted : isTrusted config order n = true)
    (hsaves : l.refusal = none) :
    let arrival := onReturn config now l order n
    ∃ stored, arrival.result = .ok stored ∧ stored.id = some (l.lastId + 1) ∧
      stored.state = .authorization ∧ stored.orderId = order.id ∧
      stored.amount = order.totalPrice ∧
      arrival.ledger.get? (l.lastId + 1) = some stored ∧
      (∀ id, id ≠ l.lastId + 1 → arrival.ledger.get? id = l.get? id) ∧
      (l.lastId + 1 ∉ l.ids → arrival.ledger.ids = l.ids ++ [l.lastId + 1]) := by
  intro arrival
  obtain ⟨stored, hresult, hsave⟩ : ∃ stored, arrival.result = .ok stored ∧
      l.save (reportedPayment config now order n) = .ok (stored, arrival.ledger) :=
    onReturn_of_trusted hnames htrusted hsaves
  have hself := Ledger.get?_save_self hsave
  have hothers : ∀ id, id ≠ l.lastId + 1 → arrival.ledger.get? id = l.get? id :=
    fun id => Ledger.get?_save_of_ne hsave
  have hids : l.lastId + 1 ∉ l.ids → arrival.ledger.ids = l.ids ++ [l.lastId + 1] :=
    fun hnew => (Ledger.ids_save hsave).trans (if_neg hnew)
  obtain ⟨-, rfl, -⟩ := Ledger.save_eq_ok.1 hsave
  exact ⟨_, hresult, rfl, rfl, rfl, rfl, hself, hothers, hids⟩

end Return

/-! ### The round trip -/

/-- **An order finds its way to the hosted page and back.** The redirect form for a new payment of
the order names the order and writes its total exactly, but for the sign of a zero, and the form's
cookie leads a cancelled payment to the order. Every return that echoes the form leads to the order
with its fields as they are, and an authorized payment of the order's total is saved under the
ledger's next id, and nothing else is. Only where the total is a zero that carries a sign the return
is not believed, and nothing is saved, unless the digest collides. -/
theorem round_trip (config : Config) (url : Url) (order : Order) (urls : CallbackUrls)
    (hpage : config.hostedPageUrl = some url) (hid : order.id ≠ "")
    (htrimmed : Text.Trimmed order.id) :
    ∃ form, redirectForm config (Payment.begin order.id order.totalPrice) order urls = .ok form ∧
      form.fields.get? "orderId" = some order.id ∧
      (∃ amount currency, form.fields.get? "amount" = some amount ∧
        form.fields.get? "currency" = some currency ∧
        Price.parse amount currency = .ok order.totalPrice.unsigned) ∧
      (∃ value, form.cookie = .set orderCookie value ∧
        routeCancel (some value) = .checkoutCancel order.id) ∧
      ∀ (fields : Form) (now : Instant) (l : Ledger), Echoes config form.fields fields →
        l.refusal = none →
          let arrival := onReturn config now l order (Notification.ofForm fields)
          routeReturn fields = .checkoutReturn order.id fields ∧
          (order.totalPrice.number.isSignedZero = false →
            ∃ stored, arrival.result = .ok stored ∧ stored.id = some (l.lastId + 1) ∧
              stored.state = .authorization ∧ stored.orderId = order.id ∧
              stored.amount = order.totalPrice ∧
              arrival.ledger.get? (l.lastId + 1) = some stored ∧
              (∀ id, id ≠ l.lastId + 1 → arrival.ledger.get? id = l.get? id) ∧
              (l.lastId + 1 ∉ l.ids → arrival.ledger.ids = l.ids ++ [l.lastId + 1])) ∧
          (order.totalPrice.number.isSignedZero = true →
            Sha256.digest (amountBytes config.hashKey order.totalPrice.unsigned) ≠
              Sha256.digest (amountBytes config.hashKey order.totalPrice) →
            arrival = ⟨.error (.untrusted order.id), l, []⟩) := by
  obtain ⟨horder, hamount, hcurrency⟩ :=
    get?_redirectFields config (Payment.begin order.id order.totalPrice) order urls
  obtain ⟨form, hform, hfields, hcookie⟩ :=
    exists_redirectForm hpage (Payment.begin order.id order.totalPrice) order urls
  rw [← hfields] at horder hamount hcurrency
  refine ⟨form, hform, horder, ⟨_, _, hamount, hcurrency, Price.parse_text order.totalPrice⟩,
    ⟨order.id, hcookie, routeCancel_of_trimmed htrimmed hid⟩, ?_⟩
  rw [hfields]
  intro fields now l hechoes hsaves arrival
  obtain ⟨reportedId, reportedHash, hreported, hidPadded, hhash, hhashPadded⟩ := hechoes.returned
  have hroute := routeReturn_of_padded hreported hidPadded htrimmed hid
  have hnames := namesOrder_of_padded htrimmed hreported hidPadded
  refine ⟨hroute, fun hsigned => ?_, fun _ => onReturn_of_digests now l hhash hhashPadded⟩
  rw [Price.unsigned_eq_self hsigned] at hhashPadded
  exact exists_saved hnames ((isTrusted_iff_of_padded hhash hhashPadded).2 rfl) hsaves

def samplePage : Url :=
  ⟨"https".toList, [], none, some (.domain "localhost".toList), none, .segments ["pay".toList],
    none, none⟩

def sampleConfig : Config := (Config.ofCredentials .live "" "secret").withHostedPage samplePage none

def sampleOrder : Order := ⟨"7", "", "", ⟨(Decimal.ofParts? 19995 3).getD .zero, "USD"⟩, none⟩

def returnOver (price : Price) : Form :=
  .ofPairs [("orderId", " 7\n"), ("amountHash", amountHash sampleConfig.hashKey price)]

def sampleReturn : Form := returnOver sampleOrder.totalPrice

theorem get?_returnOver (price : Price) :
    (returnOver price).get? "orderId" = some " 7\n" ∧
      (returnOver price).get? "amountHash" = some (amountHash sampleConfig.hashKey price) := by
  refine ⟨Form.get?_ofPairs_of_mem ?_ ?_, Form.get?_ofPairs_of_mem ?_ ?_⟩ <;> simp

theorem echoes_returnOver {form : Form} {amount currency : String} {price : Price}
    (horder : form.get? "orderId" = some "7") (hamount : form.get? "amount" = some amount)
    (hcurrency : form.get? "currency" = some currency)
    (hprice : Price.parse amount currency = .ok price) :
    Echoes sampleConfig form (returnOver price) :=
  .intro horder hamount hcurrency hprice
    (get?_returnOver price).1 ⟨[' '], ['\n'], by decide, List.all_eq_true.1 (by decide)⟩
    (get?_returnOver price).2 (Text.padded_self _)

theorem trimmed_sampleOrder_id : Text.Trimmed sampleOrder.id := by
  refine Text.trimmed_of_not_blank fun c hc => ?_
  obtain rfl : c = '7' := List.mem_singleton.1 hc
  decide

theorem sample_round_trip :
    sampleConfig.hostedPageUrl = some samplePage ∧ sampleOrder.id ≠ "" ∧
      Text.Trimmed sampleOrder.id ∧
      routeReturn sampleReturn = .checkoutReturn "7" sampleReturn ∧
      ∃ stored, (onReturn sampleConfig default .empty sampleOrder
        (Notification.ofForm sampleReturn)).result = .ok stored ∧
        stored.amount = sampleOrder.totalPrice := by
  have hid : sampleOrder.id ≠ "" := by decide
  have hsigned : sampleOrder.totalPrice.number.isSignedZero = false := by decide
  obtain ⟨form, -, horder, ⟨amount, currency, hamount, hcurrency, hprice⟩, -, hreturn⟩ :=
    round_trip sampleConfig samplePage sampleOrder ⟨samplePage, samplePage⟩ rfl hid
      trimmed_sampleOrder_id
  rw [Price.unsigned_eq_self hsigned] at hprice
  obtain ⟨hroute, hsaved, -⟩ := hreturn _ default .empty
    (echoes_returnOver horder hamount hcurrency hprice) rfl
  obtain ⟨stored, hresult, -, -, -, htotal, -⟩ := hsaved hsigned
  exact ⟨rfl, hid, trimmed_sampleOrder_id, hroute, stored, hresult, htotal⟩

/-- The same order over a zero that carries a sign. A return that echoes its form is refused. -/
theorem negativeZero_not_trusted :
    let order : Order := { sampleOrder with totalPrice := ⟨.negativeZero, "USD"⟩ }
    let urls : CallbackUrls := ⟨samplePage, samplePage⟩
    sampleConfig.hostedPageUrl = some samplePage ∧ order.id ≠ "" ∧ Text.Trimmed order.id ∧
      ∃ form fields,
        redirectForm sampleConfig (Payment.begin order.id order.totalPrice) order urls = .ok form ∧
        Echoes sampleConfig form.fields fields ∧
        onReturn sampleConfig default .empty order (Notification.ofForm fields) =
          ⟨.error (.untrusted "7"), .empty, []⟩ := by
  intro order urls
  have hpage : sampleConfig.hostedPageUrl = some samplePage := rfl
  obtain ⟨form, hform, hfields, -⟩ := exists_redirectForm hpage
    (Payment.begin order.id order.totalPrice) order urls
  obtain ⟨horder, hamount, hcurrency⟩ :=
    get?_redirectFields sampleConfig (Payment.begin order.id order.totalPrice) order urls
  rw [← hfields] at horder hamount hcurrency
  have hechoes := echoes_returnOver horder hamount hcurrency (Price.parse_text order.totalPrice)
  have hdigests : Sha256.digest (amountBytes sampleConfig.hashKey order.totalPrice.unsigned) ≠
      Sha256.digest (amountBytes sampleConfig.hashKey order.totalPrice) := by decide +kernel
  exact ⟨hpage, by decide, trimmed_sampleOrder_id, form, _, hform, hechoes,
    onReturn_of_digests default .empty (get?_returnOver _).2 (Text.padded_self _) hdigests⟩

end HostedPage

end CardPayments
