import CardPayments.Order
import CardPayments.Payment
import CardPayments.Proofs.Json.Record
import CardPayments.Proofs.Json.Text
import CardPayments.Proofs.Time.Text

/-!
# Stored payments and orders

A payment or an order that was written is read back as it was: its decimals with their scales, its
times to the nanosecond, and with just those optional members that it had. Only the sign that a zero
may carry is lost, which leaves the amount and its scale what they were. Each of the four records
is read from the values under its names, so the form that was written may be rearranged, and what is
broken is refused. Of the encoding itself it is left to show that every member is read back from
what was written for it.
-/

namespace CardPayments

open Json (BuiltThrough Keeps Once ReadsRecord Shape)

/-! ### What survives -/

namespace Json

theorem uint64?_ofNat (n : UInt64) : uint64? (ofNat n.toNat) = some n := by
  have hread : number? (ofNat n.toNat) = some (.whole n.toNat) := ofNumeral?_ofNat n.toNat_lt
  simp [uint64?, hread]

/-- What is kept of a value is read back from what is written of it, through its text as well and
however the document is rearranged in between; a broken document is refused. -/
structure Survives {α : Type} (shape : Shape) (write : α → Json) (read : Json → Option α)
    (kept : α → α) : Prop where
  written : ∀ a, (ofText? (write a).text).bind read = some (kept a)
  rearranged : ∀ {a j}, Rearranged shape (write a) j →
    read j = some (kept a) ∧ (j.WellFormed → (ofText? j.text).bind read = some (kept a))
  broken : ∀ {j}, Broken shape j →
    read j = none ∧ (j.WellFormed → (ofText? j.text).bind read = none)

theorem Keeps.survives {α : Type} {shape : Shape} {write : α → Json} {read : Json → Option α}
    {kept : α → α} (h : Keeps shape read) (hread : ∀ a, read (write a) = some (kept a))
    (hwrite : ∀ a, (write a).WellFormed) : Survives shape write read kept where
  written a := by rw [ofText?_text (hwrite a), Option.bind_some, hread]
  rearranged := by
    intro a j hj
    have hval : read j = some (kept a) := by rw [h.rearranged hj, hread]
    exact ⟨hval, fun hwell => by rw [ofText?_text hwell, Option.bind_some, hval]⟩
  broken := by
    intro j hj
    exact ⟨h.broken hj, fun hwell => by rw [ofText?_text hwell, Option.bind_some, h.broken hj]⟩

end Json

/-! ### Prices -/

namespace Price

def shape : Shape := .record ["number", "currency_code"] ["number", "currency_code"] []

def build (lookup : String → Option Json) : Option Price := do
  some ⟨← Json.required Json.decimal? (lookup "number"),
    ← Json.required Json.string? (lookup "currency_code")⟩

theorem readsRecord :
    ReadsRecord ["number", "currency_code"] ["number", "currency_code"] [] ofJson? build := by
  refine .of_fields (fun _ => rfl) (fun _ => rfl) (fun h lookup hnone => ?_) (fun h => by cases h)
  simp only [List.mem_cons, List.not_mem_nil, or_false] at h
  rcases h with rfl | rfl <;>
    simp only [build, Json.required, Option.bind_eq_bind, hnone, Option.bind_none,
      Option.bind_fun_none]

theorem keeps : Keeps shape ofJson? := readsRecord.keeps

theorem ofJson?_toJson (p : Price) : ofJson? p.toJson = some p.unsigned := by
  have honce : Once ["number", "currency_code"]
      [("number", .str p.number.text), ("currency_code", .str p.currency)] := by
    simp [Once, Json.occurrences]
  rw [toJson, readsRecord.once honce]
  simp [build, Json.member?, Json.required, Json.decimal?, Json.string?, Decimal.ofText?_text,
    unsigned]

theorem wellFormed_toJson (p : Price) : p.toJson.WellFormed := ⟨trivial, trivial, trivial⟩

end Price

/-! ### Billing addresses -/

namespace BillingAddress

def required : List String := ["given_name", "family_name", "address_line1", "postal_code"]

def shape : Shape := .record fieldNames required []

def build (lookup : String → Option Json) : Option BillingAddress := do
  some ⟨← Json.required Json.string? (lookup "given_name"),
    ← Json.required Json.string? (lookup "family_name"),
    ← Json.required Json.string? (lookup "address_line1"),
    ← Json.defaulted "" Json.string? (lookup "address_line2"),
    ← Json.required Json.string? (lookup "postal_code")⟩

theorem readsRecord : ReadsRecord fieldNames required [] ofJson? build := by
  refine .of_fields (fun _ => rfl) (fun _ => rfl) (fun h lookup hnone => ?_) (fun h => by cases h)
  simp only [required, List.mem_cons, List.not_mem_nil, or_false] at h
  rcases h with rfl | rfl | rfl | rfl <;>
    simp only [build, Json.required, Option.bind_eq_bind, hnone, Option.bind_none,
      Option.bind_fun_none]

theorem keeps : Keeps shape ofJson? := readsRecord.keeps

theorem ofJson?_toJson (b : BillingAddress) : ofJson? b.toJson = some b := by
  have honce : Once fieldNames [("given_name", .str b.givenName),
      ("family_name", .str b.familyName), ("address_line1", .str b.addressLine1),
      ("address_line2", .str b.addressLine2), ("postal_code", .str b.postalCode)] := by
    simp [Once, Json.occurrences, fieldNames]
  rw [toJson, readsRecord.once honce]
  simp [build, Json.member?, Json.required, Json.defaulted, Json.string?]

theorem wellFormed_toJson (b : BillingAddress) : b.toJson.WellFormed :=
  ⟨trivial, trivial, trivial, trivial, trivial, trivial⟩

end BillingAddress

/-! ### Payments -/

namespace Payment

def required : List String := ["order_id", "amount", "state", "refunded_amount"]

def records : List (String × Shape) := [("amount", Price.shape), ("refunded_amount", Price.shape)]

def shape : Shape := .record fieldNames required records

def build (lookup : String → Option Json) : Option Payment := do
  some ⟨← Json.optional Json.uint64? (lookup "id"),
    ← Json.required Json.string? (lookup "order_id"),
    ← Json.required Price.ofJson? (lookup "amount"),
    ← Json.required PaymentState.ofJson? (lookup "state"),
    ← Json.optional Json.string? (lookup "remote_id"),
    ← Json.optional Json.string? (lookup "remote_state"),
    ← Json.required Price.ofJson? (lookup "refunded_amount"),
    ← Json.optional instantOfJson? (lookup "authorized_time"),
    ← Json.optional instantOfJson? (lookup "captured_time"),
    ← Json.optional Mode.ofJson? (lookup "gateway_mode")⟩

theorem builtThrough_price {name : String} (h : name ∈ ["amount", "refunded_amount"]) :
    BuiltThrough build name Price.ofJson? := by
  simp only [List.mem_cons, List.not_mem_nil, or_false] at h
  constructor
  · intro lookup value value' hread
    rcases h with rfl | rfl <;>
      simp only [build, Function.update_apply, String.reduceEq, ↓reduceIte, Json.required,
        Option.bind_some, hread]
  · intro lookup value hread
    rcases h with rfl | rfl <;>
      simp only [build, Function.update_apply, String.reduceEq, ↓reduceIte, Json.required,
        Option.bind_eq_bind, Option.bind_some, hread, Option.bind_none, Option.bind_fun_none]

theorem readsRecord : ReadsRecord fieldNames required records ofJson? build := by
  refine .of_fields (fun _ => rfl) (fun _ => rfl) (fun h lookup hnone => ?_) (fun h => ?_)
  · simp only [required, List.mem_cons, List.not_mem_nil, or_false] at h
    rcases h with rfl | rfl | rfl | rfl <;>
      simp only [build, Json.required, Option.bind_eq_bind, hnone, Option.bind_none,
        Option.bind_fun_none]
  · simp only [records, List.mem_cons, List.not_mem_nil, or_false, Prod.mk.injEq] at h
    rcases h with ⟨rfl, rfl⟩ | ⟨rfl, rfl⟩
    · exact ⟨Price, _, Price.keeps, builtThrough_price (by decide)⟩
    · exact ⟨Price, _, Price.keeps, builtThrough_price (by decide)⟩

theorem keeps : Keeps shape ofJson? := readsRecord.keeps

theorem instantOfJson?_text (t : Instant) : instantOfJson? (.str t.text) = some t := by
  rw [instantOfJson?, Json.string?, Option.bind_eq_bind, Option.bind_some, t.ofText?_text]

/-- The same payment, where zero amounts have lost their signs. -/
def unsigned (p : Payment) : Payment :=
  { p with amount := p.amount.unsigned, refundedAmount := p.refundedAmount.unsigned }

theorem ofJson?_toJson (p : Payment) : ofJson? p.toJson = some p.unsigned := by
  have hmode : Json.optional Mode.ofJson? (Json.member? "gateway_mode" p.toJson) =
      some p.gatewayMode := by
    unfold toJson
    cases p.gatewayMode with
    | none => simp [Json.member?, Json.optional]
    | some mode => cases mode <;> rfl
  obtain ⟨members, hobj, honce⟩ : ∃ members, p.toJson = .obj members ∧ Once fieldNames members :=
    ⟨_, rfl, by cases p.gatewayMode <;> simp [Once, Json.occurrences, fieldNames]⟩
  have hid := Json.optional_ofOption Json.uint64?_ofNat rfl p.id
  have hstring := Json.optional_ofOption (fun s => show Json.string? (.str s) = some s from rfl) rfl
  have htime := Json.optional_ofOption instantOfJson?_text rfl
  rw [hobj, readsRecord.once honce, ← hobj]
  simp only [build, hmode]
  simp [toJson, Json.member?, Json.required, Json.string?, Price.ofJson?_toJson,
    PaymentState.ofJson?_toJson, hid, hstring, htime, unsigned]

theorem wellFormed_toJson (p : Payment) : p.toJson.WellFormed := by
  have hstring := Json.wellFormed_ofOption fun s : String =>
    show (Json.str s).WellFormed from trivial
  have htime := Json.wellFormed_ofOption fun t : Instant =>
    show (Json.str t.text).WellFormed from trivial
  have hmode : Json.MembersAreWellFormed
      (p.gatewayMode.toList.map fun mode => ("gateway_mode", mode.toJson)) := by
    cases p.gatewayMode <;> repeat constructor
  exact ⟨Json.wellFormed_ofOption (fun id => Json.wellFormed_ofNat id.toNat) p.id, trivial,
    p.amount.wellFormed_toJson, trivial, hstring p.remoteId, hstring p.remoteState,
    p.refundedAmount.wellFormed_toJson, htime p.authorizedTime, htime p.capturedTime, hmode⟩

end Payment

/-! ### Orders -/

namespace Order

def fieldNames : List String := ["id", "customer_id", "email", "total_price", "billing"]

def required : List String := ["id", "customer_id", "email", "total_price"]

def records : List (String × Shape) :=
  [("total_price", Price.shape), ("billing", BillingAddress.shape)]

def shape : Shape := .record fieldNames required records

def build (lookup : String → Option Json) : Option Order := do
  some ⟨← Json.required Json.string? (lookup "id"),
    ← Json.required Json.string? (lookup "customer_id"),
    ← Json.required Json.string? (lookup "email"),
    ← Json.required Price.ofJson? (lookup "total_price"),
    ← Json.optional BillingAddress.ofJson? (lookup "billing")⟩

theorem builtThrough_totalPrice : BuiltThrough build "total_price" Price.ofJson? where
  congr lookup value value' h := by
    simp only [build, Function.update_apply, String.reduceEq, ↓reduceIte, Json.required,
      Option.bind_some, h]
  fails lookup value h := by
    simp only [build, Function.update_apply, String.reduceEq, ↓reduceIte, Json.required,
      Option.bind_eq_bind, Option.bind_some, h, Option.bind_none, Option.bind_fun_none]

theorem builtThrough_billing : BuiltThrough build "billing"
    fun value => Json.optional BillingAddress.ofJson? (some value) where
  congr lookup value value' h := by
    simp only [build, Function.update_apply, String.reduceEq, ↓reduceIte, h]
  fails lookup value h := by
    simp only [build, Function.update_apply, String.reduceEq, ↓reduceIte, Option.bind_eq_bind, h,
      Option.bind_none, Option.bind_fun_none]

theorem readsRecord : ReadsRecord fieldNames required records ofJson? build := by
  refine .of_fields (fun _ => rfl) (fun _ => rfl) (fun h lookup hnone => ?_) (fun h => ?_)
  · simp only [required, List.mem_cons, List.not_mem_nil, or_false] at h
    rcases h with rfl | rfl | rfl | rfl <;>
      simp only [build, Json.required, Option.bind_eq_bind, hnone, Option.bind_none,
        Option.bind_fun_none]
  · simp only [records, List.mem_cons, List.not_mem_nil, or_false, Prod.mk.injEq] at h
    rcases h with ⟨rfl, rfl⟩ | ⟨rfl, rfl⟩
    · exact ⟨Price, _, Price.keeps, builtThrough_totalPrice⟩
    · exact ⟨Option BillingAddress, _, BillingAddress.keeps.optional, builtThrough_billing⟩

theorem keeps : Keeps shape ofJson? := readsRecord.keeps

def unsigned (o : Order) : Order := { o with totalPrice := o.totalPrice.unsigned }

theorem ofJson?_toJson (o : Order) : ofJson? o.toJson = some o.unsigned := by
  have hbilling : Json.optional BillingAddress.ofJson? (Json.member? "billing" o.toJson) =
      some o.billing := by
    unfold toJson
    cases o.billing with
    | none => simp [Json.member?, Json.optional]
    | some b => exact congrArg (Option.map some) b.ofJson?_toJson
  obtain ⟨members, hobj, honce⟩ : ∃ members, o.toJson = .obj members ∧ Once fieldNames members :=
    ⟨_, rfl, by cases o.billing <;> simp [Once, Json.occurrences, fieldNames]⟩
  rw [hobj, readsRecord.once honce, ← hobj]
  simp only [build, hbilling]
  simp [toJson, Json.member?, Json.required, Json.string?, Price.ofJson?_toJson, unsigned]

theorem wellFormed_toJson (o : Order) : o.toJson.WellFormed := by
  have hbilling : Json.MembersAreWellFormed
      (o.billing.toList.map fun b => ("billing", b.toJson)) := by
    cases o.billing with
    | none => trivial
    | some b => exact ⟨b.wellFormed_toJson, trivial⟩
  exact ⟨trivial, trivial, trivial, o.totalPrice.wellFormed_toJson, hbilling⟩

end Order

/-! ### The stored records -/

/-- **Stored payments and orders survive their form in JSON.** Every payment and every order is read
back as it was from what was written of it, also after the members of any of its records were put in
another order or others were added to them. What `unsigned` says of its decimals is that they come
back with their amounts and their scales, and the same altogether but for the sign of a zero. A
known member that stands twice, or a required one that was taken away, makes the document
unreadable. -/
theorem stored_records_survive :
    Json.Survives Payment.shape Payment.toJson Payment.ofJson? Payment.unsigned ∧
      Json.Survives Order.shape Order.toJson Order.ofJson? Order.unsigned ∧
      ∀ d : Decimal, d.unsigned.SameAmount d ∧ d.unsigned.scale = d.scale ∧
        (d.isSignedZero = false → d.unsigned = d) :=
  ⟨Payment.keeps.survives Payment.ofJson?_toJson Payment.wellFormed_toJson,
    Order.keeps.survives Order.ofJson?_toJson Order.wellFormed_toJson,
    fun d => ⟨d.units_unsigned, rfl, Decimal.unsigned_eq_self⟩⟩

def sampleTimed : Payment :=
  { Payment.begin "7" ⟨(Decimal.ofParts? 150 2).getD .zero, "USD"⟩ with
    id := some 18446744073709551615
    authorizedTime := Instant.ofText? "2016-12-31T23:59:60.500Z"
    gatewayMode := some .test }

/-- It is read back from a document that names its members the other way round, below a note. An
order without its customer is no order. -/
theorem sample_records_survive :
    sampleTimed.authorizedTime.isSome ∧
      (∃ members, sampleTimed.toJson = .obj members ∧
        Payment.ofJson? (.obj (("note", .null) :: members.reverse)) = some sampleTimed) ∧
      Order.ofJson? (.obj [("id", .str "7"), ("email", .str ""),
        ("total_price", (Price.zero "USD").toJson)]) = none := by
  refine ⟨by decide, ⟨_, rfl, ?_⟩, ?_⟩
  · have hnote : "note" ∉ Payment.fieldNames := by decide
    have hkept : sampleTimed.unsigned = sampleTimed := by decide
    refine (stored_records_survive.1.rearranged (.trans (.reorder ?_) (.add hnote .null))).1.trans
      (congrArg some hkept)
    exact (List.reverse_perm _).symm
  · have hcustomer : "customer_id" ∈ Order.required := by decide
    exact (stored_records_survive.2.1.broken (.missing hcustomer (by decide))).1

end CardPayments
