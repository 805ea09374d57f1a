import CardPayments.Proofs.Json.Record
import CardPayments.Proofs.Json.Text
import CardPayments.Proofs.Processor.Http

/-!
# What a decoded answer says

An answer is decoded from three members: its status, the id of the transaction and a message. The
status is kept word for word, so what was decoded is decoded again from its own form, and an
approval is reported only where the one word stood. An answer is refused where one of the three
members stands twice or is of a kind that it cannot have, and for no other reason.
-/

namespace CardPayments

open Json (Once ReadsRecord occurrences)

namespace Json

variable {value : Option Json}

theorem required_string?_eq_some {word : String} :
    required string? value = some word ↔ value = some (.str word) := by
  rcases value with - | j
  · simp [required]
  · cases j <;> simp [required, string?]

theorem optional_string?_eq_none :
    optional string? value = none ↔ ∃ j, value = some j ∧ j ≠ .null ∧ ∀ s, j ≠ .str s := by
  rcases value with - | j
  · simp [optional]
  · cases j <;> simp [optional, string?]

theorem isReadable_of_mem {depth : Nat} {members : List (String × Json)} {m : String × Json}
    (h : membersAreReadable depth members = true) (hm : m ∈ members) :
    isReadable depth m.2 = true := by
  induction members with
  | nil => cases hm
  | cons member members ih =>
    rw [membersAreReadable, Bool.and_eq_true] at h
    rcases List.mem_cons.1 hm with rfl | hm
    · exact h.1
    · exact ih h.2 hm

theorem isReadable_of_member? {depth : Nat} {members : List (String × Json)} {name : String}
    {j : Json} (h : (Json.obj members).isReadable depth = true)
    (hj : member? name (.obj members) = some j) : j.isReadable (depth - 1) = true := by
  rw [isReadable, Bool.and_eq_true] at h
  obtain ⟨m, hfound, rfl⟩ := Option.map_eq_some_iff.1 hj
  exact isReadable_of_mem h.2 (List.mem_of_find?_eq_some hfound)

end Json

namespace Transaction

def fieldNames : List String := ["status", "transactionId", "message"]

def build (lookup : String → Option Json) : Option Transaction := do
  some ⟨RemoteStatus.ofText (← Json.required Json.string? (lookup "status")),
    ← Json.optional idOfJson? (lookup "transactionId"),
    ← Json.optional Json.string? (lookup "message")⟩

theorem readsRecord : ReadsRecord fieldNames ["status"] [] ofJson? build := by
  refine .of_fields (fun _ => rfl) (fun _ => rfl) (fun h lookup hnone => ?_) (fun h => by cases h)
  obtain rfl := List.mem_singleton.1 h
  simp [build, Json.required, hnone]

theorem build_eq_some {lookup : String → Option Json} {t : Transaction} :
    build lookup = some t ↔
      ∃ word, lookup "status" = some (.str word) ∧ t.status = RemoteStatus.ofText word ∧
        Json.optional idOfJson? (lookup "transactionId") = some t.transactionId ∧
        Json.optional Json.string? (lookup "message") = some t.message := by
  obtain ⟨status, id, message⟩ := t
  simp only [build, Option.bind_eq_bind, Option.bind_eq_some_iff, Option.some.injEq,
    Transaction.mk.injEq, Json.required_string?_eq_some]
  constructor
  · intro h
    obtain ⟨word, hword, id', hid, message', hmessage, rfl, rfl, rfl⟩ := h
    exact ⟨word, hword, rfl, hid, hmessage⟩
  · intro h
    obtain ⟨word, hword, rfl, hid, hmessage⟩ := h
    exact ⟨word, hword, id, hid, message, hmessage, rfl, rfl, rfl⟩

theorem build_eq_none {lookup : String → Option Json} :
    build lookup = none ↔
      (∀ word, lookup "status" ≠ some (.str word)) ∨
        Json.optional idOfJson? (lookup "transactionId") = none ∨
        Json.optional Json.string? (lookup "message") = none := by
  cases hstatus : Json.required Json.string? (lookup "status") with
  | none =>
    have hno : ∀ word, lookup "status" ≠ some (.str word) := by
      intro word hword
      rw [Json.required_string?_eq_some.2 hword] at hstatus
      cases hstatus
    simp [build, hstatus, hno]
  | some word =>
    have hword := Json.required_string?_eq_some.1 hstatus
    cases hid : Json.optional idOfJson? (lookup "transactionId") <;>
      cases hmessage : Json.optional Json.string? (lookup "message") <;>
      simp [build, Json.required, Json.string?, hword, hid, hmessage]

/-! ### There and back -/

/-- A transaction whose status was read from a word is read back from what is written for it. -/
theorem ofJson?_toJson {t : Transaction} (h : RemoteStatus.ofText t.status.text = t.status) :
    ofJson? t.toJson = some t := by
  obtain ⟨members, hobj, honce⟩ : ∃ members, t.toJson = .obj members ∧ Once fieldNames members :=
    ⟨_, rfl, by simp [Once, occurrences, fieldNames]⟩
  have hid := Json.optional_ofOption (fun s => show idOfJson? (.str s) = some s from rfl) rfl
  have hmessage :=
    Json.optional_ofOption (fun s => show Json.string? (.str s) = some s from rfl) rfl
  rw [hobj, readsRecord.once honce, ← hobj, build_eq_some]
  exact ⟨t.status.text, rfl, h.symm, hid t.transactionId, hmessage t.message⟩

theorem wellFormed_toJson (t : Transaction) : t.toJson.WellFormed := by
  have hstring := Json.wellFormed_ofOption fun s : String =>
    show (Json.str s).WellFormed from trivial
  exact ⟨trivial, hstring t.transactionId, hstring t.message, trivial⟩

/-! ### Ids -/

section Ids

variable {value : Option Json} {id : Option String}

theorem id_of_num {n : Numeral} (h : Json.optional idOfJson? (some (.num n)) = some id) :
    ∃ x, Json.Number.ofNumeral? n = some x ∧ id = some x.text := by
  obtain ⟨text, htext, rfl⟩ := Option.map_eq_some_iff.1 h
  obtain ⟨x, hx, rfl⟩ := Option.map_eq_some_iff.1 htext
  exact ⟨x, hx, rfl⟩

theorem text_whole (n : Nat) : (Json.Number.whole n).text = String.ofList (Text.digits n) := by
  have hnonneg : ¬((n : Int) < 0) := by omega
  simp [Json.Number.text, Json.Number.chars, hnonneg]

/-- A readable value is refused as an id only for its kind. -/
theorem optional_id_eq_none (hread : ∀ j, value = some j → ∃ depth, j.isReadable depth = true) :
    Json.optional idOfJson? value = none ↔
      (∃ b, value = some (.bool b)) ∨ (∃ items, value = some (.arr items)) ∨
        ∃ inner, value = some (.obj inner) := by
  rcases value with - | j
  · simp [Json.optional]
  · obtain ⟨depth, hread⟩ := hread j rfl
    cases j with
    | num n =>
      rw [Json.isReadable, Option.isSome_iff_exists] at hread
      obtain ⟨x, hx⟩ := hread
      simp [Json.optional, idOfJson?, hx]
    | unreadable => cases hread
    | _ => simp [Json.optional, idOfJson?]

end Ids

/-! ### What is reported and what is refused -/

variable {members : List (String × Json)} {t : Transaction}

/-- The transaction says what the members say, and it is the same again after it was written. -/
structure Reports (members : List (String × Json)) (t : Transaction) : Prop where
  status : Json.member? "status" (.obj members) = some (.str t.status.text)
  approved : t.status.isApproved = true ↔
    Json.member? "status" (.obj members) = some (.str "APPROVED")
  no_id : t.transactionId = none ↔
    Json.member? "transactionId" (.obj members) = none ∨
      Json.member? "transactionId" (.obj members) = some .null
  id_str : ∀ {text}, Json.member? "transactionId" (.obj members) = some (.str text) →
    t.transactionId = some text
  id_num : ∀ {n}, Json.member? "transactionId" (.obj members) = some (.num n) →
    ∃ x, Json.Number.ofNumeral? n = some x ∧ t.transactionId = some x.text
  id_whole : ∀ {n : Nat}, n < 18446744073709551616 →
    Json.member? "transactionId" (.obj members) = some (Json.ofNat n) →
    t.transactionId = some (String.ofList (Text.digits n))
  no_message : t.message = none ↔
    Json.member? "message" (.obj members) = none ∨
      Json.member? "message" (.obj members) = some .null
  message_str : ∀ {text}, Json.member? "message" (.obj members) = some (.str text) →
    t.message = some text
  again : ofJson? t.toJson = some t
  written : (Json.ofText? t.toJson.text).bind ofJson? = some t

/-- The ways in which members report no transaction. -/
inductive Refused (members : List (String × Json)) : Prop
  | repeated {name : String} (h : name ∈ fieldNames) (htwice : 2 ≤ occurrences name members)
  | status (h : ∀ word, Json.member? "status" (.obj members) ≠ some (.str word))
  | idBool {b : Bool} (h : Json.member? "transactionId" (.obj members) = some (.bool b))
  | idArr {items : List Json} (h : Json.member? "transactionId" (.obj members) = some (.arr items))
  | idObj {inner : List (String × Json)}
    (h : Json.member? "transactionId" (.obj members) = some (.obj inner))
  | message {j : Json} (h : Json.member? "message" (.obj members) = some j) (hnull : j ≠ .null)
    (hstr : ∀ s, j ≠ .str s)

theorem reports_of_ofJson? (h : ofJson? (.obj members) = some t) : t.Reports members := by
  have honce : Once fieldNames members := by
    by_contra hnot
    rw [readsRecord.repeated hnot] at h
    cases h
  rw [readsRecord.once honce, build_eq_some] at h
  obtain ⟨word, hword, hstatus, hid, hmessage⟩ := h
  have htext : t.status.text = word := by rw [hstatus, RemoteStatus.text_ofText]
  have hagain : ofJson? t.toJson = some t := ofJson?_toJson (by rw [htext, hstatus])
  have hnum {n : Numeral} (hn : Json.member? "transactionId" (.obj members) = some (.num n)) :
      ∃ x, Json.Number.ofNumeral? n = some x ∧ t.transactionId = some x.text := by
    rw [hn] at hid
    exact id_of_num hid
  constructor
  case status => rw [htext, hword]
  case approved =>
    rw [hstatus, RemoteStatus.isApproved_ofText, hword, Option.some.injEq, Json.str.injEq]
  case no_id => rw [← Json.optional_eq_some_none, hid, Option.some.injEq]
  case id_str =>
    intro text htext
    rw [htext] at hid
    exact (Option.some.inj hid).symm
  case id_num => exact hnum
  case id_whole =>
    intro n hn hmember
    obtain ⟨x, hx, htransaction⟩ := hnum hmember
    rw [Json.ofNumeral?_ofNat hn] at hx
    rw [htransaction, ← Option.some.inj hx, text_whole]
  case no_message => rw [← Json.optional_eq_some_none, hmessage, Option.some.injEq]
  case message_str =>
    intro text htext
    rw [htext] at hmessage
    exact (Option.some.inj hmessage).symm
  case again => exact hagain
  case written => rw [Json.ofText?_text t.wellFormed_toJson, Option.bind_some, hagain]

theorem ofJson?_eq_none_iff {depth : Nat} (hread : (Json.obj members).isReadable depth = true) :
    ofJson? (.obj members) = none ↔ Refused members := by
  by_cases honce : Once fieldNames members
  · have hid := optional_id_eq_none fun j (hj : Json.member? "transactionId" _ = some j) =>
      ⟨depth - 1, Json.isReadable_of_member? hread hj⟩
    rw [readsRecord.once honce, build_eq_none, hid, Json.optional_string?_eq_none]
    constructor
    · intro h
      rcases h with hstatus | (⟨b, hb⟩ | ⟨items, hitems⟩ | ⟨inner, hinner⟩) | ⟨j, hj, hnull, hstr⟩
      · exact .status hstatus
      · exact .idBool hb
      · exact .idArr hitems
      · exact .idObj hinner
      · exact .message hj hnull hstr
    · intro h
      cases h with
      | repeated h htwice => exact absurd (honce _ h) (by omega)
      | status h => exact .inl h
      | idBool h => exact .inr (.inl (.inl ⟨_, h⟩))
      | idArr h => exact .inr (.inl (.inr (.inl ⟨_, h⟩)))
      | idObj h => exact .inr (.inl (.inr (.inr ⟨_, h⟩)))
      | message h hnull hstr => exact .inr (.inr ⟨_, h, hnull, hstr⟩)
  · refine iff_of_true (readsRecord.repeated honce) ?_
    obtain ⟨name, hname, htwice⟩ : ∃ name ∈ fieldNames, ¬occurrences name members ≤ 1 := by
      simpa [Once] using honce
    exact .repeated hname (by omega)

/-- **What is decoded of an answer is what its members say.** The transaction has the status word
for word and the id as a text, and it is decoded again from what is written for it. A readable
answer is refused only for what its three members are, and nothing depends on where they stand or on
what stands beside them. -/
theorem decoded_faithfully (members : List (String × Json)) :
    (∀ t, ofJson? (.obj members) = some t → t.Reports members) ∧
      ((Json.obj members).isReadable Json.maxDepth = true →
        (ofJson? (.obj members) = none ↔ Refused members)) ∧
      ∀ arranged : List (String × Json),
        (members.filter fun m => m.1 ∈ fieldNames).Perm
          (arranged.filter fun m => m.1 ∈ fieldNames) →
        ofJson? (.obj arranged) = ofJson? (.obj members) := by
  refine ⟨fun t => reports_of_ofJson?, ofJson?_eq_none_iff, fun arranged h => ?_⟩
  rw [← readsRecord.of_known members, ← readsRecord.of_known arranged]
  exact readsRecord.reorder h

def sampleAnswer : List (String × Json) :=
  [("transactionId", Json.ofNat 42), ("note", .arr [.null]), ("status", .str "approved")]

theorem sample_decoded_faithfully :
    (∃ t, ofJson? (.obj sampleAnswer) = some t ∧ t.Reports sampleAnswer) ∧
      ¬Refused sampleAnswer ∧
      ofJson? (.obj sampleAnswer.reverse) = ofJson? (.obj sampleAnswer) := by
  obtain ⟨hreports, hrefused, harranged⟩ := decoded_faithfully sampleAnswer
  have hdecoded : ofJson? (.obj sampleAnswer) = some ⟨.other "approved", some "42", none⟩ := by
    decide
  have hreadable : (Json.obj sampleAnswer).isReadable Json.maxDepth = true := by decide
  refine ⟨⟨_, hdecoded, hreports _ hdecoded⟩, ?_, ?_⟩
  · rw [← hrefused hreadable, hdecoded]
    exact Option.some_ne_none _
  · exact harranged _ ((List.reverse_perm _).symm.filter _)

end Transaction

end CardPayments
