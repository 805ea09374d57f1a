import CardPayments.Processor.Http

/-!
# What an exchange amounts to

Of all that can come back from the network only two things count: the body of a complete answer with
a status from 200 to 299, and the transaction that such a body reports. Whatever else happens, on
the way or in an answer of another status, is a transport error; a body that reports no transaction
is a decode error, whatever else it says.
-/

namespace CardPayments

/-! ### Decoded transactions -/

theorem RemoteStatus.isApproved_ofText {word : String} :
    (ofText word).isApproved = true ↔ word = "APPROVED" := by
  unfold ofText
  split
  · next h => exact iff_of_true rfl h
  · next h => split <;> exact iff_of_false nofun h

theorem Transaction.exists_word {j : Json} {t : Transaction} (h : ofJson? j = some t) :
    ∃ word, t.status = RemoteStatus.ofText word := by
  simp only [ofJson?, Option.bind_eq_bind, Option.bind_eq_some_iff] at h
  obtain ⟨fields, -, h⟩ := h
  split at h
  · simp only [Option.bind_eq_some_iff, Option.some.injEq] at h
    obtain ⟨word, -, id, -, message, -, rfl⟩ := h
    exact ⟨word, rfl⟩
  · cases h

namespace Http

def transaction? (body : List UInt8) : Option Transaction :=
  (Json.ofChars? (Text.ofUtf8Lenient body)).bind Transaction.ofJson?

/-- Only the exact word is an approval. -/
theorem isApproved_iff {body : List UInt8} {t : Transaction} (h : transaction? body = some t) :
    t.status.isApproved = true ↔ t.status.text = "APPROVED" := by
  obtain ⟨j, -, hj⟩ := Option.bind_eq_some_iff.1 h
  obtain ⟨word, hword⟩ := Transaction.exists_word hj
  rw [hword, RemoteStatus.isApproved_ofText, RemoteStatus.text_ofText]

variable {network : Network} {base : Url} {config : Config} {r : Request}

end Http

end CardPayments
