import CardPayments.Proofs.Url.Numeric
import CardPayments.Proofs.Url.Percent

/-!
# Hosts there and back

A host that was read is written in one spelling, and this spelling is read as the same host. It
holds nothing that would end the host or the authority around it.
-/

namespace CardPayments

namespace Text

theorem ofUtf8?_utf8_of_ascii {s : List Char} (h : ∀ c ∈ s, c.toNat < 0x80) :
    ofUtf8? (utf8 s) = some s := by
  have hdecoded : decoded (utf8 s) = s.map some := by
    induction s with
    | nil => rfl
    | cons c s ih =>
      rw [List.forall_mem_cons] at h
      have hbyte : (UInt8.ofNat c.toNat).toNat = c.toNat :=
        UInt8.toNat_ofNat_of_lt (Nat.lt_trans h.1 (by decide))
      have hfirst (rest : List UInt8) :
          characterFrom (UInt8.ofNat c.toNat) rest = (some c, rest) := by
        rw [characterFrom, hbyte]
        simp only [if_pos h.1, Char.ofNat_toNat]
      have hrest := ih h.2
      rw [decoded] at hrest
      rw [utf8, List.flatMap_cons, utf8EncodeChar_of_ascii h.1, ← utf8, List.singleton_append,
        decoded, List.length_cons, decodeSteps, hfirst, List.map_cons, ← hrest]
  rw [ofUtf8?, hdecoded, Domain.mapM_eq_some_iff, List.map_id]

end Text

namespace Host

/-- A character that neither ends an authority nor stands between its user and its host. -/
def isHostChar (c : Char) : Bool := 0x20 < c.toNat && !Percent.isOneOf "/\\?#@|" c

/-- A host as it is written: nothing in it ends it, and all colons stand between brackets. -/
structure IsWritten (host : List Char) : Prop where
  chars : ∀ c ∈ host, isHostChar c = true
  colons : (∀ c ∈ host, c ≠ ':' ∧ c ≠ '[') ∨
    ∃ inner, host = '[' :: (inner ++ [']']) ∧ ']' ∉ inner

/-! ### Schemes with named hosts -/

theorem isNameChar_spec {c : Char} (h : Domain.isNameChar c = true) :
    isHostChar c = true ∧ c ≠ ':' ∧ c ≠ '[' ∧ c ≠ '%' := by
  obtain ⟨hascii, -, hallowed⟩ := Domain.isNameChar_iff.1 h
  revert hallowed
  apply Text.forall_ascii c hascii
  decide

theorem isWritten_of_isNameChar {name : List Char}
    (h : ∀ c ∈ name, Domain.isNameChar c = true) : IsWritten name :=
  ⟨fun c hc => (isNameChar_spec (h c hc)).1,
    .inl fun c hc => ⟨(isNameChar_spec (h c hc)).2.1, (isNameChar_spec (h c hc)).2.2.1⟩⟩

theorem ofNamed?_of_isNameChar {name : List Char} (h : ∀ c ∈ name, Domain.isNameChar c = true)
    (hself : Domain.toAscii? name = some name) (hne : name ≠ []) :
    ofNamed? name =
      if endsInNumber name then (ipv4? name).map .ipv4 else some (.domain name) := by
  have hbracket : ¬name.head? = some '[' := fun hhead =>
    (isNameChar_spec (h _ (List.mem_of_head? hhead))).2.2.1 rfl
  have hpercent : '%' ∉ name := fun hmem => (isNameChar_spec (h _ hmem)).2.2.2 rfl
  have hread : Text.ofUtf8? (Percent.decode name) = some name := by
    rw [Percent.decode_of_not_mem hpercent]
    exact Text.ofUtf8?_utf8_of_ascii fun c hc => (Domain.isNameChar_iff.1 (h c hc)).1
  rw [ofNamed?, if_neg hbracket]
  simp only [hread, hself, Option.bind_eq_bind, Option.bind_some, List.isEmpty_eq_false_iff.2 hne,
    Bool.false_eq_true, if_false]

theorem ipv4Chars_ne_nil (address : Nat) : ipv4Chars address ≠ [] := by
  intro hnil
  have hends := endsInNumber_ipv4Chars address
  rw [hnil] at hends
  exact absurd hends (by decide)

theorem bracketed?_ipv6 (pieces : List Nat) :
    bracketed? (Host.ipv6 pieces).chars = some (ipv6Chars pieces) := by
  rw [chars, bracketed?]
  simp

theorem isWritten_ipv6 (pieces : List Nat) : IsWritten (Host.ipv6 pieces).chars := by
  refine ⟨fun c hc => ?_, .inr ⟨ipv6Chars pieces, rfl, fun hc => ?_⟩⟩
  · have hdigit : ∀ c ∈ ":0123456789abcdef".toList, isHostChar c = true :=
      Text.forall_mem (by decide)
    rw [chars, List.mem_cons, List.mem_append, List.mem_singleton] at hc
    obtain rfl | hc | rfl := hc
    · decide
    · exact hdigit c (mem_ipv6Chars hc)
    · decide
  · exact absurd (mem_ipv6Chars hc) (by decide)

theorem bracketed_chars {s : List Char} {host : Host}
    (h : (bracketed? s >>= ipv6?).map .ipv6 = some host) :
    host.chars.head? = some '[' ∧ (bracketed? host.chars >>= ipv6?).map .ipv6 = some host ∧
      IsWritten host.chars := by
  obtain ⟨pieces, hpieces, rfl⟩ := Option.map_eq_some_iff.1 h
  rw [Option.bind_eq_bind, Option.bind_eq_some_iff] at hpieces
  obtain ⟨inner, -, hread⟩ := hpieces
  refine ⟨rfl, ?_, isWritten_ipv6 pieces⟩
  rw [bracketed?_ipv6, Option.bind_eq_bind, Option.bind_some,
    ipv6?_ipv6Chars (isIpv6_of_ipv6? hread), Option.map_some]

/-- **A host of a scheme with named hosts is read back as it was.** -/
theorem ofNamed?_chars {s : List Char} {host : Host} (h : ofNamed? s = some host) :
    ofNamed? host.chars = some host ∧ IsWritten host.chars ∧ host.chars ≠ [] := by
  rw [ofNamed?] at h
  split at h
  · obtain ⟨hhead, hread, hwritten⟩ := bracketed_chars h
    refine ⟨by rw [ofNamed?, if_pos hhead, hread], hwritten, ?_⟩
    exact fun hnil => by simp [hnil] at hhead
  · simp only [Option.bind_eq_bind, Option.bind_eq_some_iff] at h
    obtain ⟨decoded, -, name, hname, h⟩ := h
    obtain ⟨hchars, hself⟩ := Domain.toAscii?_spec hname
    split at h
    · cases h
    · next hne =>
      have hne : name ≠ [] := by simpa using hne
      split at h
      · obtain ⟨address, haddress, rfl⟩ := Option.map_eq_some_iff.1 h
        obtain ⟨hdigits, hdigitsSelf⟩ := toAscii?_ipv4Chars address
        refine ⟨?_, isWritten_of_isNameChar hdigits, ipv4Chars_ne_nil address⟩
        rw [chars, ofNamed?_of_isNameChar hdigits hdigitsSelf (ipv4Chars_ne_nil address),
          if_pos (endsInNumber_ipv4Chars address), ipv4?_ipv4Chars (ipv4?_lt haddress),
          Option.map_some]
      · next hnumber =>
        obtain rfl := Option.some.inj h
        refine ⟨?_, isWritten_of_isNameChar hchars, hne⟩
        rw [chars, ofNamed?_of_isNameChar hchars hself hne, if_neg hnumber]

/-! ### Other schemes -/

def isHostSign (c : Char) : Bool := c.toNat = 0 || Percent.isOneOf "\t\n\r #/:<>?@[\\]^|" c

theorem isHostSign_of_isEncoded {c : Char} (h : Percent.isControlSet c = false)
    (hsign : isHostSign c = false) : isHostChar c = true ∧ c ≠ ':' ∧ c ≠ '[' := by
  have hascii := Percent.toNat_lt_of_isControlSet h
  revert h hsign
  apply Text.forall_ascii c hascii
  decide

/-- **A host of any other scheme is read back as it was.** -/
theorem ofOpaque?_chars {s : List Char} {host : Host} (h : ofOpaque? s = some host) :
    ofOpaque? host.chars = some host ∧ IsWritten host.chars ∧ (host.chars = [] ↔ s = []) := by
  rw [ofOpaque?] at h
  split at h
  · next hbracket =>
    obtain ⟨hhead, hread, hwritten⟩ := bracketed_chars h
    refine ⟨by rw [ofOpaque?, if_pos hhead, hread], hwritten, iff_of_false ?_ ?_⟩
    · exact fun hnil => by simp [hnil] at hhead
    · exact fun hnil => by simp [hnil] at hbracket
  · split at h
    · cases h
    · next hbracket hsigns =>
      obtain rfl := Option.some.inj h
      have hsign (c : Char) (hc : c ∈ Percent.encode Percent.isControlSet s) :
          isHostSign c = false := by
        obtain ⟨hmem, -⟩ | htriple := Percent.mem_encode hc
        · exact Bool.eq_false_iff.2 fun hsign => hsigns (List.any_eq_true.2 ⟨c, hmem, hsign⟩)
        · have hall : ∀ c ∈ Percent.tripleChars, isHostSign c = false := Text.forall_mem (by decide)
          exact hall c htriple
      have hchar (c : Char) (hc : c ∈ Percent.encode Percent.isControlSet s) :=
        isHostSign_of_isEncoded
          (Percent.isEncoded_of_mem_encode Percent.keepsTriples_isControlSet hc) (hsign c hc)
      have hhead : ¬(Percent.encode Percent.isControlSet s).head? = some '[' := fun hhead =>
        (hchar _ (List.mem_of_head? hhead)).2.2 rfl
      have hnone : ¬(Percent.encode Percent.isControlSet s).any isHostSign = true := fun hany => by
        obtain ⟨c, hc, hbad⟩ := List.any_eq_true.1 hany
        rw [hsign c hc] at hbad
        cases hbad
      refine ⟨?_, ⟨fun c hc => (hchar c hc).1, .inl fun c hc => (hchar c hc).2⟩,
        Percent.encode_eq_nil_iff⟩
      rw [chars, ofOpaque?, if_neg hhead,
        Percent.encode_encode Percent.keepsTriples_isControlSet]
      exact if_neg hnone

end Host

end CardPayments
