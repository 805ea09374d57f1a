import CardPayments.Processor.Http
import CardPayments.Proofs.Trust
import CardPayments.Proofs.Url.Below

/-!
# The address of a transaction

A look-up names the transaction in the last segment of its address. Whatever the id is, nothing in
it ends the segment or the path; only an id of one dot or of two is taken for the directory or for
what stands above it, because dots are not encoded.
-/

namespace CardPayments

namespace Http

/-- The request that looks a transaction up, if it can be sent. -/
def lookup? (base : Url) (config : Config) (id : String) : Option HttpRequest :=
  request? base config (method (.get id)) (endpoint (.get id)) (Request.body? (.get id))

def idSegment (id : String) : List Char := Percent.encode Percent.isComponentSet id.toList

theorem isName_idSegment (id : String) : Url.IsName (idSegment id) := Url.isName_encode _

theorem decode_idSegment (id : String) :
    Percent.decode (idSegment id) = Text.utf8 id.toList :=
  Percent.decode_encode_of_escaped (by decide) _

theorem idSegment_ne_nil {id : String} (h : id ≠ "") : idSegment id ≠ [] := fun hnil =>
  h (String.toList_inj.1 (Percent.encode_eq_nil_iff.1 hnil))

theorem idSegment_inj {id other : String}
    (h : Percent.decode (idSegment id) = Percent.decode (idSegment other)) : id = other := by
  rw [decode_idSegment, decode_idSegment] at h
  exact String.toList_inj.1 (Text.utf8_inj h)

theorem isDoubleDot_idSegment {id : String} :
    Url.isDoubleDot (idSegment id) = true ↔ id = ".." := by
  have hdots : Percent.decode (idSegment "..") = [0x2E, 0x2E] := by decide
  rw [Url.isDoubleDot_iff, ← hdots]
  exact ⟨idSegment_inj, fun h => h ▸ rfl⟩

theorem isSingleDot_idSegment {id : String} :
    Url.isSingleDot (idSegment id) = true ↔ id = "." := by
  have hdot : Percent.decode (idSegment ".") = [0x2E] := by decide
  rw [Url.isSingleDot_iff, ← hdot]
  exact ⟨idSegment_inj, fun h => h ▸ rfl⟩

theorem isDirectory_payment : Url.IsDirectory "payment".toList :=
  ⟨Text.forall_mem (by decide), by decide, by decide, by decide⟩

theorem lookup?_eq {base : Url} (h : Url.IsRead base) (hquery : base.query = none)
    (hfragment : base.fragment = none) (config : Config) (id : String) :
    lookup? base config id =
      if isHeaderValue config.apiToken then
        some ⟨.get, base.below "payment".toList (idSegment id), config.apiToken, none⟩
      else none := by
  have haddress : endpointChars base (endpoint (.get id)) =
      Url.trimSlashes base.chars ++ '/' :: ("payment".toList ++ '/' :: idSegment id) := by
    have hdirectory : "/payment/".toList = '/' :: ("payment".toList ++ ['/']) := by simp
    have hendpoint : endpoint (.get id) = "/payment/".toList ++ idSegment id := rfl
    rw [hendpoint, hdirectory, List.cons_append, List.append_assoc, List.singleton_append]
    rfl
  rw [lookup?, request?, haddress,
    Url.ofChars?_below h hquery hfragment isDirectory_payment (isName_idSegment id)]
  rfl

/-- What the path of a look-up has behind the path of the base. -/
theorem flatMap_added (id : String) :
    (Url.added "payment".toList (idSegment id)).flatMap ('/' :: ·) =
      if id = ".." then ['/']
      else if id = "." then "/payment/".toList
      else "/payment/".toList ++ idSegment id := by
  unfold Url.added
  by_cases hdouble : id = ".."
  · rw [if_pos hdouble, if_pos (isDoubleDot_idSegment.2 hdouble)]
    rfl
  · rw [if_neg hdouble, if_neg fun h => hdouble (isDoubleDot_idSegment.1 h)]
    by_cases hsingle : id = "."
    · rw [if_pos hsingle, if_pos (isSingleDot_idSegment.2 hsingle)]
      decide
    · rw [if_neg hsingle, if_neg fun h => hsingle (isSingleDot_idSegment.1 h)]
      simp

/-- **A transaction is looked up at its own address.** Whatever the id, the request keeps all that
stands before the path of the base, asks for no query, and goes to the directory of transactions and
one segment in it that stands for the bytes of the id. Two ids fall out of this where the base has a
path of segments: one dot asks for the directory itself, and two dots for the path above it. No two
ids have the same address. -/
theorem lookup_address {written : String} {base : Url} {id : String}
    (hread : Url.ofText? written = some base) (hquery : base.query = none)
    (hfragment : base.fragment = none) (hid : id ≠ "") :
    ∃ url : Url,
      (∀ config, lookup? base config id =
        if isHeaderValue config.apiToken then some ⟨.get, url, config.apiToken, none⟩ else none) ∧
      url.scheme = base.scheme ∧ url.userChars = base.userChars ∧
      url.hostChars = base.hostChars ∧ url.query = none ∧ url.fragment = none ∧
      url.path.chars = Url.trimSlashes base.path.chars ++
        (if Url.isHierarchical base.path ∧ id = ".." then ['/']
        else if Url.isHierarchical base.path ∧ id = "." then "/payment/".toList
        else "/payment/".toList ++ idSegment id) ∧
      Percent.decode (idSegment id) = Text.utf8 id.toList ∧
      (∀ c ∈ idSegment id, c ≠ '/' ∧ c ≠ '\\') ∧
      ∀ config other, other ≠ "" → (lookup? base config other).map HttpRequest.url = some url →
        other = id := by
  have h : Url.IsRead base := Url.isRead_of_ofChars? hread
  refine ⟨base.below "payment".toList (idSegment id),
    fun config => lookup?_eq h hquery hfragment config id, Url.below_scheme _ _ _,
    Url.below_userChars _ _ _, Url.below_hostChars _ _ _, (Url.below_query _ _ _).trans hquery,
    (Url.below_fragment _ _ _).trans hfragment, ?_, decode_idSegment id, fun c hc => ?_, ?_⟩
  · rw [Url.below_path_chars h]
    cases Url.isHierarchical base.path with
    | true => simp only [true_and, if_true, flatMap_added]
    | false => simp
  · have hslash := (Url.isPlainChar_of_isName (isName_idSegment id) hc).noSlash true
    simpa [Url.isSlash] using hslash
  · intro config other hother hsame
    rw [lookup?_eq h hquery hfragment] at hsame
    split at hsame
    · exact idSegment_inj (Url.below_inj (idSegment_ne_nil hother) (idSegment_ne_nil hid)
        (Option.some.inj hsame))
    · cases hsame

def slashedBase : Url :=
  ⟨"https".toList, [], none, some (.domain "api.helcim.com".toList), none,
    .segments ["v2".toList, [], []], none, none⟩

/-- A slash in an id does not end its segment. -/
theorem sample_lookup_address :
    Url.ofText? "https://api.helcim.com/v2//" = some slashedBase ∧ ∃ url : Url,
      (∀ config, lookup? slashedBase config "a/b" =
        if isHeaderValue config.apiToken then some ⟨.get, url, config.apiToken, none⟩ else none) ∧
      url.hostChars = "api.helcim.com".toList ∧ url.query = none ∧ url.fragment = none ∧
      url.path.chars = "/v2/payment/a%2Fb".toList := by
  have hread : Url.ofText? "https://api.helcim.com/v2//" = some slashedBase := by decide +kernel
  obtain ⟨url, hlookup, -, -, hhost, hquery, hfragment, hpath, -⟩ :=
    lookup_address hread rfl rfl (show "a/b" ≠ "" by decide)
  exact ⟨hread, url, hlookup, hhost.trans (by decide), hquery, hfragment,
    hpath.trans (by decide +kernel)⟩

/-- **Two dots ask for the path above the transactions.** -/
theorem not_every_id_addressed :
    ¬ ∀ (written id : String) (base : Url) (config : Config) (r : HttpRequest),
      Url.ofText? written = some base → base.query = none → base.fragment = none → id ≠ "" →
      lookup? base config id = some r →
        ∃ segment, '/' ∉ segment ∧ Percent.decode segment = Text.utf8 id.toList ∧
          r.url.path.chars = Url.trimSlashes base.path.chars ++ "/payment/".toList ++ segment := by
  intro h
  let base : Url := ⟨"http".toList, [], none, some (.ipv4 0x7F000001), some 1,
    .segments ["v2".toList], none, none⟩
  have hread : Url.ofText? "http://127.0.0.1:1/v2" = some base := by decide +kernel
  have hlookup := lookup?_eq (Url.isRead_of_ofChars? hread) rfl rfl default ".."
  obtain ⟨segment, -, -, hpath⟩ := h _ ".." base default _ hread rfl rfl (by decide) hlookup
  have habove : (base.below "payment".toList (idSegment "..")).path.chars = "/v2/".toList := by
    decide +kernel
  rw [habove] at hpath
  have hlength := congrArg List.length hpath
  rw [List.length_append, List.length_append] at hlength
  have hpayment : "/v2/".toList.length < "/payment/".toList.length := by decide
  omega

end Http

end CardPayments
