import CardPayments.Proofs.Url.Authority
import CardPayments.Proofs.Url.Path

/-!
# URLs as they are read

What a URL can be that was read from a text, scheme by scheme, and how the text in front of its path
is read again where another path follows it.
-/

namespace CardPayments

namespace Url

/-! ### Schemes -/

structure IsScheme (scheme : List Char) : Prop where
  first : ∃ c cs, scheme = c :: cs ∧ c.isAlpha = true
  chars : ∀ c ∈ scheme, isSchemeChar c = true ∧ c.toLower = c

theorem readScheme_append {scheme : List Char} (h : IsScheme scheme) (rest : List Char) :
    readScheme (scheme ++ ':' :: rest) = some (scheme, rest) := by
  have hchars : ∀ c ∈ scheme, isSchemeChar c = true := fun c hc => (h.chars c hc).1
  have hlower : scheme.map Char.toLower = scheme :=
    (List.map_congr_left fun c hc => (h.chars c hc).2).trans (List.map_id' scheme)
  have htake : (scheme ++ ':' :: rest).takeWhile isSchemeChar = scheme := by
    rw [List.takeWhile_append_of_pos hchars, List.takeWhile_cons_of_neg (by decide),
      List.append_nil]
  have hdrop : (scheme ++ ':' :: rest).dropWhile isSchemeChar = ':' :: rest := by
    rw [List.dropWhile_append_of_pos hchars, List.dropWhile_cons_of_neg (by decide)]
  obtain ⟨c, cs, rfl, halpha⟩ := h.first
  rw [readScheme, htake, hdrop]
  simp only [halpha, if_true, hlower]

theorem isSchemeChar_spec {c : Char} (h : isSchemeChar c = true) :
    isSchemeChar c.toLower = true ∧ c.toLower.toLower = c.toLower ∧ 0x20 < c.toNat ∧
      (c.isAlpha = true → c.toLower.isAlpha = true) := by
  have hascii : c.toNat < 128 := by
    simp only [isSchemeChar, Bool.or_eq_true, decide_eq_true_eq] at h
    obtain ((h | rfl) | rfl) | rfl := h
    · exact Text.toNat_lt_of_isAlphanum h
    all_goals decide
  revert h
  apply Text.forall_ascii c hascii
  decide

theorem isScheme_of_readScheme {s scheme rest : List Char}
    (h : readScheme s = some (scheme, rest)) : IsScheme scheme := by
  unfold readScheme at h
  split at h
  · next first cs _ htake _ =>
    split at h
    · next halpha =>
      obtain ⟨rfl, -⟩ := Prod.mk.inj (Option.some.inj h)
      have hchars (c : Char) (hc : c ∈ first :: cs) : isSchemeChar c = true :=
        List.all_eq_true.1 List.all_takeWhile c (htake ▸ hc)
      refine ⟨⟨first.toLower, cs.map Char.toLower, rfl, ?_⟩, fun c hc => ?_⟩
      · exact (isSchemeChar_spec (hchars first List.mem_cons_self)).2.2.2 halpha
      · obtain ⟨d, hd, rfl⟩ := List.mem_map.1 hc
        obtain ⟨hlower, htwice, -⟩ := isSchemeChar_spec (hchars d hd)
        exact ⟨hlower, htwice⟩
    · cases h
  · cases h

/-! ### Texts that stay as they are -/

theorem cleaned_eq {s : List Char} (hchars : ∀ c ∈ s, 0x20 ≤ c.toNat)
    (hhead : ∀ c, s.head? = some c → 0x20 < c.toNat)
    (hlast : ∀ c, s.getLast? = some c → 0x20 < c.toNat) : cleaned s = s := by
  have hdrop {l : List Char} (h : ∀ c, l.head? = some c → 0x20 < c.toNat) :
      l.dropWhile (fun c => decide (c.toNat ≤ 0x20)) = l := by
    cases l with
    | nil => rfl
    | cons c cs =>
      have hc := h c rfl
      exact List.dropWhile_cons_of_neg (by simpa using hc)
  have hreverse : ∀ c, s.reverse.head? = some c → 0x20 < c.toNat := by
    rwa [List.head?_reverse]
  rw [cleaned]
  simp only [hdrop hhead, hdrop hreverse, List.reverse_reverse]
  refine List.filter_eq_self.2 fun c hc => ?_
  have hge := hchars c hc
  rw [Bool.not_eq_true', Bool.or_eq_false_iff, Bool.or_eq_false_iff]
  refine ⟨⟨?_, ?_⟩, ?_⟩
  all_goals
    rw [decide_eq_false_iff_not]
    rintro rfl
    revert hge
    decide

theorem splitQuery_eq {s : List Char} (h : ∀ c ∈ s, endsPath c = false) :
    splitQuery s = (s, []) := by
  have hall : ∀ c ∈ s, (!endsPath c) = true := fun c hc => by rw [h c hc]; rfl
  rw [splitQuery, List.takeWhile_eq_self_iff.2 hall, List.dropWhile_eq_nil_iff.2 hall]

/-- The text behind a scheme decides, by the scheme, what is read. -/
theorem ofChars?_append {scheme rest : List Char} (h : IsScheme scheme)
    (hchars : ∀ c ∈ rest, 0x20 ≤ c.toNat)
    (hlast : ∀ c, rest.getLast? = some c → 0x20 < c.toNat) :
    ofChars? (scheme ++ ':' :: rest) =
      if scheme = "file".toList then readFile rest
      else if isNamed scheme then readNamed scheme rest
      else readOther scheme rest := by
  have hscheme (c : Char) (hc : c ∈ scheme) : 0x20 < c.toNat :=
    (isSchemeChar_spec (h.chars c hc).1).2.2.1
  have hclean : cleaned (scheme ++ ':' :: rest) = scheme ++ ':' :: rest := by
    refine cleaned_eq (fun c hc => ?_) (fun c hc => ?_) (fun c hc => ?_)
    · obtain hc | hc := List.mem_append.1 hc
      · exact (hscheme c hc).le
      · obtain rfl | hc := List.mem_cons.1 hc
        · decide
        · exact hchars c hc
    · obtain ⟨d, ds, rfl, -⟩ := h.first
      rw [List.cons_append, List.head?_cons] at hc
      exact Option.some.inj hc ▸ hscheme d List.mem_cons_self
    · rw [List.getLast?_append_cons, List.getLast?_cons] at hc
      cases hrest : rest.getLast? with
      | none =>
        rw [hrest] at hc
        exact Option.some.inj hc ▸ by decide
      | some last =>
        rw [hrest] at hc
        exact Option.some.inj hc ▸ hlast last hrest
  rw [ofChars?, hclean, readScheme_append h]
  rfl

/-! ### Paths behind what stands before them -/

def IsPathText (s : List Char) : Prop := ∀ c ∈ s, endsPath c = false

theorem endsPath_of_isAuthorityChar {c : Char} (h : isAuthorityChar c = true) (named : Bool) :
    isSlash named c = false ∧ endsPath c = false := by
  rw [isAuthorityChar, Bool.and_eq_true, Bool.not_eq_true', Percent.isOneOf, Bool.eq_false_iff, Ne,
    List.contains_iff_mem] at h
  have hsigns : c ≠ '/' ∧ c ≠ '\\' ∧ c ≠ '?' ∧ c ≠ '#' := by simpa using h.2
  obtain ⟨hslash, hback, hmark, hhash⟩ := hsigns
  simp [isSlash, endsPath, hslash, hback, hmark, hhash]

theorem isPathText_authority {s t : List Char} (hs : ∀ c ∈ s, isAuthorityChar c = true)
    (ht : IsPathText t) : IsPathText ('/' :: '/' :: s ++ '/' :: t) := by
  have hslash : endsPath '/' = false := by decide
  refine List.forall_mem_append.2 ⟨?_, List.forall_mem_cons.2 ⟨hslash, ht⟩⟩
  refine List.forall_mem_cons.2 ⟨hslash, List.forall_mem_cons.2 ⟨hslash, fun c hc => ?_⟩⟩
  exact (endsPath_of_isAuthorityChar (hs c hc) false).2

theorem splitAt_slash (named : Bool) {s : List Char} (hs : ∀ c ∈ s, isAuthorityChar c = true)
    (t : List Char) :
    (s ++ '/' :: t).takeWhile (fun c => !isSlash named c) = s ∧
      (s ++ '/' :: t).dropWhile (fun c => !isSlash named c) = '/' :: t := by
  have hall (c : Char) (hc : c ∈ s) : (!isSlash named c) = true := by
    rw [(endsPath_of_isAuthorityChar (hs c hc) named).1]
    rfl
  have hslash : ¬(!isSlash named '/') = true := by simp [isSlash]
  rw [List.takeWhile_append_of_pos hall, List.dropWhile_append_of_pos hall,
    List.takeWhile_cons_of_neg (p := fun c => !isSlash named c) hslash,
    List.dropWhile_cons_of_neg (p := fun c => !isSlash named c) hslash, List.append_nil]
  exact ⟨rfl, rfl⟩

theorem readNamed_authority {scheme t : List Char} {a : Authority} (ha : IsAuthority scheme a)
    (hne : a.chars ≠ []) (ht : IsPathText t) :
    readNamed scheme ('/' :: '/' :: a.chars ++ '/' :: t) =
      some ⟨scheme, a.username, a.password, some a.host, a.port, .segments (readPath scheme t),
        none, none⟩ := by
  have hchars (c : Char) (hc : c ∈ a.chars) : isAuthorityChar c = true :=
    isAuthorityChar_of_mem ha hc
  have hslashes : ('/' :: '/' :: (a.chars ++ '/' :: t)).dropWhile (isSlash true) =
      a.chars ++ '/' :: t := by
    obtain ⟨c, cs, hcons⟩ := List.exists_cons_of_ne_nil hne
    have hc := (endsPath_of_isAuthorityChar (hchars c (hcons ▸ List.mem_cons_self)) true).1
    rw [List.dropWhile_cons_of_pos rfl, List.dropWhile_cons_of_pos rfl, hcons, List.cons_append,
      List.dropWhile_cons_of_neg (by rw [hc]; exact Bool.false_ne_true)]
  obtain ⟨htake, hdrop⟩ := splitAt_slash true hchars t
  rw [readNamed, splitQuery_eq (isPathText_authority hchars ht), List.cons_append,
    List.cons_append]
  simp only [hslashes, htake, hdrop, ha.readAuthority_chars, List.drop_succ_cons, List.drop_zero]
  rfl

theorem readOther_authority {scheme t : List Char} {a : Authority} (ha : IsAuthority scheme a)
    (ht : IsPathText t) :
    readOther scheme ('/' :: '/' :: a.chars ++ '/' :: t) =
      some ⟨scheme, a.username, a.password, some a.host, a.port, .segments (readPath scheme t),
        none, none⟩ := by
  have hchars (c : Char) (hc : c ∈ a.chars) : isAuthorityChar c = true :=
    isAuthorityChar_of_mem ha hc
  have hslash : (fun c : Char => c != '/') = fun c => !isSlash false c := by
    funext c
    rw [isSlash, Bool.false_and, Bool.or_false]
    rfl
  obtain ⟨htake, hdrop⟩ := splitAt_slash false hchars t
  rw [readOther, splitQuery_eq (isPathText_authority hchars ht), List.cons_append,
    List.cons_append]
  simp only [hslash, htake, hdrop, ha.readAuthority_chars]
  rfl

theorem readOther_rooted {scheme t : List Char} (ht : IsPathText t) (hhead : t.head? ≠ some '/') :
    readOther scheme ('/' :: t) =
      some ⟨scheme, [], none, none, none, .segments (readPath scheme t), none, none⟩ := by
  rw [readOther, splitQuery_eq (List.forall_mem_cons.2 ⟨by decide, ht⟩)]
  simp only
  split
  · next rest heq => exact absurd (by rw [(List.cons.inj heq).2]; rfl) hhead
  · next rest _ heq =>
    obtain rfl := (List.cons.inj heq).2
    rfl
  · next hrooted => exact absurd rfl (hrooted t)

theorem readOther_plain {scheme s : List Char} (hs : IsPathText s) (hhead : s.head? ≠ some '/') :
    readOther scheme s =
      some ⟨scheme, [], none, none, none, .plain (Percent.encode Percent.isControlSet s), none,
        none⟩ := by
  rw [readOther, splitQuery_eq hs]
  simp only
  split
  · exact absurd rfl hhead
  · exact absurd rfl hhead
  · rfl

/-! ### Files -/

structure IsFileHost (host : Host) : Prop where
  read : Host.ofNamed? host.chars = some host
  written : Host.IsWritten host.chars
  notEmpty : host.chars ≠ []
  notLocal : host ≠ .domain "localhost".toList

/-- A file path: all segments are there, and the first is empty only where it is the last. -/
structure IsFilePath (path : List (List Char)) : Prop where
  segments : ∀ s ∈ path, IsSegment "file".toList s
  front : path = [[]] ∨ ∃ s rest, path = s :: rest ∧ s ≠ []

/-- Behind a host no drive stands first. -/
def startsWithDrive (path : List (List Char)) : Bool := (path.head?.map isDrive).getD false

theorem isDrive_of_isWritten {host : List Char} (h : Host.IsWritten host) :
    isDrive host = false := by
  rw [Bool.eq_false_iff]
  intro hdrive
  unfold isDrive at hdrive
  split at hdrive
  · next a b =>
    rw [Bool.and_eq_true, Bool.or_eq_true, decide_eq_true_eq, decide_eq_true_eq] at hdrive
    obtain ⟨halpha, rfl | rfl⟩ := hdrive
    · obtain hplain | ⟨inner, hinner, -⟩ := h.colons
      · exact (hplain ':' (by simp)).1 rfl
      · obtain rfl := (List.cons.inj hinner).1
        exact absurd halpha (by decide)
    · exact absurd (h.chars '|' (by simp)) (by decide)
  · cases hdrive

theorem readFile_hostless {t : List Char} (ht : IsPathText t) :
    readFile ('/' :: '/' :: '/' :: t) =
      some ⟨"file".toList, [], none, none, none, .segments (filePath ('/' :: t)), none, none⟩ := by
  have htext : IsPathText ('/' :: '/' :: '/' :: t) := by
    rw [IsPathText]
    simp only [List.forall_mem_cons]
    exact ⟨by decide, by decide, by decide, ht⟩
  rw [readFile, splitQuery_eq htext]
  rfl

theorem readFile_rooted {c : Char} {t : List Char} (hc : isSlash true c = false)
    (ht : IsPathText (c :: t)) :
    readFile ('/' :: c :: t) =
      some ⟨"file".toList, [], none, none, none, .segments (filePath ('/' :: c :: t)), none,
        none⟩ := by
  rw [readFile, splitQuery_eq (List.forall_mem_cons.2 ⟨by decide, ht⟩)]
  simp only [hc, Bool.and_false, Bool.false_eq_true, if_false]
  rfl

theorem readFile_host {host : Host} {t : List Char} (h : IsFileHost host) (ht : IsPathText t)
    (hdrive : startsWithDrive (filePath t) = false) :
    readFile ('/' :: '/' :: host.chars ++ '/' :: t) =
      some ⟨"file".toList, [], none, some host, none, .segments (filePath t), none, none⟩ := by
  have hchars (c : Char) (hc : c ∈ host.chars) : isAuthorityChar c = true :=
    isAuthorityChar_of_isHostChar (h.written.chars c hc)
  obtain ⟨htake, hdrop⟩ := splitAt_slash true hchars t
  have hslash : isSlash true '/' = true := rfl
  have hmade : ¬(host = .domain "localhost".toList ∨
      ((filePath t).head?.map isDrive).getD false = true) := by
    rintro (hlocal | hfirst)
    · exact h.notLocal hlocal
    · rw [startsWithDrive, hfirst] at hdrive
      cases hdrive
  rw [readFile, splitQuery_eq (isPathText_authority hchars ht), List.cons_append,
    List.cons_append]
  simp only [hslash, Bool.and_self, if_true, htake, hdrop, List.isEmpty_eq_false_iff.2 h.notEmpty,
    isDrive_of_isWritten h.written, Bool.or_self, Bool.false_eq_true, if_false, h.read,
    List.drop_succ_cons, List.drop_zero, Option.bind_eq_bind, Option.bind_some]
  rw [if_neg hmade]
  rfl

/-! ### What was read -/

theorem isSegment_of_mem_readPath {scheme s segment : List Char}
    (h : segment ∈ readPath scheme s) : IsSegment scheme segment := by
  obtain ⟨first, rest, hsplit, hall⟩ := exists_splitSegments_eq (isNamed scheme) s
  rw [readPath, hsplit] at h
  exact isSegment_of_mem_addSegments (by simp) hall segment h

theorem isFilePath_filePath (s : List Char) : IsFilePath (filePath s) := by
  rw [filePath]
  split
  · exact ⟨List.forall_mem_singleton.2 (isSegment_nil _), .inl rfl⟩
  · next path hne =>
    have hfirst := List.head?_dropWhile_not List.isEmpty (readPath "file".toList s)
    refine ⟨fun segment hmem => ?_, ?_⟩
    · exact isSegment_of_mem_readPath ((List.dropWhile_sublist List.isEmpty).subset hmem)
    · cases hpath : (readPath "file".toList s).dropWhile List.isEmpty with
      | nil => exact absurd hpath hne
      | cons first rest =>
        rw [hpath] at hfirst
        exact .inr ⟨first, rest, rfl, List.isEmpty_eq_false_iff.1 (by simpa using hfirst)⟩

/-- The URLs that texts write, scheme by scheme. -/
inductive IsRead : Url → Prop
  | named {scheme path a} (query fragment : Option (List Char)) (hscheme : IsScheme scheme)
      (hnamed : isNamed scheme = true) (hfile : scheme ≠ "file".toList)
      (ha : IsAuthority scheme a) (hpath : ∀ s ∈ path, IsSegment scheme s) :
      IsRead ⟨scheme, a.username, a.password, some a.host, a.port, .segments path, query, fragment⟩
  | file {host path} (query fragment : Option (List Char)) (hpath : IsFilePath path)
      (hhost : ∀ h, host = some h → IsFileHost h ∧ startsWithDrive path = false) :
      IsRead ⟨"file".toList, [], none, host, none, .segments path, query, fragment⟩
  | authority {scheme path a} (query fragment : Option (List Char)) (hscheme : IsScheme scheme)
      (hnamed : isNamed scheme = false) (ha : IsAuthority scheme a)
      (hpath : ∀ s ∈ path, IsSegment scheme s) :
      IsRead ⟨scheme, a.username, a.password, some a.host, a.port, .segments path, query, fragment⟩
  | rooted {scheme path} (query fragment : Option (List Char)) (hscheme : IsScheme scheme)
      (hnamed : isNamed scheme = false) (hpath : ∀ s ∈ path, IsSegment scheme s) :
      IsRead ⟨scheme, [], none, none, none, .segments path, query, fragment⟩
  | plain {scheme text} (query fragment : Option (List Char)) (hscheme : IsScheme scheme)
      (hnamed : isNamed scheme = false) (hkept : ∀ c ∈ text, Percent.isControlSet c = false)
      (htext : IsPathText text) (hhead : text.head? ≠ some '/') :
      IsRead ⟨scheme, [], none, none, none, .plain text, query, fragment⟩

theorem isRead_of_readNamed {scheme s : List Char} {u : Url} (hscheme : IsScheme scheme)
    (hnamed : isNamed scheme = true) (hfile : scheme ≠ "file".toList)
    (h : readNamed scheme s = some u) : IsRead u := by
  rw [readNamed] at h
  simp only [Option.bind_eq_bind, Option.bind_eq_some_iff] at h
  obtain ⟨a, ha, h⟩ := h
  obtain rfl := Option.some.inj h
  exact .named _ _ hscheme hnamed hfile (isAuthority_of_readAuthority ha) fun _ =>
    isSegment_of_mem_readPath

theorem isRead_of_readFile {s : List Char} {u : Url} (h : readFile s = some u) : IsRead u := by
  rw [readFile] at h
  simp only at h
  have hhostless (t : List Char) (query fragment : Option (List Char)) :
      IsRead ⟨"file".toList, [], none, none, none, .segments (filePath t), query, fragment⟩ :=
    .file _ _ (isFilePath_filePath t) (by simp)
  split at h
  · split at h
    · split at h
      · obtain rfl := Option.some.inj h
        exact hhostless _ _ _
      · rw [Option.bind_eq_bind, Option.bind_eq_some_iff] at h
        obtain ⟨host, hhost, h⟩ := h
        obtain ⟨hread, hwritten, hne⟩ := Host.ofNamed?_chars hhost
        split at h
        · obtain rfl := Option.some.inj h
          exact hhostless _ _ _
        · next hmade =>
          obtain rfl := Option.some.inj h
          rw [not_or, Bool.not_eq_true] at hmade
          refine .file _ _ (isFilePath_filePath _) fun h heq => ?_
          obtain rfl := Option.some.inj heq
          exact ⟨⟨hread, hwritten, hne, hmade.1⟩, hmade.2⟩
    · obtain rfl := Option.some.inj h
      exact hhostless _ _ _
  · obtain rfl := Option.some.inj h
    exact hhostless _ _ _

theorem head?_encode_ne {isEncoded : Char → Bool} {s : List Char}
    (h : ∀ rest, s = '/' :: rest → False) : (Percent.encode isEncoded s).head? ≠ some '/' := by
  cases s with
  | nil => simp [Percent.encode]
  | cons c s =>
    rw [Percent.encode, List.flatMap_cons]
    split
    · obtain ⟨b, bytes, hbytes⟩ := List.exists_cons_of_ne_nil (@String.utf8EncodeChar_ne_nil c)
      rw [hbytes, List.flatMap_cons]
      simp [Percent.encodeByte]
    · rw [List.singleton_append, List.head?_cons]
      intro hc
      exact h s (by rw [Option.some.inj hc])

theorem isRead_of_readOther {scheme s : List Char} {u : Url} (hscheme : IsScheme scheme)
    (hnamed : isNamed scheme = false) (h : readOther scheme s = some u) : IsRead u := by
  rw [readOther] at h
  simp only at h
  split at h
  · rw [Option.bind_eq_bind, Option.bind_eq_some_iff] at h
    obtain ⟨a, ha, h⟩ := h
    obtain rfl := Option.some.inj h
    refine .authority _ _ hscheme hnamed (isAuthority_of_readAuthority ha) fun segment hmem => ?_
    split at hmem
    · exact isSegment_of_mem_readPath hmem
    · cases hmem
  · obtain rfl := Option.some.inj h
    exact .rooted _ _ hscheme hnamed fun _ => isSegment_of_mem_readPath
  · next hrooted =>
    obtain rfl := Option.some.inj h
    have hfront (c : Char) (hc : c ∈ (splitQuery s).1) : endsPath c = false := by
      have hkept := List.all_eq_true.1 List.all_takeWhile c hc
      rwa [Bool.not_eq_true'] at hkept
    refine .plain _ _ hscheme hnamed
      (fun c => Percent.isEncoded_of_mem_encode Percent.keepsTriples_isControlSet)
      (fun c hc => ?_) (head?_encode_ne hrooted)
    obtain ⟨hmem, -⟩ | htriple := Percent.mem_encode hc
    · exact hfront c hmem
    · have hall : ∀ c ∈ Percent.tripleChars, endsPath c = false := Text.forall_mem (by decide)
      exact hall c htriple

theorem isRead_of_ofChars? {s : List Char} {u : Url} (h : ofChars? s = some u) : IsRead u := by
  rw [ofChars?, Option.bind_eq_bind, Option.bind_eq_some_iff] at h
  obtain ⟨⟨scheme, rest⟩, hread, h⟩ := h
  have hscheme := isScheme_of_readScheme hread
  simp only at h
  split at h
  · exact isRead_of_readFile h
  · next hfile =>
    split at h
    · next hnamed => exact isRead_of_readNamed hscheme hnamed hfile h
    · next hnamed => exact isRead_of_readOther hscheme (Bool.eq_false_iff.2 hnamed) h

end Url

end CardPayments
