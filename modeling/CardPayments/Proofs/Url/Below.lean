import CardPayments.Proofs.Url.Names

/-!
# URLs below a URL

Two names added behind a URL, with one slash before each, give the URL below it: in a path of
segments they follow what is left of the path without its empty segments at the end, and a dot
segment among them takes its effect. Nothing before the path changes.
-/

namespace CardPayments

namespace Url

/-! ### The URL below -/

/-- An empty host is written only where a path of its own follows it. -/
def hostBelow (host : Option Host) (kept : List (List Char)) : Option Host :=
  if kept = [] then host.filter fun h => !h.chars.isEmpty else host

/-- The URL of two names below a URL. -/
def below (u : Url) (first last : List Char) : Url :=
  match u.path with
  | .segments path =>
    { u with
      host := hostBelow u.host (trimSegments path)
      path := .segments (trimSegments path ++ added first last) }
  | .plain [] => { u with path := .segments (added first last) }
  | .plain text => { u with path := .plain (trimSlashes text ++ '/' :: (first ++ '/' :: last)) }

theorem hostBelow_of_ne {host : Host} (h : host.chars ≠ []) (kept : List (List Char)) :
    hostBelow (some host) kept = some host := by
  have hkeeps : (!host.chars.isEmpty) = true := by simpa using h
  rw [hostBelow, Option.filter_some, if_pos hkeeps, ite_self]

theorem hostBelow_of_kept {host : Option Host} {kept : List (List Char)} (h : kept ≠ []) :
    hostBelow host kept = host := if_neg h

theorem hostBelow_eq {host : Host} {kept : List (List Char)}
    (h : ¬(host.chars = [] ∧ kept = [])) : hostBelow (some host) kept = some host := by
  by_cases hkept : kept = []
  · exact hostBelow_of_ne (fun hempty => h ⟨hempty, hkept⟩) kept
  · exact hostBelow_of_kept hkept

variable {u : Url} {first last rest : List Char}

theorem below_scheme (u : Url) (first last : List Char) :
    (u.below first last).scheme = u.scheme := by
  unfold below
  split <;> rfl

theorem below_query (u : Url) (first last : List Char) : (u.below first last).query = u.query := by
  unfold below
  split <;> rfl

theorem below_fragment (u : Url) (first last : List Char) :
    (u.below first last).fragment = u.fragment := by
  unfold below
  split <;> rfl

theorem below_userChars (u : Url) (first last : List Char) :
    (u.below first last).userChars = u.userChars := by
  unfold below
  split <;> rfl

theorem hostBelow_chars (host : Option Host) (kept : List (List Char)) :
    ((hostBelow host kept).map Host.chars).getD [] = (host.map Host.chars).getD [] := by
  cases host with
  | none => rw [hostBelow, Option.filter_none, ite_self]
  | some host =>
    by_cases hempty : host.chars = [] ∧ kept = []
    · rw [hostBelow, if_pos hempty.2, Option.filter_some, if_neg (by simp [hempty.1])]
      exact hempty.1.symm
    · rw [hostBelow_eq hempty]

theorem below_hostChars (u : Url) (first last : List Char) :
    (u.below first last).hostChars = u.hostChars := by
  unfold below
  split
  · rw [hostChars, hostBelow_chars]
    rfl
  · rfl
  · rfl

def isHierarchical : UrlPath → Bool
  | .segments _ => true
  | .plain text => text.isEmpty

theorem IsRead.path_noSlash (h : IsRead u) {path : List (List Char)}
    (hpath : u.path = .segments path) : ∀ s ∈ path, '/' ∉ s := by
  cases h with
  | named _ _ _ _ _ _ hsegments =>
    obtain rfl := UrlPath.segments.inj hpath
    exact fun s hs => (hsegments s hs).not_mem_slash
  | file _ _ hfile =>
    obtain rfl := UrlPath.segments.inj hpath
    exact fun s hs => (hfile.segments s hs).not_mem_slash
  | authority _ _ _ _ _ hsegments =>
    obtain rfl := UrlPath.segments.inj hpath
    exact fun s hs => (hsegments s hs).not_mem_slash
  | rooted _ _ _ _ hsegments =>
    obtain rfl := UrlPath.segments.inj hpath
    exact fun s hs => (hsegments s hs).not_mem_slash
  | plain => cases hpath

/-- The path below is the path without slashes at its end, and what the names add to it. -/
theorem below_path_chars (h : IsRead u) :
    (u.below first last).path.chars = trimSlashes u.path.chars ++
      (if isHierarchical u.path then added first last else [first, last]).flatMap ('/' :: ·) := by
  unfold below
  split
  · next path hpath =>
    have htrim : trimSlashes (path.flatMap ('/' :: ·)) =
        (trimSegments path).flatMap ('/' :: ·) := by
      have hfront := trimSlashes_flatMap [] (h.path_noSlash hpath)
      rw [List.nil_append, List.nil_append] at hfront
      rw [hfront]
      split
      · next hnil =>
        rw [hnil]
        rfl
      · rfl
    rw [hpath, UrlPath.chars, UrlPath.chars, htrim, List.flatMap_append]
    rfl
  · next hpath =>
    rw [hpath]
    rfl
  · next text hne hpath =>
    have hopaque : isHierarchical (.plain text) = false := by
      rw [isHierarchical, List.isEmpty_eq_false_iff]
      rintro rfl
      exact hne rfl
    rw [hpath, hopaque]
    simp [UrlPath.chars]

theorem added_inj {last' : List Char} (hne : last ≠ []) (hne' : last' ≠ [])
    (h : added first last = added first last') : Percent.decode last = Percent.decode last' := by
  have hlength (last : List Char) : (added first last).length = 1 ↔ isDoubleDot last = true := by
    unfold added
    split
    · next hdouble => exact iff_of_true rfl hdouble
    · next hdouble => split <;> exact iff_of_false (by simp) hdouble
  have hdots : isDoubleDot last = isDoubleDot last' :=
    Bool.eq_iff_iff.2 ((hlength last).symm.trans (h ▸ hlength last'))
  by_cases hdouble : isDoubleDot last = true
  · rw [isDoubleDot_iff.1 hdouble, isDoubleDot_iff.1 (hdots.symm.trans hdouble)]
  · have hdouble' : ¬isDoubleDot last' = true := by rwa [← hdots]
    rw [added, added, if_neg hdouble, if_neg hdouble'] at h
    split at h
    · next hsingle =>
      split at h
      · next hsingle' => rw [isSingleDot_iff.1 hsingle, isSingleDot_iff.1 hsingle']
      · exact absurd (by simpa using h.symm) hne'
    · split at h
      · exact absurd (by simpa using h) hne
      · obtain rfl : last = last' := by simpa using h
        rfl

/-- URLs below a URL are the same only for names of the same bytes. -/
theorem below_inj {last' : List Char} (hne : last ≠ []) (hne' : last' ≠ [])
    (h : u.below first last = u.below first last') :
    Percent.decode last = Percent.decode last' := by
  have hpath := congrArg Url.path h
  unfold below at hpath
  split at hpath
  · exact added_inj hne hne' (List.append_cancel_left (UrlPath.segments.inj hpath))
  · exact added_inj hne hne' (UrlPath.segments.inj hpath)
  · obtain rfl : last = last' := by simpa using hpath
    rfl

/-! ### What stands before the names -/

/-- Two names behind a path are its segments and the names, behind what stands before the path. -/
theorem trimSlashes_names (front : List Char) {path : List (List Char)}
    (h : ∀ s ∈ path, '/' ∉ s) :
    trimSlashes (front ++ path.flatMap ('/' :: ·)) ++ '/' :: (first ++ '/' :: last) =
      (if trimSegments path = [] then trimSlashes front else front) ++
        (trimSegments path ++ [first, last]).flatMap ('/' :: ·) := by
  rw [trimSlashes_flatMap front h]
  split
  · next hnil => simp [hnil]
  · simp

theorem ofChars?_names (hscheme : IsScheme u.scheme) (hchars : u.chars = u.scheme ++ ':' :: rest)
    (hrest : ∀ c ∈ rest, 0x20 ≤ c.toNat) (hfirst : IsDirectory first) (hlast : IsName last) :
    ofChars? (trimSlashes u.chars ++ '/' :: (first ++ '/' :: last)) =
      (let s := trimSlashes rest ++ '/' :: (first ++ '/' :: last)
      if u.scheme = "file".toList then readFile s
      else if isNamed u.scheme then readNamed u.scheme s
      else readOther u.scheme s) := by
  have hnames (c : Char) (hc : c ∈ '/' :: (first ++ '/' :: last)) : 0x20 < c.toNat :=
    (isPathChar_of_mem_names hfirst hlast hc).2.1
  rw [hchars, trimSlashes_append_cons (by decide), List.append_assoc, List.cons_append]
  refine ofChars?_append hscheme (fun c hc => ?_) fun c hc => ?_
  · obtain hc | hc := List.mem_append.1 hc
    · exact hrest c (trimSlashes_subset rest hc)
    · exact (hnames c hc).le
  · rw [List.getLast?_append_cons] at hc
    exact hnames c (List.mem_of_getLast? hc)

theorem chars_of_hasAuthority (h : u.hasAuthority = true) (hquery : u.query = none)
    (hfragment : u.fragment = none) :
    u.chars = u.scheme ++ ':' :: ('/' :: '/' :: (u.userChars ++ u.hostChars) ++ u.path.chars) := by
  have hpath : u.pathChars = u.path.chars := by
    unfold pathChars
    split
    · rw [if_pos h]
    · rfl
  rw [chars, if_pos h, hpath, queryChars, hquery, fragmentChars, hfragment]
  simp

theorem exists_rest {scheme : List Char} (front : List Char) {path : List (List Char)}
    (hpath : ∀ s ∈ path, IsSegment scheme s) (hfirst : IsDirectory first) (hlast : IsName last) :
    ∃ t, trimSlashes (front ++ path.flatMap ('/' :: ·)) ++ '/' :: (first ++ '/' :: last) =
        (if trimSegments path = [] then trimSlashes front else front) ++ '/' :: t ∧
      (trimSegments path ++ [first, last]).flatMap ('/' :: ·) = '/' :: t ∧
      (∀ c ∈ t, IsPathChar c) ∧
        readPath scheme t = trimSegments path ++ added first last := by
  have hslash (s : List Char) (hs : s ∈ path) : '/' ∉ s := (hpath s hs).not_mem_slash
  obtain ⟨t, ht, hchars, hread⟩ :=
    exists_path_text (fun s hs => hpath s (trimSegments_subset path hs)) hfirst hlast
  exact ⟨t, by rw [trimSlashes_names front hslash, ht], ht, hchars, hread⟩

theorem visible_flatMap {scheme front : List Char} {path : List (List Char)}
    (hfront : ∀ c ∈ front, 0x20 < c.toNat) (hpath : ∀ s ∈ path, IsSegment scheme s) :
    ∀ c ∈ front ++ path.flatMap ('/' :: ·), 0x20 ≤ c.toNat := by
  intro c hc
  obtain hc | hc := List.mem_append.1 hc
  · exact (hfront c hc).le
  · obtain ⟨s, hs, hc⟩ := List.mem_flatMap.1 hc
    obtain rfl | hc := List.mem_cons.1 hc
    · decide
    · exact (isPathChar_of_kept ((hpath s hs).kept c hc)).1.le

theorem visible_authority {s : List Char} (h : ∀ c ∈ s, isAuthorityChar c = true) :
    ∀ c ∈ '/' :: '/' :: s, 0x20 < c.toNat := by
  have hvisible (c : Char) (hc : c ∈ s) : 0x20 < c.toNat := by
    have hchar := h c hc
    rw [isAuthorityChar, Bool.and_eq_true, decide_eq_true_eq] at hchar
    exact hchar.1
  exact List.forall_mem_cons.2 ⟨by decide, List.forall_mem_cons.2 ⟨by decide, hvisible⟩⟩

theorem trimSlashes_authority {s : List Char} (h : ∀ c ∈ s, isAuthorityChar c = true)
    (hne : s ≠ []) : trimSlashes ('/' :: '/' :: s) = '/' :: '/' :: s :=
  trimSlashes_append_of_not_mem hne (fun hmem => absurd (h _ hmem) (by decide)) ['/', '/']

theorem head?_ne_slash {s t : List Char} {path : List (List Char)} (hne : s ≠ [])
    (hs : '/' ∉ s) (h : (s :: path).flatMap ('/' :: ·) = '/' :: t) : t.head? ≠ some '/' := by
  obtain ⟨c, cs, rfl⟩ := List.exists_cons_of_ne_nil hne
  rw [List.flatMap_cons, List.cons_append, List.cons_append, List.cons.injEq] at h
  rw [← h.2, List.head?_cons]
  intro heq
  exact hs (by simp [Option.some.inj heq])

/-! ### Scheme by scheme -/

variable {scheme : List Char} {path : List (List Char)} {a : Authority}

theorem chars_of_authority
    (hu : u = ⟨scheme, a.username, a.password, some a.host, a.port, .segments path, none, none⟩) :
    u.chars = u.scheme ++ ':' :: ('/' :: '/' :: a.chars ++ path.flatMap ('/' :: ·)) := by
  subst hu
  exact chars_of_hasAuthority rfl rfl rfl

theorem ofChars?_below_named (hscheme : IsScheme scheme) (hnamed : isNamed scheme = true)
    (hfile : scheme ≠ "file".toList) (ha : IsAuthority scheme a)
    (hpath : ∀ s ∈ path, IsSegment scheme s) (hfirst : IsDirectory first) (hlast : IsName last)
    (hu : u = ⟨scheme, a.username, a.password, some a.host, a.port, .segments path, none, none⟩) :
    ofChars? (trimSlashes u.chars ++ '/' :: (first ++ '/' :: last)) =
      some (u.below first last) := by
  have hchars := chars_of_authority hu
  have hauthority (c : Char) (hc : c ∈ a.chars) : isAuthorityChar c = true :=
    isAuthorityChar_of_mem ha hc
  have hhost : a.host.chars ≠ [] := fun hnil => by
    have hopaque := (ha.empty hnil).1
    rw [hnamed] at hopaque
    cases hopaque
  have hne := Authority.chars_ne_nil hhost
  obtain ⟨t, hrest, -, htail, hread⟩ := exists_rest ('/' :: '/' :: a.chars) hpath hfirst hlast
  rw [trimSlashes_authority hauthority hne, ite_self] at hrest
  rw [ofChars?_names (by rw [hu]; exact hscheme) hchars
    (visible_flatMap (visible_authority hauthority) hpath) hfirst hlast]
  subst hu
  simp only [hrest, if_neg hfile, if_pos hnamed]
  rw [readNamed_authority ha hne fun c hc => (htail c hc).2, hread]
  simp only [below, hostBelow_of_ne hhost]

theorem file_ne_of_not_isNamed (hnamed : isNamed scheme = false) : scheme ≠ "file".toList := by
  rintro rfl
  exact absurd hnamed (by decide)

theorem ofChars?_below_authority (hscheme : IsScheme scheme) (hnamed : isNamed scheme = false)
    (ha : IsAuthority scheme a) (hpath : ∀ s ∈ path, IsSegment scheme s)
    (hfirst : IsDirectory first) (hlast : IsName last)
    (hu : u = ⟨scheme, a.username, a.password, some a.host, a.port, .segments path, none, none⟩) :
    ofChars? (trimSlashes u.chars ++ '/' :: (first ++ '/' :: last)) =
      some (u.below first last) := by
  have hchars := chars_of_authority hu
  have hauthority (c : Char) (hc : c ∈ a.chars) : isAuthorityChar c = true :=
    isAuthorityChar_of_mem ha hc
  obtain ⟨t, hrest, hnext, htail, hread⟩ := exists_rest ('/' :: '/' :: a.chars) hpath hfirst hlast
  have htext : IsPathText t := fun c hc => (htail c hc).2
  rw [ofChars?_names (by rw [hu]; exact hscheme) hchars
    (visible_flatMap (visible_authority hauthority) hpath) hfirst hlast]
  subst hu
  simp only [if_neg (file_ne_of_not_isNamed hnamed), hnamed, Bool.false_eq_true, if_false]
  by_cases hempty : a.host.chars = [] ∧ trimSegments path = []
  · obtain ⟨hhost, hkept⟩ := hempty
    obtain ⟨-, huser, hport⟩ := ha.empty hhost
    obtain ⟨husername, hpassword⟩ := userText_eq_none huser
    rw [ha.chars_eq_nil hhost] at hrest ⊢
    rw [hkept, List.nil_append] at hnext
    have hhead := head?_ne_slash hfirst.notEmpty hfirst.not_mem_slash hnext
    have hslashes : trimSlashes ['/', '/'] = [] := rfl
    rw [if_pos hkept, hslashes, List.nil_append] at hrest
    rw [hrest, readOther_rooted htext hhead, hread]
    simp only [below, hostBelow, hkept, if_true, Option.filter_some, hhost, List.isEmpty_nil,
      Bool.not_true, Bool.false_eq_true, if_false, husername, hpassword, hport]
  · have hfront : (if trimSegments path = [] then trimSlashes ('/' :: '/' :: a.chars)
        else '/' :: '/' :: a.chars) = '/' :: '/' :: a.chars := by
      split
      · next hkept =>
        exact trimSlashes_authority hauthority
          (Authority.chars_ne_nil fun hhost => hempty ⟨hhost, hkept⟩)
      · rfl
    rw [hfront] at hrest
    rw [hrest, readOther_authority ha htext, hread]
    simp only [below, hostBelow_eq hempty]

/-- The dot segment that keeps two slashes at the front of a path apart. -/
def dotFront : List (List Char) → List Char
  | [] :: _ :: _ => ['/', '.']
  | _ => []

theorem chars_of_rooted (h : u.hasAuthority = false) (hpath : u.path = .segments path)
    (hquery : u.query = none) (hfragment : u.fragment = none) :
    u.chars = u.scheme ++ ':' :: (dotFront path ++ path.flatMap ('/' :: ·)) := by
  have hchars : u.pathChars = dotFront path ++ path.flatMap ('/' :: ·) := by
    unfold pathChars dotFront
    rw [hpath]
    split
    · next first rest heq =>
      obtain rfl := UrlPath.segments.inj heq
      rw [h, if_neg Bool.false_ne_true]
      rfl
    · next hother =>
      split
      · next first rest => exact absurd rfl (hother first rest)
      · rfl
  rw [chars, if_neg (by rw [h]; exact Bool.false_ne_true), hchars, queryChars, hquery,
    fragmentChars, hfragment]
  simp

theorem dotFront_cases (path : List (List Char)) :
    dotFront path = ['/', '.'] ∨ dotFront path = [] ∧
      (trimSegments path = [] ∨ ∃ s rest, trimSegments path = s :: rest ∧ s ≠ []) := by
  match path with
  | [] => exact .inr ⟨rfl, .inl rfl⟩
  | [[]] => exact .inr ⟨rfl, .inl rfl⟩
  | [] :: _ :: _ => exact .inl rfl
  | (c :: s) :: path =>
    refine .inr ⟨rfl, ?_⟩
    cases hkept : trimSegments ((c :: s) :: path) with
    | nil => exact .inl rfl
    | cons s' rest =>
      have hstart := List.rdropWhile_prefix List.isEmpty ((c :: s) :: path)
      rw [← trimSegments, hkept, List.cons_prefix_cons] at hstart
      exact .inr ⟨s', rest, rfl, by rw [hstart.1]; exact List.cons_ne_nil _ _⟩

theorem readPath_dot (scheme s : List Char) :
    readPath scheme ('.' :: '/' :: s) = readPath scheme s := by
  have hdot : splitSegments (isNamed scheme) ('.' :: '/' :: s) =
      ['.'] :: splitSegments (isNamed scheme) s :=
    splitSegments_append (List.forall_mem_singleton.2 (by simp [isSlash])) s
  obtain ⟨first, rest, hsplit, -⟩ := exists_splitSegments_eq (isNamed scheme) s
  rw [readPath, readPath, hdot, hsplit]
  rfl

theorem hasAuthority_eq_false {username : List Char} {password : Option (List Char)}
    {port : Option Nat} {path : UrlPath} (hnamed : isNamed scheme = false) :
    Url.hasAuthority ⟨scheme, username, password, none, port, path, none, none⟩ = false :=
  beq_eq_false_iff_ne.2 (file_ne_of_not_isNamed hnamed)

theorem ofChars?_below_rooted (hscheme : IsScheme scheme) (hnamed : isNamed scheme = false)
    (hpath : ∀ s ∈ path, IsSegment scheme s) (hfirst : IsDirectory first) (hlast : IsName last)
    (hu : u = ⟨scheme, [], none, none, none, .segments path, none, none⟩) :
    ofChars? (trimSlashes u.chars ++ '/' :: (first ++ '/' :: last)) =
      some (u.below first last) := by
  have hchars : u.chars = u.scheme ++ ':' :: (dotFront path ++ path.flatMap ('/' :: ·)) := by
    subst hu
    exact chars_of_rooted (hasAuthority_eq_false hnamed) rfl rfl rfl
  have hvisible : ∀ c ∈ dotFront path, 0x20 < c.toNat := by
    obtain hfront | ⟨hfront, -⟩ := dotFront_cases path <;> rw [hfront] <;>
      exact Text.forall_mem (by decide)
  obtain ⟨t, hrest, hnext, htail, hread⟩ := exists_rest (dotFront path) hpath hfirst hlast
  have htext : IsPathText t := fun c hc => (htail c hc).2
  rw [ofChars?_names (by rw [hu]; exact hscheme) hchars (visible_flatMap hvisible hpath) hfirst
    hlast]
  subst hu
  simp only [if_neg (file_ne_of_not_isNamed hnamed), hnamed, Bool.false_eq_true, if_false]
  obtain hfront | ⟨hfront, hkept⟩ := dotFront_cases path
  · have hslashes : trimSlashes ['/', '.'] = ['/', '.'] := rfl
    have hdot : IsPathText ('.' :: '/' :: t) :=
      List.forall_mem_cons.2 ⟨by decide, List.forall_mem_cons.2 ⟨by decide, htext⟩⟩
    rw [hfront, hslashes, ite_self] at hrest
    rw [hfront, hrest, List.cons_append, List.singleton_append, readOther_rooted hdot (by simp),
      readPath_dot, hread]
    simp only [below, hostBelow, Option.filter_none, ite_self]
  · have hhead : t.head? ≠ some '/' := by
      obtain hkept | ⟨s, rest, hkept, hne⟩ := hkept
      · rw [hkept, List.nil_append] at hnext
        exact head?_ne_slash hfirst.notEmpty hfirst.not_mem_slash hnext
      · have hs : s ∈ path := trimSegments_subset path (hkept ▸ List.mem_cons_self)
        rw [hkept, List.cons_append] at hnext
        exact head?_ne_slash hne (hpath s hs).not_mem_slash hnext
    have hslashes : trimSlashes [] = [] := rfl
    rw [hfront, hslashes, ite_self] at hrest
    rw [hfront, hrest, List.nil_append, readOther_rooted htext hhead, hread]
    simp only [below, hostBelow, Option.filter_none, ite_self]

theorem ofChars?_below_plain {text : List Char} (hscheme : IsScheme scheme)
    (hnamed : isNamed scheme = false) (hkept : ∀ c ∈ text, Percent.isControlSet c = false)
    (htext : IsPathText text) (hhead : text.head? ≠ some '/')
    (hfirst : IsDirectory first) (hlast : IsName last)
    (hu : u = ⟨scheme, [], none, none, none, .plain text, none, none⟩) :
    ofChars? (trimSlashes u.chars ++ '/' :: (first ++ '/' :: last)) =
      some (u.below first last) := by
  have hchars : u.chars = u.scheme ++ ':' :: text := by
    subst hu
    rw [chars, hasAuthority_eq_false hnamed]
    simp [pathChars, UrlPath.chars, queryChars, fragmentChars]
  have hvisible (c : Char) (hc : c ∈ text) : 0x20 ≤ c.toNat :=
    (Percent.isControlSet_eq_false.1 (hkept c hc)).1
  rw [ofChars?_names (by rw [hu]; exact hscheme) hchars hvisible hfirst hlast]
  subst hu
  simp only [if_neg (file_ne_of_not_isNamed hnamed), hnamed, Bool.false_eq_true, if_false]
  cases text with
  | nil =>
    obtain ⟨t, ht, htail, hread⟩ := exists_path_text (List.forall_mem_nil _) hfirst hlast
    have hnames : '/' :: (first ++ '/' :: last) = '/' :: t := by
      rw [← ht]
      simp
    have hnext := head?_ne_slash hfirst.notEmpty hfirst.not_mem_slash ht
    have hslashes : trimSlashes [] = [] := rfl
    rw [hslashes, List.nil_append, hnames, readOther_rooted (fun c hc => (htail c hc).2) hnext,
      hread]
    rfl
  | cons c text =>
    have hc : c ≠ '/' := fun heq => hhead (by rw [heq]; rfl)
    have htrim : trimSlashes (c :: text) = c :: trimSlashes text :=
      trimSlashes_append_cons hc [] text
    have hall (d : Char) (hd : d ∈ trimSlashes (c :: text) ++ '/' :: (first ++ '/' :: last)) :
        Percent.isControlSet d = false ∧ endsPath d = false := by
      obtain hd | hd := List.mem_append.1 hd
      · exact ⟨hkept d (trimSlashes_subset _ hd), htext d (trimSlashes_subset _ hd)⟩
      · obtain ⟨hcontrol, hpathChar⟩ := isPathChar_of_mem_names hfirst hlast hd
        exact ⟨hcontrol, hpathChar.2⟩
    have hnext : (trimSlashes (c :: text) ++ '/' :: (first ++ '/' :: last)).head? ≠ some '/' := by
      rw [htrim, List.cons_append, List.head?_cons]
      exact fun heq => hc (Option.some.inj heq)
    rw [readOther_plain (fun d hd => (hall d hd).2) hnext,
      Percent.encode_of_kept fun d hd => (hall d hd).1]
    rfl

theorem isScheme_file : IsScheme "file".toList :=
  ⟨⟨'f', "ile".toList, rfl, by decide⟩, Text.forall_mem (by decide)⟩

theorem ofChars?_below_hostless (hpath : IsFilePath path) (hfirst : IsDirectory first)
    (hlast : IsName last)
    (hu : u = ⟨"file".toList, [], none, none, none, .segments path, none, none⟩) :
    ofChars? (trimSlashes u.chars ++ '/' :: (first ++ '/' :: last)) =
      some (u.below first last) := by
  have hchars : u.chars = u.scheme ++ ':' :: (['/', '/'] ++ path.flatMap ('/' :: ·)) := by
    subst hu
    exact chars_of_hasAuthority rfl rfl rfl
  obtain ⟨t, hrest, hnext, htail, hread⟩ := exists_rest ['/', '/'] hpath.segments hfirst hlast
  have htext : IsPathText t := fun c hc => (htail c hc).2
  -- The slash before the text reads as an empty segment, which file paths drop.
  have hfile : filePath ('/' :: t) = trimSegments path ++ added first last := by
    have hempty : readPath "file".toList ('/' :: t) =
        [] :: (trimSegments path ++ added first last) := by
      obtain ⟨t', ht', -, hread'⟩ := exists_path_text
        (List.forall_mem_cons.2 ⟨isSegment_nil "file".toList,
          fun s hs => hpath.segments s (trimSegments_subset path hs)⟩) hfirst hlast
      rw [List.cons_append, List.flatMap_cons, hnext, List.singleton_append, List.cons.injEq]
        at ht'
      rw [ht'.2, hread', List.cons_append]
    rw [filePath_eq, hempty]
    exact filePath_added hpath hfirst
  rw [ofChars?_names (by rw [hu]; exact isScheme_file) hchars
    (visible_flatMap (Text.forall_mem (by decide)) hpath.segments) hfirst hlast]
  subst hu
  simp only [if_true, hrest]
  by_cases hkept : trimSegments path = []
  · have hslashes : trimSlashes ['/', '/'] = [] := rfl
    rw [hkept, List.nil_append] at hnext
    obtain ⟨c, cs, rfl⟩ := List.exists_cons_of_ne_nil hfirst.notEmpty
    have ht : t = c :: (cs ++ '/' :: last) := by
      rw [List.flatMap_cons, List.cons_append, List.cons.injEq] at hnext
      simpa using hnext.2.symm
    have hc := (isPlainChar_of_isName hfirst.name List.mem_cons_self).noSlash true
    subst ht
    rw [if_pos hkept, hslashes, List.nil_append, readFile_rooted hc htext, hfile]
    simp only [below, hostBelow, Option.filter_none, ite_self]
  · rw [if_neg hkept]
    exact (readFile_hostless htext).trans (by
      rw [hfile]
      simp only [below, hostBelow, Option.filter_none, ite_self])

theorem ofChars?_below_file {host : Host} (hpath : IsFilePath path) (hhost : IsFileHost host)
    (hdrive : startsWithDrive path = false) (hfirst : IsDirectory first) (hlast : IsName last)
    (hu : u = ⟨"file".toList, [], none, some host, none, .segments path, none, none⟩) :
    ofChars? (trimSlashes u.chars ++ '/' :: (first ++ '/' :: last)) =
      some (u.below first last) := by
  have hchars : u.chars =
      u.scheme ++ ':' :: ('/' :: '/' :: host.chars ++ path.flatMap ('/' :: ·)) := by
    have htext : u.userChars ++ u.hostChars = host.chars := by
      subst hu
      exact List.append_nil _
    rw [← htext]
    subst hu
    exact chars_of_hasAuthority rfl rfl rfl
  have hauthority (c : Char) (hc : c ∈ host.chars) : isAuthorityChar c = true :=
    isAuthorityChar_of_isHostChar (hhost.written.chars c hc)
  obtain ⟨t, hrest, -, htail, hread⟩ :=
    exists_rest ('/' :: '/' :: host.chars) hpath.segments hfirst hlast
  have hfile : filePath t = trimSegments path ++ added first last := by
    rw [filePath_eq, hread, filePath_added hpath hfirst]
  have hnext : startsWithDrive (filePath t) = false := by
    rw [hfile]
    exact startsWithDrive_added hpath hfirst hdrive
  rw [trimSlashes_authority hauthority hhost.notEmpty, ite_self] at hrest
  rw [ofChars?_names (by rw [hu]; exact isScheme_file) hchars
    (visible_flatMap (visible_authority hauthority) hpath.segments) hfirst hlast]
  subst hu
  simp only [if_true, hrest]
  rw [readFile_host hhost (fun c hc => (htail c hc).2) hnext, hfile]
  simp only [below, hostBelow_of_ne hhost.notEmpty]

/-- **Two names added behind a URL that was read give the URL below it.** -/
theorem ofChars?_below (h : IsRead u) (hquery : u.query = none) (hfragment : u.fragment = none)
    (hfirst : IsDirectory first) (hlast : IsName last) :
    ofChars? (trimSlashes u.chars ++ '/' :: (first ++ '/' :: last)) =
      some (u.below first last) := by
  cases h with
  | named query fragment hscheme hnamed hfile ha hpath =>
    obtain rfl : query = none := hquery
    obtain rfl : fragment = none := hfragment
    exact ofChars?_below_named hscheme hnamed hfile ha hpath hfirst hlast rfl
  | @file host _ query fragment hpath hhost =>
    obtain rfl : query = none := hquery
    obtain rfl : fragment = none := hfragment
    cases host with
    | none => exact ofChars?_below_hostless hpath hfirst hlast rfl
    | some host =>
      obtain ⟨hhost, hdrive⟩ := hhost host rfl
      exact ofChars?_below_file hpath hhost hdrive hfirst hlast rfl
  | authority query fragment hscheme hnamed ha hpath =>
    obtain rfl : query = none := hquery
    obtain rfl : fragment = none := hfragment
    exact ofChars?_below_authority hscheme hnamed ha hpath hfirst hlast rfl
  | rooted query fragment hscheme hnamed hpath =>
    obtain rfl : query = none := hquery
    obtain rfl : fragment = none := hfragment
    exact ofChars?_below_rooted hscheme hnamed hpath hfirst hlast rfl
  | plain query fragment hscheme hnamed hkept htext hhead =>
    obtain rfl : query = none := hquery
    obtain rfl : fragment = none := hfragment
    exact ofChars?_below_plain hscheme hnamed hkept htext hhead hfirst hlast rfl

end Url

end CardPayments
