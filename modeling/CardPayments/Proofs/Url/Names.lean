import CardPayments.Proofs.Url.Reader

/-!
# Names in a path

A name is a text of letters, digits, unreserved signs and percent signs. Two names behind the
segments of a path are read as two segments more; only dots among them take their effect.
-/

namespace CardPayments

namespace Url

/-! ### Names -/

/-- A text of letters, digits, unreserved signs and percent signs. -/
def IsName (s : List Char) : Prop := ∀ c ∈ s, Percent.isComponentSet c = false ∨ c = '%'

theorem isName_encode (s : List Char) : IsName (Percent.encode Percent.isComponentSet s) := by
  have htriple : ∀ c ∈ Percent.tripleChars, Percent.isComponentSet c = false ∨ c = '%' :=
    Text.forall_mem (by decide)
  intro c hc
  obtain ⟨-, hkept⟩ | hmem := Percent.mem_encode hc
  · exact .inl hkept
  · exact htriple c hmem

/-- A character that neither ends a path nor vanishes at the end of a text. -/
def IsPathChar (c : Char) : Prop := 0x20 < c.toNat ∧ endsPath c = false

theorem isPathChar_of_kept {c : Char} (h : Percent.isPathSet c = false) : IsPathChar c := by
  have hascii := Percent.toNat_lt_of_isControlSet (Percent.isControlSet_of_isPathSet h)
  unfold IsPathChar
  revert h
  apply Text.forall_ascii c hascii
  decide

structure IsPlainChar (c : Char) : Prop where
  kept : Percent.isPathSet c = false
  noSlash : ∀ named, isSlash named c = false
  noDrive : c ≠ ':' ∧ c ≠ '|'

theorem isPlainChar_of_isName {s : List Char} (h : IsName s) {c : Char} (hc : c ∈ s) :
    IsPlainChar c := by
  have hname := h c hc
  have hascii : c.toNat < 128 := by
    obtain hkept | rfl := hname
    · rw [Percent.isComponentSet, Bool.not_eq_false', Bool.or_eq_true] at hkept
      obtain halnum | hsign := hkept
      · exact Text.toNat_lt_of_isAlphanum halnum
      · have hsigns : ∀ c ∈ "-_.~".toList, c.toNat < 128 := Text.forall_mem (by decide)
        exact hsigns c (List.contains_iff_mem.1 hsign)
    · decide
  have hplain : Percent.isPathSet c = false ∧ (∀ named, isSlash named c = false) ∧
      c ≠ ':' ∧ c ≠ '|' := by
    revert hname
    apply Text.forall_ascii c hascii
    decide
  exact ⟨hplain.1, hplain.2.1, hplain.2.2⟩

theorem isDrive_of_isName {s : List Char} (h : IsName s) : isDrive s = false := by
  rw [Bool.eq_false_iff]
  intro hdrive
  unfold isDrive at hdrive
  split at hdrive
  · next a b =>
    have hb := (isPlainChar_of_isName h (c := b) (by simp)).noDrive
    simp [hb.1, hb.2] at hdrive
  · cases hdrive

theorem isSegment_of_isName (scheme : List Char) {s : List Char} (h : IsName s)
    (hsingle : isSingleDot s = false) (hdouble : isDoubleDot s = false) : IsSegment scheme s := by
  have hchars (c : Char) (hc : c ∈ s) : IsPlainChar c := isPlainChar_of_isName h hc
  refine ⟨fun c hc => (hchars c hc).kept, fun c hc => (hchars c hc).noSlash _, hsingle, hdouble, ?_⟩
  rw [segmentChars_of_not_isBarDrive, Percent.encode_of_kept fun c hc => (hchars c hc).kept]
  rintro ⟨a, rfl, -⟩
  exact (hchars '|' (by simp)).noDrive.2 rfl

/-! ### What is added to a path -/

/-- A name of segments that stand before others. -/
structure IsDirectory (s : List Char) : Prop where
  name : IsName s
  notEmpty : s ≠ []
  notSingleDot : isSingleDot s = false
  notDoubleDot : isDoubleDot s = false

theorem IsDirectory.not_mem_slash {s : List Char} (h : IsDirectory s) : '/' ∉ s := fun hmem =>
  absurd ((isPlainChar_of_isName h.name hmem).noSlash false) (by decide)

/-- The segments that two names add to a path: a dot segment at its end leaves an empty one. -/
def added (first last : List Char) : List (List Char) :=
  if isDoubleDot last then [[]] else if isSingleDot last then [first, []] else [first, last]

section

variable {scheme first last : List Char} {kept : List (List Char)}

theorem addSegments_pair (hfirst : IsDirectory first) (hlast : IsName last) :
    addSegments (scheme == "file".toList) kept [first, last] = kept ++ added first last := by
  have hsegment := isSegment_of_isName scheme hfirst.name hfirst.notSingleDot hfirst.notDoubleDot
  rw [addSegments, addSegment_of_isSegment hsegment, addSegments, added]
  · split
    · next hdouble =>
      -- Two dots take the first name along: it is no drive, which file paths would keep.
      have hdrop : dropLastSegment (scheme == "file".toList) (kept ++ [first]) = kept := by
        rw [dropLastSegment, List.getLast?_concat]
        simp only [isDrive_of_isName hfirst.name, Bool.and_false, Bool.false_eq_true, if_false,
          List.dropLast_concat]
      rw [addSegment, if_pos hdouble, hdrop, if_pos rfl]
    · next hdouble =>
      split
      · next hsingle =>
        rw [addSegment, if_neg hdouble, if_pos hsingle, if_pos rfl, List.append_assoc]
        rfl
      · next hsingle =>
        rw [addSegment_of_isSegment (isSegment_of_isName scheme hlast (Bool.eq_false_iff.2 hsingle)
          (Bool.eq_false_iff.2 hdouble)), List.append_assoc]
        rfl
  · exact List.cons_ne_nil _ _

theorem isPathChar_of_isName {s : List Char} (h : IsName s) {c : Char} (hc : c ∈ s) :
    IsPathChar c :=
  isPathChar_of_kept (isPlainChar_of_isName h hc).kept

theorem isPathChar_of_mem_names (hfirst : IsDirectory first) (hlast : IsName last) {c : Char}
    (hc : c ∈ '/' :: (first ++ '/' :: last)) :
    Percent.isControlSet c = false ∧ IsPathChar c := by
  have hname {s : List Char} (h : IsName s) (hc : c ∈ s) :
      Percent.isControlSet c = false ∧ IsPathChar c :=
    ⟨Percent.isControlSet_of_isPathSet (isPlainChar_of_isName h hc).kept, isPathChar_of_isName h hc⟩
  have hslash : Percent.isControlSet '/' = false ∧ IsPathChar '/' :=
    ⟨by decide, by decide, by decide⟩
  obtain rfl | hc := List.mem_cons.1 hc
  · exact hslash
  · obtain hc | hc := List.mem_append.1 hc
    · exact hname hfirst.name hc
    · obtain rfl | hc := List.mem_cons.1 hc
      · exact hslash
      · exact hname hlast hc

/-- The text of a path with two names behind it, and what it is read as. -/
theorem exists_path_text (hkept : ∀ s ∈ kept, IsSegment scheme s) (hfirst : IsDirectory first)
    (hlast : IsName last) :
    ∃ t, (kept ++ [first, last]).flatMap ('/' :: ·) = '/' :: t ∧ (∀ c ∈ t, IsPathChar c) ∧
      readPath scheme t = kept ++ added first last := by
  have hnames : ∀ s ∈ [first, last], IsName s := by simp [hfirst.name, hlast]
  have hchars (c : Char) (hc : c ∈ (kept ++ [first, last]).flatMap ('/' :: ·)) : IsPathChar c := by
    obtain ⟨s, hs, hc⟩ := List.mem_flatMap.1 hc
    obtain rfl | hc := List.mem_cons.1 hc
    · exact ⟨by decide, by decide⟩
    · obtain hs | hs := List.mem_append.1 hs
      · exact isPathChar_of_kept ((hkept s hs).kept c hc)
      · exact isPathChar_of_isName (hnames s hs) hc
  have hslash (s : List Char) (hs : s ∈ [first, last]) (c : Char) (hc : c ∈ s) :
      isSlash (isNamed scheme) c = false :=
    (isPlainChar_of_isName (hnames s hs) hc).noSlash _
  obtain ⟨t, ht⟩ : ∃ t, (kept ++ [first, last]).flatMap ('/' :: ·) = '/' :: t := by
    cases kept with
    | nil => exact ⟨_, rfl⟩
    | cons s kept => exact ⟨_, rfl⟩
  rw [ht, List.forall_mem_cons] at hchars
  refine ⟨t, ht, hchars.2, ?_⟩
  rw [readPath_flatMap hkept (List.cons_ne_nil _ _) hslash ht.symm, addSegments_pair hfirst hlast]

end

/-! ### File paths -/

/-- A path with no empty segments at its front, but for a single one. -/
def withoutEmptyFront (path : List (List Char)) : List (List Char) :=
  match path.dropWhile List.isEmpty with
  | [] => [[]]
  | path => path

theorem filePath_eq (s : List Char) :
    filePath s = withoutEmptyFront (readPath "file".toList s) := rfl

theorem withoutEmptyFront_cons {s : List Char} (h : s ≠ []) (path : List (List Char)) :
    withoutEmptyFront (s :: path) = s :: path := by
  rw [withoutEmptyFront, List.dropWhile_cons_of_neg (by simpa using h)]

theorem kept_of_isFilePath {path : List (List Char)} (h : IsFilePath path) :
    trimSegments path = [] ∨
      ∃ s rest rest', trimSegments path = s :: rest ∧ path = s :: rest' ∧ s ≠ [] := by
  cases hkept : trimSegments path with
  | nil => exact .inl rfl
  | cons s rest =>
    obtain rfl | ⟨s', rest', rfl, hne⟩ := h.front
    · cases hkept
    · have hstart := List.rdropWhile_prefix List.isEmpty (s' :: rest')
      rw [← trimSegments, hkept, List.cons_prefix_cons] at hstart
      obtain ⟨rfl, -⟩ := hstart
      exact .inr ⟨s, rest, rest', rfl, rfl, hne⟩

theorem filePath_added {path : List (List Char)} {first last : List Char} (h : IsFilePath path)
    (hfirst : IsDirectory first) :
    withoutEmptyFront (trimSegments path ++ added first last) =
      trimSegments path ++ added first last := by
  obtain hkept | ⟨s, rest, -, hkept, -, hne⟩ := kept_of_isFilePath h
  · rw [hkept, List.nil_append, added]
    split
    · rfl
    · split
      · exact withoutEmptyFront_cons hfirst.notEmpty _
      · exact withoutEmptyFront_cons hfirst.notEmpty _
  · rw [hkept]
    exact withoutEmptyFront_cons hne _

theorem startsWithDrive_added {path : List (List Char)} {first last : List Char}
    (h : IsFilePath path) (hfirst : IsDirectory first) (hdrive : startsWithDrive path = false) :
    startsWithDrive (trimSegments path ++ added first last) = false := by
  obtain hkept | ⟨s, rest, rest', hkept, rfl, -⟩ := kept_of_isFilePath h
  · rw [hkept, List.nil_append, added]
    split
    · rfl
    · split
      · exact isDrive_of_isName hfirst.name
      · exact isDrive_of_isName hfirst.name
  · rw [hkept]
    exact hdrive

end Url

end CardPayments
