import CardPayments.Proofs.Url.Percent
import Mathlib.Data.List.DropRight

/-!
# Segments of a path

The bytes that a segment stands for tell whether it is a dot segment. The segments of a path that
was read are no dot segments and have nothing left to encode, so they are read as they stand, and
what is added to them is added behind them.
-/

namespace CardPayments

namespace Url

/-! ### Dot segments -/

theorem decode_triple {a b : Char} {x y : Nat} (ha : Text.hexValue? a = some x)
    (hb : Text.hexValue? b = some y) (rest : List Char) :
    Percent.decode ('%' :: a :: b :: rest) = UInt8.ofNat (16 * x + y) :: Percent.decode rest := by
  rw [Percent.decode, ha, hb]

theorem decode_eq_nil_iff {s : List Char} : Percent.decode s = [] ↔ s = [] := by
  refine ⟨fun h => ?_, fun h => h ▸ rfl⟩
  cases s with
  | nil => rfl
  | cons c s =>
    by_cases hc : c = '%'
    · subst hc
      by_cases hdigits : Percent.StartsWithDigits s
      · obtain ⟨a, b, rest, rfl, ha, hb⟩ := hdigits
        obtain ⟨x, hx⟩ := Option.isSome_iff_exists.1 ha
        obtain ⟨y, hy⟩ := Option.isSome_iff_exists.1 hb
        rw [decode_triple hx hy] at h
        cases h
      · rw [Percent.decode_percent hdigits] at h
        cases h
    · rw [Percent.decode_of_ne hc] at h
      exact absurd (List.append_eq_nil_iff.1 h).1 String.utf8EncodeChar_ne_nil

theorem dropDot_of_digits {a b : Char} {x y : Nat} (ha : Text.hexValue? a = some x)
    (hb : Text.hexValue? b = some y) (h : UInt8.ofNat (16 * x + y) = 0x2E) (rest : List Char) :
    dropDot ('%' :: a :: b :: rest) = some rest := by
  have hdigits : ∀ c ∈ Percent.tripleChars, (Text.hexValue? c).all (· < 16) = true ∧
      (Text.hexValue? c = some 2 → c = '2') ∧
        (Text.hexValue? c = some 14 → c = 'e' ∨ c = 'E') := Text.forall_mem (by decide)
  obtain ⟨hx, htwo, -⟩ :=
    hdigits a (Percent.mem_tripleChars_of_hexValue? (Option.isSome_iff_exists.2 ⟨x, ha⟩))
  obtain ⟨hy, -, hfourteen⟩ :=
    hdigits b (Percent.mem_tripleChars_of_hexValue? (Option.isSome_iff_exists.2 ⟨y, hb⟩))
  rw [ha, Option.all_some, decide_eq_true_eq] at hx
  rw [hb, Option.all_some, decide_eq_true_eq] at hy
  have hsize : 16 * x + y < UInt8.size := by
    change 16 * x + y < 256
    omega
  have hsum : 16 * x + y = 46 := (UInt8.toNat_ofNat_of_lt hsize).symm.trans (congrArg UInt8.toNat h)
  obtain rfl : x = 2 := by omega
  obtain rfl : y = 14 := by omega
  obtain rfl := htwo ha
  obtain rfl | rfl := hfourteen hb <;> rfl

/-- The bytes begin with a dot where the segment does, plain or as a triple. -/
theorem decode_eq_dot_cons {s : List Char} {bytes : List UInt8} :
    Percent.decode s = 0x2E :: bytes ↔
      ∃ rest, dropDot s = some rest ∧ Percent.decode rest = bytes := by
  constructor
  · intro h
    cases s with
    | nil => cases h
    | cons c s =>
      by_cases hc : c = '%'
      · subst hc
        by_cases hdigits : Percent.StartsWithDigits s
        · obtain ⟨a, b, rest, rfl, ha, hb⟩ := hdigits
          obtain ⟨x, hx⟩ := Option.isSome_iff_exists.1 ha
          obtain ⟨y, hy⟩ := Option.isSome_iff_exists.1 hb
          rw [decode_triple hx hy, List.cons.injEq] at h
          exact ⟨rest, dropDot_of_digits hx hy h.1 rest, h.2⟩
        · rw [Percent.decode_percent hdigits] at h
          exact absurd (List.cons.inj h).1 (by decide)
      · rw [Percent.decode_of_ne hc] at h
        have hdot : String.utf8EncodeChar c ++ Percent.decode s =
            String.utf8EncodeChar '.' ++ bytes := h
        obtain rfl := Text.utf8EncodeChar_append_inj hdot
        exact ⟨s, rfl, List.append_cancel_left hdot⟩
  · rintro ⟨rest, hdrop, rfl⟩
    unfold dropDot at hdrop
    split at hdrop
    · obtain rfl := Option.some.inj hdrop
      rw [Percent.decode_of_ne (by decide)]
      rfl
    · obtain rfl := Option.some.inj hdrop
      rw [decode_triple (x := 2) (y := 14) rfl rfl]
      rfl
    · obtain rfl := Option.some.inj hdrop
      rw [decode_triple (x := 2) (y := 14) rfl rfl]
      rfl
    · cases hdrop

theorem isSingleDot_iff {s : List Char} :
    isSingleDot s = true ↔ Percent.decode s = [0x2E] := by
  rw [isSingleDot, decide_eq_true_eq, decode_eq_dot_cons]
  simp only [decode_eq_nil_iff, exists_eq_right]

theorem isDoubleDot_iff {s : List Char} :
    isDoubleDot s = true ↔ Percent.decode s = [0x2E, 0x2E] := by
  rw [isDoubleDot, decide_eq_true_eq, decode_eq_dot_cons, Option.bind_eq_some_iff]
  simp only [decode_eq_dot_cons, decode_eq_nil_iff, exists_eq_right]

/-! ### Segments -/

/-- A segment as it stands in a path that was read. -/
structure IsSegment (scheme segment : List Char) : Prop where
  kept : ∀ c ∈ segment, Percent.isPathSet c = false
  noSlash : ∀ c ∈ segment, isSlash (isNamed scheme) c = false
  notSingleDot : isSingleDot segment = false
  notDoubleDot : isDoubleDot segment = false
  written : segmentChars (scheme == "file".toList) segment = segment

theorem IsSegment.not_mem_slash {scheme s : List Char} (h : IsSegment scheme s) : '/' ∉ s :=
  fun hmem => absurd (h.noSlash _ hmem) (by simp [isSlash])

theorem isSegment_nil (scheme : List Char) : IsSegment scheme [] :=
  ⟨by simp, by simp, rfl, rfl, rfl⟩

/-- The name of a drive with a bar, which file paths write with a colon. -/
def IsBarDrive (isFile : Bool) (segment : List Char) : Prop :=
  ∃ a, segment = [a, '|'] ∧ isFile = true ∧ a.isAlpha = true

theorem segmentChars_of_not_isBarDrive {isFile : Bool} {segment : List Char}
    (h : ¬IsBarDrive isFile segment) :
    segmentChars isFile segment = Percent.encode Percent.isPathSet segment := by
  unfold segmentChars
  split
  · next a =>
    split
    · next hdrive =>
      rw [Bool.and_eq_true] at hdrive
      exact absurd ⟨a, rfl, hdrive⟩ h
    · rfl
  · rfl

theorem isSegment_drive (scheme : List Char) {a : Char} (h : a.isAlpha = true) :
    IsSegment scheme [a, ':'] := by
  have hascii : a.toNat < 128 := Text.toNat_lt_of_isAlphanum (by rw [Char.isAlphanum, h]; rfl)
  obtain ⟨hkept, hslash, hdot⟩ : Percent.isPathSet a = false ∧
      (∀ named, isSlash named a = false) ∧ dropDot [a, ':'] = none := by
    revert h
    apply Text.forall_ascii a hascii
    decide
  have hcolon : ∀ named, isSlash named ':' = false := by decide
  have hall : ∀ c ∈ [a, ':'], Percent.isPathSet c = false :=
    List.forall_mem_cons.2 ⟨hkept, List.forall_mem_singleton.2 (by decide)⟩
  refine ⟨hall, List.forall_mem_cons.2 ⟨hslash _, List.forall_mem_singleton.2 (hcolon _)⟩,
    ?_, ?_, ?_⟩
  · rw [isSingleDot, hdot]
    rfl
  · rw [isDoubleDot, hdot]
    rfl
  · rw [segmentChars_of_not_isBarDrive, Percent.encode_of_kept hall]
    rintro ⟨b, heq, -⟩
    simp at heq

theorem isSegment_segmentChars {scheme segment : List Char}
    (hslash : ∀ c ∈ segment, isSlash (isNamed scheme) c = false)
    (hsingle : isSingleDot segment = false) (hdouble : isDoubleDot segment = false) :
    IsSegment scheme (segmentChars (scheme == "file".toList) segment) := by
  generalize hfile : (scheme == "file".toList) = isFile
  by_cases hdrive : IsBarDrive isFile segment
  · obtain ⟨a, rfl, rfl, halpha⟩ := hdrive
    rw [segmentChars, if_pos (by rw [halpha]; rfl)]
    exact isSegment_drive scheme halpha
  · rw [segmentChars_of_not_isBarDrive hdrive]
    have hdecode := Percent.decode_encode Percent.keepsTriples_isPathSet segment
    refine ⟨fun c hc => Percent.isEncoded_of_mem_encode Percent.keepsTriples_isPathSet hc,
      fun c hc => ?_, ?_, ?_, ?_⟩
    · obtain ⟨hmem, -⟩ | htriple := Percent.mem_encode hc
      · exact hslash c hmem
      · have hall : ∀ c ∈ Percent.tripleChars, ∀ named, isSlash named c = false :=
          Text.forall_mem (by decide)
        exact hall c htriple _
    · rw [Bool.eq_false_iff, Ne, isSingleDot_iff, hdecode, ← isSingleDot_iff, hsingle]
      exact Bool.false_ne_true
    · rw [Bool.eq_false_iff, Ne, isDoubleDot_iff, hdecode, ← isDoubleDot_iff, hdouble]
      exact Bool.false_ne_true
    · rw [hfile, segmentChars_of_not_isBarDrive,
        Percent.encode_encode Percent.keepsTriples_isPathSet]
      rintro ⟨a, heq, rfl, halpha⟩
      have hpercent : '%' ∉ Percent.encode Percent.isPathSet segment := by
        rw [heq]
        simp only [List.mem_cons, List.not_mem_nil, or_false, not_or]
        refine ⟨?_, by decide⟩
        rintro rfl
        exact absurd halpha (by decide)
      exact hdrive ⟨a, (Percent.encode_of_not_mem hpercent).symm.trans heq, rfl, halpha⟩

/-! ### Splitting at slashes -/

theorem splitSegments_append {named : Bool} {segment : List Char}
    (h : ∀ c ∈ segment, isSlash named c = false) (t : List Char) :
    splitSegments named (segment ++ '/' :: t) = segment :: splitSegments named t := by
  induction segment with
  | nil => rw [List.nil_append, splitSegments, if_pos (by simp [isSlash])]
  | cons c segment ih =>
    rw [List.forall_mem_cons] at h
    rw [List.cons_append, splitSegments, if_neg (by rw [h.1]; exact Bool.false_ne_true), ih h.2]

theorem splitSegments_of_noSlash {named : Bool} {segment : List Char}
    (h : ∀ c ∈ segment, isSlash named c = false) : splitSegments named segment = [segment] := by
  induction segment with
  | nil => rfl
  | cons c segment ih =>
    rw [List.forall_mem_cons] at h
    rw [splitSegments, if_neg (by rw [h.1]; exact Bool.false_ne_true), ih h.2]

theorem splitSegments_flatMap {named : Bool} {segment : List Char} {segments : List (List Char)}
    (h : ∀ s ∈ segment :: segments, ∀ c ∈ s, isSlash named c = false) :
    splitSegments named (segment ++ segments.flatMap ('/' :: ·)) = segment :: segments := by
  induction segments generalizing segment with
  | nil =>
    rw [List.flatMap_nil, List.append_nil]
    exact splitSegments_of_noSlash (h segment List.mem_cons_self)
  | cons next segments ih =>
    rw [List.forall_mem_cons] at h
    rw [List.flatMap_cons, List.cons_append, splitSegments_append h.1, ih h.2]

theorem exists_splitSegments_eq (named : Bool) (s : List Char) :
    ∃ segment segments, splitSegments named s = segment :: segments ∧
      ∀ p ∈ segment :: segments, ∀ c ∈ p, isSlash named c = false := by
  induction s with
  | nil => exact ⟨[], [], rfl, by simp⟩
  | cons c s ih =>
    obtain ⟨segment, segments, heq, hall⟩ := ih
    rw [splitSegments, heq]
    split
    · exact ⟨[], segment :: segments, rfl, List.forall_mem_cons.2 ⟨by simp, hall⟩⟩
    · next hc =>
      rw [List.forall_mem_cons] at hall
      refine ⟨c :: segment, segments, rfl, List.forall_mem_cons.2 ⟨?_, hall.2⟩⟩
      exact List.forall_mem_cons.2 ⟨Bool.eq_false_iff.2 hc, hall.1⟩

/-! ### Adding segments -/

theorem dropLastSegment_subset (isFile : Bool) (path : List (List Char)) :
    dropLastSegment isFile path ⊆ path := by
  unfold dropLastSegment
  split
  · split
    · exact List.Subset.refl _
    · exact List.dropLast_subset path
  · exact List.Subset.refl _

theorem isSegment_of_mem_addSegment {scheme segment : List Char} {path : List (List Char)}
    {isLast : Bool} (hpath : ∀ s ∈ path, IsSegment scheme s)
    (hslash : ∀ c ∈ segment, isSlash (isNamed scheme) c = false) :
    ∀ s ∈ addSegment (scheme == "file".toList) path segment isLast, IsSegment scheme s := by
  have hempty {front : List (List Char)} (hfront : front ⊆ path) :
      ∀ s ∈ (if isLast then front ++ [[]] else front), IsSegment scheme s := by
    intro s hs
    split at hs
    · obtain hs | hs := List.mem_append.1 hs
      · exact hpath s (hfront hs)
      · exact List.mem_singleton.1 hs ▸ isSegment_nil scheme
    · exact hpath s (hfront hs)
  unfold addSegment
  split
  · exact hempty (dropLastSegment_subset _ path)
  · next hdouble =>
    split
    · exact hempty (List.Subset.refl path)
    · next hsingle =>
      intro s hs
      obtain hs | hs := List.mem_append.1 hs
      · exact hpath s hs
      · obtain rfl := List.mem_singleton.1 hs
        exact isSegment_segmentChars hslash (Bool.eq_false_iff.2 hsingle)
          (Bool.eq_false_iff.2 hdouble)

theorem isSegment_of_mem_addSegments {scheme : List Char} {path segments : List (List Char)}
    (hpath : ∀ s ∈ path, IsSegment scheme s)
    (hsegments : ∀ s ∈ segments, ∀ c ∈ s, isSlash (isNamed scheme) c = false) :
    ∀ s ∈ addSegments (scheme == "file".toList) path segments, IsSegment scheme s := by
  induction segments generalizing path with
  | nil => exact hpath
  | cons segment segments ih =>
    rw [List.forall_mem_cons] at hsegments
    cases segments with
    | nil => exact isSegment_of_mem_addSegment hpath hsegments.1
    | cons next segments =>
      exact ih (isSegment_of_mem_addSegment hpath hsegments.1) hsegments.2

theorem addSegment_of_isSegment {scheme segment : List Char} (h : IsSegment scheme segment)
    (path : List (List Char)) (isLast : Bool) :
    addSegment (scheme == "file".toList) path segment isLast = path ++ [segment] := by
  rw [addSegment, h.notDoubleDot, h.notSingleDot, h.written]
  rfl

theorem addSegments_append {scheme : List Char} {path segments more : List (List Char)}
    (hsegments : ∀ s ∈ segments, IsSegment scheme s) (hmore : more ≠ []) :
    addSegments (scheme == "file".toList) path (segments ++ more) =
      addSegments (scheme == "file".toList) (path ++ segments) more := by
  induction segments generalizing path with
  | nil => rw [List.nil_append, List.append_nil]
  | cons segment segments ih =>
    rw [List.forall_mem_cons] at hsegments
    rw [List.cons_append, addSegments, addSegment_of_isSegment hsegments.1, ih hsegments.2,
      List.append_assoc, List.singleton_append]
    exact fun hnil => hmore (List.append_eq_nil_iff.1 hnil).2

/-! ### Paths below a path -/

def trimSlashes (s : List Char) : List Char := s.rdropWhile (· = '/')

theorem trimSlashes_append_cons {c : Char} (hc : c ≠ '/') (front s : List Char) :
    trimSlashes (front ++ c :: s) = front ++ c :: trimSlashes s := by
  induction s using List.reverseRecOn with
  | nil =>
    exact List.rdropWhile_concat_neg _ _ _ (by simpa using hc)
  | append_singleton s last ih =>
    have hassoc : front ++ c :: (s ++ [last]) = (front ++ c :: s) ++ [last] := by simp
    rw [hassoc, trimSlashes, trimSlashes]
    by_cases hlast : last = '/'
    · rw [List.rdropWhile_concat_pos _ _ _ (by simpa using hlast),
        List.rdropWhile_concat_pos _ _ _ (by simpa using hlast)]
      exact ih
    · rw [List.rdropWhile_concat_neg _ _ _ (by simpa using hlast),
        List.rdropWhile_concat_neg _ _ _ (by simpa using hlast), hassoc]

theorem trimSlashes_append_of_not_mem {s : List Char} (hne : s ≠ []) (hs : '/' ∉ s)
    (front : List Char) : trimSlashes (front ++ s) = front ++ s := by
  obtain rfl | ⟨s, c, rfl⟩ := List.eq_nil_or_concat' s
  · exact absurd rfl hne
  · have hc : c ≠ '/' := fun heq => hs (by simp [heq])
    rw [← List.append_assoc, trimSlashes_append_cons hc]
    rfl

theorem trimSlashes_subset (s : List Char) : trimSlashes s ⊆ s :=
  (List.rdropWhile_prefix _ s).subset

def trimSegments (path : List (List Char)) : List (List Char) := path.rdropWhile List.isEmpty

theorem trimSegments_subset (path : List (List Char)) : trimSegments path ⊆ path :=
  (List.rdropWhile_prefix _ path).subset

theorem trimSlashes_flatMap (front : List Char) {path : List (List Char)}
    (h : ∀ s ∈ path, '/' ∉ s) :
    trimSlashes (front ++ path.flatMap ('/' :: ·)) =
      if trimSegments path = [] then trimSlashes front
      else front ++ (trimSegments path).flatMap ('/' :: ·) := by
  induction path using List.reverseRecOn with
  | nil => simp [trimSegments]
  | append_singleton path last ih =>
    rw [List.forall_mem_append] at h
    obtain rfl | ⟨last, c, rfl⟩ := List.eq_nil_or_concat' last
    · have hempty : trimSegments (path ++ [[]]) = trimSegments path :=
        List.rdropWhile_concat_pos _ _ _ rfl
      rw [hempty, ← ih h.1, List.flatMap_append, List.flatMap_singleton, ← List.append_assoc]
      exact List.rdropWhile_concat_pos _ _ _ (by simp)
    · have hc : c ≠ '/' := by
        rintro rfl
        exact h.2 _ List.mem_cons_self (by simp)
      have hkept : trimSegments (path ++ [last ++ [c]]) = path ++ [last ++ [c]] :=
        List.rdropWhile_concat_neg _ _ _ (by simp)
      rw [hkept, if_neg (by simp), List.flatMap_append, List.flatMap_singleton]
      have hassoc : front ++ (path.flatMap ('/' :: ·) ++ '/' :: (last ++ [c])) =
          (front ++ path.flatMap ('/' :: ·) ++ '/' :: last) ++ [c] := by simp
      rw [hassoc]
      exact List.rdropWhile_concat_neg _ _ _ (by simpa using hc)

/-- Segments behind those of a path that was read are added to it. -/
theorem readPath_flatMap {scheme s : List Char} {path more : List (List Char)}
    (hpath : ∀ s ∈ path, IsSegment scheme s) (hne : more ≠ [])
    (hmore : ∀ s ∈ more, ∀ c ∈ s, isSlash (isNamed scheme) c = false)
    (hs : '/' :: s = (path ++ more).flatMap ('/' :: ·)) :
    readPath scheme s = addSegments (scheme == "file".toList) path more := by
  have hslash : ∀ s ∈ path ++ more, ∀ c ∈ s, isSlash (isNamed scheme) c = false :=
    List.forall_mem_append.2 ⟨fun s hs => (hpath s hs).noSlash, hmore⟩
  have hsplit : splitSegments (isNamed scheme) s = path ++ more := by
    cases hall : path ++ more with
    | nil => exact absurd (List.append_eq_nil_iff.1 hall).2 hne
    | cons segment segments =>
      rw [hall] at hs hslash
      rw [(List.cons.inj hs).2]
      exact splitSegments_flatMap hslash
  rw [readPath, hsplit, addSegments_append hpath hne, List.nil_append]

end Url

end CardPayments
