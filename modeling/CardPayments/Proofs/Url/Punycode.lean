import CardPayments.Url.Punycode
import Mathlib.Data.List.Nodup
import Mathlib.Data.List.Sort
import Mathlib.Data.List.TakeWhile
import Mathlib.Tactic.Ring

/-!
# Punycode there and back

The decoder repeats what the encoder does. Between two insertions the encoder counts the places that
it passes, and the count is the distance that the decoder jumps, counted in the label as far as it
is built. So every label comes back from its own text, of whatever length it is.
-/

namespace CardPayments

namespace Punycode

/-! ### Numbers -/

theorem threshold_bounds (place bias : Nat) :
    1 ≤ threshold place bias ∧ threshold place bias ≤ 26 := by
  rw [threshold]
  omega

theorem valueOf?_digitOf {n : Nat} (h : n < 36) : valueOf? (digitOf n) = some n := by
  have hall : ∀ n < 36, valueOf? (digitOf n) = some n := by decide
  exact hall n h

theorem readNumber_numberChars {bias fuel n : Nat} (hfuel : n < fuel) (place total weight : Nat)
    (rest : List Char) :
    readNumber bias place total weight (numberChars bias fuel place n ++ rest) =
      some (total + n * weight, rest) := by
  induction fuel generalizing place n total weight with
  | zero => exact absurd hfuel (Nat.not_lt_zero n)
  | succ fuel ih =>
    obtain ⟨hpos, hle⟩ := threshold_bounds place bias
    rw [numberChars]
    generalize ht : threshold place bias = t at hpos hle
    by_cases hlt : n < t
    · have hread : valueOf? (digitOf n) = some n := valueOf?_digitOf (by omega)
      rw [if_pos hlt, List.singleton_append, readNumber, hread, ht]
      simp [hlt]
    · have hmod : (n - t) % (36 - t) < 36 - t := Nat.mod_lt _ (by omega)
      have hdiv : (n - t) / (36 - t) < fuel :=
        Nat.lt_of_le_of_lt (Nat.div_le_self _ _) (by omega)
      have hread : valueOf? (digitOf (t + (n - t) % (36 - t))) = some (t + (n - t) % (36 - t)) :=
        valueOf?_digitOf (by omega)
      have hweigh : (t + (n - t) % (36 - t)) + (n - t) / (36 - t) * (36 - t) = n := by
        have := Nat.mod_add_div' (n - t) (36 - t)
        omega
      rw [if_neg hlt, List.cons_append, readNumber, hread, ht, Option.bind_eq_bind,
        Option.bind_some, if_neg (by omega), ih hdiv]
      conv_rhs => rw [← hweigh]
      exact congrArg (fun n => some (n, rest)) (by ring)

theorem numberChars_ne_nil (bias fuel place n : Nat) :
    numberChars bias (fuel + 1) place n ≠ [] := by
  rw [numberChars]
  split <;> simp

def digitChars : List Char := (List.range 36).map digitOf

theorem digitOf_mem {n : Nat} (h : n < 36) : digitOf n ∈ digitChars :=
  List.mem_map_of_mem (List.mem_range.2 h)

theorem mem_numberChars {bias fuel place n : Nat} {c : Char}
    (h : c ∈ numberChars bias fuel place n) : c ∈ digitChars := by
  induction fuel generalizing place n with
  | zero => cases h
  | succ fuel ih =>
    obtain ⟨hpos, hle⟩ := threshold_bounds place bias
    rw [numberChars] at h
    split at h
    · obtain rfl := List.mem_singleton.1 h
      exact digitOf_mem (by omega)
    · obtain rfl | h := List.mem_cons.1 h
      · have : (n - threshold place bias) % (36 - threshold place bias) <
            36 - threshold place bias := Nat.mod_lt _ (by omega)
        exact digitOf_mem (by omega)
      · exact ih h

/-! ### Insertions -/

/-- What the decoder holds between two insertions. -/
structure Reading where
  label : List Char
  point : Nat
  index : Nat
  bias : Nat

/-- The decoder gets from one reading to another by the text. -/
def Reads (r : Reading) (text : List Char) (r' : Reading) : Prop :=
  ∀ more fuel, (text ++ more).length < fuel → ∃ fuel', more.length < fuel' ∧
    insertions fuel r.label r.point r.index r.bias (text ++ more) =
      insertions fuel' r'.label r'.point r'.index r'.bias more

theorem Reads.refl (r : Reading) : Reads r [] r := fun _ fuel h => ⟨fuel, h, rfl⟩

theorem Reads.trans {r r' r'' : Reading} {text text' : List Char} (h : Reads r text r')
    (h' : Reads r' text' r'') : Reads r (text ++ text') r'' := by
  intro more fuel hfuel
  rw [List.append_assoc] at hfuel ⊢
  obtain ⟨fuel', hfuel', heq⟩ := h (text' ++ more) fuel hfuel
  obtain ⟨fuel'', hfuel'', heq'⟩ := h' more fuel' hfuel'
  exact ⟨fuel'', hfuel'', heq.trans heq'⟩

/-- One insertion: the decoder goes `delta` places on, around the label as often as code points are
passed, and stops behind `front`. -/
theorem reads_insert {r : Reading} {delta : Nat} {c : Char} {front back : List Char}
    (hlabel : r.label = front ++ back) (hpoint : r.point ≤ c.toNat)
    (hdelta : r.index + delta = (c.toNat - r.point) * (r.label.length + 1) + front.length) :
    Reads r (numberChars r.bias (delta + 1) 0 delta)
      ⟨front ++ c :: back, c.toNat, front.length + 1,
        adapt delta (r.label.length + 1) (r.index == 0)⟩ := by
  intro more fuel hfuel
  have hnumber : readNumber r.bias 0 r.index 1 (numberChars r.bias (delta + 1) 0 delta ++ more) =
      some (r.index + delta, more) := by
    rw [readNumber_numberChars (Nat.lt_succ_self delta), Nat.mul_one]
  obtain ⟨d, ds, hnonempty⟩ :=
    List.exists_cons_of_ne_nil (numberChars_ne_nil r.bias delta 0 delta)
  rw [hnonempty, List.cons_append] at hnumber hfuel ⊢
  have hlength : front.length < r.label.length + 1 := by
    rw [hlabel, List.length_append]
    omega
  have hquotient : (r.index + delta) / (r.label.length + 1) = c.toNat - r.point := by
    rw [hdelta, Nat.mul_comm, Nat.mul_add_div (by omega), Nat.div_eq_of_lt hlength, Nat.add_zero]
  have hremainder : (r.index + delta) % (r.label.length + 1) = front.length := by
    rw [hdelta, Nat.mul_comm, Nat.mul_add_mod, Nat.mod_eq_of_lt hlength]
  have hvalid : c.toNat.isValidChar := c.valid
  cases fuel with
  | zero => exact absurd hfuel (Nat.not_lt_zero _)
  | succ fuel =>
    refine ⟨fuel, by simp at hfuel; omega, ?_⟩
    rw [insertions, hnumber] <;> simp only [reduceCtorEq, imp_self]
    simp only [Option.bind_eq_bind, Option.bind_some, hquotient, hremainder,
      Nat.add_sub_cancel' hpoint, Nat.add_sub_cancel_left, if_pos hvalid, Char.ofNat_toNat]
    rw [hlabel, List.take_left', List.drop_left'] <;> rfl

/-! ### Encoder and decoder -/

/-- What the encoder writes on its way from `p` to `p'` takes the decoder from `r` to `r'`. -/
def Follows (p p' : Progress) (r r' : Reading) : Prop :=
  ∃ text, p'.out = p.out ++ text ∧ (∀ c ∈ text, c ∈ digitChars) ∧ Reads r text r'

theorem Follows.of_out_eq {p p' : Progress} (h : p'.out = p.out) (r : Reading) :
    Follows p p' r r :=
  ⟨[], by rw [h, List.append_nil], fun _ hc => absurd hc List.not_mem_nil, .refl r⟩

theorem Follows.trans {p p' p'' : Progress} {r r' r'' : Reading} (h : Follows p p' r r')
    (h' : Follows p' p'' r' r'') : Follows p p'' r r'' := by
  obtain ⟨text, hout, hdigits, hreads⟩ := h
  obtain ⟨text', hout', hdigits', hreads'⟩ := h'
  refine ⟨text ++ text', by rw [hout', hout, List.append_assoc], ?_, hreads.trans hreads'⟩
  exact fun c hc => (List.mem_append.1 hc).elim (hdigits c) (hdigits' c)

/-- The encoder has handled `done` of the label in its turn for a code point, with `rest` to come,
and the decoder has read what the encoder wrote. -/
structure Midway (basics point : Nat) (done rest : List Char) (p : Progress) (r : Reading) :
    Prop where
  label : r.label = done.filter (·.toNat ≤ point) ++ rest.filter (·.toNat < point)
  point_le : r.point ≤ point
  bias : p.bias = r.bias
  handled : p.handled = r.label.length
  first : p.handled = basics ↔ r.index = 0
  basics_le : basics ≤ p.handled
  delta : r.index + p.delta =
    (point - r.point) * (r.label.length + 1) + (done.filter (·.toNat ≤ point)).length

theorem Midway.step {basics point : Nat} {done rest : List Char} {c : Char} {p : Progress}
    {r : Reading} (h : Midway basics point done (c :: rest) p r) :
    ∃ r', Follows p (insertAt point basics p c) r r' ∧
      Midway basics point (done ++ [c]) rest (insertAt point basics p c) r' := by
  rw [insertAt]
  obtain hlt | heq | hgt := Nat.lt_trichotomy c.toNat point
  · -- A smaller character stands in the label already and is passed.
    rw [if_pos hlt]
    refine ⟨r, .of_out_eq rfl r, { h with label := ?_, delta := ?_ }⟩
    · simp [h.label, hlt, hlt.le]
    · simp [h.delta, hlt.le, ← Nat.add_assoc]
  · -- The character itself comes behind those that are passed.
    subst heq
    have hlabel : r.label = done.filter (·.toNat ≤ c.toNat) ++ rest.filter (·.toNat < c.toNat) := by
      simpa using h.label
    have hfirst : (p.handled == basics) = (r.index == 0) := by
      rw [Bool.eq_iff_iff, beq_iff_eq, beq_iff_eq, h.first]
    have hbasics := h.basics_le
    rw [if_neg (Nat.lt_irrefl _), if_pos rfl, hfirst, h.bias]
    refine ⟨_, ⟨_, rfl, fun _ => mem_numberChars, reads_insert hlabel h.point_le h.delta⟩, ?_⟩
    exact
      { label := by simp
        point_le := Nat.le_refl _
        bias := by rw [h.handled]
        handled := by simp [h.handled, hlabel, ← Nat.add_assoc]
        first := by simp; omega
        basics_le := by simp; omega
        delta := by simp }
  · -- A larger one is not there yet.
    rw [if_neg (by omega), if_neg (by omega)]
    refine ⟨r, .of_out_eq rfl r, { h with label := ?_, delta := ?_ }⟩
    · simp [h.label, Nat.not_lt.2 hgt.le, Nat.not_le.2 hgt]
    · simp [h.delta, Nat.not_le.2 hgt]

theorem Midway.turn {basics point : Nat} {done rest : List Char} {p : Progress} {r : Reading}
    (h : Midway basics point done rest p r) :
    ∃ r', Follows p (rest.foldl (insertAt point basics) p) r r' ∧
      Midway basics point (done ++ rest) [] (rest.foldl (insertAt point basics) p) r' := by
  induction rest generalizing done p r with
  | nil => exact ⟨r, .of_out_eq rfl r, by rwa [List.append_nil]⟩
  | cons c rest ih =>
    obtain ⟨r', hstep, hmid⟩ := h.step
    obtain ⟨r'', hrest, hend⟩ := ih hmid
    refine ⟨r'', hstep.trans hrest, ?_⟩
    rw [List.foldl_cons, List.append_cons]
    exact hend

/-- The encoder has had its turns for all code points below `next`, and the decoder has read what
the encoder wrote. -/
structure Between (label : List Char) (basics next : Nat) (p : Progress) (r : Reading) : Prop where
  label : r.label = label.filter (·.toNat < next)
  point_le : r.point ≤ next
  bias : p.bias = r.bias
  handled : p.handled = r.label.length
  first : p.handled = basics ↔ r.index = 0
  basics_le : basics ≤ p.handled
  delta : r.index + p.delta = (next - r.point) * (r.label.length + 1)

theorem Between.begin {label : List Char} {basics next point : Nat} {p : Progress} {r : Reading}
    (h : Between label basics next p r) (hnext : next ≤ point)
    (hnone : ∀ c ∈ label, c.toNat < next ∨ point ≤ c.toNat) :
    Midway basics point [] label
      { p with delta := p.delta + (point - next) * (p.handled + 1) } r := by
  have hfilter : label.filter (·.toNat < next) = label.filter (·.toNat < point) := by
    refine List.filter_congr fun c hc => ?_
    have := hnone c hc
    rw [decide_eq_decide]
    omega
  have hdelta : r.index + (p.delta + (point - next) * (p.handled + 1)) =
      (point - r.point) * (r.label.length + 1) := by
    have hpoint := h.point_le
    rw [← Nat.add_assoc, h.delta, h.handled, ← Nat.add_mul]
    congr 1
    omega
  exact
    { label := by rw [h.label, hfilter]; rfl
      point_le := h.point_le.trans hnext
      bias := h.bias
      handled := h.handled
      first := h.first
      basics_le := h.basics_le
      delta := hdelta }

theorem Midway.finish {label : List Char} {basics point : Nat} {p : Progress} {r : Reading}
    (h : Midway basics point label [] p r) :
    Between label basics (point + 1) { p with delta := p.delta + 1 } r := by
  have hlabel : r.label = label.filter (·.toNat ≤ point) := by simpa using h.label
  have hdelta : r.index + (p.delta + 1) = (point + 1 - r.point) * (r.label.length + 1) := by
    have hpoint := h.point_le
    rw [← Nat.add_assoc, h.delta, ← hlabel, Nat.succ_sub hpoint, Nat.succ_mul, Nat.add_assoc]
  exact
    { label := by simp only [hlabel, Nat.lt_succ_iff]
      point_le := Nat.le_succ_of_le h.point_le
      bias := h.bias
      handled := h.handled
      first := h.first
      basics_le := h.basics_le
      delta := hdelta }

theorem Between.complete {label : List Char} {basics next : Nat} {points : List Nat}
    {p : Progress} {r : Reading} (h : Between label basics next p r)
    (hsorted : points.Pairwise (· < ·)) (hnext : ∀ n ∈ points, next ≤ n)
    (hall : ∀ c ∈ label, c.toNat < next ∨ c.toNat ∈ points) :
    ∃ r', Follows p (insertAll label basics points next p) r r' ∧ r'.label = label := by
  -- One turn for each code point to come; between the turns encoder and decoder agree.
  induction points generalizing next p r with
  | nil =>
    refine ⟨r, .of_out_eq rfl r, ?_⟩
    rw [h.label, List.filter_eq_self]
    exact fun c hc => decide_eq_true ((hall c hc).resolve_right List.not_mem_nil)
  | cons point points ih =>
    rw [List.pairwise_cons] at hsorted
    have hpoint : next ≤ point := hnext point List.mem_cons_self
    have hnone (c : Char) (hc : c ∈ label) : c.toNat < next ∨ point ≤ c.toNat := by
      refine (hall c hc).imp_right fun hmem => ?_
      obtain heq | hmem := List.mem_cons.1 hmem
      · exact heq.ge
      · exact (hsorted.1 _ hmem).le
    obtain ⟨r', hturn, hmid⟩ := (h.begin hpoint hnone).turn
    have hrest (c : Char) (hc : c ∈ label) : c.toNat < point + 1 ∨ c.toNat ∈ points := by
      obtain hlt | hmem := hall c hc
      · exact .inl (by omega)
      · obtain heq | hmem := List.mem_cons.1 hmem
        · exact .inl (by omega)
        · exact .inr hmem
    obtain ⟨r'', hothers, hlabel⟩ := ih hmid.finish hsorted.2 (fun n hn => hsorted.1 n hn) hrest
    exact ⟨r'', hturn.trans hothers, hlabel⟩

/-! ### Labels -/

theorem nodup_eraseDups (ns : List Nat) : ns.eraseDups.Nodup := by
  induction h : ns.length using Nat.strongRecOn generalizing ns with
  | _ size ih =>
    cases ns with
    | nil => simp
    | cons n ns =>
      have hlength : (ns.filter fun m => !m == n).length < size := by
        have := List.length_filter_le (fun m => !m == n) ns
        rw [List.length_cons] at h
        omega
      rw [List.eraseDups_cons, List.nodup_cons]
      exact ⟨by simp [List.mem_eraseDups], ih _ hlength _ rfl⟩

theorem mem_pointsOf {label : List Char} {n : Nat} :
    n ∈ pointsOf label ↔ 0x80 ≤ n ∧ ∃ c ∈ label, c.toNat = n := by
  simp [pointsOf, List.mem_eraseDups, and_comm]

theorem pairwise_pointsOf (label : List Char) : (pointsOf label).Pairwise (· < ·) := by
  have hsorted : (pointsOf label).Pairwise (· ≤ ·) := List.sortedLE_mergeSort.pairwise
  have hnodup : (pointsOf label).Nodup := List.nodup_mergeSort.2 (nodup_eraseDups _)
  exact (hsorted.and hnodup).imp fun h => lt_of_le_of_ne h.1 h.2

/-- The ASCII text of a label: its ASCII characters, a hyphen if there are any, and the letters and
digits that take the decoder from these to the label. -/
theorem exists_encode_eq (label : List Char) :
    ∃ digits, (∀ c ∈ digits, c ∈ digitChars) ∧
      encode label = (if (label.filter (·.toNat < 0x80)).isEmpty then []
        else label.filter (·.toNat < 0x80) ++ ['-']) ++ digits ∧
      insertions (digits.length + 1) (label.filter (·.toNat < 0x80)) 0x80 0 72 digits =
        some label := by
  have hstart : Between label (label.filter (·.toNat < 0x80)).length 0x80
      ⟨0, 72, (label.filter (·.toNat < 0x80)).length, []⟩
      ⟨label.filter (·.toNat < 0x80), 0x80, 0, 72⟩ :=
    { label := rfl
      point_le := Nat.le_refl _
      bias := rfl
      handled := rfl
      first := iff_of_true rfl rfl
      basics_le := Nat.le_refl _
      delta := by simp }
  have hnext : ∀ n ∈ pointsOf label, 0x80 ≤ n := fun n hn => (mem_pointsOf.1 hn).1
  have hall (c : Char) (hc : c ∈ label) : c.toNat < 0x80 ∨ c.toNat ∈ pointsOf label :=
    (Nat.lt_or_ge c.toNat 0x80).imp_right fun hge => mem_pointsOf.2 ⟨hge, c, hc, rfl⟩
  obtain ⟨r', ⟨digits, hout, hdigits, hreads⟩, hlabel⟩ :=
    hstart.complete (pairwise_pointsOf label) hnext hall
  refine ⟨digits, hdigits, by rw [encode, hout, List.nil_append], ?_⟩
  obtain ⟨fuel, hfuel, heq⟩ := hreads [] (digits.length + 1) (by simp)
  rw [List.append_nil] at heq
  obtain ⟨fuel, rfl⟩ := Nat.exists_eq_succ_of_ne_zero (Nat.ne_of_gt hfuel)
  rw [heq, insertions, hlabel]

/-- **Every label comes back from its ASCII text.** -/
theorem decode?_encode (label : List Char) : decode? (encode label) = some label := by
  obtain ⟨digits, hdigits, hencode, hread⟩ := exists_encode_eq label
  have hhyphen (c : Char) (hc : c ∈ digits.reverse) : (c != '-') = true := by
    have hall : digitChars.all (· != '-') = true := by decide
    exact List.all_eq_true.1 hall c (hdigits c (List.mem_reverse.1 hc))
  rw [hencode, decode?]
  split
  · next hempty =>
    rw [List.isEmpty_iff.1 hempty] at hread
    simp only [List.nil_append, List.takeWhile_eq_self_iff.2 hhyphen, List.reverse_reverse,
      List.dropWhile_eq_nil_iff.2 hhyphen, List.drop_nil, List.reverse_nil]
    exact hread
  · simp only [List.reverse_append, List.takeWhile_append_of_pos hhyphen,
      List.dropWhile_append_of_pos hhyphen]
    simpa using hread

end Punycode

end CardPayments
