import CardPayments.Text.Basic

/-!
# Trimming

A text with blanks around it is trimmed to the text itself, if that neither begins nor ends with a
blank. Nothing is asked of the characters between. What trimming leaves is such a text, so trimming
again changes nothing.
-/

namespace CardPayments

namespace Text

def Trimmed (s : String) : Prop :=
  ∀ c, s.toList.head? = some c ∨ s.toList.getLast? = some c → isBlank c = false

/-- The text with any number of blanks before and behind it. -/
def Padded (core padded : String) : Prop :=
  ∃ before after : List Char, padded.toList = before ++ core.toList ++ after ∧
    ∀ c ∈ before ++ after, isBlank c = true

theorem toNat_of_isDigit {c : Char} (h : c.isDigit = true) : 48 ≤ c.toNat ∧ c.toNat ≤ 57 := by
  simpa [Char.isDigit, UInt32.le_iff_toNat_le] using h

theorem not_isBlank_of_isDigit {c : Char} (h : c.isDigit = true) : isBlank c = false := by
  have hbounds := toNat_of_isDigit h
  simp only [isBlank]
  simp
  omega

/-! ### One end -/

theorem dropWhile_append {blanks rest : List Char} (hblanks : ∀ c ∈ blanks, isBlank c = true)
    (hrest : ∀ c, rest.head? = some c → isBlank c = false) :
    (blanks ++ rest).dropWhile isBlank = rest := by
  rw [List.dropWhile_append_of_pos hblanks]
  cases rest with
  | nil => rfl
  | cons c rest => exact List.dropWhile_cons_of_neg (by simp [hrest c rfl])

theorem trimEnd_append {s blanks : List Char} (hblanks : ∀ c ∈ blanks, isBlank c = true)
    (hs : ∀ c, s.getLast? = some c → isBlank c = false) : trimEnd (s ++ blanks) = s := by
  rw [trimEnd, List.reverse_append,
    dropWhile_append (by simpa using hblanks) (by simpa using hs), List.reverse_reverse]

/-! ### Both ends -/

/-- **Padding is trimmed away.** -/
theorem trim_of_padded {core padded : String} (h : Padded core padded) (hcore : Trimmed core) :
    trim padded = core := by
  obtain ⟨before, after, hpadded, hblanks⟩ := h
  have hbefore : ∀ c ∈ before, isBlank c = true :=
    fun c hc => hblanks c (List.mem_append_left after hc)
  have hafter : ∀ c ∈ after, isBlank c = true :=
    fun c hc => hblanks c (List.mem_append_right before hc)
  rw [trim, hpadded, trimStart]
  cases hchars : core.toList with
  | nil =>
    rw [List.append_nil, ← List.append_nil (before ++ after), dropWhile_append hblanks (by simp)]
    exact String.toList_inj.1 (by rw [hchars]; rfl)
  | cons first rest =>
    have hfirst : isBlank first = false := hcore first (.inl (by rw [hchars]; rfl))
    have hlast : ∀ c, (first :: rest).getLast? = some c → isBlank c = false :=
      fun c hc => hcore c (.inr (hchars ▸ hc))
    rw [List.append_assoc, dropWhile_append hbefore (by simpa using hfirst),
      trimEnd_append hafter hlast, ← hchars, String.ofList_toList]

theorem padded_self (s : String) : Padded s s :=
  ⟨[], [], by simp, nofun⟩

theorem trimmed_of_not_blank {s : String} (h : ∀ c ∈ s.toList, isBlank c = false) : Trimmed s := by
  rintro c (hc | hc)
  · exact h c (List.mem_of_head? hc)
  · exact h c (List.mem_of_getLast? hc)

theorem trim_of_trimmed {s : String} (h : Trimmed s) : trim s = s :=
  trim_of_padded (padded_self s) h

/-! ### What trimming leaves -/

theorem not_isBlank_of_head?_dropWhile {s : List Char} {c : Char}
    (h : (s.dropWhile isBlank).head? = some c) : isBlank c = false := by
  have hnot := List.head?_dropWhile_not isBlank s
  rw [h] at hnot
  exact hnot

theorem trimEnd_prefix (s : List Char) : trimEnd s <+: s := by
  have hsuffix : s.reverse.dropWhile isBlank <:+ s.reverse := List.dropWhile_suffix isBlank
  have hreversed := List.reverse_prefix.2 hsuffix
  rw [List.reverse_reverse] at hreversed
  exact hreversed

theorem trimmed_trim (s : String) : Trimmed (trim s) := by
  intro c hc
  rw [trim, String.toList_ofList] at hc
  obtain hfirst | hlast := hc
  · obtain ⟨after, hafter⟩ := trimEnd_prefix (trimStart s.toList)
    apply not_isBlank_of_head?_dropWhile (s := s.toList)
    rw [← trimStart, ← hafter, List.head?_append, hfirst]
    rfl
  · apply not_isBlank_of_head?_dropWhile (s := (trimStart s.toList).reverse)
    rw [trimEnd, List.getLast?_reverse] at hlast
    exact hlast

theorem trim_trim (s : String) : trim (trim s) = trim s := trim_of_trimmed (trimmed_trim s)

end Text

end CardPayments
