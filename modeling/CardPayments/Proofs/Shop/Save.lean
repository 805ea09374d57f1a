import CardPayments.Proofs.Shop.Basic

/-!
# A save in a shop

Ids are given out by the first save of a payment alone. So a save either gives the next id to a new
payment, and nobody has that id yet, or it replaces the one entry that agrees with the holder's
payment. Either way the ledger agrees with the payments at hand once the holder has what was stored.
-/

namespace CardPayments

namespace Shop

namespace Agrees

variable {moves : Nat} {shop : Shop} {holder : Nat} {p q stored : Payment} {after : Ledger}

/-! ### Ids -/

theorem mem_ids_le (h : Agrees moves shop) {id : UInt64} (hid : id ∈ shop.ledger.ids) :
    id.toNat ≤ shop.ledger.lastId.toNat := by
  have hmem : id.toNat ∈ shop.ledger.ids.map UInt64.toNat := List.mem_map_of_mem hid
  rw [h.ids, List.mem_range'_1] at hmem
  omega

theorem mem_ids_of_owns (h : Agrees moves shop) {id : UInt64} (howns : shop.Owns holder id p) :
    id ∈ shop.ledger.ids := by
  rw [← Ledger.get?_isSome_iff, (h.stored id p).2 ⟨holder, howns⟩]
  rfl

theorem owns_of_state (h : Agrees moves shop) (hheld : shop.held[holder]? = some p)
    (hstate : p.state ≠ .new) : ∃ id, shop.Owns holder id p := by
  cases hid : p.id with
  | none => exact absurd ((h.new_iff p (List.mem_of_getElem? hheld)).2 hid) hstate
  | some id => exact ⟨id, hheld, hstate, hid⟩

theorem idFor_cases (h : Agrees moves shop) (hlt : moves + 1 < UInt64.size)
    (hheld : shop.held[holder]? = some p) (hid : q.id = p.id)
    (hsave : shop.ledger.save q = .ok (stored, after)) :
    (p.state = .new ∧ shop.ledger.idFor q ∉ shop.ledger.ids ∧
      (shop.ledger.idFor q).toNat = shop.ledger.lastId.toNat + 1 ∧
      after.lastId = shop.ledger.idFor q) ∨
    (p.state ≠ .new ∧ shop.Owns holder (shop.ledger.idFor q) p ∧
      after.lastId = shop.ledger.lastId) := by
  obtain ⟨-, -, rfl⟩ := Ledger.save_eq_ok.1 hsave
  by_cases hstate : p.state = .new
  · have hnone : q.id = none := hid ▸ (h.new_iff p (List.mem_of_getElem? hheld)).1 hstate
    have hnext : shop.ledger.idFor q = shop.ledger.lastId + 1 := by rw [Ledger.idFor, hnone]; rfl
    have htoNat : (shop.ledger.lastId + 1).toNat = shop.ledger.lastId.toNat + 1 := by
      rw [UInt64.toNat_add, UInt64.toNat_one]
      exact Nat.mod_eq_of_lt (Nat.lt_of_le_of_lt (Nat.succ_le_succ h.lastId_le) hlt)
    refine .inl ⟨hstate, ?_, by rw [hnext, htoNat], ?_⟩
    · intro hmem
      have hle := h.mem_ids_le hmem
      rw [hnext, htoNat] at hle
      omega
    · simp only [Ledger.lastIdAfter, hnone, hnext]
      rfl
  · obtain ⟨id, howns⟩ := h.owns_of_state hheld hstate
    have hsome : q.id = some id := hid.trans howns.2.2
    have hown : shop.ledger.idFor q = id := by rw [Ledger.idFor, hsome]; rfl
    refine .inr ⟨hstate, hown ▸ howns, ?_⟩
    simp only [Ledger.lastIdAfter, hsome]
    rfl

/-- Nobody else has the id under which a payment is saved. -/
theorem eq_of_owns_idFor (h : Agrees moves shop) (hlt : moves + 1 < UInt64.size)
    (hheld : shop.held[holder]? = some p) (hid : q.id = p.id)
    (hsave : shop.ledger.save q = .ok (stored, after)) {other : Nat} {r : Payment}
    (howns : shop.Owns other (shop.ledger.idFor q) r) : other = holder := by
  obtain ⟨-, hfresh, -⟩ | ⟨-, hown, -⟩ := h.idFor_cases hlt hheld hid hsave
  · exact absurd (h.mem_ids_of_owns howns) hfresh
  · exact h.single other holder _ r p howns hown

/-! ### What is stored -/

section Replace

variable (h : Agrees moves shop) (hlt : moves + 1 < UInt64.size)
  (hheld : shop.held[holder]? = some p) (hid : q.id = p.id) (hstate : q.state ≠ .new)
  (hsave : shop.ledger.save q = .ok (stored, after))

include hheld hstate hsave in
/-- After a save its holder owns what is stored, and all others own what they owned. -/
theorem owns_saved {id : UInt64} {other : Nat} {r : Payment} :
    (shop.replace holder stored after).Owns other id r ↔
      (other = holder ∧ r = stored ∧ id = shop.ledger.idFor q) ∨
        (other ≠ holder ∧ shop.Owns other id r) := by
  obtain ⟨-, rfl, -⟩ := Ledger.save_eq_ok.1 hsave
  have hlength := (List.getElem?_eq_some_iff.1 hheld).1
  unfold Owns replace
  by_cases hother : other = holder
  · subst hother
    rw [List.getElem?_set_self hlength]
    constructor
    · rintro ⟨hr, -, hid⟩
      obtain rfl := Option.some.inj hr
      exact .inl ⟨rfl, rfl, (Option.some.inj hid).symm⟩
    · rintro (⟨-, rfl, rfl⟩ | ⟨hne, -⟩)
      · exact ⟨rfl, hstate, rfl⟩
      · exact absurd rfl hne
  · rw [List.getElem?_set_ne (Ne.symm hother)]
    constructor
    · exact fun h => .inr ⟨hother, h⟩
    · rintro (⟨heq, -⟩ | ⟨-, h⟩)
      · exact absurd heq hother
      · exact h

include h hlt hheld hid hstate hsave

theorem stored_replace (id : UInt64) (r : Payment) :
    after.get? id = some r ↔ ∃ other, (shop.replace holder stored after).Owns other id r := by
  simp only [owns_saved hheld hstate hsave]
  by_cases heq : id = shop.ledger.idFor q
  · subst heq
    rw [Ledger.get?_save_self hsave]
    constructor
    · intro hr
      exact ⟨holder, .inl ⟨rfl, (Option.some.inj hr).symm, rfl⟩⟩
    · rintro ⟨other, ⟨-, rfl, -⟩ | ⟨hne, hother⟩⟩
      · rfl
      · exact absurd (h.eq_of_owns_idFor hlt hheld hid hsave hother) hne
  · rw [Ledger.get?_save_of_ne hsave heq, h.stored id r]
    constructor
    · rintro ⟨other, hother⟩
      refine ⟨other, .inr ⟨?_, hother⟩⟩
      rintro rfl
      obtain rfl : r = p := Option.some.inj (hother.1.symm.trans hheld)
      have hsame : shop.ledger.idFor q = id := by rw [Ledger.idFor, hid, hother.2.2]; rfl
      exact heq hsame.symm
    · rintro ⟨other, ⟨-, -, hsame⟩ | ⟨-, hother⟩⟩
      · exact absurd hsame heq
      · exact ⟨other, hother⟩

theorem single_replace {first second : Nat} {id : UInt64} {r t : Payment}
    (hfirst : (shop.replace holder stored after).Owns first id r)
    (hsecond : (shop.replace holder stored after).Owns second id t) : first = second := by
  rw [owns_saved hheld hstate hsave] at hfirst hsecond
  obtain ⟨rfl, -, rfl⟩ | ⟨-, hfirst⟩ := hfirst <;> obtain ⟨rfl, -, hsame⟩ | ⟨-, hsecond⟩ := hsecond
  · rfl
  · exact (h.eq_of_owns_idFor hlt hheld hid hsave hsecond).symm
  · exact h.eq_of_owns_idFor hlt hheld hid hsave (hsame ▸ hfirst)
  · exact h.single first second id r t hfirst hsecond

omit hstate in
theorem ids_replace :
    after.ids.map UInt64.toNat = List.range' 1 after.lastId.toNat := by
  rw [Ledger.ids_save hsave]
  obtain ⟨-, hfresh, htoNat, hlast⟩ | ⟨-, hown, hlast⟩ := h.idFor_cases hlt hheld hid hsave
  · rw [if_neg hfresh, hlast, htoNat, List.map_append, h.ids, List.range'_1_concat,
      List.map_singleton, htoNat, Nat.add_comm]
  · rw [if_pos (h.mem_ids_of_owns hown), hlast]
    exact h.ids

theorem count_replace :
    after.lastId.toNat = (shop.replace holder stored after).processed := by
  obtain ⟨hlength, hget⟩ := List.getElem?_eq_some_iff.1 hheld
  have hstored : stored.state ≠ .new := by
    obtain ⟨-, rfl, -⟩ := Ledger.save_eq_ok.1 hsave
    exact hstate
  have hprocessed : (shop.replace holder stored after).processed =
      shop.processed - (if p.state ≠ .new then 1 else 0) + 1 := by
    rw [processed, Shop.replace, List.countP_set hlength, hget]
    simp [hstored, processed]
  rw [hprocessed, ← h.count]
  obtain ⟨hnew, -, htoNat, hlast⟩ | ⟨hnot, hown, hlast⟩ := h.idFor_cases hlt hheld hid hsave
  · rw [if_neg (fun hne => hne hnew), hlast, htoNat, Nat.sub_zero]
  · have hle := h.mem_ids_of_owns hown
    rw [if_pos hnot, hlast]
    have hpos : 0 < shop.processed :=
      List.countP_pos_iff.2 ⟨p, List.mem_of_getElem? hheld, by simpa using hnot⟩
    rw [← h.count] at hpos
    omega

theorem replace : Agrees (moves + 1) (shop.replace holder stored after) where
  refusal := by
    obtain ⟨hrefusal, -, rfl⟩ := Ledger.save_eq_ok.1 hsave
    exact hrefusal
  stored := h.stored_replace hlt hheld hid hstate hsave
  single _ _ _ _ _ hfirst hsecond :=
    h.single_replace hlt hheld hid hstate hsave hfirst hsecond
  new_iff r hr := by
    rcases List.mem_or_eq_of_mem_set hr with hr | rfl
    · exact h.new_iff r hr
    · obtain ⟨-, rfl, -⟩ := Ledger.save_eq_ok.1 hsave
      exact iff_of_false hstate (Option.some_ne_none _)
  ids := h.ids_replace hlt hheld hid hsave
  count := h.count_replace hlt hheld hid hstate hsave
  lastId_le := by
    have hle := h.lastId_le
    obtain ⟨-, -, htoNat, hlast⟩ | ⟨-, -, hlast⟩ := h.idFor_cases hlt hheld hid hsave
    · rw [Shop.replace, hlast, htoNat]
      omega
    · rw [Shop.replace, hlast]
      omega

end Replace

end Agrees

end Shop

end CardPayments
