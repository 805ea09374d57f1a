import CardPayments.Proofs.Shop.Save

/-!
# The ledger of a shop

Every move keeps the agreement of ledger and payments at hand, whoever makes it and whatever the
processor answers, because every change of a payment is saved before its holder has it. From an
empty shop on, the agreement therefore holds after any moves.
-/

namespace CardPayments

namespace Shop

/-! ### One move -/

variable {shop : Shop} {m : Move} {moves : Nat}

/-- A return that is believed puts its payment where a new one would stand. -/
theorem hold_eq_replace (shop : Shop) (p q : Payment) (l : Ledger) :
    { shop.hold q with ledger := l } = (shop.hold p).replace shop.held.length q l := by
  simp [Shop.hold, Shop.replace, List.set_append_right]

theorem replace_self {holder : Nat} {p : Payment} (hheld : shop.held[holder]? = some p) :
    shop.replace holder p shop.ledger = shop := by
  obtain ⟨hlength, rfl⟩ := List.getElem?_eq_some_iff.1 hheld
  rw [Shop.replace, List.set_getElem_self]

theorem Agrees.move (h : Agrees moves shop) (hlt : moves + 1 < UInt64.size) (m : Move) :
    Agrees (moves + 1) (shop.move m) := by
  cases m with
  | begin orderId amount token =>
    refine (h.hold ?_ ?_).mono (Nat.le_succ moves) <;> cases token <;> rfl
  | arrive config now order n =>
    unfold Shop.move
    dsimp only
    split
    · next p hresult =>
      obtain ⟨-, hsave⟩ := HostedPage.onReturn_ok hresult
      have hbegun : Agrees moves (shop.hold (Payment.begin order.id order.totalPrice)) :=
        h.hold rfl rfl
      have hheld : (shop.hold (Payment.begin order.id order.totalPrice)).held[shop.held.length]? =
          some (Payment.begin order.id order.totalPrice) := by simp [Shop.hold]
      rw [hold_eq_replace shop (Payment.begin order.id order.totalPrice)]
      have hstate : (HostedPage.reportedPayment config now order n).state ≠ .new :=
        fun hnew => PaymentState.noConfusion hnew
      have hid : (HostedPage.reportedPayment config now order n).id =
          (Payment.begin order.id order.totalPrice).id := rfl
      exact hbegun.replace hlt hheld hid hstate hsave
    · next failure hresult =>
      rw [HostedPage.onReturn_error hresult]
      exact h.mono (Nat.le_succ moves)
  | act holder g action =>
    unfold Shop.move
    dsimp only
    split
    · next p hheld =>
      have hending := g.act_ending action p shop.ledger
      generalize g.act action p shop.ledger = outcome at hending ⊢
      cases hending with
      | failed =>
        rw [replace_self hheld]
        exact h.mono (Nat.le_succ moves)
      | kept =>
        rw [replace_self hheld]
        exact h.mono (Nat.le_succ moves)
      | changed hchange hsave =>
        exact h.replace hlt hheld hchange.id_eq hchange.state_ne_new hsave
    · exact h.mono (Nat.le_succ moves)

theorem held_move_of_ne {other : Nat} (hlt : other < shop.held.length)
    (hne : m.holder? ≠ some other) : (shop.move m).held[other]? = shop.held[other]? := by
  cases m with
  | begin => exact List.getElem?_append_left hlt
  | arrive config now order n =>
    unfold Shop.move
    dsimp only
    split
    · exact List.getElem?_append_left hlt
    · rfl
  | act holder g action =>
    have hholder : holder ≠ other := fun heq => hne (congrArg some heq)
    unfold Shop.move
    dsimp only
    split
    · exact List.getElem?_set_ne hholder
    · rfl

theorem id_move {holder : Nat} {p : Payment} {id : UInt64} (hheld : shop.held[holder]? = some p)
    (hid : p.id = some id) : ∃ q, (shop.move m).held[holder]? = some q ∧ q.id = some id := by
  have hlength := (List.getElem?_eq_some_iff.1 hheld).1
  by_cases hholder : m.holder? = some holder
  · cases m with
    | begin => cases hholder
    | arrive => cases hholder
    | act own g action =>
      obtain rfl : own = holder := Option.some.inj hholder
      have hending := g.act_ending action p shop.ledger
      refine ⟨(g.act action p shop.ledger).payment, ?_, ?_⟩
      · unfold Shop.move
        simp only [hheld]
        exact List.getElem?_set_self hlength
      · generalize g.act action p shop.ledger = outcome at hending ⊢
        cases hending with
        | failed => exact hid
        | kept => exact hid
        | changed hchange hsave =>
          obtain ⟨-, rfl, -⟩ := Ledger.save_eq_ok.1 hsave
          rw [Ledger.idFor, hchange.id_eq, hid]
          rfl
  · exact ⟨p, by rw [held_move_of_ne hlength hholder, hheld], hid⟩

theorem load_move_of_not_owns (h : Agrees moves shop) (hlt : moves + 1 < UInt64.size) {id : UInt64}
    {p : Payment} (hload : shop.ledger.load id = .ok p)
    (hothers : ∀ holder, m.holder? = some holder → ¬shop.Owns holder id p) :
    (shop.move m).ledger.load id = .ok p := by
  rw [Ledger.load_eq_ok] at hload ⊢
  obtain ⟨holder, howns⟩ := (h.stored id p).1 hload
  have hlength := (List.getElem?_eq_some_iff.1 howns.1).1
  refine ((h.move hlt m).stored id p).2 ⟨holder, ?_, howns.2⟩
  rw [held_move_of_ne hlength fun heq => hothers holder heq howns, howns.1]

/-! ### Any moves -/

theorem after_append (shop : Shop) (first second : List Move) :
    shop.after (first ++ second) = (shop.after first).after second := by
  induction first generalizing shop with
  | nil => rfl
  | cons m rest ih => exact ih (shop.move m)

theorem Agrees.after (h : Agrees moves shop) (more : List Move)
    (hlt : moves + more.length < UInt64.size) : Agrees (moves + more.length) (shop.after more) := by
  induction more generalizing shop moves with
  | nil => exact h
  | cons m rest ih =>
    rw [List.length_cons] at hlt ⊢
    have hrest := ih (h.move (by omega) m) (by omega)
    rw [Nat.add_right_comm] at hrest
    exact hrest

theorem agrees_from_empty {more : List Move} (hlt : more.length < UInt64.size) :
    Agrees more.length (empty.after more) := by
  have h := Agrees.start.after more
  rw [Nat.zero_add] at h
  exact h hlt

theorem id_after {holder : Nat} {p : Payment} {id : UInt64} (hheld : shop.held[holder]? = some p)
    (hid : p.id = some id) (more : List Move) :
    ∃ q, (shop.after more).held[holder]? = some q ∧ q.id = some id := by
  induction more generalizing shop p with
  | nil => exact ⟨p, hheld, hid⟩
  | cons m rest ih =>
    obtain ⟨q, hmoved, hkept⟩ := id_move (m := m) hheld hid
    exact ih hmoved hkept

/-- **The ledger agrees with the payments at hand.** Whatever happens in a shop in fewer than two to
the power 64 moves, its ledger holds exactly the payments that are no longer new, each under its own
id and as its one holder has it; new payments have no id, and the ids in use count the others from
one. An id that is given out stays with its holder's payment, and a move leaves the record of every
payment alone but that of the payment it is about. -/
theorem ledger_agrees (moves : List Move) (hlt : moves.length < UInt64.size) :
    (∀ id p, (empty.after moves).ledger.load id = .ok p ↔
      ∃ holder : Nat, (empty.after moves).held[holder]? = some p ∧ p.state ≠ .new ∧
        p.id = some id) ∧
    (∀ first second id p q, (empty.after moves).Owns first id p →
      (empty.after moves).Owns second id q → first = second) ∧
    (∀ p ∈ (empty.after moves).held, p.state = .new ↔ p.id = none) ∧
    (empty.after moves).ledger.ids.map UInt64.toNat =
      List.range' 1 (empty.after moves).processed ∧
    (∀ before rest, moves = before ++ rest → ∀ (holder : Nat) (p : Payment) id,
      (empty.after before).held[holder]? = some p → p.id = some id →
        ∃ q : Payment, (empty.after moves).held[holder]? = some q ∧ q.id = some id) ∧
    ∀ before m, moves = before ++ [m] → ∀ id p, (empty.after before).ledger.load id = .ok p →
      (∀ holder, m.holder? = some holder → ¬(empty.after before).Owns holder id p) →
        (empty.after moves).ledger.load id = .ok p := by
  have hagrees := agrees_from_empty hlt
  refine ⟨?_, hagrees.single, hagrees.new_iff, ?_, ?_, ?_⟩
  · intro id p
    rw [Ledger.load_eq_ok]
    exact hagrees.stored id p
  · rw [← hagrees.count]
    exact hagrees.ids
  · rintro before rest rfl holder p id hheld hid
    rw [after_append]
    exact id_after hheld hid rest
  · rintro before m rfl id p hload hothers
    rw [List.length_append, List.length_singleton] at hlt
    rw [after_append]
    exact load_move_of_not_owns (agrees_from_empty (by omega)) hlt hload hothers

def sampleMoves : List Move :=
  [.begin "1" Payment.sample.amount (some "token"), .begin "1" Payment.sample.amount (some "other"),
   .act 1 .approving (.create .sample true),
   .act 0 .approving (.create .sample false),
   .act 1 .approving (.refund none)]

theorem sample_ledger_agrees :
    sampleMoves.length < UInt64.size ∧
      (empty.after sampleMoves).ledger.ids.map UInt64.toNat = [1, 2] ∧
      ∃ p, (empty.after sampleMoves).ledger.load 1 = .ok p ∧ p.state = .refunded := by
  have hlt : sampleMoves.length < UInt64.size := by decide
  obtain ⟨hload, -, -, hids, -⟩ := ledger_agrees sampleMoves hlt
  refine ⟨hlt, hids, ?_⟩
  obtain ⟨p, hheld, hstate, hid⟩ : ∃ p, (empty.after sampleMoves).held[1]? = some p ∧
      p.state = .refunded ∧ p.id = some 1 := ⟨_, rfl, rfl, rfl⟩
  refine ⟨p, (hload 1 p).2 ⟨1, hheld, ?_, hid⟩, hstate⟩
  rw [hstate]
  decide

end Shop

end CardPayments
