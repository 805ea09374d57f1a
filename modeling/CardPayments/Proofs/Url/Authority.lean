import CardPayments.Proofs.Url.Host
import CardPayments.Url.Reader

/-!
# Authorities there and back

An authority that was read is written with its user, its host and its port, and read back as these:
what is encoded in a user name cannot be taken for the signs between the parts, and no host holds
any of them outside its brackets.
-/

namespace CardPayments

namespace Url

/-- The text of an authority, as every URL writes it that has it. -/
def Authority.chars (a : Authority) : List Char :=
  let u : Url := ⟨[], a.username, a.password, some a.host, a.port, .segments [], none, none⟩
  u.userChars ++ u.hostChars

/-! ### The user -/

theorem splitAtLast_append {sign : Char} {rest : List Char} (h : sign ∉ rest) (front : List Char) :
    splitAtLast sign (front ++ sign :: rest) = some (front, rest) := by
  have hall : ∀ c ∈ rest.reverse, (c != sign) = true := fun c hc =>
    bne_iff_ne.2 fun heq => h (heq ▸ List.mem_reverse.1 hc)
  rw [splitAtLast]
  simp only [List.reverse_append, List.reverse_cons, List.append_assoc, List.singleton_append,
    List.dropWhile_append_of_pos hall, List.takeWhile_append_of_pos hall, List.dropWhile_cons,
    List.takeWhile_cons, bne_self_eq_false, Bool.false_eq_true, if_false, List.reverse_reverse,
    List.append_nil]

theorem splitAtLast_of_not_mem {sign : Char} {s : List Char} (h : sign ∉ s) :
    splitAtLast sign s = none := by
  have hall : ∀ c ∈ s.reverse, (c != sign) = true := fun c hc =>
    bne_iff_ne.2 fun heq => h (heq ▸ List.mem_reverse.1 hc)
  rw [splitAtLast]
  simp only [List.dropWhile_eq_nil_iff.2 hall]

def IsUserInfo (s : List Char) : Prop := ∀ c ∈ s, Percent.isUserInfoSet c = false

theorem isUserInfo_encode (s : List Char) :
    IsUserInfo (Percent.encode Percent.isUserInfoSet s) := fun _ =>
  Percent.isEncoded_of_mem_encode Percent.keepsTriples_isUserInfoSet

/-- User and password as they are written and read. -/
structure IsUser (username : List Char) (password : Option (List Char)) : Prop where
  username : IsUserInfo username
  password : ∀ p, password = some p → IsUserInfo p ∧ p ≠ []

theorem isUser_readUser (s : List Char) : IsUser (readUser s).1 (readUser s).2 := by
  refine ⟨isUserInfo_encode _, fun p hp => ?_⟩
  simp only [readUser] at hp
  split at hp
  · cases hp
  · next hne =>
    obtain rfl := Option.some.inj hp
    exact ⟨isUserInfo_encode _, fun hnil => hne (by simpa [Percent.encode_eq_nil_iff] using hnil)⟩

def userText (username : List Char) (password : Option (List Char)) : Option (List Char) :=
  match password with
  | some p => some (username ++ ':' :: p)
  | none => if username.isEmpty then none else some username

theorem userText_eq_none {username : List Char} {password : Option (List Char)}
    (h : userText username password = none) : username = [] ∧ password = none := by
  unfold userText at h
  split at h
  · cases h
  · split at h
    · next hempty => exact ⟨List.isEmpty_iff.1 hempty, rfl⟩
    · cases h

theorem IsUserInfo.not_mem {s : List Char} (h : IsUserInfo s) {c : Char}
    (hc : Percent.isUserInfoSet c = true) : c ∉ s := fun hmem => by
  rw [h c hmem] at hc
  cases hc

theorem readUser_userText {username : List Char} {password : Option (List Char)}
    (h : IsUser username password) :
    readUser ((userText username password).getD []) = (username, password) := by
  have hcolon : ∀ c ∈ username, (c != ':') = true := fun c hc =>
    bne_iff_ne.2 fun heq => h.username.not_mem (by decide) (heq ▸ hc)
  cases password with
  | some p =>
    obtain ⟨hp, hne⟩ := h.password p rfl
    simp only [userText, Option.getD_some, readUser, List.takeWhile_append_of_pos hcolon,
      List.dropWhile_append_of_pos hcolon, List.takeWhile_cons, List.dropWhile_cons,
      bne_self_eq_false, Bool.false_eq_true, if_false, List.append_nil, List.drop_succ_cons,
      List.drop_zero, Percent.encode_of_kept h.username, Percent.encode_of_kept hp,
      List.isEmpty_eq_false_iff.2 hne]
  | none =>
    cases username with
    | nil => rfl
    | cons c cs =>
      simp only [userText, List.isEmpty_cons, Bool.false_eq_true, if_false, Option.getD_some,
        readUser, List.takeWhile_eq_self_iff.2 hcolon, List.dropWhile_eq_nil_iff.2 hcolon,
        List.drop_nil, List.isEmpty_nil, if_true, Percent.encode_of_kept h.username]

/-! ### Host and port -/

theorem splitHost_append {s : List Char} (h : ∀ c ∈ s, c ≠ ':' ∧ c ≠ '[') (t : List Char) :
    splitHost false (s ++ t) = (s ++ (splitHost false t).1, (splitHost false t).2) := by
  induction s with
  | nil => rfl
  | cons c s ih =>
    rw [List.forall_mem_cons] at h
    rw [List.cons_append, splitHost, if_neg (fun hcolon => h.1.1 hcolon.1), if_neg h.1.2, ite_self,
      ih h.2]
    rfl

theorem splitHost_bracketed {inner : List Char} (h : ']' ∉ inner) (t : List Char) :
    splitHost true (inner ++ ']' :: t) =
      (inner ++ ']' :: (splitHost false t).1, (splitHost false t).2) := by
  induction inner with
  | nil =>
    rw [List.nil_append, splitHost, if_neg (by decide), if_neg (by decide), if_pos rfl]
    rfl
  | cons c inner ih =>
    rw [List.mem_cons, not_or] at h
    have hstate : (if c = '[' then true else if c = ']' then false else true) = true := by
      rw [if_neg (fun heq : c = ']' => h.1 heq.symm), ite_self]
    rw [List.cons_append, splitHost, if_neg (by simp), hstate, ih h.2]
    rfl

theorem splitHost_of_isWritten {host : List Char} (h : Host.IsWritten host) (t : List Char) :
    splitHost false (host ++ t) = (host ++ (splitHost false t).1, (splitHost false t).2) := by
  obtain hplain | ⟨inner, rfl, hinner⟩ := h.colons
  · exact splitHost_append hplain t
  · rw [List.cons_append, splitHost, if_neg (by decide), if_pos rfl, List.append_assoc,
      List.singleton_append, splitHost_bracketed hinner]
    simp

/-- A port as it is written and read: of sixteen bits, and not the scheme's own. -/
def IsPort (scheme : List Char) (port : Option Nat) : Prop :=
  ∀ n, port = some n → n < 65536 ∧ defaultPort? scheme ≠ some n

theorem isPort_of_readPort {scheme s : List Char} {port : Option Nat}
    (h : readPort scheme s = some port) : IsPort scheme port := by
  rintro n rfl
  rw [readPort] at h
  split at h
  · cases h
  · rw [Option.bind_eq_bind, Option.bind_eq_some_iff] at h
    obtain ⟨m, -, h⟩ := h
    split at h
    · next hlt =>
      split at h
      · cases h
      · next hdefault =>
        obtain rfl : m = n := Option.some.inj (Option.some.inj h)
        exact ⟨hlt, hdefault⟩
    · cases h

theorem readPort_digits {scheme : List Char} {port : Option Nat} (h : IsPort scheme port) :
    readPort scheme ((port.map Text.digits).getD []) = some port := by
  cases port with
  | none => rfl
  | some n =>
    obtain ⟨hlt, hdefault⟩ := h n rfl
    have hne : ¬(Text.digits n).isEmpty = true := by simp [Text.digits_ne_nil]
    rw [Option.map_some, Option.getD_some, readPort, if_neg hne, Text.number?_digits]
    simp only [Option.bind_eq_bind, Option.bind_some, if_pos hlt, if_neg hdefault]

/-! ### The whole authority -/

/-- The text before the last sign of a user, if there is one, and the text behind it. -/
def userAndRest (s : List Char) : Option (List Char) × List Char :=
  match splitAtLast '@' s with
  | some (user, rest) => (some user, rest)
  | none => (none, s)

theorem readAuthority_eq (scheme s : List Char) :
    readAuthority scheme s =
      (let user := (userAndRest s).1
      let host := splitHost false (userAndRest s).2
      if host.1.isEmpty && (isNamed scheme || user.isSome || host.2.isSome) then none
      else
        (if isNamed scheme then Host.ofNamed? host.1 else Host.ofOpaque? host.1).bind fun h =>
          (readPort scheme (host.2.getD [])).bind fun port =>
            some ⟨(readUser (user.getD [])).1, (readUser (user.getD [])).2, h, port⟩) := by
  rw [readAuthority, userAndRest]
  cases splitAtLast '@' s with
  | none =>
    simp only
    split
    · rfl
    · split <;> rfl
  | some parts =>
    simp only
    split
    · rfl
    · split <;> rfl

/-- An authority as it is written and read. -/
structure IsAuthority (scheme : List Char) (a : Authority) : Prop where
  user : IsUser a.username a.password
  host : (if isNamed scheme then Host.ofNamed? a.host.chars else Host.ofOpaque? a.host.chars) =
    some a.host
  written : Host.IsWritten a.host.chars
  port : IsPort scheme a.port
  empty : a.host.chars = [] →
    isNamed scheme = false ∧ userText a.username a.password = none ∧ a.port = none

theorem isAuthority_of_readAuthority {scheme s : List Char} {a : Authority}
    (h : readAuthority scheme s = some a) : IsAuthority scheme a := by
  rw [readAuthority_eq] at h
  generalize (userAndRest s).1 = user at h
  generalize splitHost false (userAndRest s).2 = host at h
  obtain ⟨hostText, portText⟩ := host
  simp only at h
  split at h
  · cases h
  · next hempty =>
    simp only [Option.bind_eq_some_iff] at h
    obtain ⟨host, hhost, port, hport, h⟩ := h
    obtain rfl := Option.some.inj h
    have hportOk := isPort_of_readPort hport
    cases hnamed : isNamed scheme with
    | true =>
      rw [hnamed, if_pos rfl] at hhost
      obtain ⟨hread, hwritten, hne⟩ := Host.ofNamed?_chars hhost
      exact ⟨isUser_readUser _, by rw [hnamed, if_pos rfl, hread], hwritten, hportOk,
        fun hnil => absurd hnil hne⟩
    | false =>
      rw [hnamed, if_neg Bool.false_ne_true] at hhost
      obtain ⟨hread, hwritten, hnil⟩ := Host.ofOpaque?_chars hhost
      refine ⟨isUser_readUser _, by rw [hnamed, if_neg Bool.false_ne_true, hread], hwritten,
        hportOk, fun hchars => ⟨hnamed, ?_⟩⟩
      obtain rfl := hnil.1 hchars
      rw [hnamed] at hempty
      simp only [List.isEmpty_nil, Bool.true_and, Bool.false_or, Bool.or_eq_true, not_or,
        Option.not_isSome_iff_eq_none] at hempty
      obtain ⟨rfl, rfl⟩ := hempty
      exact ⟨rfl, (Option.some.inj hport).symm⟩

theorem Authority.chars_eq (a : Authority) :
    a.chars = ((userText a.username a.password).map (· ++ ['@'])).getD [] ++
      (a.host.chars ++ ((a.port.map Text.digits).map (':' :: ·)).getD []) := by
  obtain ⟨username, password, host, port⟩ := a
  have huser (u : Url) (husername : u.username = username) (hpassword : u.password = password) :
      u.userChars = ((userText username password).map (· ++ ['@'])).getD [] := by
    unfold userChars userText
    rw [husername, hpassword]
    cases password with
    | some p => simp
    | none => cases username <;> rfl
  rw [chars, huser _ rfl rfl]
  cases port <;> rfl

theorem userAndRest_append {user : Option (List Char)} {rest : List Char} (h : '@' ∉ rest) :
    userAndRest ((user.map (· ++ ['@'])).getD [] ++ rest) = (user, rest) := by
  cases user with
  | none => simp [userAndRest, splitAtLast_of_not_mem h]
  | some user => simp [userAndRest, splitAtLast_append h]

theorem splitHost_chars {host : List Char} (h : Host.IsWritten host) (port : Option (List Char)) :
    splitHost false (host ++ (port.map (':' :: ·)).getD []) = (host, port) := by
  rw [splitHost_of_isWritten h]
  cases port with
  | none => simp [splitHost]
  | some digits => simp [splitHost]

theorem mem_portChars {port : Option Nat} {c : Char}
    (h : c ∈ ((port.map Text.digits).map (':' :: ·)).getD []) : c = ':' ∨ c.isDigit = true := by
  cases port with
  | none => cases h
  | some n => exact (List.mem_cons.1 h).imp_right Text.isDigit_of_mem_digits

/-- **An authority is read back as it was.** -/
theorem IsAuthority.readAuthority_chars {scheme : List Char} {a : Authority}
    (h : IsAuthority scheme a) : readAuthority scheme a.chars = some a := by
  have hat : '@' ∉ a.host.chars ++ ((a.port.map Text.digits).map (':' :: ·)).getD [] := by
    rw [List.mem_append, not_or]
    refine ⟨fun hmem => absurd (h.written.chars _ hmem) (by decide), fun hmem => ?_⟩
    exact (mem_portChars hmem).elim (by decide) (by decide)
  have hkept : ¬(a.host.chars.isEmpty && (isNamed scheme ||
      (userText a.username a.password).isSome || (a.port.map Text.digits).isSome)) = true := by
    rw [Bool.and_eq_true, List.isEmpty_iff]
    rintro ⟨hempty, hany⟩
    obtain ⟨hnamed, huser, hport⟩ := h.empty hempty
    simp [hnamed, huser, hport] at hany
  rw [readAuthority_eq, a.chars_eq, userAndRest_append hat]
  simp only [splitHost_chars h.written, if_neg hkept, h.host, readUser_userText h.user,
    readPort_digits h.port, Option.bind_some]

/-! ### What authorities are written with -/

/-- A character that does not end an authority, nor any text around it. -/
def isAuthorityChar (c : Char) : Bool := 0x20 < c.toNat && !Percent.isOneOf "/\\?#" c

theorem isAuthorityChar_of_isHostChar {c : Char} (h : Host.isHostChar c = true) :
    isAuthorityChar c = true := by
  have hsigns : "/\\?#".toList ⊆ "/\\?#@|".toList := by decide
  rw [Host.isHostChar, Bool.and_eq_true, Bool.not_eq_true', Percent.isOneOf] at h
  rw [isAuthorityChar, h.1, Bool.true_and, Bool.not_eq_true', Percent.isOneOf, Bool.eq_false_iff]
  intro hmem
  rw [List.contains_iff_mem] at hmem
  exact absurd (List.contains_iff_mem.2 (hsigns hmem)) (by rw [h.2]; exact Bool.false_ne_true)

theorem isAuthorityChar_of_isUserInfo {s : List Char} (h : IsUserInfo s) {c : Char} (hc : c ∈ s) :
    isAuthorityChar c = true := by
  have hkept := h c hc
  have hascii : c.toNat < 128 := by
    rw [Percent.isUserInfoSet, Bool.or_eq_false_iff] at hkept
    exact Percent.toNat_lt_of_isControlSet (Percent.isControlSet_of_isPathSet hkept.1)
  revert hkept
  apply Text.forall_ascii c hascii
  decide

theorem isAuthorityChar_of_userText {username : List Char} {password : Option (List Char)}
    (h : IsUser username password) {user : List Char}
    (huser : userText username password = some user) {c : Char} (hc : c ∈ user) :
    isAuthorityChar c = true := by
  unfold userText at huser
  split at huser
  · next p =>
    obtain rfl := Option.some.inj huser
    obtain hc | hc := List.mem_append.1 hc
    · exact isAuthorityChar_of_isUserInfo h.username hc
    · obtain rfl | hc := List.mem_cons.1 hc
      · decide
      · exact isAuthorityChar_of_isUserInfo (h.password p rfl).1 hc
  · split at huser
    · cases huser
    · obtain rfl := Option.some.inj huser
      exact isAuthorityChar_of_isUserInfo h.username hc

theorem isAuthorityChar_of_mem {scheme : List Char} {a : Authority} (h : IsAuthority scheme a)
    {c : Char} (hc : c ∈ a.chars) : isAuthorityChar c = true := by
  rw [a.chars_eq, List.mem_append, List.mem_append] at hc
  obtain hc | hc | hc := hc
  · cases huser : userText a.username a.password with
    | none => simp [huser] at hc
    | some user =>
      rw [huser, Option.map_some, Option.getD_some, List.mem_append, List.mem_singleton] at hc
      obtain hc | rfl := hc
      · exact isAuthorityChar_of_userText h.user huser hc
      · decide
  · exact isAuthorityChar_of_isHostChar (h.written.chars c hc)
  · obtain rfl | hdigit := mem_portChars hc
    · decide
    · have hascii : c.toNat < 128 :=
        Nat.lt_of_le_of_lt (Char.isDigit_iff_toNat.1 hdigit).2 (by decide)
      revert hdigit
      apply Text.forall_ascii c hascii
      decide

theorem IsAuthority.chars_eq_nil {scheme : List Char} {a : Authority} (h : IsAuthority scheme a)
    (hnil : a.host.chars = []) : a.chars = [] := by
  obtain ⟨-, huser, hport⟩ := h.empty hnil
  rw [a.chars_eq, huser, hport, hnil]
  rfl

theorem Authority.chars_ne_nil {a : Authority} (hne : a.host.chars ≠ []) : a.chars ≠ [] := by
  rw [a.chars_eq]
  simp [hne]

end Url

end CardPayments
