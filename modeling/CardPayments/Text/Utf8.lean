/-!
# UTF-8

Characters as bytes and bytes as characters. Where bytes spell no character, the longest start of
one, or else a single byte, is passed over as one fault; a strict reader refuses the bytes, a
lenient one puts the replacement character there.
-/

namespace CardPayments

namespace Text

def utf8 (s : List Char) : List UInt8 := s.flatMap String.utf8EncodeChar

theorem utf8EncodeChar_of_ascii {c : Char} (h : c.toNat < 0x80) :
    String.utf8EncodeChar c = [UInt8.ofNat c.toNat] := by
  have hsize : c.utf8Size = 1 :=
    Char.utf8Size_eq_one_iff.2 (UInt32.le_iff_toNat_le.2 (Nat.le_of_lt_succ h))
  rw [String.utf8EncodeChar_eq_singleton hsize]
  rfl

theorem length_utf8_of_ascii {s : List Char} (h : ∀ c ∈ s, c.toNat < 0x80) :
    (utf8 s).length = s.length := by
  induction s with
  | nil => rfl
  | cons c s ih =>
    rw [List.forall_mem_cons] at h
    rw [utf8, List.flatMap_cons, utf8EncodeChar_of_ascii h.1, ← utf8, List.length_append, ih h.2,
      List.length_singleton, List.length_cons, Nat.add_comm]

/-- The character whose leading bits are `value`, with `count` bytes to come, the first of them
between `low` and `high`. -/
def continuation (value low high : Nat) : (count : Nat) → List UInt8 → Option Char × List UInt8
  | 0, rest => (some (Char.ofNat value), rest)
  | _ + 1, [] => (none, [])
  | count + 1, b :: rest =>
    if low ≤ b.toNat ∧ b.toNat ≤ high then
      continuation (value * 64 + (b.toNat - 0x80)) 0x80 0xBF count rest
    else (none, b :: rest)

/-- The character that starts with the byte `a`, or none where the bytes spell none. -/
def characterFrom (a : UInt8) (rest : List UInt8) : Option Char × List UInt8 :=
  let n := a.toNat
  if n < 0x80 then (some (Char.ofNat n), rest)
  else if 0xC2 ≤ n ∧ n ≤ 0xDF then continuation (n - 0xC0) 0x80 0xBF 1 rest
  else if n = 0xE0 then continuation 0 0xA0 0xBF 2 rest
  else if n = 0xED then continuation 0xD 0x80 0x9F 2 rest
  else if 0xE1 ≤ n ∧ n ≤ 0xEF then continuation (n - 0xE0) 0x80 0xBF 2 rest
  else if n = 0xF0 then continuation 0 0x90 0xBF 3 rest
  else if 0xF1 ≤ n ∧ n ≤ 0xF3 then continuation (n - 0xF0) 0x80 0xBF 3 rest
  else if n = 0xF4 then continuation 4 0x80 0x8F 3 rest
  else (none, rest)

/-- The characters in order, with `none` for each fault; `fuel` bounds the number of steps. -/
def decodeSteps : (fuel : Nat) → List UInt8 → List (Option Char)
  | 0, _ => []
  | _ + 1, [] => []
  | fuel + 1, a :: rest =>
    let (c, rest) := characterFrom a rest
    c :: decodeSteps fuel rest

def decoded (bytes : List UInt8) : List (Option Char) := decodeSteps bytes.length bytes

def ofUtf8? (bytes : List UInt8) : Option (List Char) := (decoded bytes).mapM id

def replacement : Char := '\ufffd'

/-- The text of the bytes, with a replacement character for every fault. -/
def ofUtf8Lenient (bytes : List UInt8) : List Char :=
  (decoded bytes).map fun c => c.getD replacement

def byteSize (s : String) : Nat := (utf8 s.toList).length

end Text

end CardPayments
