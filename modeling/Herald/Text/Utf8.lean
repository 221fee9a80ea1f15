/-!
# UTF-8

Decoding yields, in order, each character that the bytes spell, and a gap for
each longest run of bytes that starts a character and does not finish it. Strict
decoding refuses gaps; lenient decoding shows each as U+FFFD. Main statement: different texts have different
bytes (`encode_inj`).
-/

namespace Herald

/-- Raw bytes, as a request body or a seed file holds them. -/
abbrev Bytes := List UInt8

namespace Text.Utf8

def encode (text : String) : Bytes :=
  text.toUTF8.toList

private theorem toList_loop (bytes : ByteArray) (i : Nat) (front : List UInt8) :
    ByteArray.toList.loop bytes i front = front.reverse ++ bytes.data.toList.drop i := by
  induction i, front using ByteArray.toList.loop.induct bytes with
  | case1 i front inside ih =>
    have bound : i < bytes.data.toList.length := inside
    have byte : bytes.get! i = bytes.data.toList[i] := getElem!_pos bytes.data i inside
    rw [ByteArray.toList.loop, if_pos inside, ih, List.drop_eq_getElem_cons bound, byte]
    simp
  | case2 i front outside =>
    have beyond : bytes.data.toList.length ≤ i := Nat.le_of_not_lt outside
    rw [ByteArray.toList.loop, if_neg outside, List.drop_eq_nil_of_le beyond, List.append_nil]

theorem toList_eq_data (bytes : ByteArray) : bytes.toList = bytes.data.toList := by
  rw [ByteArray.toList, toList_loop]
  rfl

/-- Different texts have different bytes. -/
theorem encode_inj {s t : String} : encode s = encode t ↔ s = t := by
  constructor
  · intro same
    rw [encode, encode, toList_eq_data, toList_eq_data, Array.toList_inj] at same
    exact String.toByteArray_inj.mp (ByteArray.ext same)
  · intro same
    rw [same]

/-- A text is spelled character by character. -/
theorem encode_ofList (text : List Char) :
    encode (String.ofList text) = text.flatMap String.utf8EncodeChar := by
  rw [encode, String.toUTF8_eq_toByteArray, String.toByteArray_ofList, List.utf8Encode,
    toList_eq_data, List.toList_data_toByteArray]

/-- A byte below 0x80 is a character of its own. -/
theorem mem_utf8EncodeChar {c : Char} {b : UInt8} (ascii : b.toNat < 0x80)
    (member : b ∈ String.utf8EncodeChar c) : c.toNat = b.toNat := by
  have notHigh : ∀ n : Nat, 0x80 ≤ n → n < 0x100 → b ≠ UInt8.ofNat n := by
    rintro n high byte rfl
    rw [UInt8.toNat_ofNat_of_lt' byte] at ascii
    omega
  unfold String.utf8EncodeChar at member
  dsimp only at member
  split at member
  · rename_i small
    have byte : c.val.toNat < 0x100 := by omega
    rw [List.mem_singleton.mp member, UInt8.toNat_ofNat_of_lt' byte]
    rfl
  · -- Every byte of a longer character is marked as a part of one.
    exfalso
    split at member
    · simp only [List.mem_cons, List.not_mem_nil, or_false] at member
      rcases member with same | same <;> exact notHigh _ (by omega) (by omega) same
    · split at member
      · simp only [List.mem_cons, List.not_mem_nil, or_false] at member
        rcases member with same | same | same <;> exact notHigh _ (by omega) (by omega) same
      · simp only [List.mem_cons, List.not_mem_nil, or_false] at member
        rcases member with same | same | same | same <;>
          exact notHigh _ (by omega) (by omega) same

/-- A character whose first bytes were read: the next byte must lie between
`low` and `high`, `more` bytes follow it, and `bits` holds what was read. -/
structure Partway where
  low : Nat
  high : Nat
  more : Nat
  bits : Nat

/-- What the bytes read so far come to: the open character, if there is one, and
the decoded characters and gaps, latest first. -/
structure Progress where
  opened : Option Partway
  decoded : List (Option Char)

/-- Reads a byte that starts a character. -/
def begin (decoded : List (Option Char)) (b : Nat) : Progress :=
  if b < 0x80 then ⟨none, some (Char.ofNat b) :: decoded⟩
  else if 0xC2 ≤ b ∧ b ≤ 0xDF then ⟨some ⟨0x80, 0xBF, 0, b - 0xC0⟩, decoded⟩
  else if b = 0xE0 then ⟨some ⟨0xA0, 0xBF, 1, 0⟩, decoded⟩
  else if b = 0xED then ⟨some ⟨0x80, 0x9F, 1, 0xD⟩, decoded⟩
  else if 0xE1 ≤ b ∧ b ≤ 0xEF then ⟨some ⟨0x80, 0xBF, 1, b - 0xE0⟩, decoded⟩
  else if b = 0xF0 then ⟨some ⟨0x90, 0xBF, 2, 0⟩, decoded⟩
  else if 0xF1 ≤ b ∧ b ≤ 0xF3 then ⟨some ⟨0x80, 0xBF, 2, b - 0xF0⟩, decoded⟩
  else if b = 0xF4 then ⟨some ⟨0x80, 0x8F, 2, 4⟩, decoded⟩
  else ⟨none, none :: decoded⟩

def Progress.read (p : Progress) (byte : UInt8) : Progress :=
  let b := byte.toNat
  match p.opened with
  | none => begin p.decoded b
  | some c =>
    if c.low ≤ b ∧ b ≤ c.high then
      let bits := 64 * c.bits + (b - 0x80)
      match c.more with
      | 0 => ⟨none, some (Char.ofNat bits) :: p.decoded⟩
      | more + 1 => ⟨some ⟨0x80, 0xBF, more, bits⟩, p.decoded⟩
    else begin (none :: p.decoded) b

def Progress.finish (p : Progress) : List (Option Char) :=
  match p.opened with
  | none => p.decoded.reverse
  | some _ => (none :: p.decoded).reverse

def decode (bytes : Bytes) : List (Option Char) :=
  (bytes.foldl Progress.read ⟨none, []⟩).finish

/-- The text that the bytes spell, if they spell one. -/
def decode? (bytes : Bytes) : Option String :=
  ((decode bytes).mapM id).map String.ofList

/-- The text with U+FFFD in place of each gap. -/
def decodeLenient (bytes : Bytes) : String :=
  String.ofList ((decode bytes).map (·.getD (Char.ofNat 0xFFFD)))

end Text.Utf8

end Herald
