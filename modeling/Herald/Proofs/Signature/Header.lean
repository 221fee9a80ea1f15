import Herald.Proofs.Signature.Genuine
import Herald.Proofs.Text.Hex

/-!
# Header values

A tag is written into a header value as the scheme and two lower-case digits for each byte. What is
read need not have been written here: there may be blanks around it, and the digits may be in upper
case.

Main statement: every tag is read back, header values are read exactly where they are of this form,
and writing what was read changes nothing but the case of the digits (`header_read_iff_spelled`).
-/

namespace Herald.Signature

/-- The header value consists of the scheme and some digits, with blanks around. -/
def Spells (header : String) (digits : List Char) : Prop :=
  ∃ before after : List Char, (∀ c ∈ before, Text.isBlank c = true) ∧
    (∀ c ∈ after, Text.isBlank c = true) ∧
    header.toList = before ++ ("sha256=".toList ++ digits) ++ after

variable {header : String} {digits : List Char} {tag : Bytes}

theorem isBlank_of_isHexDigit {c : Char} (digit : c.isHexDigit = true) :
    Text.isBlank c = false := by
  obtain ⟨n, read⟩ := Option.isSome_iff_exists.mp (Text.Hex.isSome_value?_iff.mpr digit)
  have each : ∀ k : Fin 128, (Char.ofNat k).isHexDigit = true →
      Text.isBlank (Char.ofNat k) = false := by decide
  have checked := each ⟨c.toNat, Text.Hex.ascii_of_value? read⟩
  rw [Char.ofNat_toNat] at checked
  exact checked digit

/-- Only blanks are trimmed from the digits and what is in front of them. -/
theorem trim_of_spells (spells : Spells header digits) (hex : ∀ c ∈ digits, c.isHexDigit = true) :
    Text.trim header.toList = scheme ++ digits := by
  obtain ⟨before, after, blankBefore, blankAfter, spelled⟩ := spells
  have printed : ∀ c ∈ scheme ++ digits, Text.isBlank c = false := by
    intro c member
    rcases List.mem_append.mp member with first | later
    · exact isBlank_of_mem_format c (List.mem_append_left (Text.Hex.encode []) first)
    · exact isBlank_of_isHexDigit (hex c later)
  rw [spelled]
  exact Text.trim_padded blankBefore blankAfter (Text.trim_eq_self printed)

theorem spells_of_trim (trimmed : Text.trim header.toList = scheme ++ digits) :
    Spells header digits := by
  obtain ⟨before, after, blankBefore, blankAfter, padded⟩ := Text.exists_padded_trim header.toList
  rw [trimmed] at padded
  exact ⟨before, after, blankBefore, blankAfter, padded⟩

theorem ofHeader?_eq_some_iff : ofHeader? header = some tag ↔
    ∃ digits, Text.trim header.toList = scheme ++ digits ∧ Text.Hex.decode? digits = some tag := by
  unfold ofHeader?
  simp only [Option.bind_eq_some_iff, Text.after?_eq_some_iff]

/-- Of digits with blanks around the digits are read. -/
theorem ofHeader?_of_spells (spells : Spells header digits)
    (hex : ∀ c ∈ digits, c.isHexDigit = true) : ofHeader? header = Text.Hex.decode? digits := by
  have rest : Text.after? scheme (scheme ++ digits) = some digits :=
    Text.after?_eq_some_iff.mpr rfl
  rw [ofHeader?, trim_of_spells spells hex, rest, Option.bind_some]

/-- What is written consists of digits. -/
theorem isHexDigit_of_mem_encode : ∀ c ∈ Text.Hex.encode tag, c.isHexDigit = true := by
  have read : (Text.Hex.decode? (Text.Hex.encode tag)).isSome = true := by
    rw [Text.Hex.decode?_encode]
    rfl
  exact (Text.Hex.isSome_decode?_iff.mp read).2

/-- A tag is written as the scheme and two digits for each byte, its high half first, and with any
blanks around it is read back. A header value is read exactly where it consists of the scheme and an
even number of hexadecimal digits in either case, with any blanks around, and then writing what was
read gives the scheme and these digits in lower case. -/
theorem header_read_iff_spelled (header : String) (tag : Bytes) :
    (format tag).toList = "sha256=".toList ++
      tag.flatMap (fun b => [(b.toNat / 16).digitChar, (b.toNat % 16).digitChar]) ∧
    (∀ before after : List Char, (∀ c ∈ before, Text.isBlank c = true) →
      (∀ c ∈ after, Text.isBlank c = true) →
      ofHeader? (String.ofList (before ++ (format tag).toList ++ after)) = some tag) ∧
    ((ofHeader? header).isSome = true ↔ ∃ digits, Spells header digits ∧
      digits.length % 2 = 0 ∧ ∀ c ∈ digits, c.isHexDigit = true) ∧
    (ofHeader? header = some tag → ∃ digits, Spells header digits ∧
      (format tag).toList = "sha256=".toList ++ digits.map Char.toLower) := by
  have written : (format tag).toList = "sha256=".toList ++ Text.Hex.encode tag := by
    rw [format, String.toList_ofList]
    rfl
  refine ⟨?_, fun before after blankBefore blankAfter => ?_, ⟨fun read => ?_, ?_⟩, fun read => ?_⟩
  · rw [written, Text.Hex.encode_eq]
  · have spells : Spells (String.ofList (before ++ (format tag).toList ++ after))
        (Text.Hex.encode tag) := by
      refine ⟨before, after, blankBefore, blankAfter, ?_⟩
      rw [String.toList_ofList, written]
    rw [ofHeader?_of_spells spells isHexDigit_of_mem_encode, Text.Hex.decode?_encode]
  · obtain ⟨tag, read⟩ := Option.isSome_iff_exists.mp read
    obtain ⟨digits, trimmed, decoded⟩ := ofHeader?_eq_some_iff.mp read
    exact ⟨digits, spells_of_trim trimmed, Text.Hex.isSome_decode?_iff.mp (by rw [decoded]; rfl)⟩
  · rintro ⟨digits, spells, even, hex⟩
    rw [ofHeader?_of_spells spells hex]
    exact Text.Hex.isSome_decode?_iff.mpr ⟨even, hex⟩
  · obtain ⟨digits, trimmed, decoded⟩ := ofHeader?_eq_some_iff.mp read
    refine ⟨digits, spells_of_trim trimmed, ?_⟩
    rw [written, Text.Hex.encode_of_decode? decoded]

/-- With blanks around it a header value is read, and the digits are taken in either case. -/
theorem padded_header_read :
    ofHeader? (String.ofList (['\t', '\u3000'] ++ (format [0x0A, 0xFF]).toList ++ ['\r'])) =
      some [0x0A, 0xFF] ∧
    ofHeader? " sha256=0aFf" = some [0x0A, 0xFF] ∧
    ofHeader? " sha256=0aF" = none ∧
    ∃ digits, Spells " sha256=0aFf" digits ∧
      (format [0x0A, 0xFF]).toList = "sha256=".toList ++ digits.map Char.toLower := by
  have read : ofHeader? " sha256=0aFf" = some [0x0A, 0xFF] := by decide +kernel
  obtain ⟨-, back, -, lower⟩ := header_read_iff_spelled " sha256=0aFf" [0x0A, 0xFF]
  exact ⟨back _ _ (List.all_eq_true.mp (by decide)) (List.all_eq_true.mp (by decide)), read,
    by decide +kernel, lower read⟩

end Herald.Signature
