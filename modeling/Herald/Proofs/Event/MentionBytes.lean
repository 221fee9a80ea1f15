import Herald.Proofs.Event.Mentions
import Herald.Text.Utf8

/-!
# Mentions in the bytes of a comment

A comment is kept as the bytes of its text, and its tokens can be looked for in them. What is
found then are positions of bytes, and a text may only be cut where a character begins.

Main statement: the search through the bytes of a comment comes to an end, cuts between
characters only, and finds the tokens of the text (`cutOut?_encode`).
-/

namespace Herald

namespace Text.Utf8

/-- The bytes of a text may be cut at a position: a character begins there, or the text ends. -/
def mayCut (bytes : Bytes) (position : Nat) : Bool :=
  match bytes[position]? with
  | some b => decide b.IsUTF8FirstByte
  | none => position == bytes.length

/-- What comes before a position. -/
def before? (bytes : Bytes) (position : Nat) : Option Bytes :=
  if mayCut bytes position then some (bytes.take position) else none

/-- What comes from a position on. -/
def from? (bytes : Bytes) (position : Nat) : Option Bytes :=
  if mayCut bytes position then some (bytes.drop position) else none

/-- Where a part first occurs. -/
def position? (part : Bytes) : Bytes → Option Nat
  | [] => none
  | b :: rest =>
    if part <+: b :: rest then some 0 else (position? part rest).map (· + 1)

section Positions

variable {part front rest bytes : Bytes} {position : Nat}

theorem length_from? (cut : from? bytes position = some rest) :
    rest.length = bytes.length - position := by
  unfold from? at cut
  split at cut
  · rw [← Option.some.inj cut, List.length_drop]
  · cases cut

theorem position?_lt (found : position? part bytes = some position) : position < bytes.length := by
  induction bytes generalizing position with
  | nil => cases found
  | cons b rest ih =>
    rw [position?] at found
    split at found
    · cases found
      exact Nat.zero_lt_succ _
    · obtain ⟨later, inRest, rfl⟩ := Option.map_eq_some_iff.mp found
      exact Nat.succ_lt_succ (ih inRest)

theorem mayCut_append :
    mayCut (front ++ rest) (front.length + position) = mayCut rest position := by
  unfold mayCut
  rw [List.getElem?_append_right (Nat.le_add_right _ _), Nat.add_sub_cancel_left,
    List.length_append]
  cases rest[position]? <;> simp

theorem from?_append : from? (front ++ rest) (front.length + position) = from? rest position := by
  unfold from?
  rw [mayCut_append, ← List.drop_drop, List.drop_left]

theorem before?_append (cut : mayCut rest 0 = true) :
    before? (front ++ rest) front.length = some front := by
  have here : mayCut (front ++ rest) front.length = true := by
    rw [← Nat.add_zero front.length, mayCut_append, cut]
  rw [before?, if_pos here, List.take_left]

theorem position?_self (nonempty : part ≠ []) : position? part (part ++ rest) = some 0 := by
  cases part with
  | nil => exact absurd rfl nonempty
  | cons b part => exact if_pos (List.prefix_append _ rest)

/-- A part that begins nowhere in front is found behind. -/
theorem position?_append
    (absent : ∀ begun, begun ≠ [] → begun <:+ front → ¬ part <+: begun ++ rest) :
    position? part (front ++ rest) = (position? part rest).map (front.length + ·) := by
  induction front with
  | nil => simp
  | cons b front ih =>
    have here : ¬ part <+: b :: (front ++ rest) := absent _ (List.cons_ne_nil _ _) List.suffix_rfl
    have later := ih fun begun nonempty suffix =>
      absent begun nonempty (suffix.trans (List.suffix_cons b front))
    rw [List.cons_append, position?, if_neg here, later, Option.map_map]
    congr 1
    funext position
    simp only [Function.comp_apply, List.length_cons]
    omega

end Positions

/-- The bytes of the characters of a text. -/
abbrev spelled (text : List Char) : Bytes :=
  text.flatMap String.utf8EncodeChar

section Spelled

variable {a : Char} {b : UInt8} {text : List Char}

/-- Before its first character a text may be cut. -/
theorem mayCut_spelled (text : List Char) : mayCut (spelled text) 0 = true := by
  cases text with
  | nil => rfl
  | cons c text =>
    have first := @UInt8.isUTF8FirstByte_getElem_zero_utf8EncodeChar c
    unfold mayCut spelled
    rw [List.flatMap_cons]
    cases bytes : String.utf8EncodeChar c with
    | nil => exact absurd bytes String.utf8EncodeChar_ne_nil
    | cons b more =>
      simp only [bytes, List.getElem_cons_zero] at first
      simp [first]

theorem from?_spelled (text : List Char) : from? (spelled text) 0 = some (spelled text) := by
  rw [from?, if_pos (mayCut_spelled text), List.drop_zero]

/-- A character below U+0080 is wherever its byte is. -/
theorem mem_of_mem_spelled (ascii : b.toNat < 0x80) (byte : b.toNat = a.toNat)
    (member : b ∈ spelled text) : a ∈ text := by
  obtain ⟨c, inText, part⟩ := List.mem_flatMap.mp member
  have same : c.toNat = a.toNat := (mem_utf8EncodeChar ascii part).trans byte
  rwa [← Char.ext (UInt32.toNat_inj.mp same)]

/-- A character below U+0080 comes first where its byte does. -/
theorem exists_eq_cons_of_prefix (ascii : b.toNat < 0x80) (byte : b.toNat = a.toNat)
    (first : [b] <+: spelled text) : ∃ rest, text = a :: rest := by
  cases text with
  | nil => cases List.prefix_nil.mp first
  | cons c rest =>
    have part : b ∈ spelled [c] := by
      rw [spelled, List.flatMap_cons] at first
      cases bytes : String.utf8EncodeChar c with
      | nil => exact absurd bytes String.utf8EncodeChar_ne_nil
      | cons b' more =>
        rw [bytes] at first
        simp [spelled, bytes, (List.cons_prefix_cons.mp first).1]
    have only : a ∈ [c] := mem_of_mem_spelled ascii byte part
    exact ⟨rest, by rw [List.mem_singleton.mp only]⟩

end Spelled

end Text.Utf8

namespace Mention

open Text.Utf8

/-- The bytes that begin a token. -/
def opening : Bytes := [0x5B, 0x7E]

/-- The byte that ends one. -/
def closing : Bytes := [0x5D]

/-- The inside of the first token in the bytes of a text and what comes after the token, if there
is a token. There is no answer where the bytes would have to be cut within a character. -/
def next? (text : Bytes) : Option (Option (Bytes × Bytes)) :=
  match position? opening text with
  | none => some none
  | some opener =>
    (from? text (opener + opening.length)).bind fun behind =>
      match position? closing behind with
      | none => some none
      | some closer =>
        (before? behind closer).bind fun inside =>
          (from? behind (closer + closing.length)).map fun rest => some (inside, rest)

/-- Each turn of the search leaves less to be searched. -/
theorem next?_shorter {text inside rest : Bytes} (found : next? text = some (some (inside, rest))) :
    rest.length < text.length := by
  unfold next? at found
  split at found
  · cases found
  · obtain ⟨behind, opened, found⟩ := Option.bind_eq_some_iff.mp found
    split at found
    · cases found
    · rename_i closer closed
      obtain ⟨_, -, found⟩ := Option.bind_eq_some_iff.mp found
      obtain ⟨_, later, same⟩ := Option.map_eq_some_iff.mp found
      cases same
      have shorter := length_from? opened
      have shortest := length_from? later
      have within := position?_lt closed
      have one : closing.length = 1 := rfl
      omega

/-- The insides of the tokens in the bytes of a text. -/
def cutOut? (text : Bytes) : Option (List Bytes) :=
  match _ : next? text with
  | none => none
  | some none => some []
  | some (some (inside, rest)) => (cutOut? rest).map (inside :: ·)
termination_by text.length
decreasing_by exact next?_shorter ‹_›

variable {inside rest text : List Char}

theorem position?_closing (clear : ']' ∉ text) (rest : Bytes) :
    position? closing (spelled text ++ rest) =
      (position? closing rest).map ((spelled text).length + ·) := by
  apply position?_append
  intro begun nonempty suffix found
  cases begun with
  | nil => exact nonempty rfl
  | cons b more =>
    obtain rfl : 0x5D = b := (List.cons_prefix_cons.mp found).1
    exact clear (mem_of_mem_spelled (by decide) rfl (suffix.subset List.mem_cons_self))

/-- An opener in the bytes is one in the text. -/
theorem position?_opening {c : Char} (plain : Plain (c :: text)) :
    position? opening (spelled (c :: text)) =
      (position? opening (spelled text)).map ((spelled [c]).length + ·) := by
  have split : spelled (c :: text) = spelled [c] ++ spelled text := by simp [spelled]
  rw [split]
  apply position?_append
  intro begun nonempty suffix found
  cases begun with
  | nil => exact nonempty rfl
  | cons b more =>
    obtain ⟨rfl, tilde⟩ : 0x5B = b ∧ [0x7E] <+: more ++ spelled text :=
      List.cons_prefix_cons.mp found
    have bracket : '[' ∈ [c] :=
      mem_of_mem_spelled (by decide) rfl (suffix.subset List.mem_cons_self)
    obtain rfl : '[' = c := List.mem_singleton.mp bracket
    have alone : 0x5B :: more <:+ [0x5B] := suffix
    obtain rfl : more = [] := by simpa using alone.length_le
    obtain ⟨rest, rfl⟩ := exists_eq_cons_of_prefix (a := '~') (by decide) rfl tilde
    exact plain rest rfl

theorem next?_plain {c : Char} (plain : Plain (c :: text)) :
    next? (spelled (c :: text)) = next? (spelled text) := by
  have split : spelled (c :: text) = spelled [c] ++ spelled text := by simp [spelled]
  unfold next?
  rw [position?_opening plain]
  cases position? opening (spelled text) with
  | none => rfl
  | some opener =>
    rw [Option.map_some]
    dsimp only
    rw [Nat.add_assoc, split, from?_append]

/-- Behind an opener the search goes on from the next closing bracket. -/
theorem next?_opened (text : List Char) :
    next? (spelled ('[' :: '~' :: text)) =
      match position? closing (spelled text) with
      | none => some none
      | some closer => (before? (spelled text) closer).bind fun inside =>
          (from? (spelled text) (closer + closing.length)).map fun rest => some (inside, rest) := by
  have split : spelled ('[' :: '~' :: text) = opening ++ spelled text := rfl
  rw [next?, split, position?_self (show opening ≠ [] by decide)]
  dsimp only
  rw [Nat.add_comm, from?_append, from?_spelled, Option.bind_some]

theorem next?_token (clear : ']' ∉ inside) :
    next? (spelled ('[' :: '~' :: (inside ++ ']' :: rest))) =
      some (some (spelled inside, spelled rest)) := by
  have behind : spelled (inside ++ ']' :: rest) = spelled inside ++ spelled (']' :: rest) :=
    List.flatMap_append
  have split : spelled (']' :: rest) = closing ++ spelled rest := rfl
  have found : position? closing (spelled inside ++ spelled (']' :: rest)) =
      some (spelled inside).length := by
    rw [position?_closing clear, split, position?_self (show closing ≠ [] by decide)]
    rfl
  have later : from? (spelled (']' :: rest)) closing.length = some (spelled rest) := by
    rw [split, ← Nat.add_zero closing.length, from?_append, from?_spelled]
  rw [next?_opened, behind, found]
  dsimp only
  rw [before?_append (mayCut_spelled _), from?_append, later]
  rfl

theorem next?_unclosed (clear : ']' ∉ inside) :
    next? (spelled ('[' :: '~' :: inside)) = some none := by
  have absent : position? closing (spelled inside) = none := by
    simpa [position?] using position?_closing clear []
  rw [next?_opened, absent]

theorem cutOut?_spelled (text : List Char) :
    cutOut? (spelled text) = some ((tokens none text).map spelled) := by
  induction text using scan_induction with
  | nil => simp [cutOut?, next?, position?, tokens]
  | plain c text plain ih =>
    have turn : cutOut? (spelled (c :: text)) = cutOut? (spelled text) := by
      rw [cutOut?, next?_plain plain, ← cutOut?]
    rw [tokens_cons plain, turn, ih]
  | token inside rest clear ih =>
    rw [tokens, tokens_closing clear, cutOut?, next?_token clear]
    simp [ih]
  | unclosed inside clear =>
    rw [tokens, tokens_unclosed clear, cutOut?, next?_unclosed clear]
    rfl

/-- The bytes of a comment are searched to their end without a cut through a character, and the
tokens that are found are those of the comment. -/
theorem cutOut?_encode (body : String) :
    cutOut? (encode body) =
      some ((tokens none body.toList).map fun inside => encode (String.ofList inside)) := by
  have bytes : encode body = spelled body.toList := by
    rw [spelled, ← encode_ofList, String.ofList_toList]
  simp only [bytes, encode_ofList]
  exact cutOut?_spelled body.toList

end Mention

end Herald
