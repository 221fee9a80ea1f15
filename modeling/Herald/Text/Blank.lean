/-!
# Blank characters and trimming

A character is blank when it has the Unicode property White_Space. Trimming
removes the blanks at both ends of a text and nothing else.
-/

namespace Herald.Text

/-- The characters with the Unicode property White_Space. -/
def isBlank (c : Char) : Bool :=
  let n := c.toNat
  (0x9 ≤ n && n ≤ 0xD) || n == 0x20 || n == 0x85 || n == 0xA0 || n == 0x1680 ||
    (0x2000 ≤ n && n ≤ 0x200A) || n == 0x2028 || n == 0x2029 || n == 0x202F ||
    n == 0x205F || n == 0x3000

def trimStart (text : List Char) : List Char :=
  text.dropWhile isBlank

def trimEnd (text : List Char) : List Char :=
  (text.reverse.dropWhile isBlank).reverse

/-- The text without the blanks at its two ends. -/
def trim (text : List Char) : List Char :=
  trimEnd (trimStart text)

/-- `trim` on strings. -/
def trimmed (text : String) : String :=
  String.ofList (trim text.toList)

/-- Where nothing is blank there is nothing to remove. -/
theorem trim_eq_self {text : List Char} (printed : ∀ c ∈ text, isBlank c = false) :
    trim text = text := by
  have kept : ∀ part : List Char, (∀ c ∈ part, isBlank c = false) →
      part.dropWhile isBlank = part := by
    intro part printed
    cases part with
    | nil => rfl
    | cons c rest =>
      have first : ¬ isBlank c = true := by simp [printed c List.mem_cons_self]
      exact List.dropWhile_cons_of_neg first
  have backwards : ∀ c ∈ text.reverse, isBlank c = false := by
    intro c member
    exact printed c (List.mem_reverse.mp member)
  rw [trim, trimEnd, trimStart, kept text printed, kept text.reverse backwards, List.reverse_reverse]

/-- Trimming removes blanks only. -/
theorem mem_trim {c : Char} {text : List Char} (printed : isBlank c = false)
    (member : c ∈ text) : c ∈ trim text := by
  have kept : ∀ part : List Char, c ∈ part → c ∈ part.dropWhile isBlank := by
    intro part
    induction part with
    | nil => exact id
    | cons d rest ih =>
      intro member
      rw [List.dropWhile_cons]
      split
      · rename_i blank
        rcases List.mem_cons.mp member with rfl | later
        · rw [printed] at blank
          cases blank
        · exact ih later
      · exact member
  have started : c ∈ (trimStart text).reverse := List.mem_reverse.mpr (kept text member)
  exact List.mem_reverse.mpr (kept _ started)

theorem trimStart_suffix (text : List Char) : trimStart text <:+ text :=
  List.dropWhile_suffix isBlank

theorem trimEnd_begins (text : List Char) : trimEnd text <+: text := by
  rw [← List.reverse_suffix, trimEnd, List.reverse_reverse]
  exact List.dropWhile_suffix isBlank

theorem trimStart_blank_append {blanks : List Char} (blank : ∀ c ∈ blanks, isBlank c = true)
    (text : List Char) : trimStart (blanks ++ text) = trimStart text :=
  List.dropWhile_append_of_pos blank

theorem trimEnd_append_blank {blanks : List Char} (blank : ∀ c ∈ blanks, isBlank c = true)
    (text : List Char) : trimEnd (text ++ blanks) = trimEnd text := by
  have backwards : ∀ c ∈ blanks.reverse, isBlank c = true := by
    intro c member
    exact blank c (List.mem_reverse.mp member)
  rw [trimEnd, List.reverse_append, List.dropWhile_append_of_pos backwards, trimEnd]

/-- A text that trimming leaves as it is has no blanks at either end. -/
theorem trim_eq_self_iff {text : List Char} :
    trim text = text ↔ trimStart text = text ∧ trimEnd text = text := by
  constructor
  · intro trimmed
    have started : trimStart text = text := by
      apply (trimStart_suffix text).eq_of_length_le
      have shorter := (trimEnd_begins (trimStart text)).length_le
      rwa [← trim, trimmed] at shorter
    refine ⟨started, ?_⟩
    rwa [trim, started] at trimmed
  · rintro ⟨started, ended⟩
    rw [trim, started, ended]

/-- Blanks around a text that has none at its ends are trimmed away. -/
theorem trim_padded {before text after : List Char} (blankBefore : ∀ c ∈ before, isBlank c = true)
    (blankAfter : ∀ c ∈ after, isBlank c = true) (trimmed : trim text = text) :
    trim (before ++ text ++ after) = text := by
  obtain ⟨started, ended⟩ := trim_eq_self_iff.mp trimmed
  rw [trim, List.append_assoc, trimStart_blank_append blankBefore]
  cases text with
  | nil =>
    rw [List.nil_append, ← List.append_nil after, trimStart_blank_append blankAfter]
    rfl
  | cons c rest =>
    have kept : trimStart (c :: rest ++ after) = c :: rest ++ after := by
      unfold trimStart at started ⊢
      rw [List.dropWhile_append, started]
      rfl
    rw [kept, trimEnd_append_blank blankAfter, ended]

/-- Only blanks around a text are trimmed away. -/
theorem exists_padded_trim (text : List Char) : ∃ before after,
    (∀ c ∈ before, isBlank c = true) ∧ (∀ c ∈ after, isBlank c = true) ∧
      text = before ++ trim text ++ after := by
  have blank : ∀ part : List Char, ∀ c ∈ part.takeWhile isBlank, isBlank c = true := by
    intro part
    exact List.all_eq_true.mp List.all_takeWhile
  refine ⟨text.takeWhile isBlank, ((trimStart text).reverse.takeWhile isBlank).reverse, blank text,
    fun c member => blank _ c (List.mem_reverse.mp member), ?_⟩
  rw [List.append_assoc, trim, trimEnd, ← List.reverse_append, List.takeWhile_append_dropWhile,
    List.reverse_reverse, trimStart, List.takeWhile_append_dropWhile]

/-- Nothing is trimmed from a text that begins with a printed part and ends as it should. -/
theorem trim_append_eq_self {front text : List Char} (printed : ∀ c ∈ front, isBlank c = false)
    (nonempty : text ≠ []) (trimmed : trim text = text) : trim (front ++ text) = front ++ text := by
  obtain ⟨started, ended⟩ := trim_eq_self_iff.mp trimmed
  refine trim_eq_self_iff.mpr ⟨?_, ?_⟩
  · cases front with
    | nil => exact started
    | cons c rest =>
      have first : ¬ isBlank c = true := by simp [printed c List.mem_cons_self]
      exact List.dropWhile_cons_of_neg first
  · have last : text.reverse.dropWhile isBlank = text.reverse := by
      rw [← List.reverse_inj, List.reverse_reverse]
      exact ended
    rw [trimEnd, List.reverse_append, List.dropWhile_append, last]
    simp [nonempty]

end Herald.Text
