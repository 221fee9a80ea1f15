import Herald.Text.Lines
import Mathlib.Data.List.Basic

/-!
# Lines and line feeds

A text falls into parts at its line feeds. Its lines are these parts, save that a carriage return
at the end of a part belongs to the ending, and that nothing is a line after the last ending.

Main statements: lines are made of the parts between line feeds (`lines_eq_ofParts`), what is
written in front of each part, or of each line, stands in front of each line
(`isPrefix_of_mem_ofParts`), and texts that are put together with line feeds fall into the parts of
each (`splitOn_intercalate_lineFeed`).
-/

namespace Herald.Text

/-- A part without the carriage return at its end. -/
def withoutReturn (part : List Char) : List Char :=
  if part.getLast? = some '\r' then part.dropLast else part

/-- The lines that the parts between line feeds make. -/
def ofParts : List (List Char) → List (List Char)
  | [] => []
  | [last] => if last = [] then [] else [last]
  | part :: next :: parts => withoutReturn part :: ofParts (next :: parts)

theorem ofParts_cons {part : List Char} {parts : List (List Char)} (more : parts ≠ []) :
    ofParts (part :: parts) = withoutReturn part :: ofParts parts := by
  cases parts with
  | nil => exact absurd rfl more
  | cons next parts => rfl

theorem withoutReturn_cons {c : Char} {part : List Char} (more : c = '\r' → part ≠ []) :
    withoutReturn (c :: part) = c :: withoutReturn part := by
  cases part with
  | nil => simpa [withoutReturn] using more
  | cons d part =>
    unfold withoutReturn
    rw [List.getLast?_cons_cons, List.dropLast_cons_cons]
    split <;> rfl

/-- Where the character in front is no part of an ending it belongs to the first line. -/
theorem ofParts_consFirst {c : Char} {part : List Char} {parts : List (List Char)}
    (more : c = '\r' → part = [] → parts = []) :
    ofParts ((c :: part) :: parts) = consFirst c (ofParts (part :: parts)) := by
  cases parts with
  | nil =>
    by_cases empty : part = []
    · simp [ofParts, empty, consFirst]
    · simp [ofParts, empty, consFirst]
  | cons next parts =>
    rw [ofParts, ofParts, consFirst,
      withoutReturn_cons fun carriage empty => by cases more carriage empty]

theorem lines_eq_ofParts (text : List Char) : lines text = ofParts (text.splitOn '\n') := by
  fun_induction lines text with
  | case1 => rfl
  | case2 rest ih =>
    have parts : ('\r' :: '\n' :: rest).splitOn '\n' = ['\r'] :: rest.splitOn '\n' :=
      List.splitOn_append_cons_self_of_not_mem (by decide : '\n' ∉ ['\r']) rest
    rw [parts, ofParts_cons (List.splitOn_ne_nil _ _), ih]
    rfl
  | case3 rest ih =>
    have parts : ('\n' :: rest).splitOn '\n' = [] :: rest.splitOn '\n' :=
      List.splitOn_append_cons_self_of_not_mem (List.not_mem_nil : '\n' ∉ []) rest
    rw [parts, ofParts_cons (List.splitOn_ne_nil _ _), ih]
    rfl
  | case4 c rest unended other ih =>
    rw [List.splitOn_cons_eq_if_modifyHead, if_neg (by simpa using other), ih]
    cases split : rest.splitOn '\n' with
    | nil => exact absurd split (List.splitOn_ne_nil _ _)
    | cons part parts =>
      refine (ofParts_consFirst fun carriage empty => ?_).symm
      -- A line feed next would be the second character of an ending.
      cases rest with
      | nil => simp_all
      | cons next rest =>
        have joined : next ≠ '\n' := fun feed => unended rest carriage (by rw [feed])
        rw [List.splitOn_cons_eq_if_modifyHead, if_neg (by simpa using joined)] at split
        cases later : rest.splitOn '\n' with
        | nil => exact absurd later (List.splitOn_ne_nil _ _)
        | cons first others =>
          rw [later, empty] at split
          cases split

theorem lineFeed_not_mem_consFirst {c : Char} (plain : c ≠ '\n') {found : List (List Char)}
    (clear : ∀ line ∈ found, '\n' ∉ line) : ∀ line ∈ consFirst c found, '\n' ∉ line := by
  cases found with
  | nil => simpa [consFirst] using plain.symm
  | cons first rest =>
    rw [List.forall_mem_cons] at clear
    rw [consFirst, List.forall_mem_cons, List.mem_cons, not_or]
    exact ⟨⟨plain.symm, clear.1⟩, clear.2⟩

theorem lineFeed_not_mem_lines (text : List Char) : ∀ line ∈ lines text, '\n' ∉ line := by
  fun_induction lines text with
  | case1 => exact List.forall_mem_nil _
  | case2 rest ih => exact List.forall_mem_cons.mpr ⟨List.not_mem_nil, ih⟩
  | case3 rest ih => exact List.forall_mem_cons.mpr ⟨List.not_mem_nil, ih⟩
  | case4 c rest _ plain ih => exact lineFeed_not_mem_consFirst plain ih

/-- A text that is put together with line feeds. -/
theorem intercalate_lineFeed (first : List Char) (rest : List (List Char)) :
    ['\n'].intercalate (first :: rest) = first ++ rest.flatMap ('\n' :: ·) := by
  induction rest generalizing first with
  | nil => simp
  | cons next rest ih => simp [List.intercalate_cons_cons, ih]

/-- Put together with line feeds, the parts fall apart one by one. -/
theorem splitOn_intercalate_lineFeed (first : List Char) (rest : List (List Char)) :
    (['\n'].intercalate (first :: rest)).splitOn '\n' =
      (first :: rest).flatMap (·.splitOn '\n') := by
  induction rest generalizing first with
  | nil => simp
  | cons next rest ih =>
    rw [List.intercalate_cons_cons, List.append_assoc, List.singleton_append,
      List.splitOn_append_cons_self, ih next]
    rfl

/-- A text has one part more than line feeds. -/
theorem length_splitOn_lineFeed (text : List Char) :
    (text.splitOn '\n').length = text.count '\n' + 1 := by
  induction text with
  | nil => rfl
  | cons c rest ih =>
    rw [List.splitOn_cons_eq_if_modifyHead, List.count_cons]
    split <;> simp_all

theorem isPrefix_withoutReturn {mark part : List Char} (clear : '\r' ∉ mark)
    (marked : mark <+: part) : mark <+: withoutReturn part := by
  unfold withoutReturn
  split
  · next returned =>
    obtain ⟨before, rfl⟩ := List.getLast?_eq_some_iff.mp returned
    rw [List.dropLast_concat]
    rcases List.prefix_concat_iff.mp marked with rfl | marked
    · exact absurd (by simp) clear
    · exact marked
  · exact marked

theorem isPrefix_of_mem_ofParts {mark : List Char} (clear : '\r' ∉ mark)
    {parts : List (List Char)} (marked : ∀ part ∈ parts, mark <+: part) :
    ∀ line ∈ ofParts parts, mark <+: line := by
  fun_induction ofParts parts with
  | case1 => exact List.forall_mem_nil _
  | case2 => exact List.forall_mem_nil _
  | case3 last => exact marked
  | case4 part next parts ih =>
    rw [List.forall_mem_cons] at marked
    exact List.forall_mem_cons.mpr ⟨isPrefix_withoutReturn clear marked.1, ih marked.2⟩

/-- Parts that do not end with a carriage return are lines as they are. -/
theorem ofParts_eq_self {parts : List (List Char)} (there : ∀ part ∈ parts, part ≠ [])
    (clear : ∀ part ∈ parts, part.getLast? ≠ some '\r') : ofParts parts = parts := by
  fun_induction ofParts parts with
  | case1 => rfl
  | case2 => simp at there
  | case3 last => rfl
  | case4 part next parts ih =>
    rw [List.forall_mem_cons] at there clear
    rw [withoutReturn, if_neg clear.1, ih there.2 clear.2]

end Herald.Text
