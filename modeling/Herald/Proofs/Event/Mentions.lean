import Herald.Event.Mention
import Mathlib.Data.List.Induction

/-!
# Which mentions are found

A token of a comment reaches from an opener to the next closing bracket, whatever stands
between the two. So an opener that is not closed when the next one comes takes that one in.

Main statements: the tokens of a text are the texts between an opener and the next closing
bracket that no earlier opener takes in (`mem_tokens_iff`), and so a mention is missed exactly
where an earlier opener takes it in each time that it is written (`mention_missed_iff`).
-/

namespace Herald.Mention

/-- The last opener of the text is not closed. -/
def LeavesOpen (text : List Char) : Prop :=
  ∃ before inside, text = before ++ '[' :: '~' :: inside ∧ ']' ∉ inside

/-- `inside` is written between an opener and the next closing bracket, where no earlier
opener is left open. -/
def Written (inside text : List Char) : Prop :=
  ']' ∉ inside ∧ ∃ before after,
    text = before ++ '[' :: '~' :: (inside ++ ']' :: after) ∧ ¬ LeavesOpen before

/-- No opener begins the text. -/
def Plain (text : List Char) : Prop :=
  ∀ rest, text ≠ '[' :: '~' :: rest

theorem Plain.cons_append {c : Char} {text more : List Char} (plain : Plain (c :: (text ++ more))) :
    Plain (c :: text) := by
  intro rest same
  obtain ⟨rfl, rfl⟩ := List.cons.inj same
  exact plain (rest ++ more) rfl

theorem not_leavesOpen_nil : ¬ LeavesOpen [] := by
  rintro ⟨before, inside, split, -⟩
  simp at split

/-- What comes up to a closing bracket leaves nothing open. -/
theorem leavesOpen_append_closing (closed text : List Char) :
    LeavesOpen (closed ++ ']' :: text) ↔ LeavesOpen text := by
  constructor
  · rintro ⟨before, inside, split, unclosed⟩
    have whole : (closed ++ [']']) ++ text = before ++ '[' :: '~' :: inside := by
      simpa using split
    rcases List.append_eq_append_iff.mp whole with ⟨part, earlier, later⟩ | ⟨part, earlier, later⟩
    · exact ⟨part, inside, later, unclosed⟩
    · -- The opener begins no later than the bracket, which then stands behind it.
      cases part using List.reverseRecOn with
      | nil => exact ⟨[], inside, later.symm, unclosed⟩
      | append_singleton part last =>
        have last_closing : ']' = last := by
          have ends := congrArg List.getLast? earlier
          simpa using ends
        have behind : ']' ∈ '[' :: '~' :: inside := by
          rw [later, last_closing]
          simp
        exact absurd (by simpa using behind) unclosed
  · rintro ⟨before, inside, rfl, unclosed⟩
    exact ⟨closed ++ ']' :: before, inside, by simp, unclosed⟩

/-- A character that begins no opener leaves nothing open. -/
theorem leavesOpen_cons {c : Char} {text : List Char} (plain : Plain (c :: text)) :
    LeavesOpen (c :: text) ↔ LeavesOpen text := by
  constructor
  · rintro ⟨before, inside, split, unclosed⟩
    cases before with
    | nil => exact absurd split (plain inside)
    | cons first before =>
      obtain ⟨-, rest⟩ := List.cons.inj split
      exact ⟨before, inside, rest, unclosed⟩
  · rintro ⟨before, inside, rfl, unclosed⟩
    exact ⟨c :: before, inside, rfl, unclosed⟩

/-- There is one first closing bracket. -/
theorem closing_unique {a b rest rest' : List Char} (clear : ']' ∉ a) (clear' : ']' ∉ b)
    (same : a ++ ']' :: rest = b ++ ']' :: rest') : a = b ∧ rest = rest' := by
  induction a generalizing b with
  | nil =>
    cases b with
    | nil => exact ⟨rfl, (List.cons.inj same).2⟩
    | cons c b =>
      obtain ⟨rfl, -⟩ := List.cons.inj same
      exact absurd List.mem_cons_self clear'
  | cons c a ih =>
    cases b with
    | nil =>
      obtain ⟨rfl, -⟩ := List.cons.inj same
      exact absurd List.mem_cons_self clear
    | cons d b =>
      obtain ⟨rfl, later⟩ := List.cons.inj same
      obtain ⟨rfl, ends⟩ := ih (mt (List.mem_cons_of_mem c) clear)
        (mt (List.mem_cons_of_mem c) clear') later
      exact ⟨rfl, ends⟩

/-- An open token ends at the next closing bracket. -/
theorem tokens_closing {inside : List Char} (clear : ']' ∉ inside) (known rest : List Char) :
    tokens (some known) (inside ++ ']' :: rest) =
      (known.reverse ++ inside) :: tokens none rest := by
  induction inside generalizing known with
  | nil => simp [tokens]
  | cons c inside ih =>
    obtain ⟨other, later⟩ := not_or.mp (mt List.mem_cons.mpr clear)
    rw [List.cons_append, tokens, if_neg (Ne.symm other), ih later]
    simp

theorem tokens_unclosed {text : List Char} (clear : ']' ∉ text) (known : List Char) :
    tokens (some known) text = [] := by
  induction text generalizing known with
  | nil => rfl
  | cons c text ih =>
    obtain ⟨other, later⟩ := not_or.mp (mt List.mem_cons.mpr clear)
    rw [tokens, if_neg (Ne.symm other), ih later]

theorem tokens_cons {c : Char} {text : List Char} (plain : Plain (c :: text)) :
    tokens none (c :: text) = tokens none text := by
  rw [tokens]
  intro rest first second
  exact plain rest (by rw [first, second])

/-- A text is gone through character by character outside of tokens, and token by token. -/
theorem scan_induction {P : List Char → Prop} (nil : P [])
    (plain : ∀ c text, Plain (c :: text) → P text → P (c :: text))
    (token : ∀ inside rest, ']' ∉ inside → P rest → P ('[' :: '~' :: (inside ++ ']' :: rest)))
    (unclosed : ∀ inside, ']' ∉ inside → P ('[' :: '~' :: inside)) (text : List Char) :
    P text := by
  induction size : text.length using Nat.strongRecOn generalizing text with
  | ind size ih =>
    subst size
    by_cases opened : ∃ rest, text = '[' :: '~' :: rest
    · obtain ⟨rest, rfl⟩ := opened
      by_cases closing : ']' ∈ rest
      · obtain ⟨inside, rest, rfl, clear⟩ := List.eq_append_cons_of_mem closing
        have shorter : rest.length < ('[' :: '~' :: (inside ++ ']' :: rest)).length := by
          simp only [List.length_cons, List.length_append]
          omega
        exact token inside rest clear (ih rest.length shorter rest rfl)
      · exact unclosed rest closing
    · cases text with
      | nil => exact nil
      | cons c text =>
        refine plain c text (fun rest same => opened ⟨rest, same⟩) ?_
        exact ih text.length (by simp) text rfl

theorem written_cons {c : Char} {inside text : List Char} (plain : Plain (c :: text)) :
    Written inside (c :: text) ↔ Written inside text := by
  constructor
  · rintro ⟨clear, before, after, split, closed⟩
    cases before with
    | nil => exact absurd split (plain _)
    | cons first before =>
      obtain ⟨rfl, rfl⟩ := List.cons.inj split
      have head : Plain (c :: before) := Plain.cons_append plain
      exact ⟨clear, before, after, rfl, mt (leavesOpen_cons head).mpr closed⟩
  · rintro ⟨clear, before, after, rfl, closed⟩
    have head : Plain (c :: before) := Plain.cons_append plain
    exact ⟨clear, c :: before, after, rfl, mt (leavesOpen_cons head).mp closed⟩

/-- Behind an opener the next closing bracket decides what is written. -/
theorem written_token {first inside rest : List Char} (clear : ']' ∉ first) :
    Written inside ('[' :: '~' :: (first ++ ']' :: rest)) ↔
      inside = first ∨ Written inside rest := by
  constructor
  · rintro ⟨mine, before, after, split, closed⟩
    match before, split, closed with
    | [], split, _ =>
      have behind : first ++ ']' :: rest = inside ++ ']' :: after := by simpa using split
      exact .inl (closing_unique mine clear behind.symm).1
    | [_], split, _ => simp at split
    | c :: d :: before, split, closed =>
      obtain ⟨rfl, rfl, behind⟩ : '[' = c ∧ '~' = d ∧
          first ++ ']' :: rest = before ++ '[' :: '~' :: (inside ++ ']' :: after) := by
        simpa using split
      -- The first opener is closed before the second one comes.
      have ended : ']' ∈ before :=
        Decidable.byContradiction fun unended => closed ⟨[], before, rfl, unended⟩
      obtain ⟨first', before, rfl, clear'⟩ := List.eq_append_cons_of_mem ended
      have brackets : first ++ ']' :: rest =
          first' ++ ']' :: (before ++ '[' :: '~' :: (inside ++ ']' :: after)) := by
        simpa using behind
      obtain ⟨rfl, rfl⟩ := closing_unique clear clear' brackets
      have same := leavesOpen_append_closing ('[' :: '~' :: first) before
      exact .inr ⟨mine, before, after, rfl, mt same.mpr closed⟩
  · rintro (rfl | ⟨mine, before, after, rfl, closed⟩)
    · exact ⟨clear, [], rest, rfl, not_leavesOpen_nil⟩
    · have same := leavesOpen_append_closing ('[' :: '~' :: first) before
      exact ⟨mine, '[' :: '~' :: (first ++ ']' :: before), after, by simp, mt same.mp closed⟩

theorem not_written_unclosed {inside text : List Char} (clear : ']' ∉ text) :
    ¬ Written inside ('[' :: '~' :: text) := by
  rintro ⟨-, before, after, split, -⟩
  have member : ']' ∈ '[' :: '~' :: text := by
    rw [split]
    simp
  exact clear (by simpa using member)

/-- The tokens of a text are those that are written in it. -/
theorem mem_tokens_iff {inside : List Char} (text : List Char) :
    inside ∈ tokens none text ↔ Written inside text := by
  induction text using scan_induction with
  | nil =>
    simp [tokens, Written]
  | plain c text plain ih => rw [tokens_cons plain, written_cons plain, ih]
  | token first rest clear ih =>
    rw [tokens, tokens_closing clear, List.mem_cons, written_token clear, ih]
    rfl
  | unclosed first clear =>
    rw [tokens, tokens_unclosed clear]
    simp [not_written_unclosed clear]

theorem mem_add {known : List AccountId} {name : List Char} {account : AccountId} :
    account ∈ add known name ↔
      account ∈ known ∨ name ≠ [] ∧ account = ⟨String.ofList name⟩ := by
  unfold add
  dsimp only
  split
  · rename_i left
    rw [List.isEmpty_iff] at left
    constructor
    · exact .inl
    · rintro (member | ⟨nonempty, rfl⟩)
      · exact member
      · exact left.resolve_left nonempty
  · rename_i kept
    rw [List.isEmpty_iff] at kept
    have nonempty : name ≠ [] := fun empty => kept (.inl empty)
    simp [nonempty]

/-- The accounts that are kept are those named, but for an empty one. -/
theorem mem_foldl_add {names : List (List Char)} {known : List AccountId} {account : AccountId} :
    account ∈ names.foldl add known ↔
      account ∈ known ∨ ∃ name ∈ names, name ≠ [] ∧ account = ⟨String.ofList name⟩ := by
  induction names generalizing known with
  | nil => simp
  | cons name rest ih =>
    rw [List.foldl_cons, ih, mem_add]
    simp [or_assoc]

/-- A comment mentions the accounts that the tokens in it name. -/
theorem mem_all_iff {body name : String} :
    ⟨name⟩ ∈ all body ↔
      name ≠ "" ∧ ∃ inside, Written inside body.toList ∧ account inside = name.toList := by
  unfold all
  rw [mem_foldl_add]
  constructor
  · rintro (known | ⟨_, listed, nonempty, named⟩)
    · cases known
    · obtain ⟨inside, token, rfl⟩ := List.mem_map.mp listed
      obtain rfl : name = String.ofList (account inside) := AccountId.mk.inj named
      refine ⟨fun empty => nonempty (String.ofList_eq_empty_iff.mp empty), inside, ?_, ?_⟩
      · exact (mem_tokens_iff _).mp token
      · exact String.toList_ofList.symm
  · rintro ⟨nonempty, inside, written, named⟩
    refine .inr ⟨account inside, ?_, ?_, ?_⟩
    · exact List.mem_map_of_mem ((mem_tokens_iff _).mpr written)
    · rw [named]
      exact fun empty => nonempty (String.toList_eq_nil_iff.mp empty)
    · rw [named, String.ofList_toList]

/-- What marks an account by its id. -/
def idMark : String := "accountid:"

/-- An account that can be told from its mention. -/
structure Mentionable (name : String) : Prop where
  nonempty : name ≠ ""
  unopened : '[' ∉ name.toList
  unclosed : ']' ∉ name.toList
  trimmed : Text.trimmed name = name
  unmarked : Text.startsWith idMark.toList name.toList = false

/-- The inside of a token names an account, with or without the mark and with blanks around
it. -/
def Names (inside name : String) : Prop :=
  Text.trimmed inside = name ∨ Text.trimmed inside = idMark ++ name

theorem account_eq_iff {inside name : String}
    (unmarked : Text.startsWith idMark.toList name.toList = false) :
    account inside.toList = name.toList ↔ Names inside name := by
  have alone : Text.after? idMark.toList name.toList = none := by
    simpa [Text.startsWith] using unmarked
  have names : Names inside name ↔ Text.trim inside.toList = name.toList ∨
      Text.trim inside.toList = idMark.toList ++ name.toList := by
    unfold Names Text.trimmed
    rw [← String.toList_inj, ← String.toList_inj, String.toList_ofList, String.toList_append]
  rw [names]
  change (Text.after? idMark.toList (Text.trim inside.toList)).getD (Text.trim inside.toList) =
    name.toList ↔ _
  constructor
  · intro named
    cases marked : Text.after? idMark.toList (Text.trim inside.toList) with
    | none =>
      rw [marked] at named
      exact .inl named
    | some rest =>
      rw [marked] at named
      obtain rfl : rest = name.toList := named
      exact .inr (Text.after?_eq_some_iff.mp marked)
  · rintro (bare | marked)
    · rw [bare, alone]
      rfl
    · rw [Text.after?_eq_some_iff.mpr marked]
      rfl

/-- A closing bracket is not trimmed away. -/
theorem Names.clear {inside name : String} (names : Names inside name)
    (clear : ']' ∉ name.toList) : ']' ∉ inside.toList := by
  intro member
  have kept : ']' ∈ (Text.trimmed inside).toList := by
    rw [Text.trimmed, String.toList_ofList]
    exact Text.mem_trim (by decide) member
  have unmarked : ']' ∉ idMark.toList := by decide
  rcases names with bare | marked
  · rw [bare] at kept
    exact clear kept
  · rw [marked, String.toList_append, List.mem_append] at kept
    exact kept.elim unmarked clear

/-- A mention is missed exactly where each time that it is written an earlier opener, which
was not closed, takes it in. -/
theorem mention_missed_iff {body name : String} (mentionable : Mentionable name) :
    ⟨name⟩ ∉ all body ↔
      ∀ before inside after : String, body = before ++ "[~" ++ inside ++ "]" ++ after →
        Names inside name → LeavesOpen before.toList := by
  rw [mem_all_iff]
  constructor
  · intro missed before inside after written names
    by_contra closed
    refine missed ⟨mentionable.nonempty, inside.toList, ?_, ?_⟩
    · refine ⟨names.clear mentionable.unclosed, before.toList, after.toList, ?_, closed⟩
      simp [written]
    · exact (account_eq_iff mentionable.unmarked).mpr names
  · rintro taken ⟨-, inside, ⟨-, before, after, split, closed⟩, named⟩
    refine closed ?_
    have whole : body = String.ofList before ++ "[~" ++ String.ofList inside ++ "]" ++
        String.ofList after := by
      apply String.toList_injective
      simp [split]
    have names : Names (String.ofList inside) name :=
      (account_eq_iff mentionable.unmarked).mp (by rw [String.toList_ofList, named])
    simpa using taken _ _ _ whole names

private theorem ann_mentionable : Mentionable "ann" where
  nonempty := by decide
  unopened := by decide
  unclosed := by decide
  trimmed := by decide +kernel
  unmarked := by decide

private theorem ann_missed : ⟨"ann"⟩ ∉ all "[~oops [~ann]" := by
  decide +kernel

/-- Not every mention that is written is found. -/
theorem nested_mention_missed : ¬ ∀ body name before after : String, Mentionable name →
    (body = before ++ "[~" ++ name ++ "]" ++ after ∨
      body = before ++ "[~" ++ (idMark ++ name) ++ "]" ++ after) →
    ⟨name⟩ ∈ all body := by
  intro found
  exact ann_missed (found _ "ann" "[~oops " "" ann_mentionable (.inl rfl))

/-- The opener before the mention takes it in. -/
theorem nested_mention_taken :
    Mentionable "ann" ∧ ⟨"ann"⟩ ∉ all "[~oops [~ann]" ∧ LeavesOpen "[~oops ".toList := by
  refine ⟨ann_mentionable, ann_missed, ?_⟩
  have written : "[~oops [~ann]" = "[~oops " ++ "[~" ++ "ann" ++ "]" ++ "" := rfl
  have names : Names "ann" "ann" := .inl ann_mentionable.trimmed
  exact (mention_missed_iff ann_mentionable).mp ann_missed _ _ _ written names

end Herald.Mention
