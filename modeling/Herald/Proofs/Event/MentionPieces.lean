import Herald.Proofs.Event.MentionBytes
import Herald.Proofs.FirstOccurrence
import Mathlib.Data.List.Infix

/-!
# Reading mentions back

A comment is made up of plain texts and of mentions. Where no plain text holds an opener, and
each name can be told from its mention, the names are what is read back.

Main statements: the accounts that are read are those that the tokens name, without repetitions
(`all_eq`), the tokens of a comment are the insides of its mentions (`tokens_pieces`), and so the
mentions of a comment are read back (`mentions_read_back`).
-/

namespace Herald.Mention

open Text (isBlank)

/-- A piece of a comment: a text, or a mention with blanks around what it names. -/
inductive Piece where
  | plain (text : String)
  | mention (marked : Bool) (before name after : String)
  deriving DecidableEq, Repr

namespace Piece

/-- The name of an account as a mention gives it, with the mark of an id or without. -/
def given (marked : Bool) (name : String) : String :=
  if marked then idMark ++ name else name

def text : Piece → String
  | plain text => text
  | mention marked before name after => "[~" ++ before ++ given marked name ++ after ++ "]"

def isPlain : Piece → Bool
  | plain _ => true
  | mention .. => false

/-- The account that is mentioned. -/
def account? : Piece → Option AccountId
  | plain _ => none
  | mention _ _ name _ => some ⟨name⟩

/-- A plain text holds no opener. A name can be told from its mention. -/
inductive WellFormed : Piece → Prop
  | plain {text : String} (unopened : ¬ ['[', '~'] <:+: text.toList) : WellFormed (plain text)
  | mention {marked : Bool} {before name after : String}
      (blankBefore : ∀ c ∈ before.toList, isBlank c = true)
      (blankAfter : ∀ c ∈ after.toList, isBlank c = true)
      (nonempty : name ≠ "") (trimmed : Text.trimmed name = name) (unclosed : ']' ∉ name.toList)
      (unmarked : marked = false → Text.startsWith idMark.toList name.toList = false) :
      WellFormed (mention marked before name after)

/-- What stands between the opener and the closing bracket of a mention. -/
def inside? : Piece → Option (List Char)
  | plain _ => none
  | mention marked before name after =>
    some (before.toList ++ (given marked name).toList ++ after.toList)

end Piece

/-- No two plain texts are next to each other. -/
def Separated (pieces : List Piece) : Prop :=
  pieces.IsChain fun p q => p.isPlain = true → q.isPlain = false

/-- After the last piece there is nothing, or a mention that is not closed. -/
def Trails (tail : String) : Prop :=
  tail = "" ∨ ['[', '~'] <+: tail.toList ∧ ']' ∉ tail.toList

section Accounts

/-- The account of a name, unless it is empty. -/
def accountOf? (name : List Char) : Option AccountId :=
  if name.isEmpty then none else some ⟨String.ofList name⟩

theorem add_eq (known : List AccountId) (name : List Char) :
    add known name =
      match accountOf? name with
      | some id => if id ∈ known then known else known ++ [id]
      | none => known := by
  unfold add accountOf?
  by_cases empty : name.isEmpty = true <;> simp [empty]

/-- The accounts of a comment are those that its tokens name, in the order of their first
occurrence. -/
theorem all_eq (body : String) :
    all body =
      ((tokens none body.toList).filterMap fun inside => accountOf? (account inside)).eraseDups := by
  have known : all body = ((tokens none body.toList).filterMap fun inside =>
      accountOf? (account inside)).foldl
        (fun known id => if id ∈ known then known else known ++ [id]) [] := by
    rw [List.foldl_filterMap, all, List.foldl_map]
    congr 1
    funext known inside
    rw [add_eq]
    cases accountOf? (account inside) <;> rfl
  rw [known, foldl_unmet]
  simp

theorem all_nodup (body : String) : (all body).Nodup := by
  rw [all_eq]
  exact nodup_eraseDups _

theorem all_nonempty {body : String} {id : AccountId} (read : id ∈ all body) : id.text ≠ "" := by
  obtain ⟨name⟩ := id
  exact (mem_all_iff.mp read).1

end Accounts

/-- No token begins where a text without openers meets one that does not begin with a tilde. -/
theorem tokens_plain {text rest : List Char} (unopened : ¬ ['[', '~'] <:+: text)
    (apart : ∀ more, rest ≠ '~' :: more) : tokens none (text ++ rest) = tokens none rest := by
  induction text with
  | nil => rfl
  | cons c text ih =>
    have plain : Plain (c :: (text ++ rest)) := by
      intro more same
      obtain ⟨rfl, behind⟩ := List.cons.inj same
      cases text with
      | nil => exact apart more behind
      | cons d text =>
        obtain ⟨rfl, -⟩ := List.cons.inj behind
        exact unopened ⟨[], text, rfl⟩
    rw [List.cons_append, tokens_cons plain]
    exact ih fun later => unopened (later.trans (List.suffix_cons c text).isInfix)

namespace Piece

variable {marked : Bool} {before name after : String} {p : Piece} {inside : List Char}

theorem text_of_inside? (token : p.inside? = some inside) :
    p.text.toList = '[' :: '~' :: (inside ++ [']']) := by
  cases p with
  | plain text => cases token
  | mention marked before name after =>
    cases token
    simp [text]

/-- A mention ends at its closing bracket and not before. -/
theorem WellFormed.clear (wellFormed : p.WellFormed) (token : p.inside? = some inside) :
    ']' ∉ inside := by
  have printed : isBlank ']' = false := by decide
  have unmarked : ']' ∉ idMark.toList := by decide
  cases wellFormed with
  | plain => cases token
  | @mention marked before name after blankBefore blankAfter _ _ unclosed _ =>
    cases token
    have outside : ∀ blanks : String, (∀ c ∈ blanks.toList, isBlank c = true) →
        ']' ∉ blanks.toList := by
      intro blanks blank member
      have impossible := blank ']' member
      rw [printed] at impossible
      cases impossible
    have within : ']' ∉ (given marked name).toList := by
      cases marked with
      | false => exact unclosed
      | true => simp [given, unmarked, unclosed]
    simp [outside before blankBefore, outside after blankAfter, within]

/-- A name is told from its mention. -/
theorem WellFormed.account_eq (wellFormed : (Piece.mention marked before name after).WellFormed) :
    account (before.toList ++ (given marked name).toList ++ after.toList) = name.toList := by
  cases wellFormed with
  | mention blankBefore blankAfter nonempty trimmed unclosed unmarked =>
    have bare : Text.trim name.toList = name.toList := by
      rw [← String.toList_inj, Text.trimmed, String.toList_ofList] at trimmed
      exact trimmed
    have printed : ∀ c ∈ idMark.toList, isBlank c = false := by
      have unblank : idMark.toList.all (!isBlank ·) = true := by decide
      simpa using unblank
    have kept : Text.trim (given marked name).toList = (given marked name).toList := by
      cases marked with
      | false => exact bare
      | true =>
        rw [given, if_pos rfl, String.toList_append]
        exact Text.trim_append_eq_self printed (mt String.toList_eq_nil_iff.mp nonempty) bare
    unfold account
    rw [Text.trim_padded blankBefore blankAfter kept]
    change (Text.after? idMark.toList (given marked name).toList).getD _ = _
    cases marked with
    | false =>
      have absent : Text.after? idMark.toList name.toList = none := by
        simpa [Text.startsWith] using unmarked rfl
      rw [given, if_neg Bool.false_ne_true, absent]
      rfl
    | true =>
      have present : Text.after? idMark.toList (idMark ++ name).toList = some name.toList :=
        Text.after?_eq_some_iff.mpr String.toList_append
      rw [given, if_pos rfl, present]
      rfl

/-- What a mention is read as is the account that it names. -/
theorem WellFormed.accountOf?_inside (wellFormed : p.WellFormed) :
    (p.inside?.bind fun inside => accountOf? (account inside)) = p.account? := by
  cases p with
  | plain text => rfl
  | mention marked before name after =>
    have nonempty : name ≠ "" := by
      cases wellFormed
      assumption
    change accountOf? (account (before.toList ++ (given marked name).toList ++ after.toList)) = _
    rw [wellFormed.account_eq]
    simp [accountOf?, account?, nonempty]

end Piece

variable {pieces : List Piece} {tail : String}

/-- What follows a plain text does not begin with a tilde. -/
theorem join_ne_tilde (mentions : ∀ p ∈ pieces.head?, p.isPlain = false)
    (trails : Trails tail) (more : List Char) :
    pieces.flatMap (·.text.toList) ++ tail.toList ≠ '~' :: more := by
  cases pieces with
  | nil =>
    rcases trails with rfl | ⟨⟨_, opener⟩, -⟩
    · simp
    · rw [← opener]
      simp
  | cons p pieces =>
    cases p with
    | plain text => cases mentions _ rfl
    | mention marked before name after => simp [Piece.text]

/-- The tokens of a comment are the insides of its mentions. -/
theorem tokens_pieces (wellFormed : ∀ p ∈ pieces, p.WellFormed) (separated : Separated pieces)
    (trails : Trails tail) :
    tokens none (pieces.flatMap (·.text.toList) ++ tail.toList) =
      pieces.filterMap Piece.inside? := by
  induction pieces with
  | nil =>
    rcases trails with rfl | ⟨⟨more, opener⟩, unclosed⟩
    · rfl
    · rw [List.flatMap_nil, List.nil_append, ← opener]
      rw [← opener] at unclosed
      exact tokens_unclosed (by simpa using unclosed) []
  | cons p pieces ih =>
    obtain ⟨formed, later⟩ := List.forall_mem_cons.mp wellFormed
    have rest := ih later separated.of_cons
    rw [List.flatMap_cons, List.append_assoc, List.filterMap_cons]
    cases token : p.inside? with
    | some inside =>
      rw [Piece.text_of_inside? token]
      simp only [List.cons_append, List.append_assoc, List.nil_append]
      rw [tokens, tokens_closing (formed.clear token), rest]
      rfl
    | none =>
      cases formed with
      | mention => cases token
      | plain unopened =>
        rw [Piece.text, tokens_plain unopened, rest]
        apply join_ne_tilde _ trails
        intro q first
        cases pieces with
        | nil => cases first
        | cons q pieces =>
          cases first
          exact (List.isChain_cons_cons.mp separated).1 rfl

/-- The search through a comment comes to an end without a cut through a character, and no account
is read twice or without a name. What is read of a comment that is made up of plain texts and
mentions, and perhaps ends with a mention that is not closed, is whom it mentions, in the order
of their first mention. -/
theorem mentions_read_back (body : String) :
    cutOut? (Text.Utf8.encode body) =
        some ((tokens none body.toList).map fun inside => Text.Utf8.encode (String.ofList inside)) ∧
      (all body).Nodup ∧ (∀ id ∈ all body, id.text ≠ "") ∧
      ∀ (pieces : List Piece) (tail : String),
        body = String.join (pieces.map Piece.text) ++ tail → (∀ p ∈ pieces, p.WellFormed) →
        Separated pieces → Trails tail →
        all body = (pieces.filterMap Piece.account?).eraseDups := by
  refine ⟨cutOut?_encode body, all_nodup body, fun id read => all_nonempty read, ?_⟩
  intro pieces tail made wellFormed separated trails
  have characters : body.toList = pieces.flatMap (·.text.toList) ++ tail.toList := by
    rw [made, String.toList_append, String.toList_join, List.flatMap_map]
  have named : (pieces.filterMap Piece.inside?).filterMap (fun inside =>
      accountOf? (account inside)) = pieces.filterMap Piece.account? := by
    rw [List.filterMap_filterMap]
    exact List.filterMap_congr fun p member => (wellFormed p member).accountOf?_inside
  rw [all_eq, characters, tokens_pieces wellFormed separated trails, named]

/-- Mentions of "ann" and "12" with texts around them, the last of which ends with an opener. -/
theorem greeting_read_back :
    let pieces : List Piece := [.plain "[", .mention false "" "ann" " ", .mention true " " "12" "",
      .plain "~ [", .mention false "" "ann" ""]
    (∀ p ∈ pieces, p.WellFormed) ∧ Separated pieces ∧ Trails "[~ann" ∧
      all "[[~ann ][~ accountid:12]~ [[~ann][~ann" = [⟨"ann"⟩, ⟨"12"⟩] := by
  intro pieces
  have blank : ∀ {text : String}, text.toList.all isBlank = true →
      ∀ c ∈ text.toList, isBlank c = true := List.all_eq_true.mp
  have wellFormed : ∀ p ∈ pieces, p.WellFormed := by
    simp only [pieces, List.forall_mem_cons]
    refine ⟨.plain (by decide), .mention (blank ?_) (blank ?_) ?_ ?_ ?_ ?_,
      .mention (blank ?_) (blank ?_) ?_ ?_ ?_ ?_, .plain (by decide),
      .mention (blank ?_) (blank ?_) ?_ ?_ ?_ ?_, by simp⟩ <;> decide +kernel
  have separated : Separated pieces := by
    unfold Separated
    decide
  have trails : Trails "[~ann" := .inr ⟨by decide, by decide⟩
  obtain ⟨-, -, -, read⟩ := mentions_read_back "[[~ann ][~ accountid:12]~ [[~ann][~ann"
  refine ⟨wellFormed, separated, trails, ?_⟩
  rw [read pieces "[~ann" (by decide) wellFormed separated trails]
  decide

end Herald.Mention
