import Herald.Message
import Herald.Proofs.Text.Lines

/-!
# Comments in messages

A message shows the comment that it is about as a quote, after its first line and a blank one. So
that nobody can write a message into a comment, no line of the comment may stand without the mark of
a quote, whatever its author put there to end a line.

Main statements: how a message that quotes a comment falls into lines (`quotes_of_spelled`), and
that all messages about comments are of this form or do not show the comment
(`comments_stay_quoted`).
-/

namespace Herald

/-- The event with another text in its comment. -/
def Event.withBody (e : Event) (body : String) : Event :=
  { e with comment := e.comment.map fun comment => { comment with body } }

namespace Message

/-- What stands in front of each line of a quote. -/
def mark : List Char := "> ".toList

/-- The message is the header, a blank line and the lines of the comment behind their marks. Where
the header is a single line the message falls into just these at its line feeds. Were it split
into lines as the comment is, then these too would have the marks in front of them, and be those of
the comment but for carriage returns at their ends. -/
structure Quotes (header body message : String) : Prop where
  spelled : message = header ++ "\n" ++
    String.join ((Text.lines body.toList).map fun line => "\n> " ++ String.ofList line)
  parts : '\n' ∉ header.toList → message.toList.splitOn '\n' =
    header.toList :: [] :: (Text.lines body.toList).map (mark ++ ·)
  stripped : '\n' ∉ header.toList →
    ((message.toList.splitOn '\n').drop 2).map (·.drop mark.length) = Text.lines body.toList
  marked : '\n' ∉ header.toList → ∀ line ∈ (Text.lines message.toList).drop 2, mark <+: line
  lines : '\n' ∉ header.toList → (∀ line ∈ Text.lines body.toList, line.getLast? ≠ some '\r') →
    (Text.lines message.toList).drop 2 = (Text.lines body.toList).map (mark ++ ·)

variable {header body message : String}

/-- The message as its parts, put together with line feeds. -/
theorem toList_spelled (header : String) (found : List (List Char)) :
    (header ++ "\n" ++ String.join (found.map fun line => "\n> " ++ String.ofList line)).toList =
      ['\n'].intercalate (header.toList :: [] :: found.map (mark ++ ·)) := by
  rw [Text.intercalate_lineFeed]
  simp [mark, String.toList_join, List.flatMap_map]

theorem drop_ofParts (first : List Char) (parts : List (List Char)) :
    (Text.ofParts (first :: [] :: parts)).drop 2 = Text.ofParts parts := by
  cases parts <;> rfl

theorem quotes_of_spelled (spelled : message = header ++ "\n" ++
      String.join ((Text.lines body.toList).map fun line => "\n> " ++ String.ofList line)) :
    Quotes header body message := by
  have clear : ∀ part ∈ (Text.lines body.toList).map (mark ++ ·), '\n' ∉ part := by
    rw [List.forall_mem_map]
    intro line listed
    rw [List.mem_append, not_or]
    exact ⟨by decide, Text.lineFeed_not_mem_lines _ _ listed⟩
  have parts (single : '\n' ∉ header.toList) : message.toList.splitOn '\n' =
      header.toList :: [] :: (Text.lines body.toList).map (mark ++ ·) := by
    rw [spelled, toList_spelled]
    refine List.splitOn_intercalate _ ?_ (List.cons_ne_nil _ _)
    exact List.forall_mem_cons.mpr ⟨single, List.forall_mem_cons.mpr ⟨List.not_mem_nil, clear⟩⟩
  have lines (single : '\n' ∉ header.toList) : (Text.lines message.toList).drop 2 =
      Text.ofParts ((Text.lines body.toList).map (mark ++ ·)) := by
    rw [Text.lines_eq_ofParts, parts single, drop_ofParts]
  refine ⟨spelled, parts, fun single => ?_, fun single => ?_, fun single plain => ?_⟩
  · rw [parts single]
    simp [Function.comp_def]
  · rw [lines single]
    exact Text.isPrefix_of_mem_ofParts (by decide) (by simp)
  · rw [lines single]
    refine Text.ofParts_eq_self (by simp [mark]) ?_
    rw [List.forall_mem_map]
    intro line listed
    cases line with
    | nil => decide
    | cons c line => exact plain (c :: line) listed

variable {e : Event} {comment : Comment}

/-- What a message shows of a comment that was not deleted. -/
theorem details_quoted (present : e.comment = some comment) (kept : e.kind ≠ .commentDeleted)
    (said : comment.body ≠ "") : details e = "\n" ++ quote comment.body := by
  unfold details
  rw [present]
  exact if_neg (by simp [kept, said])

/-- A comment that was deleted is not shown. -/
theorem details_deleted (deleted : e.kind = .commentDeleted) (body : String) :
    details (e.withBody body) = details e := by
  have still : (e.withBody body).kind = .commentDeleted := deleted
  have there : (e.withBody body).comment =
      e.comment.map fun comment => { comment with body } := rfl
  unfold details
  rw [deleted, still, there]
  cases e.comment with
  | none => rfl
  | some comment => simp

theorem actorLabel_withBody (e : Event) (body : String) :
    (e.withBody body).actorLabel = e.actorLabel := by
  unfold Event.actorLabel Event.withBody
  cases e.actor <;> cases e.comment <;> rfl

theorem channelHeader_withBody (e : Event) (i : Instance) (body : String) :
    channelHeader (e.withBody body) i = channelHeader e i := by
  unfold channelHeader
  rw [actorLabel_withBody]
  rfl

theorem directHeader_withBody (e : Event) (i : Instance) (role : Role) (body : String) :
    directHeader (e.withBody body) i role = directHeader e i role := by
  unfold directHeader
  rw [actorLabel_withBody]
  cases role <;> rfl

/-- A message about a comment that was written or edited shows it as a quote under a header that
has nothing of it, to a channel as to somebody with a role. A message about a comment that was
deleted shows nothing of it. -/
theorem comments_stay_quoted (e : Event) (i : Instance) (role : Role) :
    (∀ comment, e.comment = some comment → (e.kind = .commentCreated ∨ e.kind = .commentUpdated) →
      comment.body ≠ "" →
        Quotes (channelHeader e i) comment.body (channel e i) ∧
        Quotes (directHeader e i role) comment.body (direct e i role)) ∧
    (∀ body, channelHeader (e.withBody body) i = channelHeader e i ∧
      directHeader (e.withBody body) i role = directHeader e i role) ∧
    (e.kind = .commentDeleted → ∀ body, channel (e.withBody body) i = channel e i ∧
      direct (e.withBody body) i role = direct e i role) := by
  refine ⟨fun comment present kind said => ?_, fun body => ?_, fun deleted body => ?_⟩
  · have kept : e.kind ≠ .commentDeleted := by
      rcases kind with created | updated
      · simp [created]
      · simp [updated]
    unfold channel direct
    rw [details_quoted present kept said, ← String.append_assoc, ← String.append_assoc]
    exact ⟨quotes_of_spelled rfl, quotes_of_spelled rfl⟩
  · exact ⟨channelHeader_withBody e i body, directHeader_withBody e i role body⟩
  · unfold channel direct
    rw [channelHeader_withBody, directHeader_withBody, details_deleted deleted]
    exact ⟨rfl, rfl⟩

/-- A comment whose author tries to end the quote in every way. -/
def unrulyEvent : Event where
  kind := .commentCreated
  flags := .ofList [.createdComment]
  issue := ⟨"1", ⟨"P-1"⟩, "", .none⟩
  actor := none
  comment := some ⟨⟨"7"⟩, "https://t/c/7", ⟨⟨"ann"⟩, ""⟩, "\r\n\nbob: \rdone\r\r\n# Note\n"⟩
  changelog := []
  timestamp := none
  notifications := []

/-- None of the attempts leaves a line without a mark. -/
theorem unruly_comment_quoted :
    (channel unrulyEvent ⟨⟨"tracker"⟩, "https://t", .cloud⟩).toList.splitOn '\n' =
      ["ann commented on [P-1](https://t/browse/P-1)", "", "> ", "> ", "> bob: \rdone\r",
        "> # Note"].map String.toList ∧
    (∀ line ∈ (Text.lines (direct unrulyEvent ⟨⟨"tracker"⟩, "https://t", .cloud⟩
      .mention).toList).drop 2, mark <+: line) ∧
    channel { unrulyEvent with kind := .commentDeleted } ⟨⟨"tracker"⟩, "https://t", .cloud⟩ =
      channel (Event.withBody { unrulyEvent with kind := .commentDeleted } "")
        ⟨⟨"tracker"⟩, "https://t", .cloud⟩ := by
  obtain ⟨quoted, -, -⟩ :=
    comments_stay_quoted unrulyEvent ⟨⟨"tracker"⟩, "https://t", .cloud⟩ .mention
  obtain ⟨-, -, deleted⟩ := comments_stay_quoted { unrulyEvent with kind := .commentDeleted }
    ⟨⟨"tracker"⟩, "https://t", .cloud⟩ .mention
  obtain ⟨posted, told⟩ := quoted _ rfl (.inl rfl) (by decide)
  refine ⟨(posted.parts (by decide +kernel)).trans (by decide +kernel), told.marked (by decide +kernel),
    (deleted rfl "").1.symm⟩

end Message

end Herald
