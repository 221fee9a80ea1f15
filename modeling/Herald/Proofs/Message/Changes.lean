import Herald.Proofs.Event.Shape
import Herald.Proofs.Message.Quote

/-!
# Changes in messages

A message about an issue shows what was changed as a list, after its first line and a blank one.
Other than a comment, a change is written as it is: a text of several lines goes on below its item,
where it may pass for another item.

Main statements: the lines of a message with changes (`itemizes_of_spelled`), and that it has one
line for each change exactly where none of their texts has a line feed (`changes_itemized`).
-/

namespace Herald

/-- No text that is shown of the change has a line feed. -/
structure Change.SingleLine (c : Change) : Prop where
  field : '\n' ∉ c.field.toList
  oldText : ∀ text ∈ c.oldText, '\n' ∉ text.toList
  newText : ∀ text ∈ c.newText, '\n' ∉ text.toList

namespace Message

/-- What the item of a list begins with. -/
def bullet : List Char := "- **".toList

/-- Nothing that is shown above the changes has a line feed. -/
structure SingleHeader (e : Event) (i : Instance) : Prop where
  label : '\n' ∉ e.actorLabel.toList
  key : '\n' ∉ e.issue.key.text.toList
  summary : ∀ summary ∈ e.issue.fields.summary, '\n' ∉ summary.toList
  address : '\n' ∉ i.baseUrl.toList

/-- At its line feeds the message falls into the header, a blank line and so many items. -/
def Lists (header : String) (count : Nat) (message : String) : Prop :=
  ∃ items : List (List Char), message.toList.splitOn '\n' = header.toList :: [] :: items ∧
    items.length = count ∧ ∀ item ∈ items, bullet <+: item

/-- The message is the header, a blank line and all lines of the changes, in order. These are one
for each change exactly where no change has a text of several lines. -/
structure Itemizes (header : String) (changes : List Change) (message : String) : Prop where
  parts : message.toList.splitOn '\n' =
    header.toList :: [] :: changes.flatMap fun c => (changeLine c).toList.splitOn '\n'
  inOrder : (∀ c ∈ changes, c.SingleLine) → message.toList.splitOn '\n' =
    header.toList :: [] :: changes.map fun c => (changeLine c).toList
  lists_iff : Lists header changes.length message ↔ ∀ c ∈ changes, c.SingleLine

theorem isPrefix_changeLine (c : Change) : bullet <+: (changeLine c).toList := by
  unfold changeLine bullet
  simp only [String.toList_append, List.append_assoc]
  exact List.prefix_append _ _

theorem lineFeed_not_mem_getD {text? : Option String} :
    '\n' ∉ (text?.getD "None").toList ↔ ∀ text ∈ text?, '\n' ∉ text.toList := by
  cases text? with
  | none => simp
  | some text => simp

theorem singleLine_iff {c : Change} : c.SingleLine ↔ '\n' ∉ (changeLine c).toList := by
  unfold changeLine
  simp only [String.toList_append, List.mem_append, not_or, lineFeed_not_mem_getD]
  constructor
  · intro single
    exact ⟨⟨⟨⟨⟨by decide, single.field⟩, by decide⟩, single.oldText⟩, by decide⟩, single.newText⟩
  · rintro ⟨⟨⟨⟨⟨-, field⟩, -⟩, oldText⟩, -⟩, newText⟩
    exact ⟨field, oldText, newText⟩

/-- The changes have a line each, and as many more as there are line feeds in them. -/
theorem length_parts (changes : List Change) :
    (changes.flatMap fun c => (changeLine c).toList.splitOn '\n').length =
      changes.length + (changes.flatMap fun c => (changeLine c).toList).count '\n' := by
  induction changes with
  | nil => rfl
  | cons c rest ih =>
    rw [List.flatMap_cons, List.length_append, ih, Text.length_splitOn_lineFeed, List.flatMap_cons,
      List.count_append, List.length_cons]
    omega

theorem length_parts_iff {changes : List Change} :
    (changes.flatMap fun c => (changeLine c).toList.splitOn '\n').length = changes.length ↔
      ∀ c ∈ changes, c.SingleLine := by
  rw [length_parts, Nat.add_eq_left, List.count_eq_zero]
  simp only [List.mem_flatMap, not_exists, not_and, singleLine_iff]

theorem parts_of_single {changes : List Change} (single : ∀ c ∈ changes, c.SingleLine) :
    (changes.flatMap fun c => (changeLine c).toList.splitOn '\n') =
      changes.map fun c => (changeLine c).toList := by
  induction changes with
  | nil => rfl
  | cons c rest ih =>
    rw [List.forall_mem_cons] at single
    rw [List.flatMap_cons, List.splitOn_eq_singleton (singleLine_iff.mp single.1), ih single.2]
    rfl

variable {header : String} {changes : List Change}

theorem toList_itemized (header : String) (changes : List Change) :
    (header ++ ("\n" ++ String.join (changes.map fun c => "\n" ++ changeLine c))).toList =
      ['\n'].intercalate (header.toList :: [] :: changes.map fun c => (changeLine c).toList) := by
  rw [Text.intercalate_lineFeed]
  simp [String.toList_join, List.flatMap_map]

theorem itemizes_of_spelled (single : '\n' ∉ header.toList) : Itemizes header changes
    (header ++ ("\n" ++ String.join (changes.map fun c => "\n" ++ changeLine c))) := by
  have parts : (header ++ ("\n" ++ String.join (changes.map fun c =>
      "\n" ++ changeLine c))).toList.splitOn '\n' =
        header.toList :: [] :: changes.flatMap fun c => (changeLine c).toList.splitOn '\n' := by
    rw [toList_itemized, Text.splitOn_intercalate_lineFeed, List.flatMap_cons, List.flatMap_cons,
      List.splitOn_eq_singleton single, List.flatMap_map]
    rfl
  refine ⟨parts, fun each => ?_, ?_⟩
  · rw [parts, parts_of_single each]
  · unfold Lists
    rw [parts]
    constructor
    · rintro ⟨items, same, count, -⟩
      cases same
      exact length_parts_iff.mp count
    · intro each
      refine ⟨_, rfl, length_parts_iff.mpr each, ?_⟩
      rw [parts_of_single each, List.forall_mem_map]
      exact fun c _ => isPrefix_changeLine c

variable {e : Event} {i : Instance}

theorem lineFeed_not_mem_verb (e : Event) : '\n' ∉ (verb e).toList := by
  unfold verb
  cases e.kind with
  | issueUpdated =>
    dsimp only
    repeat' split
    all_goals decide
  | _ =>
    dsimp only
    decide

theorem lineFeed_not_mem_reason (e : Event) (role : Role) : '\n' ∉ (reason e role).toList := by
  unfold reason
  cases role with
  | assignee =>
    dsimp only
    split <;> decide
  | mention | reporter =>
    dsimp only
    decide
  | watching =>
    rw [String.toList_append, List.mem_append, not_or]
    exact ⟨lineFeed_not_mem_verb e, by decide⟩

theorem lineFeed_not_mem_issueLink (single : SingleHeader e i) : '\n' ∉ (issueLink e i).toList := by
  have link : '\n' ∉
      ("[" ++ e.issue.key.text ++ "](" ++ i.browseUrl e.issue.key ++ ")").toList := by
    unfold Instance.browseUrl
    simp [single.key, single.address]
  unfold issueLink
  cases given : e.issue.fields.summary with
  | none => exact link
  | some summary =>
    have clear := single.summary summary given
    dsimp only
    split
    · exact link
    · rw [String.toList_append, String.toList_append, List.mem_append, List.mem_append, not_or,
        not_or]
      exact ⟨⟨link, by decide⟩, clear⟩

theorem lineFeed_not_mem_channelHeader (single : SingleHeader e i) :
    '\n' ∉ (channelHeader e i).toList := by
  unfold channelHeader
  simp [single.label, lineFeed_not_mem_verb, lineFeed_not_mem_issueLink single]

theorem lineFeed_not_mem_directHeader (single : SingleHeader e i) (role : Role) :
    '\n' ∉ (directHeader e i role).toList := by
  unfold directHeader
  simp [single.label, lineFeed_not_mem_reason, lineFeed_not_mem_issueLink single]

/-- What a message about an issue shows of the changes. -/
theorem details_changed (about : e.comment = none) (changed : e.changelog ≠ []) :
    details e = "\n" ++ String.join (e.changelog.map fun c => "\n" ++ changeLine c) := by
  unfold details
  rw [about]
  exact if_neg (by simpa using changed)

theorem itemizes_channel (about : e.comment = none) (changed : e.changelog ≠ [])
    (single : SingleHeader e i) : Itemizes (channelHeader e i) e.changelog (channel e i) := by
  unfold channel
  rw [details_changed about changed]
  exact itemizes_of_spelled (lineFeed_not_mem_channelHeader single)

theorem itemizes_direct (about : e.comment = none) (changed : e.changelog ≠ [])
    (single : SingleHeader e i) (role : Role) :
    Itemizes (directHeader e i role) e.changelog (direct e i role) := by
  unfold direct
  rw [details_changed about changed]
  exact itemizes_of_spelled (lineFeed_not_mem_directHeader single role)

/-- A message about an issue that was changed is its first line, a blank one and the lines of the
changes, in order, to a channel as to somebody with a role. It has one line for each change, and all
of them begin as items, exactly where no field name, old value or new value has a line feed. -/
theorem changes_itemized (about : e.comment = none) (changed : e.changelog ≠ [])
    (single : SingleHeader e i) (role : Role) :
    Itemizes (channelHeader e i) e.changelog (channel e i) ∧
      Itemizes (directHeader e i role) e.changelog (direct e i role) := by
  constructor
  · exact itemizes_channel about changed single
  · exact itemizes_direct about changed single role

/-- A webhook about an issue whose new description has a second line that looks like a change of
the status. -/
def forgedBody : Bytes :=
  Text.Utf8.encode (
    "\x7b\"webhookEvent\":\"jira:issue_updated\",\"user\":\x7b\"name\":\"bob\"\x7d," ++
    "\"issue\":\x7b\"key\":\"P-1\",\"self\":\"https://t/i/1\"\x7d," ++
    "\"changelog\":\x7b\"items\":[\x7b\"field\":\"description\",\"fromString\":null," ++
    "\"toString\":\"Draft\\n- **status**: Open → Done\"\x7d]\x7d\x7d")

/-- What "bob" did to the issue, with so many changes. -/
def updateOf (changes : List Change) : Event where
  kind := .issueUpdated
  flags := .ofList [.updatedDescription]
  issue := ⟨"P-1", ⟨"P-1"⟩, "https://t/i/1", .none⟩
  actor := some ⟨⟨"bob"⟩, ""⟩
  comment := none
  changelog := changes
  timestamp := none
  notifications := []

def forgedChange : Change :=
  ⟨"description", none, none, none, some "Draft\n- **status**: Open → Done"⟩

/-- The changes that the message seems to tell. -/
def plainChanges : List Change :=
  [⟨"description", none, none, none, some "Draft"⟩,
    ⟨"status", none, some "Open", none, some "Done"⟩]

def tracker : Instance :=
  ⟨⟨"tracker"⟩, "https://t", .cloud⟩

private theorem forgedBody_parsed :
    Event.parse forgedBody = .ok (some (updateOf [forgedChange])) := by
  have found : Event.ofBody? forgedBody = some (updateOf [forgedChange]) := by decide +kernel
  exact Event.ofBody?_eq_some_iff.mp found

private theorem updateOf_singleHeader (changes : List Change) :
    SingleHeader (updateOf changes) tracker where
  label := show '\n' ∉ (User.label ⟨⟨"bob"⟩, ""⟩).toList by decide
  key := show '\n' ∉ "P-1".toList by decide
  summary := nofun
  address := by decide

private theorem forgedChange_not_singleLine : ¬ forgedChange.SingleLine := by
  intro single
  exact single.newText _ rfl (by decide)

private theorem plainChanges_singleLine : ∀ c ∈ plainChanges, c.SingleLine := by
  simp only [singleLine_iff]
  decide +kernel

/-- A value may add a line to the list that looks like a change. -/
theorem forged_change_listed : ¬ ∀ (body : Bytes) (e : Event) (i : Instance) (role : Role),
    Event.parse body = .ok (some e) → e.kind.isComment = false → e.changelog ≠ [] →
    SingleHeader e i → Lists (channelHeader e i) e.changelog.length (channel e i) ∧
      Lists (directHeader e i role) e.changelog.length (direct e i role) := by
  intro listed
  have changed : (updateOf [forgedChange]).changelog ≠ [] := List.cons_ne_nil _ _
  have header := updateOf_singleHeader [forgedChange]
  obtain ⟨posted, -⟩ := listed _ _ tracker .watching forgedBody_parsed rfl changed header
  have single := (itemizes_channel rfl changed header).lists_iff.mp posted
  exact forgedChange_not_singleLine (single _ List.mem_cons_self)

/-- For the one change there are two items, and no other ones than for the two that it feigns. -/
theorem forged_change_itemized :
    ¬ Lists (channelHeader (updateOf [forgedChange]) tracker) 1
      (channel (updateOf [forgedChange]) tracker) ∧
    (direct (updateOf [forgedChange]) tracker .watching).toList.splitOn '\n' =
      ["bob updated watched issue [P-1](https://t/browse/P-1)", "",
        "- **description**: None → Draft", "- **status**: Open → Done"].map String.toList ∧
    (direct (updateOf plainChanges) tracker .watching).toList.splitOn '\n' =
      ["bob updated watched issue [P-1](https://t/browse/P-1)", "",
        "- **description**: None → Draft", "- **status**: Open → Done"].map String.toList := by
  obtain ⟨posted, told⟩ := changes_itemized rfl (List.cons_ne_nil _ _)
    (updateOf_singleHeader [forgedChange]) .watching
  obtain ⟨-, plain⟩ := changes_itemized rfl (List.cons_ne_nil _ _)
    (updateOf_singleHeader plainChanges) .watching
  refine ⟨fun listed => ?_, told.parts.trans (by decide +kernel),
    (plain.inOrder plainChanges_singleLine).trans (by decide +kernel)⟩
  exact forgedChange_not_singleLine (posted.lists_iff.mp listed _ List.mem_cons_self)

end Message

end Herald
