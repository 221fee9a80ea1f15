import Herald.Event.Parse

/-!
# The shape of parsed events

What is certain about an event because it came from a payload. Three parts of an event
say whether it is about a comment: its kind, its flags and the comment itself. Main
statements: which event a payload stands for (`ofPayload_eq_some_iff`), that the three
parts agree in every event that a webhook stands for (`parse_aboutComment`), and that the
event tells nobody what they did themselves (`parse_not_acting`).
-/

namespace Herald

/-- A change of an issue's fields is only ever classified as an update of the issue. -/
theorem Change.flag?_isIssueUpdate {change : Change} {flag : EventFlag}
    (classified : change.flag? = some flag) : flag.isIssueUpdate = true := by
  unfold Change.flag? at classified
  dsimp only at classified
  split at classified
  · split at classified <;> cases classified <;> rfl
  · have listed : ∀ entry ∈ Change.fieldFlags, entry.2.isIssueUpdate = true := by decide
    obtain ⟨key, member⟩ : ∃ key, (key, flag) ∈ Change.fieldFlags := by
      obtain ⟨before, after, split, -⟩ := List.lookup_eq_some_iff.mp classified
      exact ⟨_, split ▸ List.mem_append_right before (List.mem_cons_self ..)⟩
    exact listed _ member

theorem EventFlag.isComment_of_isIssueUpdate {flag : EventFlag}
    (update : flag.isIssueUpdate = true) : flag.isComment = false := by
  cases flag <;> first | rfl | cases update

namespace Event

/-- The flags are about a comment exactly where the kind is. -/
theorem flagsOf_isComment (kind : EventKind) (fields : IssueFields) (changes : List Change) :
    (flagsOf kind fields changes).toList.any EventFlag.isComment = kind.isComment := by
  cases kind with
  | issueUpdated =>
    change List.any _ EventFlag.isComment = false
    rw [List.any_eq_false]
    intro flag member
    have listed : flag ∈ changes.filterMap Change.flag? := SortedSet.mem_ofList.mp member
    obtain ⟨change, -, classified⟩ := List.mem_filterMap.mp listed
    simp [EventFlag.isComment_of_isIssueUpdate (Change.flag?_isIssueUpdate classified)]
  | issueDeleted =>
    cases unresolved : fields.resolution.isNone <;> simp only [flagsOf, unresolved] <;> rfl
  | issueCreated => rfl
  | commentCreated => rfl
  | commentUpdated => rfl
  | commentDeleted => rfl

/-- The flag that stands for others is for subscriptions, and no event has it. -/
theorem updatedAny_not_mem_flagsOf (kind : EventKind) (fields : IssueFields)
    (changes : List Change) : .updatedAny ∉ flagsOf kind fields changes := by
  intro flagged
  replace flagged := SortedSet.mem_ofList.mp flagged
  cases kind with
  | issueUpdated =>
    obtain ⟨change, -, classified⟩ := List.mem_filterMap.mp flagged
    cases Change.flag?_isIssueUpdate classified
  | issueDeleted =>
    dsimp only at flagged
    split at flagged <;> simp at flagged
  | _ => simp at flagged

/-- The event of a payload whose parts are all at hand. -/
def assembled (p : Payload) (kind : EventKind) (issue : Payload.Issue) (comment : Option Comment)
    (key link : String) : Event :=
  let changelog := p.changelog.getD []
  let event : Event := {
    kind, comment, changelog
    flags := flagsOf kind issue.issueFields changelog
    issue := { id := issue.id.getD key, key := ⟨key⟩, link, fields := issue.issueFields }
    actor := p.user.bind Payload.Person.user?
    timestamp := p.timestamp.bind Timestamp.ofMillis?
    notifications := [] }
  { event with notifications := event.recipients }

/-- A payload stands for an event exactly where the parts that its kind needs are given,
and then for the one that they make up. -/
theorem ofPayload_eq_some_iff {p : Payload} {e : Event} :
    ofPayload p = .ok (some e) ↔ ∃ kind issue comment key link,
      p.kind? = some kind ∧ p.issue = some issue ∧
      (flagsOf kind issue.issueFields (p.changelog.getD [])).isEmpty = false ∧
      (if kind.isComment then some <$> commentOf p else .ok none) = .ok comment ∧
      issue.key = some key ∧
      (if kind.isComment then some (issue.link.getD "") else issue.link) = some link ∧
      assembled p kind issue comment key link = e := by
  unfold ofPayload
  cases declared : p.kind? with
  | none => simp
  | some kind =>
    cases present : p.issue with
    | none => simp [need, bind, Except.bind]
    | some issue =>
      cases unflagged : (flagsOf kind issue.issueFields (p.changelog.getD [])).isEmpty with
      | true => simp [need, unflagged, bind, Except.bind, pure, Except.pure]
      | false =>
        -- The branch on the kind is met twice, for the comment and for the link.
        cases about : kind.isComment <;> cases commentOf p <;>
          cases keyed : issue.key <;> cases linked : issue.link <;>
          simp [need, unflagged, about, keyed, linked, bind, Except.bind, pure, Except.pure,
            assembled, Functor.map, Except.map]

/-- A payload is ignored where it declares no event, or one of no flag. -/
theorem ofPayload_eq_none_iff {p : Payload} :
    ofPayload p = .ok none ↔ p.kind? = none ∨ ∃ kind issue, p.kind? = some kind ∧
      p.issue = some issue ∧
      (flagsOf kind issue.issueFields (p.changelog.getD [])).isEmpty = true := by
  unfold ofPayload
  cases declared : p.kind? with
  | none => simp
  | some kind =>
    cases present : p.issue with
    | none => simp [need, bind, Except.bind]
    | some issue =>
      cases unflagged : (flagsOf kind issue.issueFields (p.changelog.getD [])).isEmpty with
      | true => simp [need, unflagged, bind, Except.bind, pure, Except.pure]
      | false =>
        cases about : kind.isComment <;> cases commentOf p <;>
          cases keyed : issue.key <;> cases linked : issue.link <;>
          simp [need, unflagged, about, keyed, linked, bind, Except.bind, pure, Except.pure,
            Functor.map, Except.map]

/-- What a payload must hold to stand for an event, and where the event has its kind,
flags and comment from. -/
theorem ofPayload_some {p : Payload} {e : Event} (parsed : ofPayload p = .ok (some e)) :
    ∃ issue, p.kind? = some e.kind ∧ p.issue = some issue ∧
      e.flags = flagsOf e.kind issue.issueFields (p.changelog.getD []) ∧
      e.flags.isEmpty = false ∧
      (e.kind.isComment = true → ∃ comment, commentOf p = .ok comment ∧ e.comment = some comment) ∧
      (e.kind.isComment = false → e.comment = none) := by
  obtain ⟨kind, issue, comment, key, link, declared, given, flagged, commented, -, -, rfl⟩ :=
    ofPayload_eq_some_iff.mp parsed
  refine ⟨issue, declared, given, rfl, flagged, fun about => ?_, fun about => ?_⟩
  · change kind.isComment = true at about
    rw [if_pos about] at commented
    cases decoded : commentOf p with
    | error e => rw [decoded] at commented; cases commented
    | ok found =>
      rw [decoded] at commented
      cases commented
      exact ⟨found, rfl, rfl⟩
  · change kind.isComment = false at about
    rw [about] at commented
    cases commented
    rfl

/-- Nobody is told what they did themselves. -/
theorem mem_untold {acting : Option AccountId} {told : List AccountId} {n : Notification}
    {candidates : List Notification} (kept : n ∈ untold acting told candidates) :
    some n.recipient.account ≠ acting := by
  induction candidates generalizing told with
  | nil => cases kept
  | cons first rest ih =>
    unfold untold at kept
    dsimp only at kept
    split at kept
    · exact ih kept
    · rename_i fresh
      rcases List.mem_cons.mp kept with rfl | later
      · exact fun same => fresh (.inl same)
      · exact ih later

/-- What a webhook stands for is decided by its payload. -/
theorem parse_eq_ok_iff {body : Bytes} {e? : Option Event} :
    parse body = .ok e? ↔ ∃ document payload, Json.read? body = some document ∧
      Payload.decode document = some payload ∧ ofPayload payload = .ok e? := by
  unfold parse ofJson
  cases Json.read? body with
  | none => simp
  | some document => cases decoded : Payload.decode document <;> simp [decoded]

/-- The payload of a webhook that stands for an event. -/
theorem payload_of_parse {body : Bytes} {document : Json} {e : Event}
    (read : Json.read? body = some document) (parsed : parse body = .ok (some e)) :
    ∃ payload, Payload.decode document = some payload ∧ ofPayload payload = .ok (some e) := by
  obtain ⟨document', payload, read', decoded, stands⟩ := parse_eq_ok_iff.mp parsed
  cases read.symm.trans read'
  exact ⟨payload, decoded, stands⟩

/-- The event that the body of a webhook stands for, where it does. -/
def ofBody? (body : Bytes) : Option Event :=
  match parse body with
  | .ok e? => e?
  | .error _ => none

theorem ofBody?_eq_some_iff {body : Bytes} {e : Event} :
    ofBody? body = some e ↔ parse body = .ok (some e) := by
  unfold ofBody?
  cases parse body <;> simp

/-- A parsed event tells nobody what they did themselves. -/
theorem parse_not_acting {body : Bytes} {e : Event} (parsed : parse body = .ok (some e)) :
    ∀ n ∈ e.notifications, some n.recipient.account ≠ e.actingAccount := by
  intro n member
  obtain ⟨document, payload, -, -, stands⟩ := parse_eq_ok_iff.mp parsed
  obtain ⟨kind, issue, comment, key, link, -, -, -, -, -, -, rfl⟩ := ofPayload_eq_some_iff.mp stands
  exact mem_untold member

theorem parse_updatedAny_not_mem {body : Bytes} {e : Event}
    (parsed : parse body = .ok (some e)) : .updatedAny ∉ e.flags := by
  obtain ⟨document, payload, -, -, stands⟩ := parse_eq_ok_iff.mp parsed
  obtain ⟨issue, -, -, flags, -⟩ := ofPayload_some stands
  rw [flags]
  exact updatedAny_not_mem_flagsOf _ _ _

/-- Kind, flags and comment of a parsed event agree on whether it is about a
comment. -/
theorem parse_aboutComment {body : Bytes} {e : Event} (parsed : parse body = .ok (some e)) :
    e.isCommentEvent = e.kind.isComment ∧ e.comment.isSome = e.kind.isComment := by
  obtain ⟨document, payload, -, -, stands⟩ := parse_eq_ok_iff.mp parsed
  obtain ⟨issue, -, -, flags, -, commented, uncommented⟩ := ofPayload_some stands
  constructor
  · rw [isCommentEvent, flags, flagsOf_isComment]
  · cases about : e.kind.isComment with
    | true =>
      obtain ⟨comment, -, present⟩ := commented about
      simp [present]
    | false => simp [uncommented about]

end Event

end Herald
