import Herald.Proofs.Event.Mentions
import Herald.Proofs.Event.Recipients
import Herald.Proofs.Json.Given
import Herald.Proofs.Run.Reading
import Mathlib.Logic.Relation

/-!
# What is certain about an event

Later stages take for granted what the parser has seen to: that kind, flags and comment
agree, that everybody in an event can be told apart by an account, and that the event has a
link to what it is about. Completing the issue brings in people of the tracker's answer, and
they have gone through the same decoder.

Main statements: completing the issue keeps all of this (`Certain.expanded`), so it holds of
every event that a webhook stands for, however often its issue is completed
(`parse_certain`).
-/

namespace Herald

namespace Payload

/-- The members of a webhook, of its issue and of its comment, in the order in which an
array gives them. -/
def keys : List String :=
  ["webhookEvent", "issue_event_type_name", "timestamp", "user", "issue", "comment", "changelog"]

def Issue.keys : List String :=
  ["id", "key", "self", "fields"]

def Comment.keys : List String :=
  ["id", "self", "body", "author"]

/-- What the document of a webhook gives as the link of its issue. -/
def issueLink? (document : Json) : Option Json :=
  (document.part? keys "issue").bind (·.part? Issue.keys "self")

/-- What the document of a webhook gives as the link of its comment. -/
def commentLink? (document : Json) : Option Json :=
  (document.part? keys "comment").bind (·.part? Comment.keys "self")

theorem Issue.decode_link {j : Json} {issue : Issue} {link : String} (decoded : decode j = some issue)
    (given : issue.link = some link) : j.part? keys "self" = some (.string link) := by
  simp only [decode, Option.bind_eq_bind, Option.bind_eq_some_iff, Option.pure_def,
    Option.some.injEq] at decoded
  obtain ⟨m, read, id, -, key, -, self, hasSelf, fields, -, rfl⟩ := decoded
  cases given
  obtain ⟨part, found, isText⟩ := Json.part?_of_optional read (by decide) hasSelf
  rw [keys, found, Json.text_eq_some_iff.mp isText]

theorem Comment.decode_link {j : Json} {comment : Comment} {link : String}
    (decoded : decode j = some comment) (given : comment.link = some link) :
    j.part? keys "self" = some (.string link) := by
  simp only [decode, Option.bind_eq_bind, Option.bind_eq_some_iff, Option.pure_def,
    Option.some.injEq] at decoded
  obtain ⟨m, read, id, -, self, hasSelf, body, -, author, -, rfl⟩ := decoded
  cases given
  obtain ⟨part, found, isText⟩ := Json.part?_of_optional read (by decide) hasSelf
  rw [keys, found, Json.text_eq_some_iff.mp isText]

/-- The links of a payload are those that its document gives. -/
theorem decode_links {document : Json} {p : Payload} (decoded : decode document = some p) :
    (∀ issue link, p.issue = some issue → issue.link = some link →
      issueLink? document = some (.string link)) ∧
    (∀ comment link, p.comment = some comment → comment.link = some link →
      commentLink? document = some (.string link)) := by
  simp only [decode, Option.bind_eq_bind, Option.bind_eq_some_iff, Option.pure_def,
    Option.some.injEq] at decoded
  obtain ⟨m, read, webhook, -, update, -, timestamp, -, user, -, issue, hasIssue, comment,
    hasComment, changelog, -, rfl⟩ := decoded
  constructor
  · intro issue link present given
    cases present
    obtain ⟨part, found, decoded⟩ := Json.part?_of_optional read (by decide) hasIssue
    rw [issueLink?, keys, found, Option.bind_some, Issue.decode_link decoded given]
  · intro comment link present given
    cases present
    obtain ⟨part, found, decoded⟩ := Json.part?_of_optional read (by decide) hasComment
    rw [commentLink?, keys, found, Option.bind_some, Comment.decode_link decoded given]

theorem Person.user?_account {p : Person} {u : User} (named : p.user? = some u) :
    u.account.text ≠ "" := by
  unfold Person.user? at named
  split at named
  · rename_i account given
    by_cases empty : account.isEmpty = true
    · rw [if_pos empty] at named
      cases named
    · rw [if_neg empty] at named
      cases named
      exact fun unnamed => empty (String.isEmpty_iff.mpr unnamed)
  · cases named

end Payload

namespace IssueFields

/-- Everybody that the fields of an issue name. -/
def people (f : IssueFields) : List User :=
  f.assignee.toList ++ f.reporter.toList ++ f.watchers

/-- Completing the fields brings in nobody else. -/
theorem mem_people_fillMissing {f other : IssueFields} {u : User}
    (named : u ∈ (f.fillMissing other).people) : u ∈ f.people ∨ u ∈ other.people := by
  have either : ∀ a b : Option User, u ∈ (a.or b).toList → u ∈ a.toList ∨ u ∈ b.toList := by
    intro a b member
    cases a with
    | none => exact .inr member
    | some _ => exact .inl member
  simp only [people, fillMissing, List.mem_append] at named ⊢
  rcases named with (assigned | reported) | watches
  · rcases either _ _ assigned with mine | others
    · exact .inl (.inl (.inl mine))
    · exact .inr (.inl (.inl others))
  · rcases either _ _ reported with mine | others
    · exact .inl (.inl (.inr mine))
    · exact .inr (.inl (.inr others))
  · unfold orIfEmpty at watches
    split at watches
    · exact .inr (.inr watches)
    · exact .inl (.inr watches)

end IssueFields

/-- The people of an issue have gone through the decoder of people. -/
theorem Payload.Issue.people_account (issue : Payload.Issue) :
    ∀ u ∈ issue.issueFields.people, u.account.text ≠ "" := by
  intro u member
  unfold issueFields at member
  cases given : issue.fields with
  | none =>
    rw [given] at member
    cases member
  | some fields =>
    rw [given] at member
    simp only [Option.map_some, Option.getD_some, IssueFields.people, Fields.issueFields,
      List.mem_append, Option.mem_toList, List.mem_filterMap,
      Option.bind_eq_some_iff] at member
    rcases member with (⟨person, -, named⟩ | ⟨person, -, named⟩) | ⟨person, -, named⟩ <;>
      exact Person.user?_account named

namespace Event

/-- Everybody in an event. -/
def people (e : Event) : List User :=
  e.actor.toList ++ e.comment.toList.map (·.author) ++ e.issue.fields.people ++
    e.notifications.map (·.recipient)

theorem assigned_account (e : Event) : ∀ u ∈ e.assigned, u.account.text ≠ "" := by
  intro u member
  unfold assigned at member
  obtain ⟨change, kept, rfl⟩ := List.mem_map.mp member
  simpa using (Bool.and_eq_true_iff.mp (List.mem_filter.mp kept).2).2

/-- Whom an event concerns is named by it, mentioned in the comment or newly assigned. -/
theorem concerned_account {e : Event} (named : ∀ u ∈ e.issue.fields.people, u.account.text ≠ "") :
    ∀ n ∈ e.concerned, n.recipient.account.text ≠ "" := by
  have assignee : ∀ u ∈ e.issue.fields.assignee.toList, u.account.text ≠ "" := by
    intro u member
    exact named u (by simp [IssueFields.people, member])
  have reporter : ∀ u ∈ e.issue.fields.reporter.toList, u.account.text ≠ "" := by
    intro u member
    exact named u (by simp [IssueFields.people, member])
  have watchers : ∀ u ∈ e.issue.fields.watchers, u.account.text ≠ "" := by
    intro u member
    exact named u (by simp [IssueFields.people, member])
  have mentioned : ∀ u ∈ e.comment.toList.flatMap fun comment =>
      (Mention.all comment.body).map (User.mk · ""), u.account.text ≠ "" := by
    intro u member
    obtain ⟨comment, -, inside⟩ := List.mem_flatMap.mp member
    obtain ⟨account, found, rfl⟩ := List.mem_map.mp inside
    exact (Mention.mem_all_iff.mp found).1
  have parties : ∀ party ∈ e.parties, ∀ u ∈ party.2, u.account.text ≠ "" := by
    unfold Event.parties
    cases e.kind with
    | issueCreated => exact List.forall_mem_singleton.mpr assignee
    | issueUpdated =>
      rw [List.forall_mem_cons, List.forall_mem_singleton]
      exact ⟨assigned_account e, watchers⟩
    | commentCreated | commentUpdated =>
      rw [List.forall_mem_cons, List.forall_mem_cons, List.forall_mem_cons,
        List.forall_mem_singleton]
      exact ⟨mentioned, assignee, reporter, watchers⟩
    | issueDeleted | commentDeleted => exact List.forall_mem_nil _
  intro n member
  obtain ⟨party, listed, inside⟩ := List.mem_flatMap.mp member
  obtain ⟨u, found, rfl⟩ := List.mem_map.mp inside
  exact parties party listed u found

/-- The flags of an event are about an update of the issue exactly where its kind is. -/
theorem flagsOf_isIssueUpdate {kind : EventKind} {fields : IssueFields} {changes : List Change}
    {flag : EventFlag} (flagged : flag ∈ flagsOf kind fields changes) :
    flag.isIssueUpdate = true ↔ kind = .issueUpdated := by
  replace flagged := SortedSet.mem_ofList.mp flagged
  cases kind with
  | issueUpdated =>
    obtain ⟨change, -, classified⟩ := List.mem_filterMap.mp flagged
    simp [Change.flag?_isIssueUpdate classified]
  | issueDeleted =>
    dsimp only at flagged
    split at flagged
    · rcases List.mem_pair.mp flagged with rfl | rfl <;> decide
    · rw [List.mem_singleton.mp flagged]
      decide
  | _ =>
    rw [List.mem_singleton.mp flagged]
    decide

/-- What later stages rely on about the event that a document stands for. -/
structure Certain (document : Json) (e : Event) : Prop where
  flagged : e.flags ≠ .empty
  not_updatedAny : .updatedAny ∉ e.flags
  commented : e.comment.isSome = e.kind.isComment
  commentFlagged : e.isCommentEvent = e.kind.isComment
  updateFlagged : ∀ flag ∈ e.flags, flag.isIssueUpdate = true ↔ e.kind = .issueUpdated
  acting : e.isCommentEvent = true → ∃ account, e.actingAccount = some account
  identified : ∀ u ∈ e.people, u.account.text ≠ ""
  linked : (if e.comment.isSome then Payload.commentLink? document
    else Payload.issueLink? document) = some (.string e.link)

/-- The second event is the first after its issue was completed from the tracker. -/
def ExpandsTo (e e' : Event) : Prop :=
  ∃ (σ : Type) (c : Collaborators σ) (s : σ) (session : Session) (issue? : Option Issue),
    ((session.expand? e.issue).run.exec c s).1 = some (.ok issue?) ∧
      e' = { e with issue := issue?.getD e.issue }

/-- Completing an issue may add people that the tracker names, and changes nothing else that
is relied on. -/
theorem Certain.expanded {document : Json} {e e' : Event} (certain : Certain document e)
    (expands : e.ExpandsTo e') : Certain document e' := by
  obtain ⟨σ, c, s, session, issue?, answered, rfl⟩ := expands
  have path := Run.path_trace c (session.expand? e.issue).run s
  rw [answered, Session.path_expand?] at path
  rcases path with ⟨-, -, rfl⟩ | ⟨-, answer, fields, -, decoded, rfl⟩
  · exact certain
  · obtain ⟨issue, -, rfl⟩ := Option.map_eq_some_iff.mp decoded
    refine { certain with identified := ?_ }
    intro u member
    simp only [people, List.mem_append, Option.getD_some] at member
    have known := certain.identified u
    simp only [people, List.mem_append] at known
    rcases member with ((actor | author) | concerned) | told
    · exact known (.inl (.inl (.inl actor)))
    · exact known (.inl (.inl (.inr author)))
    · rcases IssueFields.mem_people_fillMissing concerned with before | fetched
      · exact known (.inl (.inr before))
      · exact issue.people_account u fetched
    · exact known (.inr told)

/-- The comment of an event has its link and its author from the payload. -/
theorem commentOf_eq_ok {p : Payload} {comment : Comment} (decoded : commentOf p = .ok comment) :
    ∃ given author, p.comment = some given ∧ given.link = some comment.link ∧
      given.author = some author ∧ author.user? = some comment.author := by
  unfold commentOf at decoded
  cases present : p.comment with
  | none => simp [present, need, bind, Except.bind] at decoded
  | some given =>
    cases id : given.id <;> cases link : given.link <;>
      cases author : given.author.bind Payload.Person.user? <;>
      simp [present, id, link, author, need, bind, Except.bind, pure, Except.pure] at decoded
    subst decoded
    obtain ⟨person, named, identified⟩ := Option.bind_eq_some_iff.mp author
    exact ⟨given, person, rfl, link, named, identified⟩

/-- The comment of an event is that of its payload. -/
theorem ofPayload_comment {p : Payload} {e : Event} {comment : Comment}
    (stands : ofPayload p = .ok (some e)) (present : e.comment = some comment) :
    commentOf p = .ok comment := by
  obtain ⟨issue, -, -, -, -, commented, uncommented⟩ := ofPayload_some stands
  cases about : e.kind.isComment with
  | true =>
    obtain ⟨found, decoded, same⟩ := commented about
    rw [present] at same
    cases same
    exact decoded
  | false =>
    rw [uncommented about] at present
    cases present

theorem ofPayload_identified {p : Payload} {e : Event} (stands : ofPayload p = .ok (some e)) :
    ∀ u ∈ e.people, u.account.text ≠ "" := by
  have written : ∀ comment, e.comment = some comment → comment.author.account.text ≠ "" := by
    intro comment present
    obtain ⟨given, person, -, -, -, named⟩ := commentOf_eq_ok (ofPayload_comment stands present)
    exact Payload.Person.user?_account named
  obtain ⟨kind, issue, comment, key, link, -, -, -, -, -, -, rfl⟩ :=
    ofPayload_eq_some_iff.mp stands
  intro u member
  simp only [people, List.mem_append] at member
  rcases member with ((actor | author) | named) | told
  · obtain ⟨person, -, identified⟩ := Option.bind_eq_some_iff.mp (Option.mem_toList.mp actor)
    exact Payload.Person.user?_account identified
  · obtain ⟨present, listed, rfl⟩ := List.mem_map.mp author
    exact written present (Option.mem_toList.mp listed)
  · exact issue.people_account u named
  · obtain ⟨n, listed, rfl⟩ := List.mem_map.mp told
    change n ∈ recipients _ at listed
    rw [recipients_eq_untold] at listed
    have concerned := List.mem_mergeSort.mp ((untold_sublist _ _ _).subset listed)
    exact concerned_account issue.people_account n concerned

/-- The link of an event is the one that the payload gave for what the event is about. -/
theorem ofPayload_linked {document : Json} {p : Payload} {e : Event}
    (decoded : Payload.decode document = some p) (stands : ofPayload p = .ok (some e)) :
    (if e.comment.isSome then Payload.commentLink? document
      else Payload.issueLink? document) = some (.string e.link) := by
  obtain ⟨ofIssue, ofComment⟩ := Payload.decode_links decoded
  obtain ⟨-, -, -, -, -, commented, uncommented⟩ := ofPayload_some stands
  cases about : e.kind.isComment with
  | true =>
    obtain ⟨comment, found, present⟩ := commented about
    obtain ⟨given, author, listed, hasLink, -, -⟩ := commentOf_eq_ok found
    rw [link, present]
    exact ofComment given comment.link listed hasLink
  | false =>
    have absent := uncommented about
    obtain ⟨kind, issue, comment, key, link, -, given, -, -, -, linked, rfl⟩ :=
      ofPayload_eq_some_iff.mp stands
    change kind.isComment = false at about
    rw [about] at linked
    rw [Event.link, absent]
    exact ofIssue issue link given linked

/-- What is certain of every event that a webhook stands for, also after its issue was
completed any number of times. -/
theorem parse_certain {body : Bytes} {e : Event} (parsed : parse body = .ok (some e)) :
    ∃ document, Json.read? body = some document ∧
      ∀ e', Relation.ReflTransGen ExpandsTo e e' → Certain document e' := by
  obtain ⟨document, payload, read, decoded, stands⟩ := parse_eq_ok_iff.mp parsed
  obtain ⟨issue, -, -, flags, flagged, -, -⟩ := ofPayload_some stands
  obtain ⟨commentFlagged, commented⟩ := parse_aboutComment parsed
  have certain : Certain document e := by
    refine ⟨fun empty => ?_, parse_updatedAny_not_mem parsed, commented, commentFlagged, ?_, ?_,
      ofPayload_identified stands, ofPayload_linked decoded stands⟩
    · rw [SortedSet.isEmpty_iff.mpr empty] at flagged
      cases flagged
    · intro flag member
      rw [flags] at member
      exact flagsOf_isIssueUpdate member
    · intro about
      rw [commentFlagged, ← commented] at about
      obtain ⟨comment, present⟩ := Option.isSome_iff_exists.mp about
      exact ⟨comment.author.account, by rw [actingAccount, present]⟩
  refine ⟨document, read, fun e' expansions => ?_⟩
  induction expansions with
  | refl => exact certain
  | tail _ step ih => exact ih.expanded step

/-- The body of a webhook about a comment that says of its issue no more than which it is. -/
def bareBody : Bytes :=
  Text.Utf8.encode (
    "\x7b\"webhookEvent\":\"comment_created\",\"issue\":\x7b\"key\":\"P-1\"\x7d," ++
    "\"comment\":\x7b\"id\":\"7\",\"self\":\"https://t/c/7\"," ++
    "\"author\":\x7b\"name\":\"ann\"\x7d\x7d\x7d")

/-- A tracker that answers every request with an issue assigned to "bea" and reported by
somebody without a name. -/
def assignedToBea : Collaborators Unit where
  answer
    | .fetch _ _ _, s =>
      (some (.ok (.object [("fields", .object [("assignee", .object [("name", .string "bea")]),
        ("reporter", .object [("name", .string "")])])])), s)
    | _, s => (none, s)

/-- Of the two people that the tracker adds to the issue only the one with an account is in
the event. -/
theorem bare_comment_certain :
    ∃ document e e', parse bareBody = .ok (some e) ∧ e.ExpandsTo e' ∧ Certain document e' ∧
      e.people.map (·.account.text) = ["ann"] ∧ e'.people.map (·.account.text) = ["ann", "bea"] ∧
      e'.link = "https://t/c/7" := by
  have about : (ofBody? bareBody).any (fun e =>
      e.actor = none ∧ e.notifications = [] ∧
        e.comment = some ⟨⟨"7"⟩, "https://t/c/7", ⟨⟨"ann"⟩, ""⟩, ""⟩ ∧
        e.issue.fields = .none) = true := by
    decide +kernel
  obtain ⟨e, found, about⟩ := (Option.any_eq_true _ _).mp about
  obtain ⟨actor, nobody, comment, unknown⟩ := of_decide_eq_true about
  have parsed := ofBody?_eq_some_iff.mp found
  let session : Session :=
    ⟨⟨⟨"tracker"⟩, "https://t", .cloud⟩, ⟨⟨"ann"⟩, "ann", .bearer "token", .disabled⟩⟩
  let fields : IssueFields := { IssueFields.none with assignee := some ⟨⟨"bea"⟩, ""⟩ }
  let e' : Event := { e with issue := { e.issue with fields := e.issue.fields.fillMissing fields } }
  have answered : ((session.expand? e.issue).run.exec assignedToBea ()).1 =
      some (.ok (some e'.issue)) := by
    have needed : e.issue.needsExpansion = true := by
      rw [Issue.needsExpansion, unknown]
      rfl
    rw [Session.expand?, if_pos needed]
    rfl
  have expands : e.ExpandsTo e' := ⟨Unit, assignedToBea, (), session, _, answered, rfl⟩
  obtain ⟨document, -, certain⟩ := parse_certain parsed
  refine ⟨document, e, e', parsed, expands, certain e' (.single expands), ?_, ?_, ?_⟩
  · simp [people, actor, nobody, comment, unknown, IssueFields.people, IssueFields.none]
  · simp [e', fields, people, actor, nobody, comment, unknown, IssueFields.people,
      IssueFields.none, IssueFields.fillMissing, IssueFields.orIfEmpty]
  · simp [e', link, comment]

end Event

end Herald
