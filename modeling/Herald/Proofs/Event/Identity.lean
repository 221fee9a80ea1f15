import Herald.Proofs.Event.Verdict

/-!
# Who the people of a webhook are

Everybody whom a webhook tells of and who has an identity that can be used is to be found in the
event: who caused it, who wrote the comment, and the assignee, the reporter and the watchers of the
issue. The decoder knows nobody who is hidden behind an empty identity.

Main statement: the people in an event are those of its webhook without those who are hidden behind
an empty identity, and for their sake alone the author of a comment is missed
(`people_identified_iff`).
-/

namespace Herald

/-- Nothing that would be mapped is lost exactly where all of it is kept. -/
theorem filterMap_filter_eq_iff {α β : Type} {p : α → Bool} {f : α → Option β} {l : List α} :
    (l.filter p).filterMap f = l.filterMap f ↔ ∀ a ∈ l, (f a).isSome = true → p a = true := by
  induction l with
  | nil => simp
  | cons a rest ih =>
    rw [List.forall_mem_cons, ← ih, List.filter_cons]
    cases kept : p a with
    | true => cases mapped : f a <;> simp [mapped]
    | false =>
      cases mapped : f a with
      | none => simp [mapped]
      | some b =>
        -- Only the right side has this image, and what is left of the rest is no longer than it.
        have shorter : ((rest.filter p).filterMap f).length < (b :: rest.filterMap f).length :=
          Nat.lt_succ_of_le ((List.filter_sublist.filterMap f).length_le)
        simp only [mapped, List.filterMap_cons, Option.isSome_some, Bool.false_eq_true, if_false,
          imp_false, not_true_eq_false, false_and, iff_false]
        intro same
        rw [same] at shorter
        exact Nat.lt_irrefl _ shorter

theorem filterMap_toList {α β : Type} (a? : Option α) (f : α → Option β) :
    a?.toList.filterMap f = (a?.bind f).toList := by
  cases a? with
  | none => rfl
  | some a => cases mapped : f a <;> simp [mapped]

namespace Payload

/-- The members of an array. -/
def listed : Json → List Json
  | .array items => items
  | _ => []

/-- The people that a webhook tells of. -/
inductive Place where
  | actor
  /-- The author of the comment, in a webhook about the comment. -/
  | author
  | assignee
  | reporter
  | watcher
  deriving DecidableEq, Repr

/-- The people that a document gives in a place. -/
def peopleAt (document : Json) : Place → List Json
  | .actor => (document.given? keys "user").toList
  | .author =>
    if isAboutComment document then (author? document).toList else []
  | .assignee => ((issue? document).bind (field? · "assignee")).toList
  | .reporter => ((issue? document).bind (field? · "reporter")).toList
  | .watcher => (((issue? document).bind (field? · "watches")).bind
      (Json.given? ["watchers"] "watchers")).elim [] listed

theorem known_of_listOf {j : Json} {people : List Person}
    (decoded : Json.listOf Person.decode j = some people) :
    (listed j).filterMap known = people.filterMap Person.user? := by
  cases j with
  | array items =>
    have each := map_of_mapM (fun _ _ decoded => (Person.known_of_decode decoded).symm) decoded
    rw [listed]
    simpa [List.filterMap_map, Function.comp_def] using congrArg (List.filterMap id) each.symm
  | _ => cases decoded

theorem known_of_watches {j : Json} {people? : Option (List Person)}
    (decoded : watches j = some people?) :
    (j.given? ["watchers"] "watchers").map (fun list => (listed list).filterMap known) =
      people?.map (·.filterMap Person.user?) := by
  simp only [watches, Option.bind_eq_bind, Option.bind_eq_some_iff] at decoded
  obtain ⟨m, read, hasPeople⟩ := decoded
  rw [Option.map_eq_bind, Option.map_eq_bind]
  exact Json.bind_given? read (by decide) hasPeople fun _ _ decoded =>
    congrArg some (known_of_listOf decoded)

theorem Fields.known_of_decode {j : Json} {f : Fields} (decoded : decode j = some f) :
    (j.given? keys "assignee").bind known = f.assignee.bind Person.user? ∧
      (j.given? keys "reporter").bind known = f.reporter.bind Person.user? ∧
      ((j.given? keys "watches").bind (Json.given? ["watchers"] "watchers")).map
          (fun list => (listed list).filterMap known) =
        f.watchers.map (·.filterMap Person.user?) := by
  obtain ⟨m, read, -, hasAssignee, hasReporter, watches, hasWatches, watchers⟩ :=
    record_of_decode decoded
  refine ⟨Json.bind_given? read (by decide) hasAssignee fun _ _ => Person.known_of_decode,
    Json.bind_given? read (by decide) hasReporter fun _ _ => Person.known_of_decode, ?_⟩
  rw [Option.map_bind, watchers]
  refine (Json.bind_given? read (by decide) hasWatches fun _ _ => known_of_watches).trans ?_
  cases watches <;> rfl

theorem Issue.known_of_decode {j : Json} {i : Issue} (decoded : decode j = some i) :
    (field? j "assignee").bind known = i.issueFields.assignee ∧
      (field? j "reporter").bind known = i.issueFields.reporter ∧
      (((field? j "watches").bind (Json.given? ["watchers"] "watchers")).elim [] listed).filterMap
        known = i.issueFields.watchers := by
  have watchers : ((field? j "watches").bind (Json.given? ["watchers"] "watchers")).map
        (fun list => (listed list).filterMap known) =
      i.fields.bind fun f => f.watchers.map (·.filterMap Person.user?) := by
    rw [Option.map_bind]
    refine bind_field? decoded fun _ _ decoded => ?_
    rw [← Option.map_bind]
    exact (Fields.known_of_decode decoded).2.2
  refine ⟨?_, ?_, ?_⟩
  · rw [bind_field? decoded fun _ _ decoded => (Fields.known_of_decode decoded).1]
    unfold issueFields
    cases i.fields <;> rfl
  · rw [bind_field? decoded fun _ _ decoded => (Fields.known_of_decode decoded).2.1]
    unfold issueFields
    cases i.fields <;> rfl
  · calc (((field? j "watches").bind (Json.given? ["watchers"] "watchers")).elim [] listed).filterMap
          known
      _ = (((field? j "watches").bind (Json.given? ["watchers"] "watchers")).map fun list =>
            (listed list).filterMap known).getD [] := by
          cases (field? j "watches").bind (Json.given? ["watchers"] "watchers") <;> rfl
      _ = (i.fields.bind fun f => f.watchers.map (·.filterMap Person.user?)).getD [] :=
          congrArg (Option.getD · []) watchers
      _ = i.issueFields.watchers := by
          unfold issueFields
          cases i.fields with
          | none => rfl
          | some f =>
            change (f.watchers.map _).getD [] = (f.watchers.getD []).filterMap Person.user?
            cases f.watchers <;> rfl

end Payload

namespace Event

/-- The people of an event in a place. -/
def usersAt (e : Event) : Payload.Place → List User
  | .actor => e.actor.toList
  | .author => (e.comment.map (·.author)).toList
  | .assignee => e.issue.fields.assignee.toList
  | .reporter => e.issue.fields.reporter.toList
  | .watcher => e.issue.fields.watchers

variable {body : Bytes} {e : Event} {document : Json}

/-- The author of the comment that an event is about. -/
theorem author_of_commentOf {p : Payload} {comment : Comment} (made : commentOf p = .ok comment) :
    (p.comment.bind fun told => told.author.bind Payload.Person.user?) = some comment.author := by
  obtain ⟨told, person, hasComment, -, hasAuthor, isUser⟩ := commentOf_eq_ok made
  rw [hasComment, Option.bind_some, hasAuthor, Option.bind_some, isUser]

/-- The people of an event are those of its webhook who are known. -/
theorem usersAt_eq (read : Json.read? body = some document) (parsed : parse body = .ok (some e))
    (place : Payload.Place) :
    e.usersAt place = (Payload.peopleAt document place).filterMap Payload.known := by
  obtain ⟨p, decoded, stands⟩ := payload_of_parse read parsed
  obtain ⟨kind, i, comment?, key, link, -, present, -, -, -, -, made⟩ := ofPayload_eq_some_iff.mp stands
  obtain ⟨-, declared, -, -, -, commented, uncommented⟩ := ofPayload_some stands
  obtain ⟨user, author⟩ := Payload.known_of_decode decoded
  have checked := Payload.checked_of_decode decoded
  obtain ⟨issue, given⟩ : ∃ issue, Payload.issue? document = some issue := by
    rw [← Option.isSome_iff_exists, checked.issue, present, Option.isSome_some]
  obtain ⟨_, isIssue, decodedIssue⟩ := Payload.issue_of_decode decoded given
  cases isIssue.symm.trans present
  obtain ⟨assignee, reporter, watchers⟩ := Payload.Issue.known_of_decode decodedIssue
  have actor : e.actor = p.user.bind Payload.Person.user? := by
    rw [← made]
    rfl
  have fields : e.issue.fields = i.issueFields := by
    rw [← made]
    rfl
  cases place with
  | actor => rw [usersAt, Payload.peopleAt, filterMap_toList, user, actor]
  | author =>
    rw [usersAt, Payload.peopleAt, checked.aboutComment _ declared]
    cases about : e.kind.isComment with
    | false =>
      rw [uncommented about]
      rfl
    | true =>
      obtain ⟨comment, taken, hasComment⟩ := commented about
      rw [hasComment, if_pos rfl, filterMap_toList, author, author_of_commentOf taken]
      rfl
  | assignee =>
    rw [usersAt, Payload.peopleAt, given, Option.bind_some, filterMap_toList, assignee, fields]
  | reporter =>
    rw [usersAt, Payload.peopleAt, given, Option.bind_some, filterMap_toList, reporter, fields]
  | watcher => rw [usersAt, Payload.peopleAt, given, Option.bind_some, watchers, fields]

theorem verdictOf_eq_lacking_iff {answer : Except ParseError (Option Event)} {field : String} :
    verdictOf answer = .lacking field ↔ answer = .error (.missingField field) := by
  rcases answer with (_ | given) | (_ | e) <;> simp [verdictOf]

theorem parse_eq_lackingAuthor_iff {author : Json} {account : String}
    (read : Json.read? body = some document) (given : Payload.author? document = some author)
    (usable : Payload.usable? author = some account) :
    parse body = .error (.missingField "comment.author") ↔
      (Payload.decode document).isSome = true ∧ Payload.reachesAuthor document = true ∧
        Payload.isHidden author = true := by
  have passed : Payload.verdict document ≠ .lacking "comment.author" := by
    rw [ne_eq, Payload.verdict_eq_lackingAuthor_iff, given, Option.any_some, usable]
    simp
  have missed : Payload.missesAuthor document = true ↔
      Payload.reachesAuthor document = true ∧ Payload.isHidden author = true := by
    rw [Payload.missesAuthor, given, Option.any_some, usable]
    simp
  rw [← verdictOf_eq_lacking_iff, ← missed]
  by_cases decoded : (Payload.decode document).isSome = true
  · rw [verdictOf_parse_of_decode read decoded]
    cases Payload.missesAuthor document <;> simp [decoded, passed]
  · rw [verdictOf_parse, read]
    dsimp only
    rw [if_neg decoded]
    simp [decoded]

/-- The people of an event are all those in its webhook who have an identity that can be used, but
for those who are hidden behind an empty one, and each in his first identity that can be used. So
they are all there exactly where nobody who can be known is hidden. An author who can be known is
missed exactly where he is hidden, and nothing was missed before. -/
theorem people_identified_iff (read : Json.read? body = some document) :
    (∀ e, parse body = .ok (some e) → ∀ place,
      e.usersAt place = ((Payload.peopleAt document place).filter
        (!Payload.isHidden ·)).filterMap Payload.identified ∧
      (e.usersAt place = (Payload.peopleAt document place).filterMap Payload.identified ↔
        ∀ person ∈ Payload.peopleAt document place, (Payload.usable? person).isSome = true →
          Payload.isHidden person = false)) ∧
    ∀ author account, Payload.author? document = some author →
      Payload.usable? author = some account →
      (parse body = .error (.missingField "comment.author") ↔
        (Payload.decode document).isSome = true ∧ Payload.reachesAuthor document = true ∧
          Payload.isHidden author = true) := by
  refine ⟨fun e parsed place => ?_, fun author account => parse_eq_lackingAuthor_iff read⟩
  have users : e.usersAt place = ((Payload.peopleAt document place).filter
      (!Payload.isHidden ·)).filterMap Payload.identified := by
    rw [usersAt_eq read parsed, List.filterMap_filter]
    refine List.filterMap_congr fun person _ => ?_
    unfold Payload.known
    cases Payload.isHidden person <;> rfl
  refine ⟨users, ?_⟩
  rw [users, filterMap_filter_eq_iff]
  simp [Payload.identified]

/-- A webhook about a new issue that such a person watches, and another one. -/
def hiddenWatcherBody : Bytes :=
  Text.Utf8.encode (
    "\x7b\"webhookEvent\":\"jira:issue_created\",\"issue\":\x7b\"key\":\"P-1\"," ++
    "\"self\":\"https://t/i/1\",\"fields\":\x7b\"watches\":\x7b\"watchers\":[" ++
    "\x7b\"accountId\":\"\",\"name\":\"bob\"\x7d,\x7b\"key\":\"cy\"\x7d]\x7d\x7d\x7d\x7d")

def hiddenWatcher : Json :=
  .object [("webhookEvent", .string "jira:issue_created"),
    ("issue", .object [("key", .string "P-1"), ("self", .string "https://t/i/1"),
      ("fields", .object [("watches", .object [("watchers",
        .array [hiddenPerson "bob", .object [("key", .string "cy")]])])])])]

set_option maxRecDepth 4000 in
private theorem hiddenWatcherBody_read : Json.read? hiddenWatcherBody = some hiddenWatcher := by
  with_unfolding_all rfl

private theorem hiddenWatcherBody_parsed : ∃ e, parse hiddenWatcherBody = .ok (some e) := by
  have stands : (ofBody? hiddenWatcherBody).isSome = true := by decide +kernel
  obtain ⟨e, found⟩ := Option.isSome_iff_exists.mp stands
  exact ⟨e, ofBody?_eq_some_iff.mp found⟩

/-- The author of a comment may be missed although he has a name. -/
theorem hidden_author_missed : ¬ ∀ (body : Bytes) (document author : Json) (account : String),
    Json.read? body = some document → (Payload.decode document).isSome = true →
    Payload.author? document = some author → Payload.usable? author = some account →
    parse body ≠ .error (.missingField "comment.author") := by
  intro found
  have given : Payload.author? hiddenAuthor = some (hiddenPerson "ann") := rfl
  have usable : Payload.usable? (hiddenPerson "ann") = some "ann" := by decide
  refine found _ _ _ _ hiddenAuthorBody_read (by decide) given usable ?_
  rw [parse_eq_lackingAuthor_iff hiddenAuthorBody_read given usable]
  decide

/-- The author is missed for his empty account id alone, and of the two watchers one is left. -/
theorem hidden_people_lost :
    parse hiddenAuthorBody = .error (.missingField "comment.author") ∧
    ∃ e, parse hiddenWatcherBody = .ok (some e) ∧ e.usersAt .watcher = [⟨⟨"cy"⟩, ""⟩] ∧
      (Payload.peopleAt hiddenWatcher .watcher).filterMap Payload.identified =
        [⟨⟨"bob"⟩, ""⟩, ⟨⟨"cy"⟩, ""⟩] := by
  obtain ⟨-, missed⟩ := people_identified_iff hiddenAuthorBody_read
  obtain ⟨present, -⟩ := people_identified_iff hiddenWatcherBody_read
  obtain ⟨e, parsed⟩ := hiddenWatcherBody_parsed
  obtain ⟨users, -⟩ := present e parsed .watcher
  refine ⟨(missed _ "ann" rfl (by decide)).mpr (by decide), e, parsed, ?_, by decide⟩
  rw [users]
  decide

end Event

end Herald
