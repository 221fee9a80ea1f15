import Herald.Proofs.Event.Certain
import Herald.Proofs.Event.Changelog
import Herald.Proofs.Event.Person

/-!
# What a webhook is answered with

Whether a webhook is ignored, refused or stands for an event is to be decided by a list of checks
on its document, of which the first that fails gives the answer. One of them is for the author of
a comment, who must have an identity that can be used. An author who has one and is hidden behind
an empty identity is refused all the same.

Main statement: this is what a body is parsed to, and what the document says about the time
and about who caused the event has no part in it (`parse_decided`).
-/

namespace Herald

/-- The answers to a webhook, without the event. -/
inductive Verdict where
  /-- The body is no document of a webhook. -/
  | malformed
  | ignored
  | lacking (field : String)
  | event
  deriving DecidableEq, Repr

namespace Event

def verdictOf : Except ParseError (Option Event) → Verdict
  | .ok (some _) => .event
  | .ok none => .ignored
  | .error (.missingField field) => .lacking field
  | .error .malformed => .malformed

/-- Only an update may have no flags, where none of its changes is classified. -/
theorem isEmpty_flagsOf (kind : EventKind) (fields : IssueFields) (changes : List Change) :
    (flagsOf kind fields changes).isEmpty =
      (kind == .issueUpdated && !changes.any fun change => change.flag?.isSome) := by
  cases kind with
  | issueUpdated =>
    have empty : (flagsOf .issueUpdated fields changes).isEmpty = true ↔
        ∀ change ∈ changes, change.flag? = none := by
      rw [SortedSet.isEmpty_iff]
      constructor
      · intro empty change listed
        by_contra classified
        obtain ⟨flag, classified⟩ := Option.ne_none_iff_exists'.mp classified
        have flagged : flag ∈ flagsOf .issueUpdated fields changes := by
          rw [flagsOf_eq_flagsTogether, Change.mem_flagsTogether]
          exact ⟨change, listed, classified⟩
        rw [empty] at flagged
        exact SortedSet.not_mem_empty flag flagged
      · intro unclassified
        apply SortedSet.ext_mem
        intro flag
        rw [flagsOf_eq_flagsTogether, Change.mem_flagsTogether]
        constructor
        · rintro ⟨change, listed, classified⟩
          rw [unclassified change listed] at classified
          cases classified
        · intro member
          exact absurd member (SortedSet.not_mem_empty flag)
    rw [Bool.eq_iff_iff, empty]
    simp
  | issueDeleted =>
    cases unresolved : fields.resolution.isNone <;> simp only [flagsOf, unresolved] <;> rfl
  | _ => rfl

end Event

namespace Payload

def changeKeys : List String :=
  ["field", "from", "fromString", "to", "toString"]

/-- The change is of a field that is classified, whatever the case of its name. -/
def changesClassified (change : Json) : Bool :=
  match change.part? changeKeys "field" with
  | some (.string field) => String.ofList (Text.lower field.toList) ∈ Change.classified
  | _ => false

/-- The changes of a changelog. -/
def items (changelog : Json) : List Json :=
  match changelog.part? ["items"] "items" with
  | some (.array items) => items
  | _ => []

/-- The types of webhooks that are handled. -/
def handled : List String :=
  ["jira:issue_created", "jira:issue_updated", "jira:issue_deleted", "comment_created",
    "comment_updated", "comment_deleted"]

/-- The finer types of issue updates that are about a comment. -/
def commentUpdates : List String :=
  ["issue_commented", "issue_comment_edited", "issue_comment_deleted"]

section Document

variable (document : Json)

/-- The declared type is one of the list. -/
def declares (types : List String) : Bool :=
  match document.part? keys "webhookEvent" with
  | some (.string type) => type ∈ types
  | _ => false

/-- The finer type is one of the list. -/
def details (types : List String) : Bool :=
  match document.given? keys "issue_event_type_name" with
  | some (.string type) => type ∈ types
  | _ => false

def isAboutComment : Bool :=
  declares document ["comment_created", "comment_updated", "comment_deleted"] ||
    declares document ["jira:issue_updated"] && details document commentUpdates

def isUpdate : Bool :=
  declares document ["jira:issue_updated"] && !details document commentUpdates

def issue? : Option Json :=
  document.given? keys "issue"

def comment? : Option Json :=
  document.given? keys "comment"

/-- The author that the document of a webhook gives for its comment. -/
def author? : Option Json :=
  (comment? document).bind (Json.given? Comment.keys "author")

/-- Some change of the changelog is of a field that is classified. -/
def changesSomething : Bool :=
  (document.given? keys "changelog").any fun changelog => (items changelog).any changesClassified

/-- What a webhook is checked for, in this order, each with the verdict on one that fails. -/
def checks : List (Bool × Verdict) :=
  let issue (key : String) := (issue? document).bind (·.given? Issue.keys key)
  let comment (key : String) := (comment? document).bind (·.given? Comment.keys key)
  let aboutComment := isAboutComment document
  [(declares document handled, .ignored),
    ((issue? document).isSome, .lacking "issue"),
    (!isUpdate document || changesSomething document, .ignored),
    (!aboutComment || (comment? document).isSome, .lacking "comment"),
    (!aboutComment || (comment "id").any Json.isId, .lacking "comment.id"),
    (!aboutComment || (comment "self").isSome, .lacking "comment.self"),
    (!aboutComment || (author? document).any fun author => (usable? author).isSome,
      .lacking "comment.author"),
    ((issue "key").isSome, .lacking "issue.key"),
    (aboutComment || (issue "self").isSome, .lacking "issue.self")]

/-- The first check that fails gives the verdict. -/
def verdict : Verdict :=
  match (checks document).find? (·.1 = false) with
  | some (_, verdict) => verdict
  | none => .event

/-- The webhook is about a comment and passes all checks before the one of the comment's author. -/
def reachesAuthor : Bool :=
  isAboutComment document && ((checks document).take 6).all (·.1)

/-- The author would be the next to be checked and has an identity that can be used, but an empty
one is given before it. -/
def missesAuthor : Bool :=
  reachesAuthor document &&
    (author? document).any fun author => (usable? author).isSome && isHidden author

end Document

theorem flag?_of_change {j : Json} {change : Change} (decoded : Payload.change j = some change) :
    change.flag?.isSome = changesClassified j := by
  simp only [Payload.change, Option.bind_eq_bind, Option.bind_eq_some_iff, Option.pure_def,
    Option.some.injEq] at decoded
  obtain ⟨m, read, field, hasField, oldId, -, oldText, -, newId, -, newText, -, rfl⟩ := decoded
  obtain ⟨part, given, isText⟩ := Option.bind_eq_some_iff.mp hasField
  rw [Json.record_eq_part? read (by decide), Json.text_eq_some_iff.mp isText] at given
  rw [Bool.eq_iff_iff, Change.flag?_isSome_iff, changesClassified, changeKeys, given]
  simp [Change.lowerField]

/-- What is had from each of some values can be had from what they were decoded from. -/
theorem map_of_mapM {α β γ : Type} {f : α → Option β} {p : α → γ} {q : β → γ}
    (same : ∀ a b, f a = some b → q b = p a) {as : List α} {bs : List β}
    (mapped : as.mapM f = some bs) : bs.map q = as.map p := by
  induction as generalizing bs with
  | nil =>
    cases mapped
    rfl
  | cons a as ih =>
    rw [List.mapM_cons] at mapped
    simp only [Option.bind_eq_bind, Option.bind_eq_some_iff, Option.pure_def,
      Option.some.injEq] at mapped
    obtain ⟨b, first, bs, rest, rfl⟩ := mapped
    rw [List.map_cons, List.map_cons, same a b first, ih rest]

theorem any_flag?_of_changes {j : Json} {changes : List Change}
    (decoded : Payload.changes j = some changes) :
    (changes.any fun change => change.flag?.isSome) = (items j).any changesClassified := by
  simp only [Payload.changes, Option.bind_eq_bind, Option.bind_eq_some_iff] at decoded
  obtain ⟨m, read, decoded⟩ := decoded
  rw [Json.record_eq_part? read (by decide)] at decoded
  have listed : (items j).mapM Payload.change = some changes := by
    unfold items
    cases part : j.part? ["items"] "items" with
    | none =>
      rw [part] at decoded
      cases decoded
      rfl
    | some part' =>
      rw [part] at decoded
      cases part' with
      | array items => exact decoded
      | _ => cases decoded
  have each := map_of_mapM (fun _ _ => flag?_of_change) listed
  simpa [List.any_map] using congrArg (List.any · id) each

theorem Issue.given_of_decode {j : Json} {issue : Issue} (decoded : decode j = some issue) :
    (j.given? keys "key").isSome = issue.key.isSome ∧
      (j.given? keys "self").isSome = issue.link.isSome := by
  simp only [decode, Option.bind_eq_bind, Option.bind_eq_some_iff, Option.pure_def,
    Option.some.injEq] at decoded
  obtain ⟨m, read, id, -, key, hasKey, self, hasSelf, fields, -, rfl⟩ := decoded
  exact ⟨Json.isSome_given? read (by decide) hasKey, Json.isSome_given? read (by decide) hasSelf⟩

theorem Issue.key_of_decode {j : Json} {i : Issue} (decoded : decode j = some i) :
    j.given? keys "key" = i.key.map .string := by
  simp only [decode, Option.bind_eq_bind, Option.bind_eq_some_iff, Option.pure_def,
    Option.some.injEq] at decoded
  obtain ⟨m, read, id, -, key, hasKey, self, -, fields, -, rfl⟩ := decoded
  exact Json.given?_text read (by decide) hasKey

/-- What the fields of an issue are read off of: the members with a key of their own. -/
theorem Fields.record_of_decode {j : Json} {f : Fields} (decoded : decode j = some f) :
    ∃ m, j.record keys keys.length = some m ∧
      Json.optional Payload.project (m "project") = some f.project ∧
      Json.optional Person.decode (m "assignee") = some f.assignee ∧
      Json.optional Person.decode (m "reporter") = some f.reporter ∧
      ∃ watches, Json.optional Payload.watches (m "watches") = some watches ∧
        f.watchers = watches.join := by
  cases j with
  | object members =>
    simp only [decode, Option.bind_eq_bind, Option.bind_eq_some_iff] at decoded
    obtain ⟨m, read, made⟩ := decoded
    obtain ⟨-, made⟩ := Option.ite_none_right_eq_some.mp made
    simp only [Option.pure_def, Option.bind_eq_some_iff, Option.some.injEq] at made
    obtain ⟨_, -, project, hasProject, _, -, _, -, _, -, _, -, assignee, hasAssignee, reporter,
      hasReporter, _, -, watches, hasWatches, rfl⟩ := made
    exact ⟨m, read, hasProject, hasAssignee, hasReporter, watches, hasWatches, rfl⟩
  | _ => cases decoded

/-- What the document of an issue gives for one of its fields. -/
def field? (issue : Json) (key : String) : Option Json :=
  (issue.given? Issue.keys "fields").bind (Json.given? Fields.keys key)

/-- What is had from a field of the document can be had from the fields of the issue. -/
theorem bind_field? {j : Json} {i : Issue} (decoded : Issue.decode j = some i) {key : String}
    {β : Type} {f : Json → Option β} {g : Fields → Option β}
    (same : ∀ part fields, Fields.decode part = some fields →
      (part.given? Fields.keys key).bind f = g fields) :
    (field? j key).bind f = i.fields.bind g := by
  simp only [Issue.decode, Option.bind_eq_bind, Option.bind_eq_some_iff, Option.pure_def,
    Option.some.injEq] at decoded
  obtain ⟨m, read, id, -, key, -, self, -, fields, hasFields, rfl⟩ := decoded
  rw [field?, Option.bind_assoc]
  exact Json.bind_given? read (by decide) hasFields same

theorem Comment.given_of_decode {j : Json} {comment : Comment} (decoded : decode j = some comment) :
    (j.given? keys "id").any Json.isId = comment.id.isSome ∧
      (j.given? keys "self").isSome = comment.link.isSome := by
  simp only [decode, Option.bind_eq_bind, Option.bind_eq_some_iff, Option.pure_def,
    Option.some.injEq] at decoded
  obtain ⟨m, read, id, hasId, self, hasSelf, body, -, author, -, rfl⟩ := decoded
  exact ⟨Json.any_isId read (by decide) hasId, Json.isSome_given? read (by decide) hasSelf⟩

theorem Comment.known_of_decode {j : Json} {comment : Comment} (decoded : decode j = some comment) :
    (j.given? keys "author").bind known = comment.author.bind Person.user? := by
  simp only [decode, Option.bind_eq_bind, Option.bind_eq_some_iff, Option.pure_def,
    Option.some.injEq] at decoded
  obtain ⟨m, read, id, -, self, -, body, -, author, hasAuthor, rfl⟩ := decoded
  exact Json.bind_given? read (by decide) hasAuthor fun _ _ => Person.known_of_decode

/-- Who caused an event, and who wrote its comment. -/
theorem known_of_decode {document : Json} {p : Payload} (decoded : decode document = some p) :
    (document.given? keys "user").bind known = p.user.bind Person.user? ∧
      (author? document).bind known = p.comment.bind fun comment =>
        comment.author.bind Person.user? := by
  simp only [decode, Option.bind_eq_bind, Option.bind_eq_some_iff, Option.pure_def,
    Option.some.injEq] at decoded
  obtain ⟨m, read, webhook, -, update, -, timestamp, -, user, hasUser, issue, -, comment,
    hasComment, changelog, -, rfl⟩ := decoded
  refine ⟨Json.bind_given? read (by decide) hasUser fun _ _ => Person.known_of_decode, ?_⟩
  rw [author?, Option.bind_assoc]
  exact Json.bind_given? read (by decide) hasComment fun _ _ => Comment.known_of_decode

/-- The issue of a payload is read off what its document gives as the issue. -/
theorem issue_of_decode {document issue : Json} {p : Payload} (decoded : decode document = some p)
    (given : issue? document = some issue) :
    ∃ i, p.issue = some i ∧ Issue.decode issue = some i := by
  simp only [decode, Option.bind_eq_bind, Option.bind_eq_some_iff, Option.pure_def,
    Option.some.injEq] at decoded
  obtain ⟨m, read, webhook, -, update, -, timestamp, -, user, -, issue', hasIssue, comment, -,
    changelog, -, rfl⟩ := decoded
  change document.given? keys "issue" = some issue at given
  rw [Json.optional_eq_given read (by decide)] at hasIssue
  change (document.given? keys "issue").elim _ _ = _ at hasIssue
  rw [given] at hasIssue
  obtain ⟨i, isIssue, rfl⟩ := Option.map_eq_some_iff.mp hasIssue
  exact ⟨i, rfl, isIssue⟩

/-- The kind that a payload declares, by the two types that it gives. -/
theorem kind?_cases (p : Payload) :
    p.kind?.isSome = decide (p.webhook ∈ handled) ∧
    ∀ kind, p.kind? = some kind →
      kind.isComment = (decide (p.webhook ∈ ["comment_created", "comment_updated",
        "comment_deleted"]) || decide (p.webhook ∈ ["jira:issue_updated"]) &&
          p.update.any (· ∈ commentUpdates)) ∧
      (kind == .issueUpdated) = (decide (p.webhook ∈ ["jira:issue_updated"]) &&
        !p.update.any (· ∈ commentUpdates)) := by
  unfold kind?
  have detailed : p.update.any (· ∈ commentUpdates) =
      decide (p.update ∈ commentUpdates.map some) := by
    cases p.update <;> simp
  rw [detailed]
  split_ifs <;> simp_all [handled, commentUpdates, EventKind.isComment]

/-- What the checks find in the document of a payload. -/
structure Checked (document : Json) (p : Payload) : Prop where
  handled : declares document Payload.handled = p.kind?.isSome
  aboutComment : ∀ kind, p.kind? = some kind → isAboutComment document = kind.isComment
  update : ∀ kind, p.kind? = some kind → isUpdate document = (kind == .issueUpdated)
  changes : changesSomething document = (p.changelog.getD []).any fun change => change.flag?.isSome
  issue : (issue? document).isSome = p.issue.isSome
  issueKey : ((issue? document).bind (·.given? Issue.keys "key")).isSome =
    (p.issue.bind (·.key)).isSome
  issueLink : ((issue? document).bind (·.given? Issue.keys "self")).isSome =
    (p.issue.bind (·.link)).isSome
  comment : (comment? document).isSome = p.comment.isSome
  commentId : ((comment? document).bind (·.given? Comment.keys "id")).any Json.isId =
    (p.comment.bind (·.id)).isSome
  commentLink : ((comment? document).bind (·.given? Comment.keys "self")).isSome =
    (p.comment.bind (·.link)).isSome
  author : (author? document).bind known =
    p.comment.bind fun comment => comment.author.bind Person.user?

theorem checked_of_decode {document : Json} {p : Payload} (decoded : decode document = some p) :
    Checked document p := by
  obtain ⟨-, written⟩ := known_of_decode decoded
  simp only [decode, Option.bind_eq_bind, Option.bind_eq_some_iff, Option.pure_def,
    Option.some.injEq] at decoded
  obtain ⟨m, read, webhook, hasWebhook, update, hasUpdate, timestamp, -, user, -, issue, hasIssue,
    comment, hasComment, changelog, hasChangelog, rfl⟩ := decoded
  have declared : ∀ types, declares document types = decide (webhook ∈ types) := by
    intro types
    obtain ⟨part, given, isText⟩ := Option.bind_eq_some_iff.mp hasWebhook
    rw [Json.record_eq_part? read (by decide), Json.text_eq_some_iff.mp isText] at given
    rw [declares, keys, given]
  have detailed : ∀ types, details document types = update.any (· ∈ types) := by
    intro types
    rw [details, keys, Json.given?_text read (by decide) hasUpdate]
    cases update <;> rfl
  obtain ⟨known, kinds⟩ := kind?_cases ⟨webhook, update, timestamp, user, issue, comment, changelog⟩
  have changed : changesSomething document =
      (changelog.getD []).any fun change => change.flag?.isSome := by
    have tested := Json.any_given? read (by decide) hasChangelog fun _ _ decoded =>
      (any_flag?_of_changes decoded).symm
    cases changelog <;> exact tested
  have ofIssue {p : Json → Bool} {q : Issue → Bool} :=
    Json.any_given? (p := p) (q := q) read (by decide) hasIssue
  have ofComment {p : Json → Bool} {q : Comment → Bool} :=
    Json.any_given? (p := p) (q := q) read (by decide) hasComment
  refine {
    handled := by rw [declared, known]
    aboutComment := fun kind declares => ?_
    update := fun kind declares => ?_
    changes := changed
    issue := Json.isSome_given? read (by decide) hasIssue
    issueKey := by
      rw [Option.isSome_bind, Option.isSome_bind]
      exact ofIssue fun _ _ decoded => (Issue.given_of_decode decoded).1
    issueLink := by
      rw [Option.isSome_bind, Option.isSome_bind]
      exact ofIssue fun _ _ decoded => (Issue.given_of_decode decoded).2
    comment := Json.isSome_given? read (by decide) hasComment
    commentId := by
      rw [Option.any_bind, Option.isSome_bind]
      exact ofComment fun _ _ decoded => (Comment.given_of_decode decoded).1
    commentLink := by
      rw [Option.isSome_bind, Option.isSome_bind]
      exact ofComment fun _ _ decoded => (Comment.given_of_decode decoded).2
    author := written }
  · rw [isAboutComment, declared, declared, detailed, (kinds kind declares).1]
  · rw [isUpdate, declared, detailed, (kinds kind declares).2]

/-- The payload has an author who is known where one is usable and not hidden. -/
theorem Checked.isSome_author {document : Json} {p : Payload} (checked : Checked document p) :
    (p.comment.bind fun comment => comment.author.bind Person.user?).isSome =
      ((author? document).any (fun author => (usable? author).isSome) &&
        !(author? document).any fun author => (usable? author).isSome && isHidden author) := by
  rw [← checked.author, Option.isSome_bind]
  cases author? document with
  | none => rfl
  | some author => cases hidden : isHidden author <;> simp [isSome_known, hidden]

/-- The verdict is the one of the checks, but an author who is hidden counts as no author. -/
theorem verdictOf_ofPayload {document : Json} {p : Payload} (checked : Checked document p) :
    Event.verdictOf (Event.ofPayload p) =
      if missesAuthor document then .lacking "comment.author" else verdict document := by
  have found := checked.isSome_author
  obtain ⟨handled, aboutComment, update, changes, issue, issueKey, issueLink, comment, commentId,
    commentLink, -⟩ := checked
  unfold Event.ofPayload missesAuthor reachesAuthor verdict checks
  simp only [handled, issue, issueKey, issueLink, comment, commentId, commentLink, changes]
  -- Of the author only matters whether he could be known and whether he is hidden then.
  generalize (author? document).any (fun author => (usable? author).isSome) = usable at found ⊢
  generalize ((author? document).any fun author => (usable? author).isSome && isHidden author) =
    hidden at found ⊢
  cases declared : p.kind? with
  | none => simp [Event.verdictOf]
  | some kind =>
    rw [aboutComment kind declared, update kind declared]
    cases present : p.issue with
    | none => simp [Event.need, Event.verdictOf, bind, Except.bind]
    | some i =>
      have flagged := Event.isEmpty_flagsOf kind i.issueFields (p.changelog.getD [])
      cases unflagged : (Event.flagsOf kind i.issueFields (p.changelog.getD [])).isEmpty with
      | true =>
        rw [unflagged] at flagged
        obtain ⟨isUpdate, unchanged⟩ := Bool.and_eq_true_iff.mp flagged.symm
        rw [Bool.not_eq_true'] at unchanged
        simp [Event.need, Event.verdictOf, unflagged, isUpdate, unchanged, bind, Except.bind, pure,
          Except.pure]
      | false =>
        have passed : (!(kind == .issueUpdated) ||
            (p.changelog.getD []).any fun change => change.flag?.isSome) = true := by
          rw [unflagged, eq_comm, Bool.and_eq_false_iff, Bool.not_eq_false'] at flagged
          rw [Bool.or_eq_true, Bool.not_eq_true']
          exact flagged
        rw [passed]
        cases about : kind.isComment with
        | false =>
          cases keyed : i.key <;> cases linked : i.link <;>
            simp [Event.need, Event.verdictOf, unflagged, about, keyed, linked, bind, Except.bind,
              pure, Except.pure]
        | true =>
          unfold Event.commentOf
          cases given : p.comment with
          | none =>
            simp [Event.need, Event.verdictOf, unflagged, about, bind, Except.bind, Functor.map,
              Except.map]
          | some c =>
            rw [given, Option.bind_some] at found
            cases author : c.author.bind Person.user? with
            | none =>
              have unknown : usable = false ∨ hidden = true := by
                simpa [author, or_iff_not_imp_left] using found
              rcases unknown with rfl | rfl <;>
                cases id : c.id <;> cases self : c.link <;>
                  simp [Event.need, Event.verdictOf, unflagged, about, id, self, author, bind,
                    Except.bind, Functor.map, Except.map]
            | some writer =>
              obtain ⟨rfl, rfl⟩ : usable = true ∧ hidden = false := by
                simpa [author] using found
              cases id : c.id <;> cases self : c.link <;> cases keyed : i.key <;>
                simp [Event.need, Event.verdictOf, unflagged, about, id, self, author, keyed, bind,
                  Except.bind, pure, Except.pure, Functor.map, Except.map]

/-- The first check that fails gives its verdict where no other check has the same one. -/
theorem verdict_eq_iff {document : Json} {before after : List (Bool × Verdict)} {passed : Bool}
    {field : String} (split : checks document = before ++ (passed, .lacking field) :: after)
    (others : ∀ check ∈ before ++ after, check.2 ≠ .lacking field) :
    verdict document = .lacking field ↔
      (∀ check ∈ before, check.1 = true) ∧ passed = false := by
  rw [List.forall_mem_append] at others
  unfold verdict
  rw [split, List.find?_append]
  cases early : before.find? (·.1 = false) with
  | some check =>
    have failed := List.find?_some early
    have member := List.mem_of_find?_eq_some early
    refine iff_of_false (others.1 check member) fun passes => ?_
    simp [passes.1 check member] at failed
  | none =>
    have passes : ∀ check ∈ before, check.1 = true := by simpa using early
    cases passed with
    | false => simpa using passes
    | true =>
      refine iff_of_false ?_ (by simp)
      rw [Option.none_or, List.find?_cons_of_neg (by simp)]
      cases late : after.find? (·.1 = false) with
      | some check => exact others.2 check (List.mem_of_find?_eq_some late)
      | none => exact nofun

theorem verdict_eq_lackingAuthor_iff (document : Json) :
    verdict document = .lacking "comment.author" ↔
      reachesAuthor document = true ∧
        (author? document).any (fun author => (usable? author).isSome) = false := by
  have split : checks document = (checks document).take 6 ++
      (!isAboutComment document || (author? document).any fun author => (usable? author).isSome,
        .lacking "comment.author") :: (checks document).drop 7 := rfl
  have others : ∀ check ∈ (checks document).take 6 ++ (checks document).drop 7,
      check.2 ≠ .lacking "comment.author" := by
    simp [checks]
  rw [verdict_eq_iff split others, reachesAuthor, Bool.and_eq_true, List.all_eq_true]
  cases isAboutComment document <;> simp

/-- An author who is missed would have passed. -/
theorem verdict_ne_lackingAuthor {document : Json} (missed : missesAuthor document = true) :
    verdict document ≠ .lacking "comment.author" := by
  rw [missesAuthor, Bool.and_eq_true, Option.any_eq_true] at missed
  obtain ⟨-, author, given, hidden⟩ := missed
  rw [Bool.and_eq_true] at hidden
  rw [ne_eq, verdict_eq_lackingAuthor_iff, given, Option.any_some, hidden.1]
  exact nofun

/-- The second document says what the first does, but perhaps something else about the time
and about who caused the event. The time is a number of 64 bits and the person is a record, if
they are given at all. -/
structure Retold (document document' : Json) : Prop where
  isRecord : (document'.record keys keys.length).isSome = true
  others : ∀ key ∈ keys, key ≠ "timestamp" → key ≠ "user" →
    document'.part? keys key = document.part? keys key
  timestamp : ∀ part, document'.given? keys "timestamp" = some part →
    ∃ i : Int, part = .number (.integer i) ∧ -0x8000000000000000 ≤ i ∧ i < 0x8000000000000000
  user : ∀ part, document'.given? keys "user" = some part → (Person.decode part).isSome = true

/-- The checks look at neither. -/
theorem Retold.checks_eq {document document' : Json} (retold : Retold document document') :
    checks document' = checks document ∧ missesAuthor document' = missesAuthor document := by
  have others : ∀ key ∈ keys, key ≠ "timestamp" → key ≠ "user" →
      document'.given? keys key = document.given? keys key := by
    intro key known time person
    rw [Json.given?, retold.others key known time person]
    rfl
  have declared : ∀ types, declares document' types = declares document types := by
    intro types
    rw [declares, retold.others "webhookEvent" (by decide) (by decide) (by decide)]
    rfl
  have detailed : ∀ types, details document' types = details document types := by
    intro types
    rw [details, others "issue_event_type_name" (by decide) (by decide) (by decide)]
    rfl
  have issue : issue? document' = issue? document :=
    others "issue" (by decide) (by decide) (by decide)
  have comment : comment? document' = comment? document :=
    others "comment" (by decide) (by decide) (by decide)
  have author : author? document' = author? document := by
    rw [author?, comment]
    rfl
  have changed : changesSomething document' = changesSomething document := by
    rw [changesSomething, others "changelog" (by decide) (by decide) (by decide)]
    rfl
  have about : isAboutComment document' = isAboutComment document := by
    simp only [isAboutComment, declared, detailed]
  have same : checks document' = checks document := by
    simp only [checks, about, isUpdate, declared, detailed, issue, comment, author, changed]
  refine ⟨same, ?_⟩
  rw [missesAuthor, reachesAuthor, about, same, author]
  rfl

/-- Neither can keep the document from being a payload. -/
theorem Retold.decode {document document' : Json} (retold : Retold document document')
    (decoded : (Payload.decode document).isSome = true) :
    (Payload.decode document').isSome = true := by
  obtain ⟨p, decoded⟩ := Option.isSome_iff_exists.mp decoded
  obtain ⟨n, read'⟩ := Option.isSome_iff_exists.mp retold.isRecord
  simp only [Payload.decode, Option.bind_eq_bind, Option.bind_eq_some_iff, Option.pure_def,
    Option.some.injEq] at decoded
  obtain ⟨m, read, webhook, hasWebhook, update, hasUpdate, timestamp, -, user, -, issue, hasIssue,
    comment, hasComment, changelog, hasChangelog, -⟩ := decoded
  have same : ∀ key ∈ keys, key ≠ "timestamp" → key ≠ "user" → m key = n key := by
    intro key known time person
    rw [Json.record_eq_part? read known, Json.record_eq_part? read' known]
    exact (retold.others key known time person).symm
  have dated : ∀ part, document'.given? keys "timestamp" = some part →
      (Json.int64 part).isSome = true := by
    intro part given
    obtain ⟨i, rfl, low, high⟩ := retold.timestamp part given
    rw [Json.int64, if_pos ⟨low, high⟩, Option.isSome_some]
  obtain ⟨timestamp', hasTimestamp⟩ := Json.exists_optional read' (by decide) dated
  obtain ⟨user', hasUser⟩ := Json.exists_optional read' (by decide) retold.user
  rw [same "webhookEvent" (by decide) (by decide) (by decide)] at hasWebhook
  rw [same "issue_event_type_name" (by decide) (by decide) (by decide)] at hasUpdate
  rw [same "issue" (by decide) (by decide) (by decide)] at hasIssue
  rw [same "comment" (by decide) (by decide) (by decide)] at hasComment
  rw [same "changelog" (by decide) (by decide) (by decide)] at hasChangelog
  apply Option.isSome_iff_exists.mpr
  refine ⟨⟨webhook, update, timestamp', user', issue, comment, changelog⟩, ?_⟩
  simp only [Payload.decode, Option.bind_eq_bind, Option.bind_eq_some_iff, Option.pure_def,
    Option.some.injEq]
  exact ⟨n, read', webhook, hasWebhook, update, hasUpdate, timestamp', hasTimestamp, user', hasUser,
    issue, hasIssue, comment, hasComment, changelog, hasChangelog, rfl⟩

end Payload

namespace Event

theorem verdictOf_parse (body : Bytes) :
    verdictOf (parse body) =
      match Json.read? body with
      | some document =>
        if (Payload.decode document).isSome then
          if Payload.missesAuthor document then .lacking "comment.author"
          else Payload.verdict document
        else .malformed
      | none => .malformed := by
  unfold parse
  cases Json.read? body with
  | none => rfl
  | some document =>
    dsimp only
    unfold ofJson
    cases decoded : Payload.decode document with
    | none => rfl
    | some p => exact Payload.verdictOf_ofPayload (Payload.checked_of_decode decoded)

theorem verdictOf_parse_of_decode {body : Bytes} {document : Json}
    (read : Json.read? body = some document) (decoded : (Payload.decode document).isSome = true) :
    verdictOf (parse body) =
      if Payload.missesAuthor document then .lacking "comment.author"
      else Payload.verdict document := by
  rw [verdictOf_parse, read]
  exact if_pos decoded

/-- A body is malformed or gets the verdict of the first check that fails, but is refused for want
of the author where a usable one is hidden, and only there departs from the checks. Another time or
another person in the webhook does not make it malformed, and changes nothing about the verdict. -/
theorem parse_decided (body : Bytes) :
    verdictOf (parse body) =
      (match Json.read? body with
      | some document =>
        if (Payload.decode document).isSome then
          if Payload.missesAuthor document then .lacking "comment.author"
          else Payload.verdict document
        else .malformed
      | none => .malformed) ∧
    ∀ document, Json.read? body = some document → (Payload.decode document).isSome = true →
      (verdictOf (parse body) = Payload.verdict document ↔
        Payload.missesAuthor document = false) ∧
      ∀ body' document', Json.read? body' = some document' →
        Payload.Retold document document' →
        (Payload.decode document').isSome = true ∧
          verdictOf (parse body') = verdictOf (parse body) := by
  refine ⟨verdictOf_parse body, fun document read decoded => ⟨?_, ?_⟩⟩
  · rw [verdictOf_parse_of_decode read decoded]
    cases missed : Payload.missesAuthor document with
    | false => simp
    | true => simpa using (Payload.verdict_ne_lackingAuthor missed).symm
  · intro body' document' read' retold
    have decoded' := retold.decode decoded
    obtain ⟨checks, missed⟩ := retold.checks_eq
    refine ⟨decoded', ?_⟩
    rw [verdictOf_parse_of_decode read decoded, verdictOf_parse_of_decode read' decoded', missed,
      Payload.verdict, checks]
    rfl

/-- A person with an empty account id and a name. -/
def hiddenPerson (name : String) : Json :=
  .object [("accountId", .string ""), ("name", .string name)]

/-- A webhook about a comment of such a person. -/
def hiddenAuthorBody : Bytes :=
  Text.Utf8.encode (
    "\x7b\"webhookEvent\":\"comment_created\",\"issue\":\x7b\"key\":\"P-1\"\x7d," ++
    "\"comment\":\x7b\"id\":\"7\",\"self\":\"https://t/c/7\"," ++
    "\"author\":\x7b\"accountId\":\"\",\"name\":\"ann\"\x7d\x7d\x7d")

def hiddenAuthor : Json :=
  .object [("webhookEvent", .string "comment_created"),
    ("issue", .object [("key", .string "P-1")]),
    ("comment", .object [("id", .string "7"), ("self", .string "https://t/c/7"),
      ("author", hiddenPerson "ann")])]

set_option maxRecDepth 4000 in
theorem hiddenAuthorBody_read : Json.read? hiddenAuthorBody = some hiddenAuthor := by
  with_unfolding_all rfl

/-- The checks do not decide about a webhook whose author is hidden. -/
theorem hidden_author_misjudged : ¬ ∀ (body : Bytes) (document : Json),
    Json.read? body = some document → (Payload.decode document).isSome = true →
    verdictOf (parse body) = Payload.verdict document := by
  intro decided
  have decoded : (Payload.decode hiddenAuthor).isSome = true := by decide
  have passed := decided _ _ hiddenAuthorBody_read decoded
  rw [verdictOf_parse_of_decode hiddenAuthorBody_read decoded] at passed
  revert passed
  decide

/-- The body of a webhook about a comment without a link. -/
def unlinkedBody (told : String) : Bytes :=
  Text.Utf8.encode (
    "\x7b\"webhookEvent\":\"comment_created\"," ++ told ++ "\"issue\":\x7b\"key\":\"P-1\"\x7d," ++
    "\"comment\":\x7b\"id\":\"7\",\"author\":\x7b\"name\":\"ann\"\x7d\x7d\x7d")

def unlinked (told : List (String × Json)) : Json :=
  .object (("webhookEvent", .string "comment_created") :: told ++
    [("issue", .object [("key", .string "P-1")]),
    ("comment", .object [("id", .string "7"), ("author", .object [("name", .string "ann")])])])

/-- A time that no calendar has, and a person who cannot be told from others. -/
def nobodyNever : List (String × Json) :=
  [("timestamp", .number (.integer 9223372036854775807)),
    ("user", .object [("name", .string "")])]

set_option maxRecDepth 4000 in
private theorem unlinkedBody_read : Json.read? (unlinkedBody "") = some (unlinked []) := by
  with_unfolding_all rfl

set_option maxRecDepth 4000 in
private theorem unlinkedBody_readNever :
    Json.read? (unlinkedBody
      "\"timestamp\":9223372036854775807,\"user\":\x7b\"name\":\"\"\x7d,") =
        some (unlinked nobodyNever) := by
  with_unfolding_all rfl

private theorem unlinked_retold : Payload.Retold (unlinked []) (unlinked nobodyNever) where
  isRecord := by decide
  others := by
    intro key known time person
    simp only [Payload.keys, List.mem_cons, List.not_mem_nil, or_false] at known
    rcases known with rfl | rfl | rfl | rfl | rfl | rfl | rfl
    case inr.inr.inl => exact absurd rfl time
    case inr.inr.inr.inl => exact absurd rfl person
    all_goals rfl
  timestamp := by
    rintro part ⟨⟩
    exact ⟨_, rfl, by decide, by decide⟩
  user := by
    rintro part ⟨⟩
    decide

/-- A webhook about a comment without a link is refused for want of the link, whenever it
happened and whoever caused it. One that passes all checks is refused for want of the author, who
has a name and an empty account id. -/
theorem undated_comment_decided :
    (Payload.Retold (unlinked []) (unlinked nobodyNever) ∧
      verdictOf (parse (unlinkedBody
        "\"timestamp\":9223372036854775807,\"user\":\x7b\"name\":\"\"\x7d,")) =
          .lacking "comment.self") ∧
    verdictOf (parse hiddenAuthorBody) = .lacking "comment.author" ∧
      Payload.verdict hiddenAuthor = .event ∧
      verdictOf (parse hiddenAuthorBody) ≠ Payload.verdict hiddenAuthor := by
  obtain ⟨decided, departs⟩ := parse_decided (unlinkedBody "")
  obtain ⟨refused, departs'⟩ := parse_decided hiddenAuthorBody
  have decoded : (Payload.decode (unlinked [])).isSome = true := by decide
  have decoded' : (Payload.decode hiddenAuthor).isSome = true := by decide
  obtain ⟨-, unchanged⟩ := departs _ unlinkedBody_read decoded
  obtain ⟨judged, -⟩ := departs' _ hiddenAuthorBody_read decoded'
  obtain ⟨-, same⟩ := unchanged _ _ unlinkedBody_readNever unlinked_retold
  refine ⟨⟨unlinked_retold, same.trans (decided.trans ?_)⟩, refused.trans ?_, by decide, ?_⟩
  · rw [unlinkedBody_read]
    dsimp only
    rw [if_pos decoded]
    decide
  · rw [hiddenAuthorBody_read]
    dsimp only
    rw [if_pos decoded']
    decide
  · rw [ne_eq, judged]
    decide

end Event

end Herald
