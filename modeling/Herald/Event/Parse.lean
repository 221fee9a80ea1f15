import Herald.Event.Recipients
import Herald.Json.Reader
import Herald.Payload

/-!
# Events from webhooks

Which event a payload stands for. Payloads of other types, and updates of no
field that is classified, stand for none; a payload that lacks what its event
needs is refused.
-/

namespace Herald

inductive ParseError where
  /-- The payload is no JSON text of the right shape. -/
  | malformed
  | missingField (field : String)
  deriving DecidableEq, Repr

def ParseError.message : ParseError → String
  | .malformed => "JSON parse error"
  | .missingField field => "missing required field: " ++ field

namespace Payload

/-- The kind of event that a payload declares. -/
def kind? (p : Payload) : Option EventKind :=
  if p.webhook = "jira:issue_created" then some .issueCreated
  else if p.webhook = "jira:issue_deleted" then some .issueDeleted
  else if p.webhook = "jira:issue_updated" then
    if p.update = some "issue_commented" then some .commentCreated
    else if p.update = some "issue_comment_edited" then some .commentUpdated
    else if p.update = some "issue_comment_deleted" then some .commentDeleted
    else some .issueUpdated
  else if p.webhook = "comment_created" then some .commentCreated
  else if p.webhook = "comment_updated" then some .commentUpdated
  else if p.webhook = "comment_deleted" then some .commentDeleted
  else none

end Payload

/-- The flags of the fields that are classified by name alone. -/
def Change.fieldFlags : List (String × EventFlag) :=
  [("assignee", .updatedAssignee), ("attachment", .updatedAttachment),
    ("description", .updatedDescription), ("labels", .updatedLabels),
    ("priority", .updatedPriority), ("rank", .updatedRank), ("sprint", .updatedSprint),
    ("status", .updatedStatus), ("summary", .updatedSummary), ("issuetype", .updatedIssueType),
    ("fix version", .updatedFixVersion), ("version", .updatedAffectsVersion)]

/-- The flag of a change, by its field in lower case. A resolution that is set
resolves the issue, and one that is cleared reopens it. -/
def Change.flag? (change : Change) : Option EventFlag :=
  let field := String.ofList (Text.lower change.field.toList)
  if field = "resolution" then
    if change.newId.getD "" = "" then some .reopened else some .resolved
  else fieldFlags.lookup field

namespace Event

/-- The flags of an event. -/
def flagsOf (kind : EventKind) (fields : IssueFields) (changes : List Change) : FlagSet :=
  SortedSet.ofList (match kind with
    | .issueCreated => [.created]
    | .issueDeleted =>
      if fields.resolution.isNone then [.deleted, .deletedUnresolved] else [.deleted]
    | .issueUpdated => changes.filterMap Change.flag?
    | .commentCreated => [.createdComment]
    | .commentUpdated => [.updatedComment]
    | .commentDeleted => [.deletedComment])

/-- A part that must be given. -/
def need {α : Type} (field : String) : Option α → Except ParseError α
  | some a => .ok a
  | none => .error (.missingField field)

/-- The comment of an event about one. -/
def commentOf (p : Payload) : Except ParseError Comment := do
  let comment ← need "comment" p.comment
  return {
    id := ⟨← need "comment.id" comment.id⟩
    link := ← need "comment.self" comment.link
    author := ← need "comment.author" (comment.author.bind Payload.Person.user?)
    body := comment.body.getD "" }

/-- The event that a payload stands for, if any. -/
def ofPayload (p : Payload) : Except ParseError (Option Event) :=
  match p.kind? with
  | none => .ok none
  | some kind => do
    let issue ← need "issue" p.issue
    let fields := issue.issueFields
    let changelog := p.changelog.getD []
    let flags := flagsOf kind fields changelog
    if flags.isEmpty then return none
    let comment ← if kind.isComment then some <$> commentOf p else pure none
    let key ← need "issue.key" issue.key
    let link ← if kind.isComment then pure (issue.link.getD "") else need "issue.self" issue.link
    let event : Event := {
      kind, flags, comment, changelog
      issue := { id := issue.id.getD key, key := ⟨key⟩, link, fields }
      actor := p.user.bind Payload.Person.user?
      timestamp := p.timestamp.bind Timestamp.ofMillis?
      notifications := [] }
    return some { event with notifications := event.recipients }

/-- The event that the document of a webhook stands for, if any. -/
def ofJson (j : Json) : Except ParseError (Option Event) :=
  match Payload.decode j with
  | some p => ofPayload p
  | none => .error .malformed

/-- The event that the body of a webhook stands for, if any. -/
def parse (body : Bytes) : Except ParseError (Option Event) :=
  match Json.read? body with
  | some j => ofJson j
  | none => .error .malformed

end Event

end Herald
