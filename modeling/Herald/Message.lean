import Herald.Event.Basic
import Herald.Instance
import Herald.Text.Lines

/-!
# Messages about events

What is posted about an event, in Markdown: a line that says who did what to
which issue, and after a blank line the comment as a quote or the changes as a
list.
-/

namespace Herald.Message

/-- What the actor did, as it reads after a name. -/
def verb (e : Event) : String :=
  match e.kind with
  | .issueCreated => "created"
  | .issueDeleted => "deleted"
  | .commentCreated => "commented on"
  | .commentUpdated => "edited a comment on"
  | .commentDeleted => "deleted a comment on"
  | .issueUpdated =>
    if EventFlag.resolved ∈ e.flags then "resolved"
    else if EventFlag.reopened ∈ e.flags then "reopened"
    else if e.flags.toList = [.updatedStatus] then "transitioned"
    else if e.flags.toList = [.updatedAssignee] then "changed the assignee of"
    else "updated"

/-- A link to the issue, with its summary. -/
def issueLink (e : Event) (i : Instance) : String :=
  let link := "[" ++ e.issue.key.text ++ "](" ++ i.browseUrl e.issue.key ++ ")"
  match e.issue.fields.summary with
  | some summary => if summary.isEmpty then link else link ++ ": " ++ summary
  | none => link

/-- A text line by line, with a quotation mark in front of each. -/
def quote (text : String) : String :=
  String.join ((Text.lines text.toList).map fun line => "\n> " ++ String.ofList line)

def changeLine (c : Change) : String :=
  "- **" ++ c.field ++ "**: " ++ c.oldText.getD "None" ++ " → " ++ c.newText.getD "None"

/-- The part after the first line. A deleted comment is not shown. -/
def details (e : Event) : String :=
  match e.comment with
  | some comment =>
    if e.kind = .commentDeleted ∨ comment.body.isEmpty then "" else "\n" ++ quote comment.body
  | none =>
    if e.changelog.isEmpty then ""
    else "\n" ++ String.join (e.changelog.map fun c => "\n" ++ changeLine c)

/-- The first line of a post to a channel. -/
def channelHeader (e : Event) (i : Instance) : String :=
  e.actorLabel ++ " " ++ verb e ++ " " ++ issueLink e i

/-- The post to a channel. -/
def channel (e : Event) (i : Instance) : String :=
  channelHeader e i ++ details e

/-- Why somebody is told directly, as it reads after a name. -/
def reason (e : Event) : Role → String
  | .assignee => if e.kind.isComment then "commented on your assigned issue" else "assigned you to"
  | .mention => "mentioned you on"
  | .reporter => "commented on your reported issue"
  | .watching => verb e ++ " watched issue"

/-- The first line of a direct message. -/
def directHeader (e : Event) (i : Instance) (role : Role) : String :=
  e.actorLabel ++ " " ++ reason e role ++ " " ++ issueLink e i

/-- The direct message to somebody with a role. -/
def direct (e : Event) (i : Instance) (role : Role) : String :=
  directHeader e i role ++ details e

end Herald.Message
