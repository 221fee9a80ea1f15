import Herald.Event.Flag
import Herald.Event.Issue
import Herald.Role
import Herald.Timestamp

/-!
# Events

What a webhook says has happened to an issue or to a comment on it.
-/

namespace Herald

inductive EventKind where
  | issueCreated
  | issueUpdated
  | issueDeleted
  | commentCreated
  | commentUpdated
  | commentDeleted
  deriving DecidableEq, Repr

namespace EventKind

def name : EventKind → String
  | .issueCreated => "issue_created"
  | .issueUpdated => "issue_updated"
  | .issueDeleted => "issue_deleted"
  | .commentCreated => "comment_created"
  | .commentUpdated => "comment_updated"
  | .commentDeleted => "comment_deleted"

def isComment : EventKind → Bool
  | .commentCreated | .commentUpdated | .commentDeleted => true
  | _ => false

end EventKind

structure Comment where
  id : CommentId
  /-- Where the comment can be read. -/
  link : String
  author : User
  body : String
  deriving DecidableEq, Repr

/-- One change of an issue's field. -/
structure Change where
  field : String
  /-- What the field held and holds now, by id and as shown. -/
  oldId : Option String
  oldText : Option String
  newId : Option String
  newText : Option String
  deriving DecidableEq, Repr

/-- A direct message that an event asks for. -/
structure Notification where
  recipient : User
  role : Role
  deriving DecidableEq, Repr

structure Event where
  kind : EventKind
  flags : FlagSet
  issue : Issue
  /-- Who caused the event, where the webhook tells. -/
  actor : Option User
  comment : Option Comment
  changelog : List Change
  timestamp : Option Timestamp
  notifications : List Notification
  deriving DecidableEq, Repr

namespace Event

/-- Where what the event is about can be read: the comment, or else the issue. -/
def link (e : Event) : String :=
  match e.comment with
  | some comment => comment.link
  | none => e.issue.link

def isCommentEvent (e : Event) : Bool :=
  e.flags.toList.any EventFlag.isComment

/-- The account whose permissions decide what may be shown: that of the
comment's author, or else of the actor. -/
def actingAccount (e : Event) : Option AccountId :=
  match e.comment with
  | some comment => some comment.author.account
  | none => e.actor.map (·.account)

/-- Who is named as having caused the event. -/
def actorLabel (e : Event) : String :=
  match e.actor, e.comment with
  | some actor, _ => actor.label
  | none, some comment => comment.author.label
  | none, none => "Someone"

end Event

end Herald
