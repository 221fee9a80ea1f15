import Herald.Text.Affix

/-!
# Identifiers

The tracker, the chat and the relay all name things by text. Each kind of name
has a type of its own.
-/

namespace Herald

/-- An installed tracker. -/
structure InstanceId where
  text : String
  deriving DecidableEq, Hashable, Repr, Inhabited

/-- A user of the chat. -/
structure UserId where
  text : String
  deriving DecidableEq, Hashable, Repr, Inhabited

/-- An account of a tracker. -/
structure AccountId where
  text : String
  deriving DecidableEq, Hashable, Repr, Inhabited

/-- A channel of the chat. -/
structure ChannelId where
  text : String
  deriving DecidableEq, Hashable, Repr, Inhabited

/-- A post in the chat. -/
structure PostId where
  text : String
  deriving DecidableEq, Hashable, Repr, Inhabited

/-- A comment on an issue. -/
structure CommentId where
  text : String
  deriving DecidableEq, Hashable, Repr, Inhabited

/-- The key of an issue, such as PROJ-1. -/
structure IssueKey where
  text : String
  deriving DecidableEq, Hashable, Repr, Inhabited

/-- The part of an issue key before its last hyphen, or all of it where there is
none. -/
def IssueKey.project (key : IssueKey) : String :=
  match Text.beforeLast? '-' key.text.toList with
  | some project => String.ofList project
  | none => key.text

end Herald
