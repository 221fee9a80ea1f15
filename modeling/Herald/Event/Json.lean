import Herald.Event.Basic
import Herald.Json.Basic

/-!
# Events as JSON

How an event is written out. Every member is always present; what is not known
is null.
-/

namespace Herald

def User.toJson (u : User) : Json :=
  .object [("account_id", .string u.account.text), ("display_name", .string u.displayName)]

def Project.toJson (p : Project) : Json :=
  .object [("id", .string p.id), ("key", .string p.key), ("name", .string p.name)]

def IssueType.toJson (t : IssueType) : Json :=
  .object [("id", .string t.id), ("name", .string t.name)]

def IssueFields.toJson (f : IssueFields) : Json :=
  .object [("summary", .orNull .string f.summary), ("project", .orNull Project.toJson f.project),
    ("issue_type", .orNull IssueType.toJson f.issueType), ("status", .orNull .string f.status),
    ("priority", .orNull .string f.priority), ("resolution", .orNull .string f.resolution),
    ("assignee", .orNull User.toJson f.assignee), ("reporter", .orNull User.toJson f.reporter),
    ("labels", .ofTexts f.labels), ("watchers", .array (f.watchers.map User.toJson)),
    ("custom", .object (f.custom.entries.map fun (id, values) => (id, .ofTexts values)))]

def Issue.toJson (i : Issue) : Json :=
  .object [("id", .string i.id), ("key", .string i.key.text), ("self_link", .string i.link),
    ("fields", i.fields.toJson)]

def Comment.toJson (c : Comment) : Json :=
  .object [("id", .string c.id.text), ("self_link", .string c.link), ("author", c.author.toJson),
    ("body", .string c.body)]

def Change.toJson (c : Change) : Json :=
  .object [("field", .string c.field), ("from", .orNull .string c.oldId),
    ("from_string", .orNull .string c.oldText), ("to", .orNull .string c.newId),
    ("to_string", .orNull .string c.newText)]

def Notification.toJson (n : Notification) : Json :=
  .object [("recipient", n.recipient.toJson), ("role", .string n.role.name)]

/-- Flags are written as their names, in order. -/
def EventFlag.setToJson (flags : FlagSet) : Json :=
  .ofTexts (flags.toList.map EventFlag.name)

def Event.toJson (e : Event) : Json :=
  .object [("kind", .string e.kind.name), ("flags", EventFlag.setToJson e.flags),
    ("issue", e.issue.toJson),
    ("actor", .orNull User.toJson e.actor), ("comment", .orNull Comment.toJson e.comment),
    ("changelog", .array (e.changelog.map Change.toJson)),
    ("timestamp", .orNull (fun t => .string t.rfc3339) e.timestamp),
    ("notifications", .array (e.notifications.map Notification.toJson))]

end Herald
