import Herald.Event.Basic
import Herald.Event.Mention
import Herald.Text.LowerCase

/-!
# Who is told directly

The direct messages that an event asks for. Each account is told once, under the
first of its roles, and the account that acted is not told at all.
-/

namespace Herald.Event

/-- The account that a change assigns the issue to. -/
def newAssignee? (change : Change) : Option User :=
  if Text.sameIgnoringAsciiCase change.field.toList "assignee".toList then
    match change.newId with
    | some account =>
      if account.isEmpty then none else some ⟨⟨account⟩, change.newText.getD ""⟩
    | none => none
  else none

/-- The people that an event concerns, each with the reason. -/
def candidates (e : Event) : List Notification :=
  let as (role : Role) (users : List User) := users.map fun u => (⟨u, role⟩ : Notification)
  let fields := e.issue.fields
  match e.kind with
  | .issueCreated => as .assignee fields.assignee.toList
  | .issueUpdated =>
    as .assignee (e.changelog.filterMap newAssignee?) ++ as .watching fields.watchers
  | .commentCreated | .commentUpdated =>
    let mentioned := (e.comment.map fun c => Mention.all c.body).getD []
    as .mention (mentioned.map fun account => ⟨account, ""⟩) ++
      as .assignee fields.assignee.toList ++ as .reporter fields.reporter.toList ++
      as .watching fields.watchers
  | .issueDeleted | .commentDeleted => []

/-- Leaves out the candidates whose account is `acting` or was `told` before. -/
def untold (acting : Option AccountId) :
    (told : List AccountId) → List Notification → List Notification
  | _, [] => []
  | told, n :: rest =>
    let account := n.recipient.account
    if some account = acting ∨ account ∈ told then untold acting told rest
    else n :: untold acting (account :: told) rest

/-- The direct messages that an event asks for, role by role. -/
def recipients (e : Event) : List Notification :=
  untold e.actingAccount [] (Role.all.flatMap fun role => e.candidates.filter (·.role = role))

end Herald.Event
