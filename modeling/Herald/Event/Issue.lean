import Herald.Id
import Herald.Sorted.Map

/-!
# Issues

The fields of an issue that are shown and filtered on. A payload may leave most
of them out; `fillMissing` completes them from another source without touching
what is there.
-/

namespace Herald

/-- A person as a payload names them. -/
structure User where
  account : AccountId
  displayName : String
  deriving DecidableEq, Repr

/-- The name to show for a person: the account where there is no other. -/
def User.label (u : User) : String :=
  if u.displayName.isEmpty then u.account.text else u.displayName

structure Project where
  id : String
  key : String
  name : String
  deriving DecidableEq, Repr

structure IssueType where
  id : String
  name : String
  deriving DecidableEq, Repr

structure IssueFields where
  summary : Option String
  project : Option Project
  issueType : Option IssueType
  status : Option String
  priority : Option String
  resolution : Option String
  assignee : Option User
  reporter : Option User
  labels : List String
  watchers : List User
  /-- The values of custom fields by field id. -/
  custom : SortedMap String (List String)
  deriving DecidableEq, Repr

namespace IssueFields

/-- No field is known. -/
def none : IssueFields where
  summary := .none
  project := .none
  issueType := .none
  status := .none
  priority := .none
  resolution := .none
  assignee := .none
  reporter := .none
  labels := []
  watchers := []
  custom := .empty

/-- Everything that matching and rendering rely on is known. -/
def isComplete (f : IssueFields) : Bool :=
  f.summary.isSome && f.project.isSome && f.issueType.isSome

/-- The first list unless it is empty. -/
def orIfEmpty {α : Type} (a b : List α) : List α :=
  if a.isEmpty then b else a

/-- The fields with those that are missing taken from `other`. An empty list
counts as missing; custom fields are taken one by one. -/
def fillMissing (f other : IssueFields) : IssueFields where
  summary := f.summary.or other.summary
  project := f.project.or other.project
  issueType := f.issueType.or other.issueType
  status := f.status.or other.status
  priority := f.priority.or other.priority
  resolution := f.resolution.or other.resolution
  assignee := f.assignee.or other.assignee
  reporter := f.reporter.or other.reporter
  labels := orIfEmpty f.labels other.labels
  watchers := orIfEmpty f.watchers other.watchers
  custom := f.custom.union other.custom

end IssueFields

/-- The issue that an event is about. -/
structure Issue where
  id : String
  key : IssueKey
  link : String
  fields : IssueFields
  deriving DecidableEq, Repr

namespace Issue

def needsExpansion (i : Issue) : Bool :=
  !i.fields.isComplete

/-- The key of the issue's project: from the fields, or else from the issue's own
key. -/
def projectKey (i : Issue) : String :=
  match i.fields.project with
  | some project => project.key
  | none => i.key.project

/-- The values that a filter on a field compares with. Fields that are not known
have none. -/
def fieldValues (i : Issue) (key : String) : List String :=
  let f := i.fields
  if key = "labels" then f.labels
  else if key = "priority" then f.priority.toList
  else if key = "status" then f.status.toList
  else if key = "resolution" then f.resolution.toList
  else if key = "issuetype" then (f.issueType.map (·.id)).toList
  else if key = "project" then [i.projectKey]
  else if key = "assignee" then (f.assignee.map (·.account.text)).toList
  else if key = "reporter" then (f.reporter.map (·.account.text)).toList
  else (f.custom.get? key).getD []

end Issue

end Herald
