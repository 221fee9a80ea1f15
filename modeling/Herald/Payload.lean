import Herald.Event.Basic
import Herald.Json.Decode

/-!
# Webhook payloads

The records that a webhook payload consists of, as they are sent, and the values
they stand for. Members that are null count as absent.
-/

namespace Herald.Payload

open Json (record required optional defaulted text listOf looseId)

/-- A person. Some trackers identify people by account id, others by name or
key. -/
structure Person where
  accountId : Option String
  name : Option String
  key : Option String
  displayName : Option String
  deriving DecidableEq, Repr

namespace Person

def decode (j : Json) : Option Person := do
  let m ← j.record ["accountId", "name", "key", "displayName"] 4
  return {
    accountId := ← optional text (m "accountId")
    name := ← optional text (m "name")
    key := ← optional text (m "key")
    displayName := ← optional text (m "displayName") }

/-- The person under the first identity that is given, unless that is empty. -/
def user? (p : Person) : Option User :=
  match (p.accountId.or p.name).or p.key with
  | some account =>
    if account.isEmpty then none else some ⟨⟨account⟩, p.displayName.getD ""⟩
  | none => none

end Person

/-- The member `name` of a record that has no other. -/
def named (j : Json) : Option (Option String) := do
  let m ← j.record ["name"] 1
  optional text (m "name")

def project (j : Json) : Option Herald.Project := do
  let m ← j.record ["id", "key", "name"] 3
  return {
    id := (← looseId (m "id")).getD ""
    key := (← optional text (m "key")).getD ""
    name := (← optional text (m "name")).getD "" }

def issueType (j : Json) : Option Herald.IssueType := do
  let m ← j.record ["id", "name"] 2
  return {
    id := (← looseId (m "id")).getD ""
    name := (← optional text (m "name")).getD "" }

/-- The people of the member `watchers` of a record that has no other. -/
def watches (j : Json) : Option (Option (List Person)) := do
  let m ← j.record ["watchers"] 1
  optional (listOf Person.decode) (m "watchers")

/-- The fields of an issue, and the members that are none of them. -/
structure Fields where
  summary : Option String
  project : Option Herald.Project
  issueType : Option Herald.IssueType
  status : Option String
  priority : Option String
  resolution : Option String
  assignee : Option Person
  reporter : Option Person
  labels : Option (List String)
  watchers : Option (List Person)
  others : List (String × Json)

namespace Fields

def keys : List String :=
  ["summary", "project", "issuetype", "status", "priority", "resolution", "assignee", "reporter",
    "labels", "watches"]

/-- Fields are sent as an object only, and every member must be readable that is
kept for its key. -/
def decode : Json → Option Fields
  | .object members => do
    let m ← (Json.object members).record keys keys.length
    let others := members.filter fun member => member.1 ∉ keys
    if Json.readableMembers others then
      return {
        summary := ← optional text (m "summary")
        project := ← optional Payload.project (m "project")
        issueType := ← optional Payload.issueType (m "issuetype")
        status := (← optional named (m "status")).join
        priority := (← optional named (m "priority")).join
        resolution := (← optional named (m "resolution")).join
        assignee := ← optional Person.decode (m "assignee")
        reporter := ← optional Person.decode (m "reporter")
        labels := ← optional (listOf text) (m "labels")
        watchers := (← optional watches (m "watches")).join
        others }
    else none
  | _ => none

mutual

/-- The texts in the value of a custom field: strings, numbers and truth values as
printed, arrays item by item, and of an object the string `value`, or `name`
where there is no `value`. -/
def texts : Json → List String
  | .string s => [s]
  | .number n => [n.text]
  | .bool true => ["true"]
  | .bool false => ["false"]
  | .array items => itemTexts items
  | .object members =>
    let j := Json.object members
    (((j.member? "value").or (j.member? "name")).bind Json.string?).toList
  | .null | .unreadable => []
termination_by structural j => j

def itemTexts : List Json → List String
  | [] => []
  | item :: rest => texts item ++ itemTexts rest
termination_by structural items => items

end

/-- The texts of a custom field, if the key names one and it has any. -/
def customTexts? (key : String) (value : Json) : Option (List String) :=
  if Text.startsWith "customfield_".toList key.toList then
    match texts value with
    | [] => none
    | values => some values
  else none

/-- The custom fields with their texts. Of a repeated key the last value
counts. -/
def custom (f : Fields) : SortedMap String (List String) :=
  (SortedMap.ofList f.others).filterMap customTexts?

def issueFields (f : Fields) : IssueFields where
  summary := f.summary
  project := f.project
  issueType := f.issueType
  status := f.status
  priority := f.priority
  resolution := f.resolution
  assignee := f.assignee.bind Person.user?
  reporter := f.reporter.bind Person.user?
  labels := f.labels.getD []
  watchers := (f.watchers.getD []).filterMap Person.user?
  custom := f.custom

end Fields

structure Issue where
  id : Option String
  key : Option String
  link : Option String
  fields : Option Fields

namespace Issue

def decode (j : Json) : Option Issue := do
  let m ← j.record ["id", "key", "self", "fields"] 4
  return {
    id := ← looseId (m "id")
    key := ← optional text (m "key")
    link := ← optional text (m "self")
    fields := ← optional Fields.decode (m "fields") }

def issueFields (i : Issue) : IssueFields :=
  (i.fields.map Fields.issueFields).getD .none

end Issue

structure Comment where
  id : Option String
  link : Option String
  body : Option String
  author : Option Person
  deriving DecidableEq, Repr

def Comment.decode (j : Json) : Option Comment := do
  let m ← j.record ["id", "self", "body", "author"] 4
  return {
    id := ← looseId (m "id")
    link := ← optional text (m "self")
    body := ← optional text (m "body")
    author := ← optional Person.decode (m "author") }

def change (j : Json) : Option Change := do
  let m ← j.record ["field", "from", "fromString", "to", "toString"] 5
  return {
    field := ← required text (m "field")
    oldId := ← looseId (m "from")
    oldText := ← optional text (m "fromString")
    newId := ← looseId (m "to")
    newText := ← optional text (m "toString") }

/-- The changes of a changelog, which may have no member for them. -/
def changes (j : Json) : Option (List Change) := do
  let m ← j.record ["items"] 0
  defaulted [] (listOf change) (m "items")

end Payload

/-- A webhook payload. -/
structure Payload where
  /-- The declared type of the webhook. -/
  webhook : String
  /-- The finer type that issue updates may declare. -/
  update : Option String
  timestamp : Option Int
  user : Option Payload.Person
  issue : Option Payload.Issue
  comment : Option Payload.Comment
  changelog : Option (List Change)

namespace Payload

open Json (required optional text)

/-- Reads a payload off its document. -/
def decode (j : Json) : Option Payload := do
  let m ← j.record ["webhookEvent", "issue_event_type_name", "timestamp", "user", "issue",
    "comment", "changelog"] 7
  return {
    webhook := ← required text (m "webhookEvent")
    update := ← optional text (m "issue_event_type_name")
    timestamp := ← optional Json.int64 (m "timestamp")
    user := ← optional Person.decode (m "user")
    issue := ← optional Issue.decode (m "issue")
    comment := ← optional Comment.decode (m "comment")
    changelog := ← optional changes (m "changelog") }

end Payload

/-- The fields of an issue as the tracker answers a request for it. -/
def IssueFields.decode (j : Json) : Option IssueFields :=
  (Payload.Issue.decode j).map (·.issueFields)

end Herald
