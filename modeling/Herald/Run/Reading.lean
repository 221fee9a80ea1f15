import Herald.Run.Outcome

/-!
# What a run reads from the tracker

A run acts as the person whose permissions count: it completes an issue that the
payload describes in part, and finds out who may see a comment.
-/

namespace Herald

/-- Part of a run that may fail. -/
abbrev Attempt := ExceptT Failure Run

/-- Makes a call to the tracker for a stage, and fails if it does. -/
def Attempt.api {α : Type} (stage : Stage) (answer : Run (Except ApiError α)) : Attempt α := do
  match ← answer with
  | .ok a => return a
  | .error e => throw (.api stage e)

namespace Instance

/-- A record from the store, where one that is not there is no failure. -/
def recorded? {α : Type} (answer : Run (Except StoreError α)) : Attempt (Option α) := do
  match ← answer with
  | .ok a => return some a
  | .error e => if e.isNotFound then return none else throw (.store e)

/-- A session as the person that is connected with an account, if there is one. -/
def sessionOf? (tracker : Instance) (account : AccountId) : Attempt (Option Session) := do
  match ← recorded? (Run.call (.loadUser tracker.id account)) with
  | none => return none
  | some user =>
    match ← recorded? (Run.call (.loadConnection tracker.id user)) with
    | none => return none
    | some connection =>
      let session : Session := ⟨tracker, connection⟩
      Attempt.api .clientSetup (Run.call (.openSession session))
      return some session

end Instance

namespace Session

/-- The fields that are asked for to complete an issue. -/
def expansionFields : String :=
  "summary,project,issuetype,status,priority,resolution,assignee,reporter,labels,watches,*navigable"

/-- The issue with its missing fields filled in, or none where none is missing
that matters. -/
def expand? (session : Session) (issue : Issue) : Attempt (Option Issue) := do
  if issue.needsExpansion then
    let path := "2/issue/" ++ issue.key.text
    let answer ← Attempt.api .issueExpansion
      (Run.call (.fetch session path [("fields", expansionFields)]))
    match IssueFields.decode answer with
    | some fetched => return some { issue with fields := issue.fields.fillMissing fetched }
    | none => throw (.parse .malformed)
  else return none

/-- The restriction in a comment as the tracker answers it. Empty where there is
none that can be read. -/
def restriction (comment : Json) : String :=
  (((comment.member? "visibility").bind (·.member? "value")).bind Json.string?).getD ""

/-- Reads who may see a comment. -/
def visibility (session : Session) (comment : Comment) : Attempt String := do
  let answer ← Attempt.api .visibilityLookup (Run.call (.fetch session comment.link []))
  return restriction answer

end Session

end Herald
