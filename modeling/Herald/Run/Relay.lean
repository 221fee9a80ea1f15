import Herald.Run.Reading

/-!
# Relaying a webhook

The run of one webhook: its event is told to the people it concerns, completed
from the tracker where need be, and posted to the channels that subscribe to it.
A comment only reaches channels after its visibility was read as its author.
-/

namespace Herald

/-- A webhook as it was received. -/
structure Webhook where
  instanceId : InstanceId
  body : Bytes
  deriving DecidableEq, Repr

/-- Why a run ends before it posts to channels. -/
inductive Halt where
  | ignore (reason : IgnoreReason)
  | fail (failure : Failure)
  deriving DecidableEq, Repr

def Halt.outcome : Halt → Outcome
  | .ignore reason => .ignored reason
  | .fail failure => .failed failure

/-- Part of a run that may end it. -/
abbrev Step := ExceptT Halt Run

/-- The failure of an attempt ends the run. -/
def Attempt.insist {α : Type} (attempt : Attempt α) : Step α :=
  attempt.adapt .fail

namespace Event

/-- The event lacks fields, and its issue still exists to ask for them. -/
def wantsExpansion (e : Event) : Bool :=
  e.issue.needsExpansion && e.kind != .issueDeleted

/-- The session that a comment is read with. Without one the event is ignored. -/
def authorSession (tracker : Instance) (e : Event) : Step Session := do
  match e.actingAccount with
  | none => throw (.ignore (.authorNotConnected ⟨""⟩))
  | some account =>
    match ← (tracker.sessionOf? account).insist with
    | some session => return session
    | none => throw (.ignore (.authorNotConnected account))

/-- The session that an issue is completed with, if one is needed and can be had.
That the tracker refuses it is no failure. -/
def actorSession? (tracker : Instance) (e : Event) : Step (Option Session) := do
  match e.actingAccount with
  | some account =>
    if e.wantsExpansion then
      match ← (tracker.sessionOf? account).run with
      | .ok session => return session
      | .error (.api _ _) => return none
      | .error failure => throw (.fail failure)
    else return none
  | none => return none

/-- The event with its issue completed. -/
def completed (session : Session) (e : Event) : Step Event := do
  if e.wantsExpansion then
    return { e with issue := (← (session.expand? e.issue).insist).getD e.issue }
  else return e

/-- The event as it is posted, and the visibility that subscriptions are asked to
accept. -/
def readied (tracker : Instance) (e : Event) : Step (Event × String) := do
  if e.isCommentEvent then
    let session ← authorSession tracker e
    let e ← completed session e
    match e.comment with
    | some comment => return (e, ← (session.visibility comment).insist)
    | none => return (e, "")
  else
    match ← actorSession? tracker e with
    | some session => return (← completed session e, "")
    | none => return (e, "")

/-- Posts an event to the channels that subscribe to it at a visibility. -/
def publish (sender : UserId) (tracker : Instance) (e : Event) (visibility : String)
    (direct : DirectReport) : Run Outcome := do
  match ← Run.call (.loadSubscriptions tracker.id) with
  | .ok subscriptions =>
    let channels ← e.fanOut sender tracker (subscriptions.filter (·.accepts e visibility))
    return .delivered ⟨direct, channels, visibility⟩
  | .error err => return .failed (.store err)

/-- The run of an event of an installed tracker. -/
def relayFrom (sender : UserId) (tracker : Instance) (e : Event) : Run Outcome := do
  let direct ← e.tellAll sender tracker
  match ← (e.readied tracker).run with
  | .ok (e, visibility) => e.publish sender tracker visibility direct
  | .error halt => return halt.outcome

/-- The run of an event that came under the id of an instance. -/
def relay (sender : UserId) (id : InstanceId) (e : Event) : Run Outcome := do
  match ← Run.call (.loadInstance id) with
  | .ok tracker => e.relayFrom sender tracker
  | .error err =>
    if err.isNotFound then return .ignored (.instanceNotInstalled id)
    else return .failed (.store err)

end Event

/-- The run of a webhook, posting as `sender`. -/
def Webhook.relay (sender : UserId) (w : Webhook) : Run Outcome :=
  match Event.parse w.body with
  | .ok (some e) => e.relay sender w.instanceId
  | .ok none => return .ignored .notActionable
  | .error e => return .failed (.parse e)

end Herald
