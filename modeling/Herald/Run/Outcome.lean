import Herald.Event.Parse
import Herald.Run.Direct
import Herald.Run.FanOut
import Herald.Text.Quoted

/-!
# Outcomes of runs

How processing a webhook can end: delivered, whatever became of the single
messages; ignored, because there is nothing to do; or failed.
-/

namespace Herald

structure Report where
  direct : DirectReport
  channels : ChannelReport
  /-- The restriction of the comment, empty where there is none. -/
  visibility : String
  deriving DecidableEq, Repr

inductive IgnoreReason where
  /-- The payload stands for no event. -/
  | notActionable
  | instanceNotInstalled (id : InstanceId)
  /-- A comment cannot be checked without its author's connection. -/
  | authorNotConnected (account : AccountId)
  deriving DecidableEq, Repr

/-- The reason as a diagnostic shows it. -/
def IgnoreReason.shown : IgnoreReason → String
  | .notActionable => "NotActionable"
  | .instanceNotInstalled id => "InstanceNotInstalled(InstanceId(" ++ Text.quoted id.text ++ "))"
  | .authorNotConnected account =>
    "AuthorNotConnected(AccountId(" ++ Text.quoted account.text ++ "))"

/-- What a run wants from the tracker. -/
inductive Stage where
  | clientSetup
  | issueExpansion
  | visibilityLookup
  deriving DecidableEq, Repr

def Stage.phrase : Stage → String
  | .clientSetup => "client setup"
  | .issueExpansion => "issue expansion"
  | .visibilityLookup => "comment visibility lookup"

/-- What should be made of a failed run. -/
inductive FailureKind where
  /-- The webhook may be tried again. -/
  | transient
  | permissionDenied
  /-- Trying this webhook again is of no use. -/
  | fatalToMessage
  deriving DecidableEq, Repr

def FailureKind.shown : FailureKind → String
  | .transient => "Transient"
  | .permissionDenied => "PermissionDenied"
  | .fatalToMessage => "FatalToMessage"

inductive Failure where
  | parse (e : ParseError)
  | store (e : StoreError)
  | api (stage : Stage) (e : ApiError)
  /-- The run was taken down by a call. -/
  | aborted
  deriving DecidableEq, Repr

namespace Failure

def kind : Failure → FailureKind
  | .api _ e =>
    match e.kind with
    | .transient => .transient
    | .permissionDenied => .permissionDenied
    | .notFound | .permanent => .fatalToMessage
  | .parse _ | .store _ | .aborted => .fatalToMessage

def message : Failure → String
  | .parse e => "parse error: " ++ e.message
  | .store e => "store error: " ++ e.message
  | .api stage e => stage.phrase ++ " failed: " ++ e.message
  | .aborted => "pipeline aborted"

end Failure

inductive Outcome where
  | delivered (report : Report)
  | ignored (reason : IgnoreReason)
  | failed (failure : Failure)
  deriving DecidableEq, Repr

namespace Outcome

def isDelivered : Outcome → Bool
  | .delivered _ => true
  | _ => false

def isIgnored : Outcome → Bool
  | .ignored _ => true
  | _ => false

def isFailed : Outcome → Bool
  | .failed _ => true
  | _ => false

def failureKind? : Outcome → Option FailureKind
  | .failed failure => some failure.kind
  | _ => none

end Outcome

end Herald
