import Herald.Text.Blank

/-!
# Errors of the tracker's API

Errors are classified by what a run should make of them.
-/

namespace Herald

/-- Why a request has no usable answer although one was sent, or could not be
sent at all. -/
inductive TransportError where
  | timeout
  | unreachable
  /-- The request itself is not one that can be sent. -/
  | unsendable
  /-- The body of the answer is not what it should be. -/
  | undecodable
  deriving DecidableEq, Repr

def TransportError.message : TransportError → String
  | .timeout => "the request timed out"
  | .unreachable => "the server cannot be reached"
  | .unsendable => "the request cannot be sent"
  | .undecodable => "the answer cannot be decoded"

inductive ApiErrorKind where
  /-- Trouble on the way or on the other side, which may pass. -/
  | transient
  | permissionDenied
  | notFound
  | permanent
  deriving DecidableEq, Repr

/-- The kind of an error that the tracker answers with a status. -/
def ApiErrorKind.ofStatus (status : Nat) : ApiErrorKind :=
  if status = 429 then .transient
  else if status = 401 ∨ status = 403 then .permissionDenied
  else if status = 404 then .notFound
  else if 500 ≤ status ∧ status < 600 then .transient
  else .permanent

structure ApiError where
  kind : ApiErrorKind
  /-- The status, where the tracker answered with one. -/
  status : Option Nat
  detail : String
  /-- The failure of the transport that is the cause, where there is one. -/
  transport : Option TransportError
  deriving DecidableEq, Repr

/-- A body as an error shows it: trimmed, and cut off after a number of
characters. -/
def excerpt (limit : Nat) (body : String) : String :=
  let text := Text.trim body.toList
  if text.length ≤ limit then String.ofList text
  else String.ofList (text.take limit) ++ "..."

namespace ApiError

def transient (detail : String) : ApiError :=
  ⟨.transient, none, detail, none⟩

def permissionDenied (detail : String) : ApiError :=
  ⟨.permissionDenied, none, detail, none⟩

def permanent (detail : String) : ApiError :=
  ⟨.permanent, none, detail, none⟩

/-- The error of an answer that is no success. -/
def ofStatus (status : Nat) (body : String) : ApiError :=
  ⟨.ofStatus status, some status, excerpt 200 body, none⟩

/-- The error of a request without a usable answer. -/
def ofTransport (e : TransportError) : ApiError :=
  let kind := match e with
    | .timeout | .unreachable => .transient
    | .unsendable | .undecodable => .permanent
  ⟨kind, none, e.message, some e⟩

def isTransient (e : ApiError) : Bool :=
  e.kind == .transient

def message (e : ApiError) : String :=
  match e.status with
  | some status => "Jira API error (HTTP " ++ toString status ++ "): " ++ e.detail
  | none => "Jira API error: " ++ e.detail

end ApiError

end Herald
