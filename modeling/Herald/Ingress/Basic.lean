import Herald.Http.Query
import Herald.Http.Target
import Herald.Pool.Basic
import Herald.Signature

/-!
# Receiving webhooks

What the relay answers to requests. A webhook is authenticated before anything
else about it is looked at, and it is answered as accepted once it is in the queue
of the worker pool.
-/

namespace Herald.Ingress

structure Request where
  method : String
  /-- In origin form or in absolute form. -/
  target : String
  /-- Names and values of the headers in order. -/
  headers : List (String × String)
  body : Bytes

/-- An answer, with the text that it has if it is the relay that words it. -/
structure Answer where
  status : Nat
  body : Option String
  deriving DecidableEq, Repr

inductive Refusal where
  | unauthorized
  | missingInstance
  | queueClosed
  deriving DecidableEq, Repr

namespace Refusal

def status : Refusal → Nat
  | .unauthorized => 401
  | .missingInstance => 400
  | .queueClosed => 503

def message : Refusal → String
  | .unauthorized => "invalid webhook secret"
  | .missingInstance => "missing instance_id query parameter"
  | .queueClosed => "webhook queue is closed"

def answer (r : Refusal) : Answer :=
  ⟨r.status, some r.message⟩

end Refusal

def Answer.accepted : Answer := ⟨202, some "Accepted"⟩

def Answer.ok : Answer := ⟨200, some "OK"⟩

/-- An answer without a text of the relay's own. -/
def Answer.bare (status : Nat) : Answer := ⟨status, none⟩

namespace Request

def path (r : Request) : String :=
  (Http.Target.ofText r.target).path

def query (r : Request) : List (String × String) :=
  Query.decode (Text.Utf8.encode (Http.Target.ofText r.target).query)

/-- A value that can be read as text: tabs, spaces and visible ASCII. -/
def isReadable (value : String) : Bool :=
  value.toList.all fun c => c = '\t' || (' ' ≤ c && c ≤ '~')

/-- The value of the first header of a name, in any case, if it can be read. -/
def header? (name : String) (r : Request) : Option String :=
  ((r.headers.find? fun header => header.1.toLower == name.toLower).map (·.2)).filter isReadable

end Request

/-- What the query of a webhook says. -/
structure Parameters where
  instanceId : Option String
  secret : Option String
  deriving DecidableEq, Repr

/-- Each of the two parameters may be given once. -/
def Parameters.ofQuery? (query : List (String × String)) : Option Parameters := do
  let only : List String → Option (Option String)
    | [] => some none
    | [value] => some (some value)
    | _ => none
  return {
    instanceId := ← only (Query.valuesOf "instance_id" query)
    secret := ← only (Query.valuesOf "secret" query) }

/-- The webhook that a request brings, if it is genuine and names an instance. -/
def vet (secret : String) (parameters : Parameters) (signature : Option String) (body : Bytes) :
    Except Refusal Webhook :=
  if Signature.authenticate body signature parameters.secret secret then
    match (parameters.instanceId.map Text.trimmed).filter (!·.isEmpty) with
    | some id => .ok ⟨⟨id⟩, body⟩
    | none => .error .missingInstance
  else .error .unauthorized

/-- What comes of a request. -/
inductive Handling where
  | answered (answer : Answer) (pool : Pool)
  /-- The queue is full, and the request waits until there is room for its
  webhook. -/
  | waits (webhook : Webhook)

/-- Hands a webhook over to the worker pool. -/
def hand (pool : Pool) (w : Webhook) : Handling :=
  match pool.enqueue w with
  | .ok pool => .answered .accepted pool
  | .error .closed => .answered Refusal.queueClosed.answer pool
  | .error .full => .waits w

/-- Receives a webhook of which the query and the body could be read. -/
def receive (secret : String) (pool : Pool) (parameters : Parameters) (signature : Option String)
    (body : Bytes) : Handling :=
  match vet secret parameters signature body with
  | .ok w => hand pool w
  | .error refusal => .answered refusal.answer pool

/-- The largest body that is read, in bytes. -/
def maxBody : Nat := 2097152

/-- Handles a request: webhooks are posted to one path, and another one tells that
the relay is up. -/
def handle (secret : String) (pool : Pool) (r : Request) : Handling :=
  if r.path = "/webhook" then
    if r.method = "POST" then
      match Parameters.ofQuery? r.query with
      | none => .answered (.bare 400) pool
      | some parameters =>
        if maxBody < r.body.length then .answered (.bare 413) pool
        else receive secret pool parameters (r.header? Signature.headerName) r.body
    else .answered (.bare 405) pool
  else if r.path = "/health" then
    if r.method = "GET" then .answered .ok pool
    else if r.method = "HEAD" then .answered (.bare 200) pool
    else .answered (.bare 405) pool
  else .answered (.bare 404) pool

/-- Handles a request while a worker runs all that waits. -/
def exchange {σ : Type} (c : Collaborators σ) (sender : UserId) (secret : String) (pool : Pool)
    (r : Request) (s : σ) : Answer × Pool × σ :=
  match handle secret pool r with
  | .answered answer pool => (answer, pool.drain c sender s)
  | .waits w =>
    let (pool, s) := pool.drain c sender s
    match pool.enqueue w with
    | .ok pool => (.accepted, pool.drain c sender s)
    | .error _ => (Refusal.queueClosed.answer, pool, s)

end Herald.Ingress
