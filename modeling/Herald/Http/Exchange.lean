import Herald.Http.Url
import Herald.Json.Basic
import Herald.Tracker.Error

/-!
# Requests of the relay and what they are answered with
-/

namespace Herald.Http

inductive Method where
  | get
  | post
  deriving DecidableEq, Repr

def Method.name : Method → String
  | .get => "GET"
  | .post => "POST"

structure Request where
  method : Method
  url : Url
  headers : List (String × String)
  body : Option Json

structure Response where
  status : Nat
  body : Bytes
  deriving DecidableEq, Repr

/-- Sends requests. -/
abbrev Transport (m : Type → Type) := Request → m (Except TransportError Response)

def Response.isSuccess (r : Response) : Bool :=
  200 ≤ r.status && r.status < 300

/-- The body as text, whatever it is. -/
def Response.text (r : Response) : String :=
  Text.Utf8.decodeLenient r.body

/-- The text can stand in a header. -/
def isHeaderText (value : String) : Bool :=
  value.toList.all fun c => c = '\t' || (' ' ≤ c && c.toNat ≠ 0x7F)

/-- The request is one that can be sent. -/
def Request.isSendable (r : Request) : Bool :=
  r.url.origin?.isSome && r.url.size ≤ Url.maxSize &&
    r.headers.all fun header => isHeaderText header.2

/-- Sends a request, if it is one that can be sent. -/
def send {m : Type → Type} [Monad m] (transport : Transport m) (r : Request) :
    m (Except TransportError Response) :=
  if r.isSendable then transport r else return .error .unsendable

end Herald.Http
