import Herald.Http.Exchange
import Herald.Json.Reader
import Herald.Run.Basic
import Herald.Text.Base64
import Herald.Tracker.Url

/-!
# Speaking with the tracker

How a session turns into requests that are authenticated as its person, and their
responses into answers.
-/

namespace Herald

/-- The value of the header that authenticates a request. -/
def Credentials.authorization : Credentials → String
  | .bearer token => "Bearer " ++ token
  | .basic username apiToken =>
    "Basic " ++ String.ofList (Text.Base64.encode (Text.Utf8.encode (username ++ ":" ++ apiToken)))

namespace Session

/-- How the relay names itself. -/
def userAgent : String := "jira-relay/0.1.0"

/-- A session needs credentials that can be used. -/
def check (s : Session) : Except ApiError Unit :=
  if s.connection.credentials.isEmpty then
    .error (.permissionDenied ("connection for " ++ s.connection.account.text ++ " on " ++
      s.tracker.id.text ++ " has no credentials"))
  else .ok ()

def request (s : Session) (url : String) (query : List (String × String)) : Http.Request where
  method := .get
  url := (Http.Url.ofText url).withQuery query
  headers := [("user-agent", userAgent),
    ("authorization", s.connection.credentials.authorization)]
  body := none

/-- The answer that a response holds. -/
def answer (response : Http.Response) : Except ApiError Json :=
  if response.isSuccess then
    match Json.readValue? response.body with
    | some j => .ok j
    | none => .error (.ofTransport .undecodable)
  else .error (.ofStatus response.status response.text)

/-- Reads a resource by its path, or by its URL if that lies under the base URL of
the tracker. -/
def get {m : Type → Type} [Monad m] (transport : Http.Transport m) (s : Session) (path : String)
    (query : List (String × String)) : m (Except ApiError Json) := do
  match resolveUrl s.tracker.baseUrl path with
  | .error e => return .error e
  | .ok url =>
    match ← Http.send transport (s.request url query) with
    | .ok response => return answer response
    | .error e => return .error (.ofTransport e)

/-- The session as a diagnostic shows it. -/
def shown (s : Session) : String :=
  "HttpRestClient \x7b base_url: " ++ Text.quoted s.tracker.baseUrl ++ ", credentials: " ++
    s.connection.credentials.shown ++ ", .. \x7d"

end Session

end Herald
