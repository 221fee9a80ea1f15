import Herald.Chat.Error
import Herald.Http.Exchange
import Herald.Id
import Herald.Json.Decode
import Herald.Json.Reader
import Herald.Text.Quoted

/-!
# Posting to the chat

A direct message needs the direct channel between the sender and the person, which
is asked for first.
-/

namespace Herald

/-- The access to a chat server. -/
structure Poster where
  baseUrl : String
  token : String
  deriving DecidableEq, Repr

namespace Poster

/-- The access to a server whose base URL may end with slashes. -/
def ofUrl (url token : String) : Poster :=
  ⟨Text.withoutTrailingSlashes url, token⟩

def request (p : Poster) (path : String) (body : Json) : Http.Request where
  method := .post
  url := .ofText (p.baseUrl ++ "/api/v4/" ++ path)
  headers := [("authorization", "Bearer " ++ p.token), ("content-type", "application/json")]
  body := some body

/-- The id of what was created. -/
def created? (body : Bytes) : Option String := do
  let m ← (← Json.read? body).record ["id"] 1
  Json.required Json.text (m "id")

def answer (response : Http.Response) : Except PostError String :=
  if response.isSuccess then
    match created? response.body with
    | some id => .ok id
    | none => .error .unanswered
  else .error (.status response.status (excerpt 200 response.text))

/-- Creates something, and answers with its id. -/
def create {m : Type → Type} [Monad m] (transport : Http.Transport m) (p : Poster) (path : String)
    (body : Json) : m (Except PostError String) := do
  match ← Http.send transport (p.request path body) with
  | .ok response => return answer response
  | .error _ => return .error .unanswered

/-- Posts a message to a channel. -/
def post {m : Type → Type} [Monad m] (transport : Http.Transport m) (p : Poster)
    (channel : ChannelId) (message : String) : m (Except PostError PostId) := do
  let body := Json.object [("channel_id", .string channel.text), ("message", .string message)]
  return (← p.create transport "posts" body).map PostId.mk

/-- Posts a message to a person. -/
def postDirect {m : Type → Type} [Monad m] (transport : Http.Transport m) (p : Poster)
    (sender user : UserId) (message : String) : m (Except PostError PostId) := do
  match ← p.create transport "channels/direct" (.ofTexts [sender.text, user.text]) with
  | .ok channel => p.post transport ⟨channel⟩ message
  | .error e => return .error e

/-- The access as a diagnostic shows it, without the token. -/
def shown (p : Poster) : String :=
  "MattermostPoster \x7b base_url: " ++ Text.quoted p.baseUrl ++ ", .. \x7d"

end Poster

end Herald
