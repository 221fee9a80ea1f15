import Herald.Net.SocketAddress
import Herald.Text.Blank
import Herald.Text.Quoted

/-!
# Configuration

The settings that the relay starts with, read from variables. A variable that is
blank counts as unset, and the first one that is unusable is reported.
-/

namespace Herald

inductive Variable where
  | listenAddress
  | workers
  | queueCapacity
  | httpTimeout
  | webhookSecret
  | storePath
  | chatUrl
  | botToken
  | botUserId
  deriving DecidableEq, Repr

def Variable.name : Variable → String
  | .listenAddress => "JIRA_RELAY_LISTEN_ADDR"
  | .workers => "JIRA_RELAY_WORKERS"
  | .queueCapacity => "JIRA_RELAY_QUEUE_CAPACITY"
  | .httpTimeout => "JIRA_RELAY_HTTP_TIMEOUT_SECS"
  | .webhookSecret => "JIRA_RELAY_WEBHOOK_SECRET"
  | .storePath => "JIRA_RELAY_STORE_PATH"
  | .chatUrl => "MATTERMOST_URL"
  | .botToken => "MATTERMOST_BOT_TOKEN"
  | .botUserId => "MATTERMOST_BOT_USER_ID"

/-- What is wrong with a value. -/
inductive ValueFault where
  | noAddress
  | notADigit
  | tooLarge
  | zero
  deriving DecidableEq, Repr

def ValueFault.message : ValueFault → String
  | .noAddress => "invalid socket address syntax"
  | .notADigit => "invalid digit found in string"
  | .tooLarge => "number too large to fit in target type"
  | .zero => "must be at least 1"

inductive ConfigError where
  | missing (v : Variable)
  | invalid (v : Variable) (value : String) (fault : ValueFault)
  deriving DecidableEq, Repr

def ConfigError.message : ConfigError → String
  | .missing v => "missing required environment variable " ++ v.name
  | .invalid v value fault =>
    "invalid value " ++ Text.quoted value ++ " for " ++ v.name ++ ": " ++ fault.message

structure Config where
  listenAddress : Net.SocketAddress
  workers : Nat
  queueCapacity : Nat
  webhookSecret : String
  /-- The seed of the store, which starts empty without one. -/
  storePath : Option String
  chatUrl : String
  botToken : String
  botUserId : String
  /-- In seconds. -/
  httpTimeout : Nat
  deriving DecidableEq, Repr

namespace Config

def defaultAddress : Net.SocketAddress := .v4 ⟨0, 0, 0, 0⟩ 3000

def defaultWorkers : Nat := 4

def defaultQueueCapacity : Nat := 1024

def defaultHttpTimeout : Nat := 30

/-- The number of decimal digits, if it fits 64 bits. The first fault counts. -/
def readWord : (n : Nat) → List Char → Except ValueFault Nat
  | n, [] => .ok n
  | n, c :: rest =>
    match Net.digit? 10 c with
    | none => .error .notADigit
    | some d =>
      if 10 * n + d < Nat.pow 2 64 then readWord (10 * n + d) rest else .error .tooLarge

/-- A number of 64 bits, which may have a plus sign in front. -/
def word : List Char → Except ValueFault Nat
  | ['+'] => .error .notADigit
  | '+' :: digits => readWord 0 digits
  | digits => readWord 0 digits

/-- A number of 64 bits that is not zero. -/
def positiveWord (value : String) : Except ValueFault Nat := do
  let n ← word value.toList
  if n = 0 then .error .zero else return n

def address (value : String) : Except ValueFault Net.SocketAddress :=
  match Net.SocketAddress.ofText? value with
  | some a => .ok a
  | none => .error .noAddress

/-- The trimmed value of a variable, unless it is blank or not set. -/
def value? (lookup : String → Option String) (v : Variable) : Option String :=
  ((lookup v.name).map Text.trimmed).filter (!·.isEmpty)

/-- The value of a variable that has a default. -/
def optional {α : Type} (lookup : String → Option String) (v : Variable) (default : α)
    (read : String → Except ValueFault α) : Except ConfigError α :=
  match value? lookup v with
  | none => .ok default
  | some value => (read value).mapError (.invalid v value)

/-- The value of a variable that has none. -/
def required (lookup : String → Option String) (v : Variable) : Except ConfigError String :=
  match value? lookup v with
  | none => .error (.missing v)
  | some value => .ok value

/-- The configuration that variables make up. -/
def read (lookup : String → Option String) : Except ConfigError Config := do
  let listenAddress ← optional lookup .listenAddress defaultAddress address
  let workers ← optional lookup .workers defaultWorkers positiveWord
  let queueCapacity ← optional lookup .queueCapacity defaultQueueCapacity positiveWord
  let httpTimeout ← optional lookup .httpTimeout defaultHttpTimeout positiveWord
  let webhookSecret ← required lookup .webhookSecret
  let chatUrl ← required lookup .chatUrl
  let botToken ← required lookup .botToken
  let botUserId ← required lookup .botUserId
  return {
    listenAddress, workers, queueCapacity, webhookSecret, chatUrl, botToken, botUserId, httpTimeout
    storePath := value? lookup .storePath }

/-- What stands in for a secret in diagnostics. -/
def redacted : String := Text.quoted "<redacted>"

/-- The configuration as a diagnostic shows it, without its secrets. -/
def shown (c : Config) : String :=
  let storePath := match c.storePath with
    | some path => "Some(" ++ Text.quoted path ++ ")"
    | none => "None"
  let fields := [("listen_addr", c.listenAddress.text), ("workers", toString c.workers),
    ("queue_capacity", toString c.queueCapacity), ("webhook_secret", redacted),
    ("store_path", storePath), ("mattermost_url", Text.quoted c.chatUrl),
    ("mattermost_bot_token", redacted), ("mattermost_bot_user_id", Text.quoted c.botUserId),
    ("http_timeout", toString c.httpTimeout ++ "s")]
  "RelayConfig \x7b " ++ ", ".intercalate (fields.map fun (name, value) => name ++ ": " ++ value) ++
    " \x7d"

end Config

end Herald
