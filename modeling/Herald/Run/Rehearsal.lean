import Herald.Message
import Herald.Tracker.Client

/-!
# Rehearsing runs

Collaborators that touch nothing: the tracker's replies are given beforehand,
along with everything that should go wrong, and what the relay does is written
into a journal.
-/

namespace Herald.Rehearsal

/-- What the tracker replies to the request for a URL. -/
inductive Reply where
  | json (body : Json)
  | status (code : Nat) (body : String)
  | network (detail : String)

def Reply.answer : Reply → Except ApiError Json
  | .json body => .ok body
  | .status code body => .error (.ofStatus code body)
  | .network detail => .error (.transient detail)

/-- The look-ups for which the store cannot be read. -/
structure Faults where
  instances : List InstanceId
  accounts : List AccountId
  users : List UserId
  subscriptions : List InstanceId
  deriving DecidableEq, Repr

/-- What happens in a rehearsal. -/
structure Script where
  store : Store
  faults : Faults
  replies : List (String × Reply)
  /-- The tracker refuses every session. -/
  deny : Bool
  failingUsers : List (UserId × PostError)
  failingChannels : List (ChannelId × PostError)
  /-- The channels for which the first post takes its run down. -/
  crashingChannels : List ChannelId
  /-- Who posts. -/
  sender : UserId

/-- A message that was posted. -/
inductive Delivery where
  | direct (user sender : UserId) (message : String)
  | channel (channel : ChannelId) (subscription : String) (sender : UserId) (message : String)
  deriving DecidableEq, Repr

structure FetchRecord where
  url : String
  query : List (String × String)
  deriving DecidableEq, Repr

/-- What the relay has done, each list in order. -/
structure Journal where
  /-- How many sessions were asked for. -/
  sessions : Nat
  fetches : List FetchRecord
  deliveries : List Delivery
  /-- The channels that have taken a run down. -/
  crashed : List ChannelId
  deriving DecidableEq, Repr

namespace Journal

def empty : Journal := ⟨0, [], [], []⟩

/-- What was done after an earlier time. -/
def since (earlier later : Journal) : Journal where
  sessions := later.sessions - earlier.sessions
  fetches := later.fetches.drop earlier.fetches.length
  deliveries := later.deliveries.drop earlier.deliveries.length
  crashed := later.crashed.drop earlier.crashed.length

/-- Posts a message. Posts are numbered in the order in which they are made. -/
def post (j : Journal) (d : Delivery) : PostId × Journal :=
  (⟨"post-" ++ toString j.deliveries.length⟩, { j with deliveries := j.deliveries ++ [d] })

end Journal

def unavailable : StoreError := .unavailable "disk on fire"

/-- The answer of the store, where it can be read. -/
def faulted {α : Type} (faulty : Bool) (answer : Except StoreError α) : Except StoreError α :=
  if faulty then .error unavailable else answer

namespace Script

def openSession (script : Script) (session : Session) : Except ApiError Unit := do
  session.check
  if script.deny then .error (.permissionDenied "scripted denial") else .ok ()

def reply (script : Script) (url : String) : Except ApiError Json :=
  match script.replies.lookup url with
  | some reply => reply.answer
  | none => .error (.ofStatus 404 "not scripted")

/-- Reads a resource, and writes down which if its URL may be requested. -/
def fetch (script : Script) (baseUrl path : String) (query : List (String × String))
    (j : Journal) : Except ApiError Json × Journal :=
  match resolveUrl baseUrl path with
  | .error e => (.error e, j)
  | .ok url => (script.reply url, { j with fetches := j.fetches ++ [⟨url, query⟩] })

/-- Posts a message, unless it is to fail. -/
def post (failure : Option PostError) (d : Delivery) (j : Journal) :
    Except PostError PostId × Journal :=
  match failure with
  | some e => (.error e, j)
  | none =>
    let (id, j) := j.post d
    (.ok id, j)

/-- The collaborators that keep to a script. -/
def collaborators (script : Script) : Collaborators Journal where
  answer
    | .loadInstance id, j =>
      (some (faulted (id ∈ script.faults.instances) (script.store.instance? id)), j)
    | .loadUser id account, j =>
      (some (faulted (account ∈ script.faults.accounts) (script.store.userOf id account)), j)
    | .loadConnection id user, j =>
      (some (faulted (user ∈ script.faults.users) (script.store.connection id user)), j)
    | .loadSubscriptions id, j =>
      (some (faulted (id ∈ script.faults.subscriptions) (.ok (script.store.subscriptionsTo id))), j)
    | .openSession session, j =>
      (some (script.openSession session), { j with sessions := j.sessions + 1 })
    | .fetch session path query, j =>
      let (answer, j) := script.fetch session.tracker.baseUrl path query j
      (some answer, j)
    | .postDirect sender user message, j =>
      let (answer, j) := post (script.failingUsers.lookup user) (.direct user sender message) j
      (some answer, j)
    | .postToChannel sender event tracker channel subscription, j =>
      if channel ∈ script.crashingChannels ∧ channel ∉ j.crashed then
        (none, { j with crashed := j.crashed ++ [channel] })
      else
        let d := Delivery.channel channel subscription sender (Message.channel event tracker)
        let (answer, j) := post (script.failingChannels.lookup channel) d j
        (some answer, j)

end Script

end Herald.Rehearsal
