import Herald.Json.Reader
import Herald.Store.SeedJson
import Std.Data.HashMap

/-!
# The store

Installed instances, connected users and subscriptions, indexed for the look-ups
that a run makes. Of several records for one thing the last counts;
subscriptions are all kept, in the order they came.
-/

namespace Herald

/-- What a look-up looks for. -/
inductive RecordKind where
  | tracker
  | user
  | connection
  deriving DecidableEq, Repr

def RecordKind.phrase : RecordKind → String
  | .tracker => "instance"
  | .user => "user for account"
  | .connection => "connection"

inductive StoreError where
  | notFound (kind : RecordKind) (key : String)
  /-- The store could not be read. -/
  | unavailable (detail : String)
  /-- The seed is no seed. -/
  | malformed
  deriving DecidableEq, Repr

namespace StoreError

def isNotFound : StoreError → Bool
  | .notFound .. => true
  | _ => false

def message : StoreError → String
  | .notFound kind key => kind.phrase ++ " not found: " ++ key
  | .unavailable detail => "IO error: " ++ detail
  | .malformed => "JSON error"

end StoreError

structure Store where
  instances : Std.HashMap InstanceId Instance
  /-- The user of each account. -/
  users : Std.HashMap (InstanceId × AccountId) UserId
  connections : Std.HashMap (InstanceId × UserId) Connection
  /-- The subscriptions of each instance, in order. -/
  subscriptions : Std.HashMap InstanceId (List Subscription)

namespace Store

def empty : Store :=
  ⟨∅, ∅, ∅, ∅⟩

def addInstance (s : Store) (i : Instance) : Store :=
  { s with instances := s.instances.insert i.id i.normalized }

/-- Connects a user, who is then found by the account of the connection. -/
def addUser (s : Store) (u : UserRecord) : Store :=
  { s with
    users := s.users.insert (u.instanceId, u.connection.account) u.user
    connections := s.connections.insert (u.instanceId, u.user) u.connection }

def addMapping (s : Store) (m : Mapping) : Store :=
  { s with users := s.users.insert (m.instanceId, m.account) m.user }

def addSubscription (s : Store) (sub : Subscription) : Store :=
  let known := s.subscriptions.getD sub.instanceId []
  { s with subscriptions := s.subscriptions.insert sub.instanceId (known ++ [sub]) }

def ofSeed (seed : Seed) : Store :=
  let s := seed.instances.foldl addInstance empty
  let s := seed.users.foldl addUser s
  seed.subscriptions.foldl addSubscription s

/-- The store of a seed file's content. -/
def ofFile (content : Bytes) : Except StoreError Store :=
  match Json.read? content >>= Seed.ofJson? with
  | some seed => .ok (ofSeed seed)
  | none => .error .malformed

/-- A record, or the error that there is none. -/
def found {α : Type} (kind : RecordKind) (key : String) : Option α → Except StoreError α
  | some a => .ok a
  | none => .error (.notFound kind key)

def instance? (s : Store) (id : InstanceId) : Except StoreError Instance :=
  found .tracker id.text s.instances[id]?

def userOf (s : Store) (id : InstanceId) (account : AccountId) : Except StoreError UserId :=
  found .user account.text s.users[(id, account)]?

def connection (s : Store) (id : InstanceId) (user : UserId) : Except StoreError Connection :=
  found .connection user.text s.connections[(id, user)]?

/-- All subscriptions to an instance. -/
def subscriptionsTo (s : Store) (id : InstanceId) : List Subscription :=
  s.subscriptions.getD id []

/-- The subscriptions to an instance that receive an event. -/
def subscribed (s : Store) (id : InstanceId) (e : Event) (visibility : String) :
    List Subscription :=
  (s.subscriptionsTo id).filter (·.accepts e visibility)

end Store

end Herald
