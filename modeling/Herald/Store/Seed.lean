import Herald.Connection
import Herald.Instance
import Herald.Subscription

/-!
# Store seeds

The records that a store is filled from.
-/

namespace Herald

/-- A chat user that is connected to an instance. -/
structure UserRecord where
  instanceId : InstanceId
  user : UserId
  connection : Connection
  deriving DecidableEq, Repr

structure Seed where
  instances : List Instance
  users : List UserRecord
  subscriptions : List Subscription
  deriving DecidableEq, Repr

def Seed.empty : Seed :=
  ⟨[], [], []⟩

/-- Says which user an account belongs to, without a connection. -/
structure Mapping where
  instanceId : InstanceId
  account : AccountId
  user : UserId
  deriving DecidableEq, Repr

end Herald
