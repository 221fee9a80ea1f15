import Herald.Id
import Herald.Role
import Herald.Sorted.Map
import Herald.Text.Quoted

/-!
# Connections of chat users to a tracker

A connection holds a person's account on the tracker, the credentials to act as
it, and which direct messages the person wants.
-/

namespace Herald

inductive Credentials where
  | bearer (token : String)
  | basic (username apiToken : String)
  deriving DecidableEq, Repr

namespace Credentials

/-- Some part that is needed to authenticate is missing. -/
def isEmpty : Credentials → Bool
  | .bearer token => token.isEmpty
  | .basic username apiToken => username.isEmpty || apiToken.isEmpty

/-- What a diagnostic shows of credentials: never the secrets. -/
def shown : Credentials → String
  | .bearer _ => "Bearer \x7b .. \x7d"
  | .basic username _ => "Basic \x7b username: " ++ Text.quoted username ++ ", .. \x7d"

end Credentials

/-- Which direct messages a person wants. -/
structure Settings where
  /-- For the roles without a setting of their own. -/
  notifications : Bool
  roles : SortedMap Role Bool
  deriving DecidableEq, Repr

namespace Settings

/-- Direct messages for every role but watching. -/
def enabled : Settings :=
  ⟨true, .empty⟩

def disabled : Settings :=
  ⟨false, .empty⟩

/-- The setting of the role decides, where it has one; without one watching is
off and the other roles follow the general switch. -/
def allows (s : Settings) (role : Role) : Bool :=
  match s.roles.get? role with
  | some on => on
  | none =>
    match role with
    | .watching => false
    | _ => s.notifications

/-- The settings after a role of the given name was switched, unless there is no
such role. -/
def setRole? (s : Settings) (name : String) (on : Bool) : Option Settings :=
  (Role.ofName? name).map fun role => { s with roles := s.roles.insert role on }

/-- A list of what is on and off. -/
def summary (s : Settings) : String :=
  " \n".intercalate (Role.all.map fun role =>
    "\t- Notifications for " ++ role.name ++ ": " ++ (if s.allows role then "on" else "off"))

end Settings

/-- A person's binding to a tracker. -/
structure Connection where
  account : AccountId
  displayName : String
  credentials : Credentials
  settings : Settings
  deriving DecidableEq, Repr

end Herald
