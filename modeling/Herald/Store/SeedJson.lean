import Herald.Json.Decode
import Herald.Store.Seed

/-!
# Seeds as JSON

How the records of a seed are written and read. Every type has `toJson`, which
writes all members, and `ofJson?`, which accepts that and forms that leave out
members with a default.
-/

namespace Herald

open Json (required optional defaulted text flag listOf)

namespace Instance

def toJson (i : Instance) : Json :=
  .object [("id", .string i.id.text), ("base_url", .string i.baseUrl),
    ("kind", .string i.kind.name)]

def ofJson? (j : Json) : Option Instance := do
  let m ← j.record ["id", "base_url", "kind"] 2
  return {
    id := ⟨← required text (m "id")⟩
    baseUrl := ← required text (m "base_url")
    kind := ← defaulted .cloud (Json.name InstanceKind.ofName?) (m "kind") }

end Instance

namespace Credentials

def toJson : Credentials → Json
  | .bearer token => .object [("type", .string "bearer"), ("token", .string token)]
  | .basic username apiToken =>
    .object [("type", .string "basic"), ("username", .string username),
      ("api_token", .string apiToken)]

/-- The secrets, once it is known of which type they are. -/
def ofParts? (type : String) (parts : Json) : Option Credentials :=
  if type = "bearer" then do
    let m ← parts.record ["token"] 1
    return .bearer (← required text (m "token"))
  else if type = "basic" then do
    let m ← parts.record ["username", "api_token"] 2
    return .basic (← required text (m "username")) (← required text (m "api_token"))
  else none

/-- The type is a member among the others, or the first item of an array. All
members must be readable. -/
def ofJson? (j : Json) : Option Credentials :=
  if j.readable then
    match j with
    | .object members => do
      let m ← j.record ["type"] 1
      ofParts? (← required text (m "type")) (.object (members.filter (·.1 != "type")))
    | .array (type :: parts) => do ofParts? (← text type) (.array parts)
    | _ => none
  else none

end Credentials

namespace Settings

def toJson (s : Settings) : Json :=
  .object [("notifications", .bool s.notifications),
    ("roles_for_dm_notification",
      .object (s.roles.entries.map fun (role, on) => (role.name, .bool on)))]

/-- The settings of the roles. Of a repeated role the last setting counts. -/
def roles? : Json → Option (SortedMap Role Bool)
  | .object members => do
    return SortedMap.ofList (← members.mapM fun (key, value) => do
      return (← Role.ofName? key, ← flag value))
  | _ => none

def ofJson? (j : Json) : Option Settings := do
  let m ← j.record ["notifications", "roles_for_dm_notification"] 0
  return {
    notifications := ← defaulted false flag (m "notifications")
    roles := ← defaulted .empty roles? (m "roles_for_dm_notification") }

end Settings

namespace Connection

def toJson (c : Connection) : Json :=
  .object [("account_id", .string c.account.text), ("display_name", .string c.displayName),
    ("credentials", c.credentials.toJson), ("settings", c.settings.toJson)]

def ofJson? (j : Json) : Option Connection := do
  let m ← j.record ["account_id", "display_name", "credentials", "settings"] 3
  return {
    account := ⟨← required text (m "account_id")⟩
    displayName := ← defaulted "" text (m "display_name")
    credentials := ← required Credentials.ofJson? (m "credentials")
    settings := ← defaulted .disabled Settings.ofJson? (m "settings") }

end Connection

namespace UserRecord

def toJson (u : UserRecord) : Json :=
  .object [("instance_id", .string u.instanceId.text), ("mattermost_user_id", .string u.user.text),
    ("connection", u.connection.toJson)]

def ofJson? (j : Json) : Option UserRecord := do
  let m ← j.record ["instance_id", "mattermost_user_id", "connection"] 3
  return {
    instanceId := ⟨← required text (m "instance_id")⟩
    user := ⟨← required text (m "mattermost_user_id")⟩
    connection := ← required Connection.ofJson? (m "connection") }

end UserRecord

/-- A set written as an array. -/
def SortedSet.ofJson? {α : Type} [Ord α] [Std.TransOrd α] (decode : Json → Option α) (j : Json) :
    Option (SortedSet α) :=
  (listOf decode j).map ofList

namespace FieldFilter

def toJson (f : FieldFilter) : Json :=
  .object [("key", .string f.key), ("inclusion", .string f.inclusion.name),
    ("values", .ofTexts f.values.toList)]

def ofJson? (j : Json) : Option FieldFilter := do
  let m ← j.record ["key", "inclusion", "values"] 2
  return {
    key := ← required text (m "key")
    inclusion := ← required (Json.name Inclusion.ofName?) (m "inclusion")
    values := ← defaulted .empty (SortedSet.ofJson? text) (m "values") }

end FieldFilter

namespace Filters

def toJson (f : Filters) : Json :=
  .object [("events", .ofTexts (f.events.toList.map EventFlag.name)),
    ("projects", .ofTexts f.projects.toList), ("issue_types", .ofTexts f.issueTypes.toList),
    ("fields", .array (f.fields.map FieldFilter.toJson))]

def ofJson? (j : Json) : Option Filters := do
  let m ← j.record ["events", "projects", "issue_types", "fields"] 0
  return {
    events := ← defaulted .empty (SortedSet.ofJson? (Json.name EventFlag.ofName?)) (m "events")
    projects := ← defaulted .empty (SortedSet.ofJson? text) (m "projects")
    issueTypes := ← defaulted .empty (SortedSet.ofJson? text) (m "issue_types")
    fields := ← defaulted [] (listOf FieldFilter.ofJson?) (m "fields") }

end Filters

namespace Subscription

def toJson (s : Subscription) : Json :=
  .object [("id", .string s.id), ("channel_id", .string s.channel.text), ("name", .string s.name),
    ("instance_id", .string s.instanceId.text), ("filters", s.filters.toJson)]

def ofJson? (j : Json) : Option Subscription := do
  let m ← j.record ["id", "channel_id", "name", "instance_id", "filters"] 5
  return {
    id := ← required text (m "id")
    channel := ⟨← required text (m "channel_id")⟩
    name := ← required text (m "name")
    instanceId := ⟨← required text (m "instance_id")⟩
    filters := ← required Filters.ofJson? (m "filters") }

end Subscription

namespace Seed

def toJson (s : Seed) : Json :=
  .object [("instances", .array (s.instances.map Instance.toJson)),
    ("users", .array (s.users.map UserRecord.toJson)),
    ("subscriptions", .array (s.subscriptions.map Subscription.toJson))]

def ofJson? (j : Json) : Option Seed := do
  let m ← j.record ["instances", "users", "subscriptions"] 0
  return {
    instances := ← defaulted [] (listOf Instance.ofJson?) (m "instances")
    users := ← defaulted [] (listOf UserRecord.ofJson?) (m "users")
    subscriptions := ← defaulted [] (listOf Subscription.ofJson?) (m "subscriptions") }

end Seed

end Herald
