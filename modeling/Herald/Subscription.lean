import Herald.Event.Basic

/-!
# Channel subscriptions

A subscription is a channel's interest in the events of an instance. `accepts`
decides whether it receives an event: a comment with restricted visibility only
reaches subscriptions with an active filter on the visibility that accepts it.
-/

namespace Herald

/-- How a field filter compares its values with those of an issue. -/
inductive Inclusion where
  | includeAny
  | includeAll
  | excludeAny
  | empty
  deriving DecidableEq, Repr

namespace Inclusion

def all : List Inclusion := [.includeAny, .includeAll, .excludeAny, .empty]

def name : Inclusion → String
  | .includeAny => "include_any"
  | .includeAll => "include_all"
  | .excludeAny => "exclude_any"
  | .empty => "empty"

def ofName? (name : String) : Option Inclusion :=
  all.find? (·.name == name)

theorem ofName?_name (i : Inclusion) : ofName? i.name = some i := by
  cases i <;> decide

end Inclusion

structure FieldFilter where
  key : String
  inclusion : Inclusion
  values : SortedSet String
  deriving DecidableEq, Repr

namespace FieldFilter

/-- A filter without values asks for nothing, unless it asks for emptiness. -/
def isActive (f : FieldFilter) : Bool :=
  f.inclusion == .empty || !f.values.isEmpty

/-- The filter accepts a field with the given values. -/
def accepts (f : FieldFilter) (actual : List String) : Bool :=
  match f.inclusion with
  | .includeAny => actual.any (· ∈ f.values)
  | .includeAll => f.values.toList.all (· ∈ actual)
  | .excludeAny => !actual.any (· ∈ f.values)
  | .empty => actual.isEmpty

end FieldFilter

structure Filters where
  events : FlagSet
  /-- Project keys; every project where there are none. -/
  projects : SortedSet String
  /-- Ids or names of issue types; every type where there are none. -/
  issueTypes : SortedSet String
  fields : List FieldFilter
  deriving DecidableEq, Repr

structure Subscription where
  id : String
  channel : ChannelId
  name : String
  instanceId : InstanceId
  filters : Filters
  deriving DecidableEq, Repr

/-- The key of the filters on the visibility of comments. -/
def visibilityKey : String := "commentVisibility"

namespace Filters

/-- Some flag that is asked for is one of the event's. -/
def wantsFlags (f : Filters) (flags : FlagSet) : Bool :=
  f.events.toList.any fun
    | .updatedAny => flags.toList.any EventFlag.isIssueUpdate
    | flag => flag ∈ flags

def wantsProject (f : Filters) (issue : Issue) : Bool :=
  f.projects.isEmpty || issue.projectKey ∈ f.projects

def wantsType (f : Filters) (issue : Issue) : Bool :=
  f.issueTypes.isEmpty ||
    match issue.fields.issueType with
    | some type => type.id ∈ f.issueTypes || type.name ∈ f.issueTypes
    | none => false

/-- The values that a field filter looks at. A comment without restriction has no
visibility. -/
def valuesFor (key : String) (issue : Issue) (visibility : String) : List String :=
  if key = visibilityKey then
    if visibility.isEmpty then [] else [visibility]
  else issue.fieldValues key

/-- Runs through the field filters. The result says whether all active ones
accept and, if so, whether one of them was on the visibility. -/
def runFields (issue : Issue) (visibility : String) :
    (onVisibility : Bool) → List FieldFilter → Option Bool
  | onVisibility, [] => some onVisibility
  | onVisibility, f :: rest =>
    if f.isActive then
      if f.accepts (valuesFor f.key issue visibility) then
        runFields issue visibility (onVisibility || f.key == visibilityKey) rest
      else none
    else runFields issue visibility onVisibility rest

end Filters

/-- The subscription receives an event at a visibility, which is empty for a
comment that everyone may see. -/
def Subscription.accepts (s : Subscription) (e : Event) (visibility : String) : Bool :=
  let f := s.filters
  if !f.wantsFlags e.flags then false
  else if !f.wantsProject e.issue then false
  else if !f.wantsType e.issue then false
  else match Filters.runFields e.issue visibility false f.fields with
    | some onVisibility => visibility.isEmpty || onVisibility
    | none => false

end Herald
