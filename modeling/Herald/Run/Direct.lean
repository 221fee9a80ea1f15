import Herald.Message
import Herald.Run.Basic

/-!
# Direct messages of a run

Each notification of an event is handled for itself: the account is looked up,
then the person's connection, and if its settings allow the role the message is
posted. Nobody who is unknown, unconnected or unwilling is told, and nothing that
goes wrong for one notification touches another.
-/

namespace Herald

/-- What became of one notification. -/
inductive Telling where
  | skipped
  | posted (post : PostId)
  | warned (warning : String)
  deriving DecidableEq, Repr

/-- What the direct messages of an event came to. -/
structure DirectReport where
  posted : List PostId
  warnings : List String
  deriving DecidableEq, Repr

namespace Telling

def post? : Telling → Option PostId
  | .posted post => some post
  | _ => none

def warning? : Telling → Option String
  | .warned warning => some warning
  | _ => none

/-- A recipient that is not on record is skipped; any other trouble is a warning
about `subject`. -/
def ofStoreError (subject : String) (e : StoreError) : Telling :=
  if e.isNotFound then .skipped else .warned (subject ++ ": " ++ e.message)

def ofAnswer (user : UserId) : Except PostError PostId → Telling
  | .ok post => .posted post
  | .error e => .warned (user.text ++ ": " ++ e.message)

end Telling

def DirectReport.ofTellings (tellings : List Telling) : DirectReport :=
  ⟨tellings.filterMap Telling.post?, tellings.filterMap Telling.warning?⟩

namespace Event

/-- Handles one notification of an event. -/
def tell (sender : UserId) (tracker : Instance) (e : Event) (n : Notification) :
    Run Telling := do
  match ← Run.call (.loadUser tracker.id n.recipient.account) with
  | .error err => return .ofStoreError n.recipient.account.text err
  | .ok user =>
    match ← Run.call (.loadConnection tracker.id user) with
    | .error err => return .ofStoreError user.text err
    | .ok connection =>
      if connection.settings.allows n.role then
        let message := Message.direct e tracker n.role
        return .ofAnswer user (← Run.call (.postDirect sender user message))
      else return .skipped

/-- Handles the notifications of an event in order. -/
def tellAll (sender : UserId) (tracker : Instance) (e : Event) : Run DirectReport := do
  return .ofTellings (← e.notifications.mapM (e.tell sender tracker))

end Event

end Herald
