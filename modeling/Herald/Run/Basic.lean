import Herald.Chat.Error
import Herald.Store.Basic
import Herald.Tracker.Error

/-!
# Runs and their collaborators

Everything that processing a webhook asks of the outside is a `Call`: to the
store, to the tracker, to the chat. A `Run` is a program over such calls that says
how it goes on for every answer, so that what it asks, and in which order, can be
read off it whatever the collaborators do. Main statement: running one program
after another (`exec_bind`).
-/

namespace Herald

/-- A tracker as one connected person may use it. -/
structure Session where
  tracker : Instance
  connection : Connection
  deriving DecidableEq, Repr

inductive Call where
  | loadInstance (id : InstanceId)
  | loadUser (id : InstanceId) (account : AccountId)
  | loadConnection (id : InstanceId) (user : UserId)
  | loadSubscriptions (id : InstanceId)
  /-- Asks for the right to act as a connected person. -/
  | openSession (session : Session)
  /-- Reads a resource of the tracker. -/
  | fetch (session : Session) (path : String) (query : List (String × String))
  | postDirect (sender user : UserId) (message : String)
  /-- Posts an event to a channel for the subscription of the given name. -/
  | postToChannel (sender : UserId) (event : Event) (tracker : Instance) (channel : ChannelId)
      (subscription : String)
  deriving DecidableEq, Repr

/-- What a call is answered with. -/
abbrev Call.Answer : Call → Type
  | .loadInstance _ => Except StoreError Instance
  | .loadUser _ _ => Except StoreError UserId
  | .loadConnection _ _ => Except StoreError Connection
  | .loadSubscriptions _ => Except StoreError (List Subscription)
  | .openSession _ => Except ApiError Unit
  | .fetch _ _ _ => Except ApiError Json
  | .postDirect _ _ _ => Except PostError PostId
  | .postToChannel _ _ _ _ _ => Except PostError PostId

/-- A program that makes calls and ends with a result. -/
inductive Run (α : Type) where
  | done (result : α)
  | ask (call : Call) (next : call.Answer → Run α)

namespace Run

variable {α β γ : Type}

def bind : Run α → (α → Run β) → Run β
  | .done a, f => f a
  | .ask call next, f => .ask call fun answer => (next answer).bind f

instance : Monad Run where
  pure := .done
  bind := bind

/-- The program that makes one call. -/
def call (c : Call) : Run c.Answer :=
  .ask c .done

@[simp] theorem done_bind (a : α) (f : α → Run β) : (Run.done a >>= f) = f a := rfl

@[simp] theorem ask_bind (c : Call) (next : c.Answer → Run α) (f : α → Run β) :
    (Run.ask c next >>= f) = .ask c fun answer => next answer >>= f := rfl

@[simp] theorem pure_eq_done (a : α) : (pure a : Run α) = .done a := rfl

@[simp] theorem call_bind (c : Call) (f : c.Answer → Run β) : (call c >>= f) = .ask c f := rfl

theorem bind_done (r : Run α) : (r >>= Run.done) = r := by
  induction r with
  | done => rfl
  | ask c next ih => rw [ask_bind]; congr; funext answer; exact ih answer

theorem bind_bind (r : Run α) (f : α → Run β) (g : β → Run γ) :
    ((r >>= f) >>= g) = r >>= fun a => f a >>= g := by
  induction r with
  | done => rfl
  | ask c next ih => rw [ask_bind, ask_bind, ask_bind]; congr; funext answer; exact ih answer

instance : LawfulMonad Run :=
  LawfulMonad.mk' Run bind_done (fun _ _ => rfl) bind_bind

end Run

/-- Who answers the calls of runs, with the state that they share. -/
structure Collaborators (σ : Type) where
  /-- The answer to a call, or none where the call never returns and takes the run
  down with it. -/
  answer : (call : Call) → σ → Option call.Answer × σ

/-- Runs a program. There is no result where a call took it down. -/
def Run.exec {σ α : Type} (c : Collaborators σ) : Run α → σ → Option α × σ
  | .done a, s => (some a, s)
  | .ask call next, s =>
    match c.answer call s with
    | (some answer, s) => (next answer).exec c s
    | (none, s) => (none, s)

/-- The second program goes on in the state that the first one left, if that one
ends. -/
theorem Run.exec_bind {σ α β : Type} (c : Collaborators σ) (r : Run α) (f : α → Run β) (s : σ) :
    (r >>= f).exec c s =
      match r.exec c s with
      | (some a, s) => (f a).exec c s
      | (none, s) => (none, s) := by
  induction r generalizing s with
  | done => rfl
  | ask call next ih =>
    rw [Run.ask_bind]
    simp only [Run.exec]
    split
    · exact ih _ _
    · rfl

end Herald
