import Herald.Chat.Poster
import Herald.Message
import Herald.Tracker.Client

/-!
# Answering calls with a store and over a network

The collaborators of a relay in service: a store that never fails to answer, and a
transport to the tracker and the chat.
-/

namespace Herald

/-- Collaborators that look records up in a store and send requests. -/
def Collaborators.live {σ : Type} (store : Store) (poster : Poster)
    (transport : Http.Transport (StateM σ)) : Collaborators σ where
  answer
    | .loadInstance id, s => (some (store.instance? id), s)
    | .loadUser id account, s => (some (store.userOf id account), s)
    | .loadConnection id user, s => (some (store.connection id user), s)
    | .loadSubscriptions id, s => (some (.ok (store.subscriptionsTo id)), s)
    | .openSession session, s => (some session.check, s)
    | .fetch session path query, s =>
      let (answer, s) := (session.get transport path query).run s
      (some answer, s)
    | .postDirect sender user message, s =>
      let (answer, s) := (poster.postDirect transport sender user message).run s
      (some answer, s)
    | .postToChannel _ event tracker channel _, s =>
      let (answer, s) := (poster.post transport channel (Message.channel event tracker)).run s
      (some answer, s)

end Herald
