import Herald.Proofs.Store.Accounts
import Herald.Run.Live

/-!
# Instances apart

One store holds the records of all instances, and a run belongs to one of them. Records are
found under the instance that they carry, so what a store answers about an instance is decided
by the records of that instance, and a run looks nothing up under another.

Main statements: stores of the same records of an instance agree about it (`recorded_agree`),
and nothing that other instances have on record makes a difference to a run
(`other_instances_unseen`), be it one of a relay in service (`live_instances_unseen`).
-/

namespace Herald

open Run

/-- The records of a seed that carry an instance. -/
def Seed.only (seed : Seed) (id : InstanceId) : Seed where
  instances := seed.instances.filter (·.id == id)
  users := seed.users.filter (·.instanceId == id)
  subscriptions := seed.subscriptions.filter (·.instanceId == id)

namespace Store

/-- The store of a seed with further users of accounts. -/
def recorded (seed : Seed) (mappings : List Mapping) : Store :=
  mappings.foldl addMapping (ofSeed seed)

/-- The stores hold the same about an instance. -/
structure Agree (id : InstanceId) (s s' : Store) : Prop where
  instances : s.instances[id]? = s'.instances[id]?
  users : ∀ account : AccountId, s.users[(id, account)]? = s'.users[(id, account)]?
  connections : ∀ user : UserId, s.connections[(id, user)]? = s'.connections[(id, user)]?
  subscriptions : s.subscriptionsTo id = s'.subscriptionsTo id

/-- Every instance is held under its own id. -/
def Keyed (s : Store) : Prop :=
  ∀ (id : InstanceId) (tracker : Instance), s.instances[id]? = some tracker → tracker.id = id

namespace Agree

variable {id : InstanceId} {s s' s'' : Store}

theorem refl (id : InstanceId) (s : Store) : Agree id s s :=
  ⟨rfl, fun _ => rfl, fun _ => rfl, rfl⟩

theorem symm (agree : Agree id s s') : Agree id s' s :=
  ⟨agree.instances.symm, fun account => (agree.users account).symm,
    fun user => (agree.connections user).symm, agree.subscriptions.symm⟩

theorem trans (first : Agree id s s') (second : Agree id s' s'') : Agree id s s'' :=
  ⟨first.instances.trans second.instances,
    fun account => (first.users account).trans (second.users account),
    fun user => (first.connections user).trans (second.connections user),
    first.subscriptions.trans second.subscriptions⟩

end Agree

/-- Records of a kind go under the instance that they carry: adding one changes nothing about
the other instances, and what it changes about its own depends on what is held about that
one. -/
structure Apart {α : Type} (instanceOf : α → InstanceId) (add : Store → α → Store) : Prop where
  congr : ∀ {id s s'} (a : α), Agree id s s' → Agree id (add s a) (add s' a)
  unseen : ∀ {id} (s : Store) {a : α}, instanceOf a ≠ id → Agree id (add s a) s
  keyed : ∀ {s : Store} (a : α), s.Keyed → (add s a).Keyed

namespace Apart

variable {α : Type} {instanceOf : α → InstanceId} {add : Store → α → Store} {id : InstanceId}
  {l l' : List α} {s s' : Store}

theorem foldl_congr (apart : Apart instanceOf add) (agree : Agree id s s') (l : List α) :
    Agree id (l.foldl add s) (l.foldl add s') := by
  induction l generalizing s s' with
  | nil => exact agree
  | cons a rest ih => exact ih (apart.congr a agree)

/-- Only the records of an instance count for it. -/
theorem foldl_filter (apart : Apart instanceOf add) (l : List α) (s : Store) :
    Agree id (l.foldl add s) ((l.filter (instanceOf · == id)).foldl add s) := by
  induction l generalizing s with
  | nil => exact .refl id s
  | cons a rest ih =>
    by_cases own : instanceOf a = id
    · rw [List.filter_cons_of_pos (by simp [own])]
      exact ih (add s a)
    · -- The record stays in the store, so the rest is added to a store that merely agrees.
      rw [List.filter_cons_of_neg (by simp [own])]
      exact (apart.foldl_congr (apart.unseen s own) rest).trans (ih s)

theorem foldl_agree (apart : Apart instanceOf add)
    (same : l.filter (instanceOf · == id) = l'.filter (instanceOf · == id))
    (agree : Agree id s s') : Agree id (l.foldl add s) (l'.foldl add s') := by
  have counted := apart.foldl_congr agree (l.filter (instanceOf · == id))
  have counted' : Agree id (l'.foldl add s') ((l'.filter (instanceOf · == id)).foldl add s') :=
    apart.foldl_filter l' s'
  rw [← same] at counted'
  exact (apart.foldl_filter l s).trans (counted.trans counted'.symm)

theorem foldl_keyed (apart : Apart instanceOf add) (keyed : s.Keyed) (l : List α) :
    (l.foldl add s).Keyed := by
  induction l generalizing s with
  | nil => exact keyed
  | cons a rest ih => exact ih (apart.keyed a keyed)

end Apart

theorem addInstance_apart : Apart Instance.id addInstance where
  congr a agree := by
    refine ⟨?_, agree.users, agree.connections, agree.subscriptions⟩
    simp only [addInstance, Std.HashMap.getElem?_insert, agree.instances]
  unseen s a other := by
    refine ⟨?_, fun _ => rfl, fun _ => rfl, rfl⟩
    simp [addInstance, Std.HashMap.getElem?_insert, other]
  keyed a keyed := by
    intro id tracker found
    simp only [addInstance, Std.HashMap.getElem?_insert] at found
    split at found
    · rename_i own
      cases found
      exact beq_iff_eq.mp own
    · exact keyed id tracker found

theorem addUser_apart : Apart UserRecord.instanceId addUser where
  congr a agree := by
    refine ⟨agree.instances, fun account => ?_, fun user => ?_, agree.subscriptions⟩
    · simp only [addUser, Std.HashMap.getElem?_insert, agree.users]
    · simp only [addUser, Std.HashMap.getElem?_insert, agree.connections]
  unseen s a other := by
    refine ⟨rfl, fun account => ?_, fun user => ?_, rfl⟩ <;>
      simp [addUser, Std.HashMap.getElem?_insert, other]
  keyed _ keyed := keyed

theorem addMapping_apart : Apart Mapping.instanceId addMapping where
  congr a agree := by
    refine ⟨agree.instances, fun account => ?_, agree.connections, agree.subscriptions⟩
    simp only [addMapping, Std.HashMap.getElem?_insert, agree.users]
  unseen s a other := by
    refine ⟨rfl, fun account => ?_, fun _ => rfl, rfl⟩
    simp [addMapping, Std.HashMap.getElem?_insert, other]
  keyed _ keyed := keyed

theorem addSubscription_apart : Apart Subscription.instanceId addSubscription where
  congr {id s s'} a agree := by
    refine ⟨agree.instances, agree.users, agree.connections, ?_⟩
    have held : s.subscriptions.getD id [] = s'.subscriptions.getD id [] := agree.subscriptions
    simp only [subscriptionsTo, addSubscription, Std.HashMap.getD_insert]
    split
    · rename_i own
      rw [beq_iff_eq.mp own, held]
    · exact held
  unseen s a other := by
    refine ⟨rfl, fun _ => rfl, fun _ => rfl, ?_⟩
    simp [subscriptionsTo, addSubscription, Std.HashMap.getD_insert, other]
  keyed _ keyed := keyed

section Recorded

variable {id : InstanceId} {seed seed' : Seed} {mappings mappings' : List Mapping}

/-- Stores of the same records of an instance agree about it. -/
theorem recorded_agree (records : seed.only id = seed'.only id)
    (mapped : mappings.filter (·.instanceId == id) = mappings'.filter (·.instanceId == id)) :
    Agree id (recorded seed mappings) (recorded seed' mappings') := by
  simp only [Seed.only, Seed.mk.injEq] at records
  obtain ⟨instances, users, subscriptions⟩ := records
  refine addMapping_apart.foldl_agree mapped ?_
  refine addSubscription_apart.foldl_agree subscriptions ?_
  refine addUser_apart.foldl_agree users ?_
  exact addInstance_apart.foldl_agree instances (.refl id empty)

theorem recorded_keyed (seed : Seed) (mappings : List Mapping) :
    (recorded seed mappings).Keyed := by
  have nothing : empty.Keyed := by
    intro id tracker found
    simp [empty] at found
  refine addMapping_apart.foldl_keyed ?_ mappings
  refine addSubscription_apart.foldl_keyed ?_ seed.subscriptions
  refine addUser_apart.foldl_keyed ?_ seed.users
  exact addInstance_apart.foldl_keyed nothing seed.instances

end Recorded

end Store

/-- The call looks nothing up under another instance. -/
def Call.LooksUpAt (id : InstanceId) : Call → Prop
  | .loadInstance other | .loadUser other _ | .loadConnection other _ | .loadSubscriptions other =>
    other = id
  | .openSession .. | .fetch .. | .postDirect .. | .postToChannel .. => True

/-- Collaborators that look up in a store. -/
def Collaborators.withStore {σ : Type} (store : Store) (others : Collaborators σ) :
    Collaborators σ where
  answer
    | .loadInstance id, s => (some (store.instance? id), s)
    | .loadUser id account, s => (some (store.userOf id account), s)
    | .loadConnection id user, s => (some (store.connection id user), s)
    | .loadSubscriptions id, s => (some (.ok (store.subscriptionsTo id)), s)
    | call, s => others.answer call s

section Run

variable {σ : Type} {id : InstanceId} {store store' : Store} (others : Collaborators σ)

theorem Store.Agree.answer_eq (agree : store.Agree id store') {call : Call}
    (looks : call.LooksUpAt id) (s : σ) :
    (others.withStore store).answer call s = (others.withStore store').answer call s := by
  cases call with
  | loadInstance other =>
    cases looks
    simp [Collaborators.withStore, instance?, agree.instances]
  | loadUser other account =>
    cases looks
    simp [Collaborators.withStore, userOf, agree.users]
  | loadConnection other user =>
    cases looks
    simp [Collaborators.withStore, connection, agree.connections]
  | loadSubscriptions other =>
    cases looks
    simp [Collaborators.withStore, agree.subscriptions]
  | _ => rfl

namespace Event

variable {e : Event} {sender : UserId} {tracker : Instance}

/-- Whatever the run of an event is answered, it looks up at its tracker alone. -/
theorem relayFrom_looksUpAt : (e.relayFrom sender tracker).Only (·.LooksUpAt tracker.id) := by
  unfold relayFrom
  refine Only.bind (tellAll_only (fun _ _ => rfl) (fun _ => rfl) fun _ _ => trivial) ?_
  intro direct
  refine Only.bind (readied_only (fun _ => rfl) (fun _ => rfl) (fun _ => trivial)
    fun _ _ _ => trivial) fun ready => ?_
  cases ready with
  | error halt => exact trivial
  | ok ready => exact publish_only rfl fun _ _ => trivial

/-- Stores that agree about an instance lead the runs of its events the same way. -/
theorem relay_withStore (agree : store.Agree id store') (keyed : store.Keyed) (s : σ) :
    (e.relay sender id).trace (others.withStore store) s =
        (e.relay sender id).trace (others.withStore store') s ∧
      (e.relay sender id).exec (others.withStore store) s =
        (e.relay sender id).exec (others.withStore store') s := by
  have looks : (Call.loadInstance id).LooksUpAt id := rfl
  have same := agree.answer_eq others looks s
  unfold relay
  rw [call_bind, trace, trace, exec, exec, ← same]
  have found : (others.withStore store).answer (.loadInstance id) s =
      (some (store.instance? id), s) := rfl
  rw [found]
  cases loaded : store.instance? id with
  | error err =>
    dsimp only
    split <;> exact ⟨rfl, rfl⟩
  | ok tracker =>
    have own : tracker.id = id := keyed id tracker (Store.found_eq_ok_iff.mp loaded)
    have alike : (e.relayFrom sender tracker).Only fun call => ∀ s,
        (others.withStore store).answer call s = (others.withStore store').answer call s :=
      relayFrom_looksUpAt.mono fun call asked s => agree.answer_eq others (own ▸ asked) s
    obtain ⟨traces, execs⟩ := alike.congr s
    exact ⟨congrArg _ traces, execs⟩

end Event

theorem Webhook.relay_withStore {seed seed' : Seed} {mappings mappings' : List Mapping}
    (records : seed.only id = seed'.only id)
    (mapped : mappings.filter (·.instanceId == id) = mappings'.filter (·.instanceId == id))
    (s : σ) (sender : UserId) (body : Bytes) :
    let c := others.withStore (Store.recorded seed mappings)
    let c' := others.withStore (Store.recorded seed' mappings')
    (relay sender ⟨id, body⟩).trace c s = (relay sender ⟨id, body⟩).trace c' s ∧
      (relay sender ⟨id, body⟩).exec c s = (relay sender ⟨id, body⟩).exec c' s := by
  intro c c'
  have agree := Store.recorded_agree records mapped
  have keyed := Store.recorded_keyed seed mappings
  unfold relay
  split
  · exact Event.relay_withStore others agree keyed s
  · exact ⟨rfl, rfl⟩
  · exact ⟨rfl, rfl⟩

end Run

/-- What a store holds for other instances has no part in the run of a webhook: with the same
records of the webhook's own instance, and a tracker and a chat that answer the same, everything
that the run asks and is answered is the same, and so is what it comes to. -/
theorem other_instances_unseen {id : InstanceId} {seed seed' : Seed}
    {mappings mappings' : List Mapping} (records : seed.only id = seed'.only id)
    (mapped : mappings.filter (·.instanceId == id) = mappings'.filter (·.instanceId == id))
    {σ : Type} (others : Collaborators σ) (s : σ) (sender : UserId) (body : Bytes) :
    let c := others.withStore (Store.recorded seed mappings)
    let c' := others.withStore (Store.recorded seed' mappings')
    (Webhook.relay sender ⟨id, body⟩).trace c s = (Webhook.relay sender ⟨id, body⟩).trace c' s ∧
      (Webhook.relay sender ⟨id, body⟩).exec c s = (Webhook.relay sender ⟨id, body⟩).exec c' s :=
  Webhook.relay_withStore others records mapped s sender body

/-- What one of several neighbours has on record: all are at the same URL, have the account
"ann" connected, and subscribe the channel "town". -/
def Seed.neighbour (id user : String) : Seed where
  instances := [⟨⟨id⟩, "https://t", .cloud⟩]
  users := [⟨⟨id⟩, ⟨user⟩, ⟨⟨"ann"⟩, user, .bearer user, .enabled⟩⟩]
  subscriptions := [{ subscribeComments "town" [] with instanceId := ⟨id⟩ }]

def Seed.append (seed seed' : Seed) : Seed where
  instances := seed.instances ++ seed'.instances
  users := seed.users ++ seed'.users
  subscriptions := seed.subscriptions ++ seed'.subscriptions

/-- A neighbour whose records come later makes no difference. -/
theorem neighbour_unseen :
    let alone := Seed.neighbour "tracker" "u1"
    let neighbours := alone.append (.neighbour "other" "u2")
    let mapping : Mapping := ⟨⟨"other"⟩, ⟨"ann"⟩, ⟨"u3"⟩⟩
    let others := Collaborators.constant .null []
    alone.only ⟨"tracker"⟩ = neighbours.only ⟨"tracker"⟩ ∧ alone ≠ neighbours ∧
      (commentWebhook.relay ⟨"bot"⟩).trace (others.withStore (Store.recorded alone [])) () =
        (commentWebhook.relay ⟨"bot"⟩).trace
          (others.withStore (Store.recorded neighbours [mapping])) () := by
  intro alone neighbours mapping others
  have records : alone.only ⟨"tracker"⟩ = neighbours.only ⟨"tracker"⟩ := by decide +kernel
  have mapped : ([] : List Mapping).filter (·.instanceId == ⟨"tracker"⟩) =
      [mapping].filter (·.instanceId == ⟨"tracker"⟩) := by decide +kernel
  obtain ⟨traces, -⟩ :=
    other_instances_unseen records mapped others () ⟨"bot"⟩ commentWebhook.body
  exact ⟨records, by decide +kernel, traces⟩

/-- A relay in service looks up in its store, whatever store it was put into service with. -/
theorem Collaborators.live_eq_withStore {σ : Type} (store store' : Store) (poster : Poster)
    (transport : Http.Transport (StateM σ)) :
    live store poster transport = (live store' poster transport).withStore store := by
  unfold live withStore
  congr 1
  funext call s
  cases call <;> rfl

/-- Two relays in service, with the same records of an instance and the same transport, ask the same
for a webhook of that instance, are answered the same and come to the same. -/
theorem live_instances_unseen {id : InstanceId} {seed seed' : Seed}
    {mappings mappings' : List Mapping} (records : seed.only id = seed'.only id)
    (mapped : mappings.filter (·.instanceId == id) = mappings'.filter (·.instanceId == id))
    {σ : Type} (poster : Poster) (transport : Http.Transport (StateM σ)) (s : σ) (sender : UserId)
    (body : Bytes) :
    let c := Collaborators.live (Store.recorded seed mappings) poster transport
    let c' := Collaborators.live (Store.recorded seed' mappings') poster transport
    (Webhook.relay sender ⟨id, body⟩).trace c s = (Webhook.relay sender ⟨id, body⟩).trace c' s ∧
      (Webhook.relay sender ⟨id, body⟩).exec c s = (Webhook.relay sender ⟨id, body⟩).exec c' s := by
  intro c c'
  have looks : c = c.withStore (Store.recorded seed mappings) :=
    Collaborators.live_eq_withStore ..
  have looks' : c' = c.withStore (Store.recorded seed' mappings') :=
    Collaborators.live_eq_withStore ..
  rw [looks, looks']
  exact Webhook.relay_withStore c records mapped s sender body

end Herald
