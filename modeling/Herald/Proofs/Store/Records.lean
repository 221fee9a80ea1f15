import Herald.Proofs.Store.Isolation
import Herald.Proofs.Tracker.Url

/-!
# A store and its records

A store is an index of the records it was made of, and answers what a scan of their lists would
find: of several records for one thing the last, and of subscriptions all, in their order.

Main statements: what each index holds in terms of the records (`instances_recorded`,
`users_recorded`, `connections_recorded`, `subscriptionsTo_recorded`), and what the look-ups answer
(`store_answers_records`).
-/

namespace Herald

section Last

variable {α κ : Type} [BEq κ] [LawfulBEq κ] {key : α → κ} {records : List α} {k : κ} {r : α}

/-- The record has the key, and none that comes after it does. -/
def IsLast {α κ : Type} (key : α → κ) (records : List α) (k : κ) (r : α) : Prop :=
  ∃ before after, records = before ++ r :: after ∧ key r = k ∧ ∀ later ∈ after, key later ≠ k

theorem lastWith?_eq_some_iff_isLast :
    lastWith? key records k = some r ↔ IsLast key records k r :=
  lastWith?_eq_some_iff

theorem lastWith?_eq_none_iff : lastWith? key records k = none ↔ ∀ r ∈ records, key r ≠ k := by
  simp [lastWith?]

end Last

namespace Instance

/-- The tracker is installed as the record says, at its base URL without the slashes at the end. -/
structure InstalledAs (i tracker : Instance) : Prop where
  id : tracker.id = i.id
  kind : tracker.kind = i.kind
  slashes : ∃ n, i.baseUrl.toList = tracker.baseUrl.toList ++ List.replicate n '/'
  unslashed : tracker.baseUrl.toList.getLast? ≠ some '/'

theorem normalized_installedAs (i : Instance) : i.InstalledAs i.normalized where
  id := rfl
  kind := rfl
  slashes := by
    have split := List.rdropWhile_append_rtakeWhile (p := (· == '/')) (l := i.baseUrl.toList)
    refine ⟨(i.baseUrl.toList.rtakeWhile (· == '/')).length, ?_⟩
    rw [normalized, Text.toList_withoutTrailingSlashes]
    refine split.symm.trans (congrArg _ (List.eq_replicate_of_mem fun c member => ?_))
    have isSlash : (c == '/') = true := List.mem_rtakeWhile_imp (p := (· == '/')) member
    exact beq_iff_eq.mp isSlash
  unslashed := by
    rw [normalized, Text.toList_withoutTrailingSlashes]
    intro last
    obtain ⟨nonempty, isSlash⟩ := List.mem_getLast?_eq_getLast last
    exact List.rdropWhile_last_not (· == '/') i.baseUrl.toList nonempty
      (beq_iff_eq.mpr isSlash.symm)

/-- The slashes at the end are told from the rest, so there is one way to install a tracker. -/
theorem installedAs_iff {i tracker : Instance} : i.InstalledAs tracker ↔ i.normalized = tracker := by
  constructor
  · intro installed
    obtain ⟨n, slashes⟩ := installed.slashes
    have kept : ∀ last ∈ tracker.baseUrl.toList.getLast?, (last == '/') = false := by
      intro last given
      rw [beq_eq_false_iff_ne]
      rintro rfl
      exact installed.unslashed given
    have dropped : (List.replicate n '/').rdropWhile (· == '/') = [] := by
      rw [List.rdropWhile_eq_nil_iff]
      exact fun c member => beq_iff_eq.mpr (List.eq_of_mem_replicate member)
    have url : Text.withoutTrailingSlashes i.baseUrl = tracker.baseUrl := by
      refine String.toList_injective ?_
      rw [Text.toList_withoutTrailingSlashes, slashes]
      change List.rdropWhile _ _ = _
      rw [Text.rdropWhile_append _ kept, dropped, List.append_nil]
    cases tracker
    simp only [normalized, url, ← installed.id, ← installed.kind]
  · rintro rfl
    exact normalized_installedAs i

end Instance

/-- What a record of an account's user is found by. -/
def Mapping.accountKey (m : Mapping) : InstanceId × AccountId :=
  (m.instanceId, m.account)

namespace Store

/-- What no addition changes stays. -/
theorem foldl_kept {α β : Type} (add : Store → α → Store) (part : Store → β)
    (kept : ∀ s a, part (add s a) = part s) (l : List α) (s : Store) :
    part (l.foldl add s) = part s := by
  induction l generalizing s with
  | nil => rfl
  | cons a rest ih => exact (ih (add s a)).trans (kept s a)

theorem subscriptionsTo_addSubscription (s : Store) (sub : Subscription) (id : InstanceId) :
    (s.addSubscription sub).subscriptionsTo id =
      s.subscriptionsTo id ++ [sub].filter (·.instanceId == id) := by
  simp only [subscriptionsTo, addSubscription, Std.HashMap.getD_insert, List.filter_cons,
    List.filter_nil]
  split
  · rename_i own
    rw [beq_iff_eq.mp own]
  · rw [List.append_nil]

theorem foldl_addSubscription (l : List Subscription) (s : Store) (id : InstanceId) :
    (l.foldl addSubscription s).subscriptionsTo id =
      s.subscriptionsTo id ++ l.filter (·.instanceId == id) := by
  induction l generalizing s with
  | nil => exact (List.append_nil _).symm
  | cons sub rest ih =>
    rw [List.foldl_cons, ih, subscriptionsTo_addSubscription, List.append_assoc,
      ← List.filter_append, List.singleton_append]

section Recorded

variable (seed : Seed) (mappings : List Mapping)

theorem instances_recorded (id : InstanceId) : (recorded seed mappings).instances[id]? =
    (lastWith? Instance.id seed.instances id).map Instance.normalized := by
  have installed : (seed.instances.foldl addInstance empty).instances =
      seed.instances.foldl (fun m i => m.insert i.id i.normalized) empty.instances :=
    (List.foldl_hom instances fun _ _ => rfl).symm
  rw [recorded, foldl_kept addMapping instances fun _ _ => rfl, ofSeed,
    foldl_kept addSubscription instances fun _ _ => rfl,
    foldl_kept addUser instances fun _ _ => rfl, installed, getElem?_foldl_insert]
  simp [empty]

theorem users_recorded (k : InstanceId × AccountId) : (recorded seed mappings).users[k]? =
    ((lastWith? Mapping.accountKey mappings k).map (·.user)).or
      ((lastWith? UserRecord.accountKey seed.users k).map (·.user)) := by
  have mapped : (mappings.foldl addMapping (ofSeed seed)).users =
      mappings.foldl (fun m r => m.insert r.accountKey r.user) (ofSeed seed).users :=
    (List.foldl_hom users fun _ _ => rfl).symm
  rw [recorded, mapped, getElem?_foldl_insert, ofSeed_eq_built, users_built, recordedUsers_seed]

theorem connections_recorded (k : InstanceId × UserId) : (recorded seed mappings).connections[k]? =
    (lastWith? UserRecord.userKey seed.users k).map (·.connection) := by
  rw [recorded, foldl_kept addMapping connections fun _ _ => rfl, ofSeed_eq_built,
    connections_built, recordedUsers_seed]

theorem subscriptionsTo_recorded (id : InstanceId) : (recorded seed mappings).subscriptionsTo id =
    seed.subscriptions.filter (·.instanceId == id) := by
  rw [recorded, foldl_kept addMapping (subscriptionsTo · id) fun _ _ => rfl, ofSeed,
    foldl_addSubscription, foldl_kept addUser (subscriptionsTo · id) fun _ _ => rfl,
    foldl_kept addInstance (subscriptionsTo · id) fun _ _ => rfl]
  simp [subscriptionsTo, empty]

end Recorded

theorem found_eq_error_iff {α : Type} {kind : RecordKind} {key : String} {a? : Option α}
    {err : StoreError} : found kind key a? = .error err ↔ a? = none ∧ err = .notFound kind key := by
  cases a? <;> simp [found, eq_comm]

end Store

/-- A store answers from the records it was made of. The instance of an id, the connection of a
user and the user of an account are those of the last record for them, where later mappings go
before the users of the seed; without a record the look-up says that there is none. The
subscriptions to an instance are those of the seed, in its order, and those that receive an event
are the ones among them that accept it. -/
theorem store_answers_records (seed : Seed) (mappings : List Mapping) (id : InstanceId) :
    let s := Store.recorded seed mappings
    (∀ tracker, s.instance? id = .ok tracker ↔
      ∃ i, IsLast Instance.id seed.instances id i ∧ i.InstalledAs tracker) ∧
    (∀ user connection, s.connection id user = .ok connection ↔
      ∃ r, IsLast UserRecord.userKey seed.users (id, user) r ∧ r.connection = connection) ∧
    (∀ account user, s.userOf id account = .ok user ↔
      (∃ m, IsLast Mapping.accountKey mappings (id, account) m ∧ m.user = user) ∨
      (∀ m ∈ mappings, m.accountKey ≠ (id, account)) ∧
        ∃ r, IsLast UserRecord.accountKey seed.users (id, account) r ∧ r.user = user) ∧
    (∀ err, s.instance? id = .error err ↔
      (∀ i ∈ seed.instances, i.id ≠ id) ∧ err = .notFound .tracker id.text) ∧
    (∀ user err, s.connection id user = .error err ↔
      (∀ r ∈ seed.users, r.userKey ≠ (id, user)) ∧ err = .notFound .connection user.text) ∧
    (∀ account err, s.userOf id account = .error err ↔
      ((∀ m ∈ mappings, m.accountKey ≠ (id, account)) ∧
        ∀ r ∈ seed.users, r.accountKey ≠ (id, account)) ∧
      err = .notFound .user account.text) ∧
    s.subscriptionsTo id = seed.subscriptions.filter (·.instanceId == id) ∧
    ∀ e visibility, s.subscribed id e visibility =
      (seed.subscriptions.filter (·.instanceId == id)).filter (·.accepts e visibility) := by
  intro s
  have subscriptions := Store.subscriptionsTo_recorded seed mappings id
  refine ⟨fun tracker => ?_, fun user connection => ?_, fun account user => ?_, fun err => ?_,
    fun user err => ?_, fun account err => ?_, subscriptions, fun e visibility => ?_⟩
  · rw [Store.instance?, Store.found_eq_ok_iff, Store.instances_recorded, Option.map_eq_some_iff]
    simp only [lastWith?_eq_some_iff_isLast, Instance.installedAs_iff]
  · rw [Store.connection, Store.found_eq_ok_iff, Store.connections_recorded,
      Option.map_eq_some_iff]
    simp only [lastWith?_eq_some_iff_isLast]
  · rw [Store.userOf, Store.found_eq_ok_iff, Store.users_recorded, Option.or_eq_some_iff]
    simp only [Option.map_eq_some_iff, Option.map_eq_none_iff, lastWith?_eq_some_iff_isLast,
      lastWith?_eq_none_iff]
  · rw [Store.instance?, Store.found_eq_error_iff, Store.instances_recorded,
      Option.map_eq_none_iff, lastWith?_eq_none_iff]
  · rw [Store.connection, Store.found_eq_error_iff, Store.connections_recorded,
      Option.map_eq_none_iff, lastWith?_eq_none_iff]
  · rw [Store.userOf, Store.found_eq_error_iff, Store.users_recorded, Option.or_eq_none_iff,
      Option.map_eq_none_iff, Option.map_eq_none_iff, lastWith?_eq_none_iff,
      lastWith?_eq_none_iff]
  · rw [Store.subscribed, subscriptions]

end Herald
