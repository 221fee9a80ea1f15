import Herald.Proofs.Run.Stages

/-!
# Whose connection an account finds

The store finds the user of an account in one index and the connection of a user in
another. Of several records for one key the last counts, in each index by itself, so an
account keeps finding the user of its last record after that user was recorded again under
another account.

Main statements: what the two look-ups answer in terms of the records (`users_built`,
`connections_built`), and that an account finds the connection of another exactly where its
user was recorded again (`mismatch_iff_reconnected`).
-/

namespace Herald

open Run

namespace Store

/-- A record that comes into a store. -/
inductive Addition where
  | tracker (i : Instance)
  | user (u : UserRecord)
  | subscription (s : Subscription)
  deriving DecidableEq, Repr

def add (s : Store) : Addition → Store
  | .tracker i => s.addInstance i
  | .user u => s.addUser u
  | .subscription sub => s.addSubscription sub

/-- The store that records were added to one by one. -/
def built (additions : List Addition) : Store :=
  additions.foldl add empty

def Addition.user? : Addition → Option UserRecord
  | .user u => some u
  | _ => none

/-- The users among the records, in the order they came. -/
def recordedUsers (additions : List Addition) : List UserRecord :=
  additions.filterMap Addition.user?

end Store

/-- The records of a seed in the order they are added. -/
def Seed.additions (seed : Seed) : List Store.Addition :=
  seed.instances.map .tracker ++ seed.users.map .user ++ seed.subscriptions.map .subscription

namespace Store

theorem ofSeed_eq_built (seed : Seed) : ofSeed seed = built seed.additions := by
  unfold ofSeed built Seed.additions
  rw [List.foldl_append, List.foldl_append, List.foldl_map, List.foldl_map, List.foldl_map]
  rfl

theorem recordedUsers_seed (seed : Seed) : recordedUsers seed.additions = seed.users := by
  have others {α : Type} (l : List α) {f : α → Addition} (silent : ∀ a, (f a).user? = none) :
      (l.map f).filterMap Addition.user? = [] := by
    simp [List.filterMap_map, silent]
  have users : (seed.users.map Addition.user).filterMap Addition.user? = seed.users := by
    simp [List.filterMap_map, Function.comp_def, Addition.user?]
  rw [recordedUsers, Seed.additions, List.filterMap_append, List.filterMap_append, users,
    others seed.instances fun _ => rfl, others seed.subscriptions fun _ => rfl,
    List.nil_append, List.append_nil]

end Store

/-- The last of the records that have a key. -/
def lastWith? {α κ : Type} [BEq κ] (key : α → κ) (records : List α) (k : κ) : Option α :=
  records.reverse.find? (key · == k)

section Last

variable {α κ : Type} [BEq κ] [LawfulBEq κ] {key : α → κ} {records : List α} {k : κ} {r : α}

theorem lastWith?_eq_some_iff : lastWith? key records k = some r ↔
    ∃ before after, records = before ++ r :: after ∧ key r = k ∧
      ∀ later ∈ after, key later ≠ k := by
  unfold lastWith?
  rw [List.find?_eq_some_iff_append]
  constructor
  · intro given
    obtain ⟨found, later, earlier, split, others⟩ := given
    refine ⟨earlier.reverse, later.reverse, ?_, beq_iff_eq.mp found, fun other member => ?_⟩
    · rw [← List.reverse_reverse records, split]
      simp
    · simpa using others other (List.mem_reverse.mp member)
  · intro given
    obtain ⟨before, after, rfl, found, others⟩ := given
    refine ⟨beq_iff_eq.mpr found, after.reverse, before.reverse, by simp, fun other member => ?_⟩
    simpa using others other (List.mem_reverse.mp member)

/-- A record with the key that comes after another is the last, or one after it is. -/
theorem exists_lastWith?_of_mem {before after : List α} {later : α} (member : later ∈ after)
    (found : key later = k) :
    ∃ last ∈ after, lastWith? key (before ++ r :: after) k = some last := by
  have some : (after.reverse.find? (key · == k)).isSome = true := by
    rw [List.find?_isSome]
    exact ⟨later, List.mem_reverse.mpr member, beq_iff_eq.mpr found⟩
  obtain ⟨last, first⟩ := Option.isSome_iff_exists.mp some
  refine ⟨last, List.mem_reverse.mp (List.mem_of_find?_eq_some first), ?_⟩
  simp [lastWith?, List.find?_append, first]

/-- Of several values inserted for one key the last counts. -/
theorem getElem?_foldl_insert {β : Type} [Hashable κ] (value : α → β) (m : Std.HashMap κ β) :
    (records.foldl (fun m r => m.insert (key r) (value r)) m)[k]? =
      ((lastWith? key records k).map value).or m[k]? := by
  unfold lastWith?
  induction records generalizing m with
  | nil => rfl
  | cons r rest ih =>
    rw [List.foldl_cons, ih, Std.HashMap.getElem?_insert, List.reverse_cons, List.find?_append]
    cases rest.reverse.find? (key · == k) with
    | some last => rfl
    | none => cases same : key r == k <;> simp [same]

end Last

namespace UserRecord

/-- What a record is found by when the user of an account is looked up. -/
def accountKey (u : UserRecord) : InstanceId × AccountId :=
  (u.instanceId, u.connection.account)

/-- What a record is found by when the connection of a user is looked up. -/
def userKey (u : UserRecord) : InstanceId × UserId :=
  (u.instanceId, u.user)

end UserRecord

namespace Store

theorem users_built (additions : List Addition) (k : InstanceId × AccountId) :
    (built additions).users[k]? =
      (lastWith? UserRecord.accountKey (recordedUsers additions) k).map (·.user) := by
  have folded : ∀ s : Store, (additions.foldl add s).users = (recordedUsers additions).foldl
      (fun m r => m.insert r.accountKey r.user) s.users := by
    induction additions with
    | nil => exact fun s => rfl
    | cons a rest ih => cases a <;> exact fun s => ih (s.add _)
  rw [built, folded, getElem?_foldl_insert]
  simp [empty]

theorem connections_built (additions : List Addition) (k : InstanceId × UserId) :
    (built additions).connections[k]? =
      (lastWith? UserRecord.userKey (recordedUsers additions) k).map (·.connection) := by
  have folded : ∀ s : Store, (additions.foldl add s).connections = (recordedUsers additions).foldl
      (fun m r => m.insert r.userKey r.connection) s.connections := by
    induction additions with
    | nil => exact fun s => rfl
    | cons a rest ih => cases a <;> exact fun s => ih (s.add _)
  rw [built, folded, getElem?_foldl_insert]
  simp [empty]

theorem found_eq_ok_iff {α : Type} {kind : RecordKind} {key : String} {a? : Option α} {a : α} :
    found kind key a? = .ok a ↔ a? = some a := by
  cases a? <;> simp [found]

/-- The user of the last record for an account was recorded again later, under another
account. -/
def Reconnected (records : List UserRecord) (id : InstanceId) (account : AccountId) : Prop :=
  ∃ before r after, records = before ++ r :: after ∧ r.accountKey = (id, account) ∧
    (∀ later ∈ after, later.accountKey ≠ (id, account)) ∧
    ∃ later ∈ after, later.userKey = (id, r.user)

/-- An account finds the connection of another exactly where its user was recorded again. -/
theorem mismatch_iff_reconnected {additions : List Addition} {id : InstanceId}
    {account : AccountId} :
    (∃ user connection, (built additions).userOf id account = .ok user ∧
      (built additions).connection id user = .ok connection ∧ connection.account ≠ account) ↔
    Reconnected (recordedUsers additions) id account := by
  simp only [userOf, connection, found_eq_ok_iff, users_built, connections_built,
    Option.map_eq_some_iff]
  constructor
  · intro given
    obtain ⟨_, _, ⟨r, last, rfl⟩, ⟨r', last', rfl⟩, other⟩ := given
    obtain ⟨before, after, split, keyed, unrepeated⟩ := lastWith?_eq_some_iff.mp last
    refine ⟨before, r, after, split, keyed, unrepeated, ?_⟩
    -- Were the record also the last of its user, it would be the one that was found.
    refine Decidable.byContradiction fun never => ?_
    have same : lastWith? UserRecord.userKey (recordedUsers additions) (id, r.user) = some r := by
      refine lastWith?_eq_some_iff.mpr ⟨before, after, split, ?_, fun later member again => ?_⟩
      · simpa [UserRecord.accountKey, UserRecord.userKey] using congrArg Prod.fst keyed
      · exact never ⟨later, member, again⟩
    cases last'.symm.trans same
    exact other (congrArg Prod.snd keyed)
  · intro given
    obtain ⟨before, r, after, split, keyed, unrepeated, later, member, again⟩ := given
    obtain ⟨last, among, found⟩ : ∃ last ∈ after,
        lastWith? UserRecord.userKey (before ++ r :: after) (id, r.user) = some last :=
      exists_lastWith?_of_mem member again
    have known := lastWith?_eq_some_iff.mpr ⟨before, after, split, keyed, unrepeated⟩
    rw [← split] at found
    refine ⟨r.user, last.connection, ⟨r, known, rfl⟩, ⟨last, found, rfl⟩, fun same => ?_⟩
    obtain ⟨-, -, -, found, -⟩ := lastWith?_eq_some_iff.mp found
    refine unrepeated last among ?_
    rw [UserRecord.accountKey, same, (Prod.mk.inj found).1]

end Store

/-- A store, made of additions or of a seed, finds a person's own connection by every account
but those whose user was recorded again under another one. There it finds the connection of
that other account, and whoever looks up in the store acts as that other account. -/
theorem stale_account_iff (additions : List Store.Addition) :
    (∀ seed : Seed, seed.additions = additions → Store.ofSeed seed = Store.built additions ∧
      Store.recordedUsers additions = seed.users) ∧
    (∀ (id : InstanceId) (account : AccountId),
      (∃ user connection, (Store.built additions).userOf id account = .ok user ∧
        (Store.built additions).connection id user = .ok connection ∧
        connection.account ≠ account) ↔
      Store.Reconnected (Store.recordedUsers additions) id account) ∧
    (∀ {σ : Type} (c : Collaborators σ) (s : σ) (sender : UserId) (w : Webhook),
      (∀ id account t, (c.answer (.loadUser id account) t).1 =
        some ((Store.built additions).userOf id account)) →
      (∀ id user t, (c.answer (.loadConnection id user) t).1 =
        some ((Store.built additions).connection id user)) →
      ∀ session answer, ⟨.openSession session, answer⟩ ∈ (w.relay sender).trace c s →
        ∃ e account, Event.parse w.body = .ok (some e) ∧ e.actingAccount = some account ∧
          (session.connection.account ≠ account ↔
            Store.Reconnected (Store.recordedUsers additions) session.tracker.id account)) := by
  refine ⟨fun seed same => ?_, fun id account => Store.mismatch_iff_reconnected, ?_⟩
  · subst same
    exact ⟨Store.ofSeed_eq_built seed, Store.recordedUsers_seed seed⟩
  intro σ c s sender w users connections session answer asked
  obtain ⟨e, parsed, account, user, acting, known, connected⟩ := relay_opening asked
  obtain ⟨t, known⟩ := trace_answer known
  obtain ⟨t', connected⟩ := trace_answer connected
  have known := Option.some.inj ((users _ _ t).symm.trans known)
  have connected := Option.some.inj ((connections _ _ t').symm.trans connected)
  refine ⟨e, account, parsed, acting, ?_⟩
  rw [← Store.mismatch_iff_reconnected]
  constructor
  · exact fun other => ⟨user, session.connection, known, connected, other⟩
  · intro given
    obtain ⟨user', connection, known', connected', other⟩ := given
    cases known.symm.trans known'
    cases connected.symm.trans connected'
    exact other

/-- A user who was connected as "ann", and later as "bob". -/
def annThenBob : List UserRecord :=
  let connection (account token : String) : Connection :=
    ⟨⟨account⟩, account, .bearer token, .disabled⟩
  [⟨⟨"tracker"⟩, ⟨"u1"⟩, connection "ann" "a"⟩, ⟨⟨"tracker"⟩, ⟨"u1"⟩, connection "bob" "b"⟩]

private theorem annThenBob_reconnected :
    Store.Reconnected annThenBob ⟨"tracker"⟩ ⟨"ann"⟩ :=
  ⟨[], _, _, rfl, rfl, by decide, _, List.mem_cons_self, rfl⟩

/-- Not every account finds a connection of its own. -/
theorem reconnected_account_stale : ¬ ∀ (seed : Seed) (id : InstanceId) (account : AccountId)
    (user : UserId) (connection : Connection), (Store.ofSeed seed).userOf id account = .ok user →
    (Store.ofSeed seed).connection id user = .ok connection → connection.account = account := by
  intro own
  let seed : Seed := ⟨[], annThenBob, []⟩
  have again : Store.Reconnected (Store.recordedUsers seed.additions) ⟨"tracker"⟩ ⟨"ann"⟩ := by
    rw [Store.recordedUsers_seed]
    exact annThenBob_reconnected
  obtain ⟨user, connection, known, connected, other⟩ := Store.mismatch_iff_reconnected.mpr again
  rw [← Store.ofSeed_eq_built] at known connected
  exact other (own _ _ _ _ _ known connected)

/-- Everybody is who the last of the records says. -/
def Collaborators.recording (records : List UserRecord) : Collaborators Unit where
  answer
    | .loadUser id account, s =>
      (some (Store.found .user account.text
        ((lastWith? UserRecord.accountKey records (id, account)).map (·.user))), s)
    | .loadConnection id user, s =>
      (some (Store.found .connection user.text
        ((lastWith? UserRecord.userKey records (id, user)).map (·.connection))), s)
    | call, s => (Collaborators.constant .null []).answer call s

/-- The comment of "ann" is read with the credentials of "bob". -/
theorem comment_read_as_another :
    ∃ session answer e account,
      ⟨.openSession session, answer⟩ ∈
        (commentWebhook.relay ⟨"bot"⟩).trace (.recording annThenBob) () ∧
      session.connection.credentials = .bearer "b" ∧
      Event.parse commentWebhook.body = .ok (some e) ∧ e.actingAccount = some account ∧
      session.connection.account ≠ account ∧
      Store.Reconnected annThenBob session.tracker.id account := by
  let additions := annThenBob.map Store.Addition.user
  have users : ∀ id account t, ((Collaborators.recording annThenBob).answer
      (.loadUser id account) t).1 = some ((Store.built additions).userOf id account) := by
    intro id account t
    rw [Store.userOf, Store.users_built]
    rfl
  have connections : ∀ id user t, ((Collaborators.recording annThenBob).answer
      (.loadConnection id user) t).1 = some ((Store.built additions).connection id user) := by
    intro id user t
    rw [Store.connection, Store.connections_built]
    rfl
  have opened : ((commentWebhook.relay ⟨"bot"⟩).trace (.recording annThenBob) ()).any (fun x =>
      match x.call with
      | .openSession session => session.tracker.id == ⟨"tracker"⟩ &&
          session.connection.credentials == .bearer "b"
      | _ => false) = true := by decide +kernel
  have author : (Event.ofBody? commentWebhook.body).bind Event.actingAccount = some ⟨"ann"⟩ := by
    decide +kernel
  obtain ⟨⟨call, answer⟩, member, asked⟩ := List.any_eq_true.mp opened
  cases call with
  | openSession session =>
    simp only [Bool.and_eq_true, beq_iff_eq] at asked
    obtain ⟨tracker, credentials⟩ := asked
    obtain ⟨-, -, runs⟩ := stale_account_iff additions
    obtain ⟨e, account, parsed, acting, stale⟩ := runs (.recording annThenBob) () ⟨"bot"⟩
      commentWebhook users connections session answer member
    rw [Event.ofBody?_eq_some_iff.mpr parsed] at author
    cases acting.symm.trans author
    have again : Store.Reconnected annThenBob session.tracker.id ⟨"ann"⟩ := by
      rw [tracker]
      exact annThenBob_reconnected
    exact ⟨session, answer, e, ⟨"ann"⟩, member, credentials, parsed, acting, stale.mpr again, again⟩
  | _ => cases asked

end Herald
