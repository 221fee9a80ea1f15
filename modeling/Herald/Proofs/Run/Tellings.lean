import Herald.Proofs.Event.Recipients
import Herald.Proofs.Run.Passage
import Herald.Proofs.Run.DirectPosts

/-!
# Who is told directly

The notifications of an event are handled one by one, and each is handled for itself: every way
of handling one goes with every way of handling the others. Where people are looked up in a
store, those are told whose account is on record, who are connected, and who want to be told.

Main statements: how one notification is handled (`tell_handling`), and what the direct messages
of an event and of a run come to (`direct_messages_each_apart`).
-/

namespace Herald

open Run

namespace Settings

variable {s : Settings} {role : Role}

/-- The person wants to be told under a role: by a setting for that role, or by the general
switch where there is none, which does not count for watching. -/
inductive Wants (s : Settings) (role : Role) : Prop
  | chosen (on : s.roles.get? role = some true)
  | general (unset : s.roles.get? role = none) (other : role ≠ .watching)
      (on : s.notifications = true)

theorem allows_iff : s.allows role = true ↔ s.Wants role := by
  unfold allows
  constructor
  · intro allowed
    split at allowed
    · rename_i on set
      exact .chosen (set.trans (congrArg some allowed))
    · rename_i unset
      refine .general unset ?_ ?_ <;> cases role <;> simp_all
  · intro wants
    rcases wants with on | ⟨unset, other, on⟩
    · rw [on]
    · rw [unset]
      cases role with
      | watching => exact absurd rfl other
      | _ => exact on

instance : Decidable (s.Wants role) :=
  decidable_of_iff _ allows_iff

end Settings

/-- The user that the call posts to directly. -/
def Call.recipient? : Call → Option UserId
  | .postDirect _ user _ => some user
  | _ => none

/-- The call itself where it posts a direct message. -/
def Call.direct? (call : Call) : Option Call :=
  if call.isDirect then some call else none

namespace Exchange

/-- The post that came of a direct message. -/
def posted? : Exchange → Option PostId
  | ⟨.postDirect .., some (.ok post)⟩ => some post
  | _ => none

/-- The warning that a direct message could not be posted, or that it could not be found out
whether there is somebody to post it to. -/
def warning? : Exchange → Option String
  | ⟨.loadUser _ account, some (.error err)⟩ =>
    if err.isNotFound then none else some (account.text ++ ": " ++ err.message)
  | ⟨.loadConnection _ user, some (.error err)⟩ =>
    if err.isNotFound then none else some (user.text ++ ": " ++ err.message)
  | ⟨.postDirect _ user _, some (.error err)⟩ => some (user.text ++ ": " ++ err.message)
  | _ => none

end Exchange

namespace Telling

variable {subject : String} {err : StoreError}

/-- Who is not on record is skipped without a word. -/
theorem ofStoreError_of_missing (missing : err.isNotFound = true) :
    ofStoreError subject err = .skipped :=
  if_pos missing

theorem ofStoreError_of_trouble (trouble : err.isNotFound = false) :
    ofStoreError subject err = .warned (subject ++ ": " ++ err.message) :=
  if_neg (by simp [trouble])

end Telling

namespace Event

variable {sender : UserId} {tracker : Instance} {e : Event} {n : Notification}
  {trace : List Exchange}

/-- The call that posts the direct message of a notification to a user. -/
abbrev directCall (sender : UserId) (tracker : Instance) (e : Event) (n : Notification)
    (user : UserId) : Call :=
  .postDirect sender user (Message.direct e tracker n.role)

/-- The look-ups of the person to tell, up to the answer to the second. -/
def lookingUp (tracker : Instance) (n : Notification) (user : UserId)
    (answer : Option (Except StoreError Connection)) : List Exchange :=
  [⟨.loadUser tracker.id n.recipient.account, some (.ok user)⟩,
    ⟨.loadConnection tracker.id user, answer⟩]

theorem second_mem_lookingUp (user : UserId) (answer : Option (Except StoreError Connection)) :
    (⟨.loadConnection tracker.id user, answer⟩ : Exchange) ∈ lookingUp tracker n user answer :=
  List.mem_cons_of_mem _ List.mem_cons_self

/-- The ways in which a notification is handled, each with what comes of it: none where the run
is taken down. -/
inductive Handling (sender : UserId) (tracker : Instance) (e : Event) (n : Notification) :
    List Exchange → Option Telling → Prop
  | unknown {err : StoreError} (missing : err.isNotFound = true) :
      Handling sender tracker e n
        [⟨.loadUser tracker.id n.recipient.account, some (.error err)⟩] (some .skipped)
  | unclear {err : StoreError} (trouble : err.isNotFound = false) :
      Handling sender tracker e n
        [⟨.loadUser tracker.id n.recipient.account, some (.error err)⟩]
        (some (.warned (n.recipient.account.text ++ ": " ++ err.message)))
  | unconnected (user : UserId) {err : StoreError} (missing : err.isNotFound = true) :
      Handling sender tracker e n (lookingUp tracker n user (some (.error err))) (some .skipped)
  | unreadable (user : UserId) {err : StoreError} (trouble : err.isNotFound = false) :
      Handling sender tracker e n (lookingUp tracker n user (some (.error err)))
        (some (.warned (user.text ++ ": " ++ err.message)))
  | unwanted (user : UserId) {connection : Connection}
      (unwanted : ¬ connection.settings.Wants n.role) :
      Handling sender tracker e n (lookingUp tracker n user (some (.ok connection)))
        (some .skipped)
  | posted (user : UserId) {connection : Connection} (wanted : connection.settings.Wants n.role)
      (post : PostId) :
      Handling sender tracker e n (lookingUp tracker n user (some (.ok connection)) ++
        [⟨e.directCall sender tracker n user, some (.ok post)⟩]) (some (.posted post))
  | failed (user : UserId) {connection : Connection} (wanted : connection.settings.Wants n.role)
      (err : PostError) :
      Handling sender tracker e n (lookingUp tracker n user (some (.ok connection)) ++
        [⟨e.directCall sender tracker n user, some (.error err)⟩])
        (some (.warned (user.text ++ ": " ++ err.message)))
  | userLost :
      Handling sender tracker e n [⟨.loadUser tracker.id n.recipient.account, none⟩] none
  | connectionLost (user : UserId) :
      Handling sender tracker e n (lookingUp tracker n user none) none
  | postLost (user : UserId) {connection : Connection}
      (wanted : connection.settings.Wants n.role) :
      Handling sender tracker e n (lookingUp tracker n user (some (.ok connection)) ++
        [⟨e.directCall sender tracker n user, none⟩]) none

theorem handling_of_path {telling? : Option Telling}
    (path : (e.tell sender tracker n).Path trace telling?) :
    Handling sender tracker e n trace telling? := by
  unfold tell at path
  rw [call_bind] at path
  rcases path_ask.mp path with ⟨err | user, rest, rfl, next⟩ | ⟨rfl, rfl⟩
  · obtain ⟨rfl, rfl⟩ := path_done.mp next
    cases missing : err.isNotFound with
    | true =>
      rw [Telling.ofStoreError_of_missing missing]
      exact .unknown missing
    | false =>
      rw [Telling.ofStoreError_of_trouble missing]
      exact .unclear missing
  · dsimp only at next
    rw [call_bind] at next
    rcases path_ask.mp next with ⟨err | connection, last, rfl, ended⟩ | ⟨rfl, rfl⟩
    · obtain ⟨rfl, rfl⟩ := path_done.mp ended
      cases missing : err.isNotFound with
      | true =>
        rw [Telling.ofStoreError_of_missing missing]
        exact .unconnected user missing
      | false =>
        rw [Telling.ofStoreError_of_trouble missing]
        exact .unreadable user missing
    · dsimp only at ended
      split at ended
      · rename_i allowed
        have wanted := Settings.allows_iff.mp allowed
        rw [call_bind] at ended
        rcases path_ask.mp ended with ⟨err | post, none, rfl, last⟩ | ⟨rfl, rfl⟩
        · obtain ⟨rfl, rfl⟩ := path_done.mp last
          exact .failed user wanted err
        · obtain ⟨rfl, rfl⟩ := path_done.mp last
          exact .posted user wanted post
        · exact .postLost user wanted
      · rename_i refused
        obtain ⟨rfl, rfl⟩ := path_done.mp ended
        exact .unwanted user fun wants => refused (Settings.allows_iff.mpr wants)
    · exact .connectionLost user
  · exact .userLost

theorem path_of_handling {telling? : Option Telling}
    (handling : Handling sender tracker e n trace telling?) :
    (e.tell sender tracker n).Path trace telling? := by
  -- A connection that was found is asked whether the person wants to be told.
  have asked : ∀ {user : UserId} {connection : Connection} {rest : List Exchange},
      (if connection.settings.allows n.role then
        Run.ask (e.directCall sender tracker n user) fun answer => .done (.ofAnswer user answer)
      else Run.done Telling.skipped).Path rest telling? →
      (e.tell sender tracker n).Path
        (lookingUp tracker n user (some (.ok connection)) ++ rest) telling? :=
    fun next => .answered (.answered next)
  cases handling with
  | unknown missing =>
    rw [← Telling.ofStoreError_of_missing missing]
    exact .answered (.done _)
  | unclear trouble =>
    rw [← Telling.ofStoreError_of_trouble trouble]
    exact .answered (.done _)
  | unconnected user missing =>
    rw [← Telling.ofStoreError_of_missing missing]
    exact .answered (.answered (.done _))
  | unreadable user trouble =>
    rw [← Telling.ofStoreError_of_trouble trouble]
    exact .answered (.answered (.done _))
  | unwanted user unwanted =>
    have refused := fun allowed => unwanted (Settings.allows_iff.mp allowed)
    refine @asked user _ [] ?_
    rw [if_neg refused]
    exact .done _
  | posted user wanted post =>
    refine asked ?_
    rw [if_pos (Settings.allows_iff.mpr wanted)]
    exact .answered (.done _)
  | failed user wanted err =>
    refine asked ?_
    rw [if_pos (Settings.allows_iff.mpr wanted)]
    exact .answered (.done _)
  | userLost => exact .lost _ _
  | connectionLost user => exact .answered (.lost _ _)
  | postLost user wanted =>
    refine asked ?_
    rw [if_pos (Settings.allows_iff.mpr wanted)]
    exact .lost _ _

/-- Handling a notification goes one of these ways, and may go any of them. -/
theorem tell_handling {telling? : Option Telling} :
    (e.tell sender tracker n).Path trace telling? ↔ Handling sender tracker e n trace telling? :=
  ⟨handling_of_path, path_of_handling⟩

namespace Handling

variable {telling : Telling}

/-- What is reported as posted was posted. -/
theorem posted_eq (handling : Handling sender tracker e n trace (some telling)) :
    trace.filterMap Exchange.posted? = telling.post?.toList := by
  cases handling <;> rfl

/-- What is reported as a warning went wrong. -/
theorem warnings_eq (handling : Handling sender tracker e n trace (some telling)) :
    trace.filterMap Exchange.warning? = telling.warning?.toList := by
  cases handling with
  | unknown missing => simp [Exchange.warning?, missing, Telling.warning?]
  | unclear trouble => simp [Exchange.warning?, trouble, Telling.warning?]
  | unconnected user missing => simp [Exchange.warning?, lookingUp, missing, Telling.warning?]
  | unreadable user trouble =>
    simp [List.filterMap_cons, Exchange.warning?, lookingUp, trouble, Telling.warning?]
  | unwanted user unwanted => rfl
  | posted user wanted post => rfl
  | failed user wanted err => rfl

end Handling

end Event

/-- What a store says of people: the users of accounts and the connections of users, or why it
does not say. -/
structure Directory where
  user : InstanceId → AccountId → Except StoreError UserId
  connection : InstanceId → UserId → Except StoreError Connection

/-- People are looked up in the store, whenever they are looked up. -/
structure Collaborators.LooksUp {σ : Type} (c : Collaborators σ) (d : Directory) : Prop where
  user : ∀ id account s, (c.answer (.loadUser id account) s).1 = some (d.user id account)
  connection : ∀ id user s,
    (c.answer (.loadConnection id user) s).1 = some (d.connection id user)

namespace Directory

/-- The user to post the direct message of a notification to: the user of the account, who has
a connection and wants to be told under the role. -/
def addressee? (d : Directory) (id : InstanceId) (n : Notification) : Option UserId :=
  match d.user id n.recipient.account with
  | .error _ => none
  | .ok user =>
    match d.connection id user with
    | .error _ => none
    | .ok connection => if connection.settings.Wants n.role then some user else none

section Addressee

variable {d : Directory} {id : InstanceId} {n : Notification} {user : UserId}

theorem addressee?_of_unknown {err : StoreError}
    (unknown : d.user id n.recipient.account = .error err) : d.addressee? id n = none := by
  unfold addressee?
  rw [unknown]

theorem addressee?_of_unconnected {err : StoreError}
    (known : d.user id n.recipient.account = .ok user)
    (unconnected : d.connection id user = .error err) : d.addressee? id n = none := by
  unfold addressee?
  rw [known]
  dsimp only
  rw [unconnected]

theorem addressee?_of_connected {connection : Connection}
    (known : d.user id n.recipient.account = .ok user)
    (connected : d.connection id user = .ok connection) :
    d.addressee? id n = if connection.settings.Wants n.role then some user else none := by
  unfold addressee?
  rw [known]
  dsimp only
  rw [connected]

/-- Who is told is the user of the account, and has a connection. -/
theorem connected_of_addressee? (found : d.addressee? id n = some user) :
    d.user id n.recipient.account = .ok user ∧
      ∃ connection, d.connection id user = .ok connection := by
  cases known : d.user id n.recipient.account with
  | error err =>
    rw [addressee?_of_unknown known] at found
    cases found
  | ok other =>
    cases connected : d.connection id other with
    | error err =>
      rw [addressee?_of_unconnected known connected] at found
      cases found
    | ok connection =>
      rw [addressee?_of_connected known connected, Option.ite_none_right_eq_some] at found
      obtain ⟨-, same⟩ := found
      cases same
      exact ⟨rfl, connection, connected⟩

end Addressee

end Directory

namespace Event

variable {σ : Type} {c : Collaborators σ} {d : Directory} {sender : UserId} {tracker : Instance}
  {e : Event} {n : Notification} {trace : List Exchange}

/-- The direct messages of an event where people are looked up in a store: for each notification
whose recipient can be had, one to that user, rendered for the role. -/
def dueDirects (d : Directory) (sender : UserId) (tracker : Instance) (e : Event) : List Call :=
  e.notifications.filterMap fun n =>
    (d.addressee? tracker.id n).map (e.directCall sender tracker n)

/-- Where the look-ups of a notification are answered by the store, its direct message is posted
if one is due, unless the run is taken down before. -/
theorem Handling.direct_calls {telling? : Option Telling} (stored : c.LooksUp d)
    (handling : Handling sender tracker e n trace telling?)
    (answers : ∀ x ∈ trace, ∃ s, (c.answer x.call s).1 = x.answer) :
    seen Call.direct? trace <+:
        ((d.addressee? tracker.id n).map (e.directCall sender tracker n)).toList ∧
      (telling?.isSome = true → seen Call.direct? trace =
        ((d.addressee? tracker.id n).map (e.directCall sender tracker n)).toList) := by
  have known : ∀ answer, (⟨.loadUser tracker.id n.recipient.account, some answer⟩ : Exchange) ∈
      trace → d.user tracker.id n.recipient.account = answer := by
    intro answer member
    obtain ⟨s, found⟩ := answers _ member
    exact Option.some.inj ((stored.user _ _ s).symm.trans found)
  have connected : ∀ user answer,
      (⟨.loadConnection tracker.id user, some answer⟩ : Exchange) ∈ trace →
      d.connection tracker.id user = answer := by
    intro user answer member
    obtain ⟨s, found⟩ := answers _ member
    exact Option.some.inj ((stored.connection _ _ s).symm.trans found)
  cases handling with
  | unknown missing =>
    rw [d.addressee?_of_unknown (known _ List.mem_cons_self)]
    exact ⟨List.prefix_rfl, fun _ => rfl⟩
  | unclear trouble =>
    rw [d.addressee?_of_unknown (known _ List.mem_cons_self)]
    exact ⟨List.prefix_rfl, fun _ => rfl⟩
  | unconnected user missing =>
    rw [d.addressee?_of_unconnected (known _ List.mem_cons_self)
      (connected user _ (second_mem_lookingUp user _))]
    exact ⟨List.prefix_rfl, fun _ => rfl⟩
  | unreadable user trouble =>
    rw [d.addressee?_of_unconnected (known _ List.mem_cons_self)
      (connected user _ (second_mem_lookingUp user _))]
    exact ⟨List.prefix_rfl, fun _ => rfl⟩
  | unwanted user unwanted =>
    rw [d.addressee?_of_connected (known _ List.mem_cons_self)
      (connected user _ (second_mem_lookingUp user _)), if_neg unwanted]
    exact ⟨List.prefix_rfl, fun _ => rfl⟩
  | posted user wanted post =>
    rw [d.addressee?_of_connected (known _ List.mem_cons_self)
      (connected user _ (List.mem_append_left _ (second_mem_lookingUp user _))), if_pos wanted]
    exact ⟨List.prefix_rfl, fun _ => rfl⟩
  | failed user wanted err =>
    rw [d.addressee?_of_connected (known _ List.mem_cons_self)
      (connected user _ (List.mem_append_left _ (second_mem_lookingUp user _))), if_pos wanted]
    exact ⟨List.prefix_rfl, fun _ => rfl⟩
  | userLost => exact ⟨List.nil_prefix, nofun⟩
  | connectionLost user => exact ⟨List.nil_prefix, nofun⟩
  | postLost user wanted =>
    rw [d.addressee?_of_connected (known _ List.mem_cons_self)
      (connected user _ (List.mem_append_left _ (second_mem_lookingUp user _))), if_pos wanted]
    exact ⟨List.prefix_rfl, nofun⟩

/-- Telling everybody goes any way of handling the first notification, then any way of handling
the second, and so on. -/
theorem tellAll_path_iff {report : DirectReport} :
    (e.tellAll sender tracker).Path trace (some report) ↔
      ∃ parts : List (List Exchange × Telling),
        List.Forall₂ (fun n part => Handling sender tracker e n part.1 (some part.2))
          e.notifications parts ∧
        trace = (parts.map (·.1)).flatten ∧ report = .ofTellings (parts.map (·.2)) := by
  refine path_bind_done.trans ?_
  constructor
  · rintro ⟨_, path, same⟩
    obtain ⟨tellings, rfl, rfl⟩ := Option.map_eq_some_iff.mp same.symm
    obtain ⟨parts, each, rfl, rfl⟩ := path_mapM_ok.mp path
    exact ⟨parts, each.imp fun _ _ handled => tell_handling.mp handled, rfl, rfl⟩
  · rintro ⟨parts, each, rfl, rfl⟩
    have paths := each.imp fun _ _ handled => tell_handling.mpr handled
    exact ⟨_, path_mapM_ok.mpr ⟨parts, paths, rfl, rfl⟩, rfl⟩

/-- The report is what is to be seen of the run. -/
theorem tellAll_report {report : DirectReport}
    (path : (e.tellAll sender tracker).Path trace (some report)) :
    report.posted = trace.filterMap Exchange.posted? ∧
      report.warnings = trace.filterMap Exchange.warning? := by
  obtain ⟨_, tellings, same⟩ := path_bind_done.mp path
  obtain ⟨all, rfl, rfl⟩ := Option.map_eq_some_iff.mp same.symm
  constructor
  · exact (path_mapM_collected (fun _ _ _ path => (tell_handling.mp path).posted_eq) tellings).symm
  · exact (path_mapM_collected (fun _ _ _ path => (tell_handling.mp path).warnings_eq)
      tellings).symm

/-- The direct messages are posted in order, up to one that takes the run down. -/
theorem tellAll_directs (stored : c.LooksUp d) {report? : Option DirectReport}
    (path : (e.tellAll sender tracker).Path trace report?)
    (answers : ∀ x ∈ trace, ∃ s, (c.answer x.call s).1 = x.answer) :
    seen Call.direct? trace <+: e.dueDirects d sender tracker ∧
      (report?.isSome = true → seen Call.direct? trace = e.dueDirects d sender tracker) := by
  obtain ⟨tellings?, made, rfl⟩ := path_bind_done.mp path
  rw [Option.isSome_map, dueDirects, List.filterMap_eq_flatMap_toList]
  exact path_mapM_shown
    (fun _ _ _ path answers => (tell_handling.mp path).direct_calls stored answers) made answers

theorem filterMap_recipient? (trace : List Exchange) :
    (seen Call.direct? trace).filterMap Call.recipient? = seen Call.recipient? trace := by
  unfold seen
  rw [List.filterMap_filterMap]
  congr 1
  funext x
  obtain ⟨call, -⟩ := x
  cases call <;> rfl

/-- Nobody is to be told twice under one account. -/
theorem accounts_nodup {body : Bytes} (parsed : parse body = .ok (some e)) :
    (e.notifications.map (·.recipient.account)).Nodup := by
  rw [parse_notifications parsed, recipients_eq_untold]
  exact (untold_nodup e.actingAccount [] _).1

/-- Where every account on record is that of its user's connection, those who are told under
different accounts are different people. -/
theorem addressees_nodup {id : InstanceId}
    (distinct : (e.notifications.map (·.recipient.account)).Nodup)
    (own : ∀ account user connection, d.user id account = .ok user →
      d.connection id user = .ok connection → connection.account = account) :
    (e.notifications.filterMap (d.addressee? id)).Nodup := by
  unfold List.Nodup at *
  rw [List.pairwise_map] at distinct
  rw [List.pairwise_filterMap]
  refine distinct.imp fun {m n} other user found user' found' same => other ?_
  subst same
  obtain ⟨known, connection, connected⟩ := Directory.connected_of_addressee? found
  obtain ⟨known', -⟩ := Directory.connected_of_addressee? found'
  exact (own _ _ _ known connected).symm.trans (own _ _ _ known' connected)

theorem tellAll_recipients_nodup (stored : c.LooksUp d)
    (distinct : (e.notifications.map (·.recipient.account)).Nodup)
    (own : ∀ account user connection, d.user tracker.id account = .ok user →
      d.connection tracker.id user = .ok connection → connection.account = account) (s : σ) :
    (seen Call.recipient? ((e.tellAll sender tracker).trace c s)).Nodup := by
  have directs := (tellAll_directs stored (path_trace c (e.tellAll sender tracker) s)
    fun x member => trace_answer member).1
  have people : (e.dueDirects d sender tracker).filterMap Call.recipient? =
      e.notifications.filterMap (d.addressee? tracker.id) := by
    unfold dueDirects
    rw [List.filterMap_filterMap]
    congr 1
    funext n
    cases d.addressee? tracker.id n <;> rfl
  rw [← filterMap_recipient?]
  refine (directs.sublist.filterMap Call.recipient?).nodup ?_
  rw [people]
  exact addressees_nodup distinct own

/-- A run that posts to nobody directly shows nobody. -/
theorem seen_recipient?_of_only {α : Type} {r : Run α} (only : r.Only (·.recipient? = none))
    (s : σ) : seen Call.recipient? (r.trace c s) = [] :=
  List.filterMap_eq_nil_iff.mpr fun x member => only.path (path_trace c r s) x member

/-- Nobody is posted to directly once everybody was told. -/
theorem relayFrom_recipients (s : σ) :
    seen Call.recipient? ((e.relayFrom sender tracker).trace c s) =
      seen Call.recipient? ((e.tellAll sender tracker).trace c s) := by
  have reads : (e.readied tracker).run.Only (·.recipient? = none) :=
    readied_only (fun _ => rfl) (fun _ => rfl) (fun _ => rfl) fun _ _ _ => rfl
  unfold relayFrom
  rw [trace_bind, seen_append]
  split
  · refine (congrArg _ (seen_recipient?_of_only (reads.bind fun ready => ?_) _)).trans
      (List.append_nil _)
    cases ready with
    | error halt => exact trivial
    | ok ready => exact publish_only rfl fun _ _ => rfl
  · exact List.append_nil _

/-- Only the notifications of an installed tracker's event bring direct messages. -/
theorem relay_recipients (c : Collaborators σ) (sender : UserId) (id : InstanceId) (e : Event)
    (s : σ) :
    seen Call.recipient? ((e.relay sender id).trace c s) = [] ∨
      ∃ tracker s', seen Call.recipient? ((e.relay sender id).trace c s) =
        seen Call.recipient? ((e.tellAll sender tracker).trace c s') := by
  unfold relay
  rw [trace_bind, seen_append, seen_recipient?_of_only (Only.call rfl), List.nil_append]
  split
  · rename_i answer s' answered
    cases answer with
    | error err =>
      refine .inl (seen_recipient?_of_only ?_ s')
      dsimp only
      split <;> exact trivial
    | ok tracker => exact .inr ⟨tracker, s', relayFrom_recipients s'⟩
  · exact .inl rfl

end Event

/-- How the direct messages of an event go. Each notification is handled in one of the listed
ways, and any way of handling one goes with any ways of handling the others. Where people are
looked up in a store, the direct messages are those that are due, in order; the report holds the
posts that they were answered with, and a warning for each of them that failed and each look-up
that failed for another reason than that nothing was found. And where every account on record
is that of its user's connection, a run posts to nobody directly more than once. -/
theorem direct_messages_each_apart (d : Directory) :
    (∀ (sender : UserId) (tracker : Instance) (e : Event) (trace : List Exchange)
      (report : DirectReport),
      (e.tellAll sender tracker).Path trace (some report) ↔
        ∃ parts : List (List Exchange × Telling),
          List.Forall₂ (fun n part => e.Handling sender tracker n part.1 (some part.2))
            e.notifications parts ∧
          trace = (parts.map (·.1)).flatten ∧ report = .ofTellings (parts.map (·.2))) ∧
    (∀ {σ : Type} (c : Collaborators σ) (s : σ), c.LooksUp d →
      ∀ (sender : UserId) (tracker : Instance) (e : Event),
        seen Call.direct? ((e.tellAll sender tracker).trace c s) <+:
          e.dueDirects d sender tracker ∧
        ((e.tellAll sender tracker).Answered c s →
          ∃ report, ((e.tellAll sender tracker).exec c s).1 = some report ∧
            seen Call.direct? ((e.tellAll sender tracker).trace c s) =
              e.dueDirects d sender tracker ∧
            report.posted =
              ((e.tellAll sender tracker).trace c s).filterMap Exchange.posted? ∧
            report.warnings =
              ((e.tellAll sender tracker).trace c s).filterMap Exchange.warning?)) ∧
    ((∀ id account user connection, d.user id account = .ok user →
        d.connection id user = .ok connection → connection.account = account) →
      ∀ {σ : Type} (c : Collaborators σ) (s : σ), c.LooksUp d →
        ∀ (sender : UserId) (w : Webhook),
          (seen Call.recipient? ((w.relay sender).trace c s)).Nodup) := by
  refine ⟨fun _ _ _ _ _ => Event.tellAll_path_iff, ?_, ?_⟩
  · intro σ c s stored sender tracker e
    have answers : ∀ x ∈ (e.tellAll sender tracker).trace c s, ∃ s,
        (c.answer x.call s).1 = x.answer := fun x member => trace_answer member
    refine ⟨(Event.tellAll_directs stored (path_trace c _ s) answers).1, fun answered => ?_⟩
    obtain ⟨report, ended, path⟩ := answered.exists_result
    obtain ⟨posted, warnings⟩ := Event.tellAll_report path
    exact ⟨report, ended, (Event.tellAll_directs stored path answers).2 rfl, posted, warnings⟩
  · intro own σ c s stored sender w
    cases parsed : Event.parse w.body with
    | error err =>
      unfold Webhook.relay
      rw [parsed]
      exact List.nodup_nil
    | ok e? =>
      cases e? with
      | none =>
        unfold Webhook.relay
        rw [parsed]
        exact List.nodup_nil
      | some e =>
        rw [Webhook.relay_event parsed]
        rcases Event.relay_recipients c sender w.instanceId e s with none | ⟨tracker, s', same⟩
        · rw [none]
          exact List.nodup_nil
        · rw [same]
          exact Event.tellAll_recipients_nodup stored (Event.accounts_nodup parsed)
            (own tracker.id) s'

/-- The store cannot say who "bea" is and does not know "eve"; everybody else is connected, and
"dan" wants to be told about what he watches. -/
def patchyDirectory : Directory where
  user _ account :=
    if account = ⟨"bea"⟩ then .error (.unavailable "disk")
    else if account = ⟨"eve"⟩ then .error (.notFound .user "eve")
    else .ok ⟨account.text⟩
  connection _ user :=
    .ok ⟨⟨user.text⟩, user.text, .bearer "token", ⟨true, .ofList [(.watching, true)]⟩⟩

/-- People are looked up in the patchy store, and "dan" cannot be posted to. -/
def Collaborators.patchy : Collaborators Unit where
  answer
    | .loadUser id account, s => (some (patchyDirectory.user id account), s)
    | .loadConnection id user, s => (some (patchyDirectory.connection id user), s)
    | .postDirect _ user _, s =>
      (some (if user = ⟨"dan"⟩ then .error .unanswered else .ok ⟨"direct"⟩), s)
    | call, s => (constant .null []).answer call s

private theorem patchy_looksUp : Collaborators.patchy.LooksUp patchyDirectory where
  user _ _ _ := rfl
  connection _ _ _ := rfl

/-- That "bea" cannot be found and that "dan" cannot be posted to is in the report, and "cal" is
told all the same. -/
theorem crowd_told_apart :
    ∃ e, Event.parse Event.crowdedBody = .ok (some e) ∧
      let telling := e.tellAll ⟨"bot"⟩ ⟨⟨"tracker"⟩, "https://t", .cloud⟩
      telling.Answered .patchy () ∧
      seen Call.direct? (telling.trace .patchy ()) =
        e.dueDirects patchyDirectory ⟨"bot"⟩ ⟨⟨"tracker"⟩, "https://t", .cloud⟩ ∧
      seen Call.recipient? (telling.trace .patchy ()) = [⟨"cal"⟩, ⟨"dan"⟩] ∧
      (∃ report, (telling.exec .patchy ()).1 = some report ∧
        report.warnings = (telling.trace .patchy ()).filterMap Exchange.warning? ∧
        report = ⟨[⟨"direct"⟩], ["bea: IO error: disk", "dan: request failed: no usable answer"]⟩) ∧
      (seen Call.recipient? ((Webhook.relay ⟨"bot"⟩ ⟨⟨"tracker"⟩, Event.crowdedBody⟩).trace
        .patchy ())).Nodup := by
  let tracker : Instance := ⟨⟨"tracker"⟩, "https://t", .cloud⟩
  have about : (Event.ofBody? Event.crowdedBody).any (fun e =>
      let telling := e.tellAll ⟨"bot"⟩ tracker
      (telling.trace .patchy ()).all (·.answer.isSome) = true ∧
        seen Call.recipient? (telling.trace .patchy ()) = [⟨"cal"⟩, ⟨"dan"⟩] ∧
        (telling.exec .patchy ()).1 = some ⟨[⟨"direct"⟩],
          ["bea: IO error: disk", "dan: request failed: no usable answer"]⟩) = true := by
    decide +kernel
  obtain ⟨e, found, about⟩ := (Option.any_eq_true _ _).mp about
  obtain ⟨all, people, reported⟩ := of_decide_eq_true about
  have answered : (e.tellAll ⟨"bot"⟩ tracker).Answered .patchy () := answered_of_all all
  have own : ∀ id account user connection, patchyDirectory.user id account = .ok user →
      patchyDirectory.connection id user = .ok connection → connection.account = account := by
    intro id account user connection known connected
    cases connected
    unfold patchyDirectory at known
    dsimp only at known
    split at known
    · cases known
    · split at known
      · cases known
      · cases known
        rfl
  obtain ⟨-, told, once⟩ := direct_messages_each_apart patchyDirectory
  obtain ⟨report, ended, directs, -, warnings⟩ :=
    (told .patchy () patchy_looksUp ⟨"bot"⟩ tracker e).2 answered
  exact ⟨e, Event.ofBody?_eq_some_iff.mp found, answered, directs, people,
    ⟨report, ended, warnings, Option.some.inj (ended.symm.trans reported)⟩,
    once own .patchy () patchy_looksUp ⟨"bot"⟩ _⟩

end Herald
