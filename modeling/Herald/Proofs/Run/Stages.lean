import Herald.Proofs.Run.Endings

/-!
# The order of stages

What a relay asks outside of its store it asks in stages: it posts direct messages, asks for
a session, reads the issue, reads the comment, and posts to channels. It never goes back to
an earlier stage, whatever it is answered.

Main statements: what is read with and without a session (`Event.readied_readying`), that every
session a run asks for has the connection that was answered for the account whose permissions
count (`relay_opening`) and that it reads from the tracker that was loaded alone
(`relay_fetch_tracker`), and which stages every run goes through, and when (`stages_in_order`).
-/

namespace Herald

open Run

/-- The call goes to the tracker or to the chat. -/
def Call.isOutside : Call → Bool
  | .openSession .. | .fetch .. | .postDirect .. | .postToChannel .. => true
  | .loadInstance .. | .loadUser .. | .loadConnection .. | .loadSubscriptions .. => false

/-- What is asked of the tracker and of the chat. -/
def effects (trace : List Exchange) : List Exchange :=
  trace.filter (·.call.isOutside)

theorem effects_append (first rest : List Exchange) :
    effects (first ++ rest) = effects first ++ effects rest :=
  List.filter_append ..

theorem mem_effects {x : Exchange} {trace : List Exchange} :
    x ∈ effects trace ↔ x ∈ trace ∧ x.call.isOutside = true :=
  List.mem_filter

/-- The fields that the tracker answered for an issue. -/
def Exchange.issueFields? : Exchange → Option IssueFields
  | ⟨.fetch _ _ _, some (.ok body)⟩ => IssueFields.decode body
  | _ => none

/-- The calls that ask for a session as the person connected with an account. -/
def Session.asking (session : Session) (account : AccountId) (user : UserId)
    (answer : Option (Except ApiError Unit)) : List Exchange :=
  [⟨.loadUser session.tracker.id account, some (.ok user)⟩,
    ⟨.loadConnection session.tracker.id user, some (.ok session.connection)⟩,
    ⟨.openSession session, answer⟩]

namespace Event

variable {trace : List Exchange} {e : Event} {tracker : Instance} {session : Session}

/-- How far a run gets in asking for a session as the person who acts in an event, with the
session where it is granted. -/
inductive Approach (tracker : Instance) (e : Event) : List Exchange → Option Session → Prop
  | unasked {trace : List Exchange} (silent : effects trace = []) : Approach tracker e trace none
  | refused {account : AccountId} (acting : e.actingAccount = some account) (user : UserId)
      (connection : Connection) {answer : Option (Except ApiError Unit)}
      (refused : answer ≠ some (.ok ())) :
      Approach tracker e (Session.asking ⟨tracker, connection⟩ account user answer) none
  | granted {account : AccountId} (acting : e.actingAccount = some account) (user : UserId)
      (connection : Connection) :
      Approach tracker e (Session.asking ⟨tracker, connection⟩ account user (some (.ok ())))
        (some ⟨tracker, connection⟩)

/-- The session that a way of seeking one came to. -/
def sessionIn {ε : Type} : Option (Except ε (Option Session)) → Option Session
  | some (.ok session?) => session?
  | _ => none

theorem Approach.of_seeking {account : AccountId} (acting : e.actingAccount = some account)
    {result : Option (Except Failure (Option Session))}
    (seeking : tracker.Seeking account trace result) :
    Approach tracker e trace (sessionIn result) := by
  have unanswered : ∀ err : StoreError, sessionIn (some (err.absence)) = none := by
    intro err
    unfold StoreError.absence
    split <;> rfl
  cases seeking with
  | unknown err =>
    rw [unanswered]
    exact .unasked rfl
  | unconnected user err =>
    rw [unanswered]
    exact .unasked rfl
  | refused user connection err => exact .refused acting user connection nofun
  | opened user connection => exact .granted acting user connection
  | userLost => exact .unasked rfl
  | connectionLost user => exact .unasked rfl
  | sessionLost user connection => exact .refused acting user connection nofun

theorem authorSession_approach {result : Option (Except Halt Session)}
    (path : (authorSession tracker e).run.Path trace result) :
    Approach tracker e trace (sessionIn (result.map (Except.map some))) := by
  unfold authorSession at path
  split at path
  · obtain ⟨rfl, rfl⟩ := path_done.mp path
    exact .unasked rfl
  · rename_i account acting
    rw [ExceptT.run_bind, Attempt.run_insist, bind_assoc] at path
    rcases path_bind.mp path with ⟨found, first, rest, sought, next, rfl⟩ | ⟨down, rfl⟩
    · have approach := Approach.of_seeking acting (Instance.sessionOf?_seeking sought)
      rcases found with failure | _ | session <;>
      · obtain ⟨rfl, rfl⟩ := path_done.mp next
        rw [List.append_nil]
        exact approach
    · exact .of_seeking acting (Instance.sessionOf?_seeking down)

theorem actorSession?_approach {result : Option (Except Halt (Option Session))}
    (path : (actorSession? tracker e).run.Path trace result) :
    Approach tracker e trace (sessionIn result) := by
  unfold actorSession? at path
  split at path
  · rename_i account acting
    split at path
    · rw [run_bind_lift] at path
      rcases path_bind.mp path with ⟨found, first, rest, sought, next, rfl⟩ | ⟨down, rfl⟩
      · have approach := Approach.of_seeking acting (Instance.sessionOf?_seeking sought)
        rcases found with (_ | _ | _ | _) | session <;>
        · obtain ⟨rfl, rfl⟩ := path_done.mp next
          rw [List.append_nil]
          exact approach
      · exact .of_seeking acting (Instance.sessionOf?_seeking down)
    · obtain ⟨rfl, rfl⟩ := path_done.mp path
      exact .unasked rfl
  · obtain ⟨rfl, rfl⟩ := path_done.mp path
    exact .unasked rfl

/-- The event as an answer about its issue completes it. -/
def completedBy (e : Event) : Except ApiError Json → Except Halt Event
  | .error err => .error (.fail (.api .issueExpansion err))
  | .ok body =>
    match IssueFields.decode body with
    | some fields =>
      .ok { e with issue := { e.issue with fields := e.issue.fields.fillMissing fields } }
    | none => .error (.fail (.parse .malformed))

/-- Completing an issue that lacks fields is one call, and its answer decides what comes of
it. -/
theorem run_completed (wanted : e.wantsExpansion = true) :
    (completed session e).run =
      .ask (session.issueCall e.issue) fun answer => .done (e.completedBy answer) := by
  have incomplete : e.issue.fields.isComplete = false := by
    simpa [Issue.needsExpansion] using (Bool.and_eq_true_iff.mp wanted).1
  unfold completed
  rw [if_pos wanted, ExceptT.run_bind, Attempt.run_insist,
    Session.run_expand?_of_incomplete incomplete, ask_bind, ask_bind]
  refine congrArg (Run.ask _) (funext fun answer => ?_)
  rw [done_bind, done_bind]
  cases answer with
  | error err => rfl
  | ok body =>
    rw [Issue.settled, completedBy]
    dsimp only
    cases IssueFields.decode body <;> rfl

/-- What is asked to complete an event: its issue, where the event lacks fields of it. -/
structure Completing (session : Session) (e : Event) (issue? : Option Exchange) : Prop where
  issue : ∀ x, issue? = some x → x.call = session.issueCall e.issue
  issue_isSome : issue?.isSome = true ↔ e.wantsExpansion = true

/-- What is read with a session that was granted: the comment only follows where the issue is
complete. -/
structure Course (session : Session) (e : Event) (issue? comment? : Option Exchange) : Prop
    extends Completing session e issue? where
  comment : ∀ x, comment? = some x →
    ∃ comment, e.comment = some comment ∧ x.call = session.commentCall comment
  comment_isSome : comment?.isSome = true ↔
    e.isCommentEvent = true ∧ ∀ x, issue? = some x → x.issueFields?.isSome = true

/-- The comment is not read where there is none, or where the issue could not be completed. -/
theorem Completing.unread {issue? : Option Exchange} (completing : Completing session e issue?)
    (other : e.isCommentEvent = false ∨ ∃ x, issue? = some x ∧ x.issueFields? = none) :
    Course session e issue? none := by
  refine ⟨completing, by simp, iff_of_false (by simp) fun given => ?_⟩
  obtain ⟨about, usable⟩ := given
  rcases other with other | ⟨x, same, unusable⟩
  · rw [about] at other
    cases other
  · have decoded := usable x same
    rw [unusable] at decoded
    cases decoded

/-- Only with a complete issue does a run go on. -/
theorem path_completed_bind {β : Type} {f : Event → Step β} {result : Option (Except Halt β)}
    (path : (completed session e >>= f).run.Path trace result) :
    ∃ issue?, Completing session e issue? ∧
      ((∃ ready rest, (f ready).run.Path rest result ∧ ready.comment = e.comment ∧
        (∀ x, issue? = some x → x.issueFields?.isSome = true) ∧
        trace = issue?.toList ++ rest) ∨
      (∃ x, issue? = some x ∧ x.issueFields? = none ∧ trace = [x])) := by
  cases wanted : e.wantsExpansion with
  | false =>
    rw [show completed session e = pure e by rw [completed, wanted]; rfl, pure_bind] at path
    exact ⟨none, ⟨by simp, by simp [wanted]⟩, .inl ⟨e, trace, path, rfl, by simp, rfl⟩⟩
  | true =>
    rw [ExceptT.run_bind, run_completed wanted, ask_bind] at path
    rcases path_ask.mp path with ⟨answer, rest, rfl, next⟩ | ⟨rfl, rfl⟩
    · refine ⟨some ⟨session.issueCall e.issue, some answer⟩,
        ⟨fun x same => by cases same; rfl, by simp [wanted]⟩, ?_⟩
      rcases answer with err | body
      · obtain ⟨rfl, rfl⟩ := path_done.mp next
        exact .inr ⟨_, rfl, rfl, rfl⟩
      · cases decoded : IssueFields.decode body with
        | none =>
          simp only [done_bind, completedBy, decoded] at next
          obtain ⟨rfl, rfl⟩ := path_done.mp next
          exact .inr ⟨_, rfl, decoded, rfl⟩
        | some fields =>
          simp only [done_bind, completedBy, decoded] at next
          refine .inl ⟨_, rest, next, rfl, fun x same => ?_, rfl⟩
          cases same
          exact Option.isSome_iff_exists.mpr ⟨fields, decoded⟩
    · exact ⟨some ⟨session.issueCall e.issue, none⟩,
        ⟨fun x same => by cases same; rfl, by simp [wanted]⟩, .inr ⟨_, rfl, rfl, rfl⟩⟩

/-- Reading a comment is one call. -/
theorem path_visibility_bind {β : Type} {comment : Comment} {f : String → β}
    {result : Option (Except Halt β)}
    (path : ((session.visibility comment).insist >>= fun v => pure (f v)).run.Path trace result) :
    ∃ answer, trace = [⟨session.commentCall comment, answer⟩] := by
  unfold Session.visibility at path
  rw [ExceptT.run_bind, Attempt.run_insist, ExceptT.run_bind, Attempt.run_api, bind_assoc,
    bind_assoc, bind_assoc, call_bind] at path
  rcases path_ask.mp path with ⟨err | body, rest, rfl, next⟩ | ⟨rfl, -⟩
  · obtain ⟨rfl, -⟩ := path_done.mp next
    exact ⟨_, rfl⟩
  · obtain ⟨rfl, -⟩ := path_done.mp next
    exact ⟨_, rfl⟩
  · exact ⟨_, rfl⟩

/-- How an event is readied: without a session nothing is read, and with it the issue and then
the comment. -/
inductive Readying (tracker : Instance) (e : Event) : List Exchange → Prop
  | unaided {trace : List Exchange} (approach : Approach tracker e trace none) :
      Readying tracker e trace
  | aided {front : List Exchange} {session : Session} {issue? comment? : Option Exchange}
      (approach : Approach tracker e front (some session))
      (course : Course session e issue? comment?) :
      Readying tracker e (front ++ (issue?.toList ++ comment?.toList))

theorem readied_readying {result : Option (Except Halt (Event × String))}
    (commented : e.isCommentEvent = true → ∃ comment, e.comment = some comment)
    (path : (e.readied tracker).run.Path trace result) : Readying tracker e trace := by
  unfold readied at path
  -- A comment needs a session and is read with it; other events may go on without one.
  split at path
  · rename_i about
    obtain ⟨comment, present⟩ := commented about
    rw [ExceptT.run_bind] at path
    rcases path_bind.mp path with ⟨halt | session, front, rest, sought, next, rfl⟩ | ⟨down, rfl⟩
    · obtain ⟨rfl, rfl⟩ := path_done.mp next
      rw [List.append_nil]
      exact .unaided (authorSession_approach sought)
    · obtain ⟨issue?, completing, going | stuck⟩ := path_completed_bind next
      · obtain ⟨ready, last, reading, kept, usable, rfl⟩ := going
        rw [kept, present] at reading
        obtain ⟨answer, rfl⟩ := path_visibility_bind reading
        have course : Course session e issue? (some ⟨session.commentCall comment, answer⟩) := by
          refine ⟨completing, fun x same => ?_, iff_of_true rfl ⟨about, usable⟩⟩
          cases same
          exact ⟨comment, present, rfl⟩
        exact .aided (authorSession_approach sought) course
      · obtain ⟨x, same, unusable, rfl⟩ := stuck
        subst same
        exact .aided (authorSession_approach sought) (completing.unread (.inr ⟨x, rfl, unusable⟩))
    · exact .unaided (authorSession_approach down)
  · rename_i about
    replace about := Bool.not_eq_true _ ▸ about
    rw [ExceptT.run_bind] at path
    rcases path_bind.mp path with
      ⟨halt | _ | session, front, rest, sought, next, rfl⟩ | ⟨down, rfl⟩
    · obtain ⟨rfl, rfl⟩ := path_done.mp next
      rw [List.append_nil]
      exact .unaided (actorSession?_approach sought)
    · obtain ⟨rfl, rfl⟩ := path_done.mp next
      rw [List.append_nil]
      exact .unaided (actorSession?_approach sought)
    · obtain ⟨issue?, completing, going | stuck⟩ := path_completed_bind next
      · obtain ⟨ready, last, ended, -, -, rfl⟩ := going
        obtain ⟨rfl, rfl⟩ := path_done.mp ended
        exact .aided (actorSession?_approach sought) (completing.unread (.inl about))
      · obtain ⟨x, same, unusable, rfl⟩ := stuck
        subst same
        exact .aided (actorSession?_approach sought) (completing.unread (.inl about))
    · exact .unaided (actorSession?_approach down)

/-- What the run of an event asks of the tracker and of the chat, stage by stage. -/
structure Stages (id : InstanceId) (e : Event) (trace : List Exchange) where
  directs : List Exchange
  opening? : Option Exchange
  issue? : Option Exchange
  comment? : Option Exchange
  posts : List Exchange
  order : effects trace =
    directs ++ (opening?.toList ++ (issue?.toList ++ (comment?.toList ++ posts)))
  direct : ∀ x ∈ directs, ∃ sender user message, x.call = .postDirect sender user message
  /-- The session is asked for at the tracker of the instance, right after the store answered
  its connection for the account that acts. -/
  opening : ∀ x, opening? = some x → ∃ session account user answer,
    x = ⟨.openSession session, answer⟩ ∧ e.actingAccount = some account ∧
    ⟨.loadInstance id, some (.ok session.tracker)⟩ ∈ trace ∧
    session.asking account user answer <:+: trace
  issue : ∀ x, issue? = some x → ∃ session,
    opening? = some ⟨.openSession session, some (.ok ())⟩ ∧ x.call = session.issueCall e.issue
  issue_isSome : issue?.isSome = true ↔
    (∃ session, opening? = some ⟨.openSession session, some (.ok ())⟩) ∧
      e.issue.needsExpansion = true ∧ e.kind ≠ .issueDeleted
  comment : ∀ x, comment? = some x → ∃ session comment,
    opening? = some ⟨.openSession session, some (.ok ())⟩ ∧ e.comment = some comment ∧
    x.call = session.commentCall comment
  /-- A comment is read where all the stages before succeeded. -/
  comment_isSome : comment?.isSome = true ↔
    e.isCommentEvent = true ∧
      (∃ session, opening? = some ⟨.openSession session, some (.ok ())⟩) ∧
      ∀ x, issue? = some x → x.issueFields?.isSome = true
  post : ∀ x ∈ posts, x.call.channel? ≠ none

/-- The run of an event of an installed tracker tells, readies and publishes, and may end at any
point. -/
theorem relayFrom_parts {sender : UserId} {result : Option Outcome}
    (commented : e.isCommentEvent = true → ∃ comment, e.comment = some comment)
    (path : (e.relayFrom sender tracker).Path trace result) :
    ∃ told reading published, trace = told ++ (reading ++ published) ∧
      (∀ x ∈ told, x.call.isTelling = true) ∧ Readying tracker e reading ∧
      ∀ x ∈ published, x.call.isOutside = true → x.call.channel? ≠ none := by
  have unready : Readying tracker e [] := .unaided (.unasked rfl)
  have publishing : ∀ {ready : Event} {visibility direct published result},
      (ready.publish sender tracker visibility direct).Path published result →
        ∀ x ∈ published, x.call.isOutside = true → x.call.channel? ≠ none := by
    intro ready visibility direct published result path
    refine Only.path (p := fun call => call.isOutside = true → call.channel? ≠ none) ?_ path
    exact publish_only nofun fun _ _ _ => nofun
  unfold relayFrom at path
  rcases path_bind.mp path with ⟨direct, told, others, all, later, rfl⟩ | ⟨down, rfl⟩
  · have telling := (tellAll_tells e).path all
    rcases path_bind.mp later with ⟨halt | ready, reading, rest, read, last, rfl⟩ | ⟨down, rfl⟩
    · obtain ⟨rfl, rfl⟩ := path_done.mp last
      exact ⟨told, reading, [], rfl, telling, readied_readying commented read, by simp⟩
    · exact ⟨told, reading, rest, rfl, telling, readied_readying commented read, publishing last⟩
    · exact ⟨told, others, [], by simp, telling, readied_readying commented down, by simp⟩
  · exact ⟨trace, [], [], by simp, (tellAll_tells e).path down, unready, by simp⟩

theorem effects_told {told : List Exchange} (telling : ∀ x ∈ told, x.call.isTelling = true) :
    ∀ x ∈ effects told, ∃ sender user message, x.call = .postDirect sender user message := by
  intro x member
  obtain ⟨inside, outside⟩ := mem_effects.mp member
  have tells := telling x inside
  cases called : x.call with
  | postDirect sender user message => exact ⟨sender, user, message, rfl⟩
  | _ => simp_all [Call.isTelling, Call.isOutside]

/-- What is read with a session goes to the tracker. -/
theorem Course.effects_eq {issue? comment? : Option Exchange}
    (course : Course session e issue? comment?) :
    effects (issue?.toList ++ comment?.toList) = issue?.toList ++ comment?.toList := by
  refine List.filter_eq_self.mpr fun x member => ?_
  simp only [List.mem_append, Option.mem_toList] at member
  rcases member with issue | comment
  · rw [course.issue x issue]
    rfl
  · obtain ⟨comment, -, call⟩ := course.comment x comment
    rw [call]
    rfl

theorem wantsExpansion_iff :
    e.wantsExpansion = true ↔ e.issue.needsExpansion = true ∧ e.kind ≠ .issueDeleted := by
  simp [wantsExpansion]

/-- The stages of a run that got to reading. -/
theorem Readying.stages {id : InstanceId} {told reading published : List Exchange}
    (readying : Readying tracker e reading)
    (parts : trace = ⟨.loadInstance id, some (.ok tracker)⟩ :: (told ++ (reading ++ published)))
    (telling : ∀ x ∈ told, x.call.isTelling = true)
    (publishing : ∀ x ∈ published, x.call.isOutside = true → x.call.channel? ≠ none) :
    Nonempty (Stages id e trace) := by
  have loaded : ⟨.loadInstance id, some (.ok tracker)⟩ ∈ trace := parts ▸ List.mem_cons_self
  have inside : reading <:+: trace :=
    ⟨⟨.loadInstance id, some (.ok tracker)⟩ :: told, published, by simp [parts]⟩
  have effects_eq : effects trace = effects told ++ (effects reading ++ effects published) := by
    rw [parts, ← effects_append, ← effects_append]
    rfl
  have posted : ∀ x ∈ effects published, x.call.channel? ≠ none := by
    intro x member
    obtain ⟨inside, outside⟩ := mem_effects.mp member
    exact publishing x inside outside
  -- Without a session nothing is read, whether it was never asked for or not granted.
  have sessionless (opening? : Option Exchange)
      (asked : effects reading = opening?.toList)
      (ungranted : ∀ session, opening? ≠ some ⟨.openSession session, some (.ok ())⟩)
      (opening : ∀ x, opening? = some x → ∃ session account user answer,
        x = ⟨.openSession session, answer⟩ ∧ e.actingAccount = some account ∧
        ⟨.loadInstance id, some (.ok session.tracker)⟩ ∈ trace ∧
        session.asking account user answer <:+: trace) : Nonempty (Stages id e trace) :=
    ⟨{ directs := effects told, opening?, issue? := none, comment? := none
       posts := effects published
       order := by simp [effects_eq, asked]
       direct := effects_told telling
       opening
       issue := by simp
       issue_isSome := by simp [ungranted]
       comment := by simp
       comment_isSome := by simp [ungranted]
       post := posted }⟩
  cases readying with
  | unaided approach =>
    cases approach with
    | unasked silent => exact sessionless none silent (by simp) (by simp)
    | refused acting user connection refused =>
      refine sessionless (some ⟨.openSession ⟨tracker, connection⟩, _⟩) rfl ?_ ?_
      · intro session same
        cases same
        exact refused rfl
      · intro x same
        cases same
        exact ⟨_, _, user, _, rfl, acting, loaded, inside⟩
  | @aided front session issue? comment? approach course =>
    cases approach with
    | @granted account acting user connection =>
      have asked : Session.asking ⟨tracker, connection⟩ account user (some (.ok ())) <:+: trace :=
        (List.prefix_append _ _).isInfix.trans inside
      exact ⟨{
        directs := effects told, issue?, comment?
        opening? := some ⟨.openSession ⟨tracker, connection⟩, some (.ok ())⟩
        posts := effects published
        order := by
          rw [effects_eq, effects_append (Session.asking ..), course.effects_eq]
          simp [effects, Session.asking, Call.isOutside]
        direct := effects_told telling
        opening := fun x same => by
          cases same
          exact ⟨_, account, user, _, rfl, acting, loaded, asked⟩
        issue := fun x same => ⟨_, rfl, course.issue x same⟩
        issue_isSome := by simp [course.issue_isSome, wantsExpansion_iff]
        comment := fun x same => by
          obtain ⟨comment, present, call⟩ := course.comment x same
          exact ⟨_, comment, rfl, present, call⟩
        comment_isSome := by simp [course.comment_isSome]
        post := posted }⟩

theorem relay_stages {sender : UserId} {id : InstanceId} {result : Option Outcome}
    (commented : e.isCommentEvent = true → ∃ comment, e.comment = some comment)
    (path : (e.relay sender id).Path trace result) : Nonempty (Stages id e trace) := by
  have idle {x : Exchange} (asked : effects [x] = []) : Nonempty (Stages id e [x]) :=
    ⟨⟨[], none, none, none, [], asked, by simp, by simp, by simp, by simp, by simp, by simp,
      by simp⟩⟩
  unfold relay at path
  rw [call_bind] at path
  rcases path_ask.mp path with ⟨err | tracker, rest, rfl, next⟩ | ⟨rfl, -⟩
  · dsimp only at next
    split at next <;>
    · obtain ⟨rfl, -⟩ := path_done.mp next
      exact idle rfl
  · obtain ⟨told, reading, published, rfl, telling, readying, publishing⟩ :=
      relayFrom_parts commented next
    exact readying.stages rfl telling publishing
  · exact idle rfl

/-- The user and the connection of a session were answered for the acting account. -/
def FoundFor (e : Event) (session : Session) (trace : List Exchange) : Prop :=
  ∃ account user, e.actingAccount = some account ∧
    ⟨.loadUser session.tracker.id account, some (.ok user)⟩ ∈ trace ∧
    ⟨.loadConnection session.tracker.id user, some (.ok session.connection)⟩ ∈ trace

namespace Stages

variable {id : InstanceId} {x : Exchange}

/-- What goes outside belongs to one of the stages. -/
theorem mem_cases (stages : Stages id e trace) (member : x ∈ trace)
    (outside : x.call.isOutside = true) :
    x ∈ stages.directs ∨ stages.opening? = some x ∨ stages.issue? = some x ∨
      stages.comment? = some x ∨ x ∈ stages.posts := by
  have among : x ∈ effects trace := mem_effects.mpr ⟨member, outside⟩
  rw [stages.order] at among
  simpa only [List.mem_append, Option.mem_toList] using among

theorem opening_of_mem (stages : Stages id e trace) {answer : Option (Except ApiError Unit)}
    (asked : ⟨.openSession session, answer⟩ ∈ trace) :
    stages.opening? = some ⟨.openSession session, answer⟩ := by
  rcases stages.mem_cases asked rfl with direct | opening | issue | comment | post
  · obtain ⟨_, _, _, impossible⟩ := stages.direct _ direct
    cases impossible
  · exact opening
  · obtain ⟨_, -, impossible⟩ := stages.issue _ issue
    cases impossible
  · obtain ⟨_, _, -, -, impossible⟩ := stages.comment _ comment
    cases impossible
  · exact absurd rfl (stages.post _ post)

/-- Only the issue and the comment are read. -/
theorem reading_of_mem (stages : Stages id e trace) {path : String}
    {query : List (String × String)} (member : x ∈ trace)
    (read : x.call = .fetch session path query) :
    stages.issue? = some x ∨ stages.comment? = some x := by
  have outside : x.call.isOutside = true := by rw [read]; rfl
  rcases stages.mem_cases member outside with direct | opening | issue | comment | post
  · obtain ⟨_, _, _, call⟩ := stages.direct x direct
    cases read.symm.trans call
  · obtain ⟨_, _, _, _, rfl, -⟩ := stages.opening x opening
    cases read
  · exact .inl issue
  · exact .inr comment
  · exact absurd (by rw [read]; rfl) (stages.post x post)

/-- Whatever is read is read with the session that was granted. -/
theorem granted_of_mem (stages : Stages id e trace) {path : String}
    {query : List (String × String)} (member : x ∈ trace)
    (read : x.call = .fetch session path query) :
    stages.opening? = some ⟨.openSession session, some (.ok ())⟩ := by
  rcases stages.reading_of_mem member read with issue | comment
  · obtain ⟨_, opening, call⟩ := stages.issue x issue
    cases read.symm.trans call
    exact opening
  · obtain ⟨_, _, opening, -, call⟩ := stages.comment x comment
    cases read.symm.trans call
    exact opening

/-- Every session that is asked for was found for the acting account. -/
theorem foundFor (stages : Stages id e trace) {answer : Option (Except ApiError Unit)}
    (asked : ⟨.openSession session, answer⟩ ∈ trace) : e.FoundFor session trace := by
  obtain ⟨_, account, user, _, same, acting, -, sought⟩ :=
    stages.opening _ (stages.opening_of_mem asked)
  cases same
  exact ⟨account, user, acting, sought.subset (by simp [Session.asking]),
    sought.subset (by simp [Session.asking])⟩

/-- Nothing is read about an issue that is gone. -/
theorem unread (stages : Stages id e trace) (deleted : e.kind = .issueDeleted)
    (other : e.isCommentEvent = false) :
    ∀ x ∈ trace, ∀ session path query, x.call ≠ .fetch session path query := by
  intro x member session path query read
  have issue : stages.issue? = none := by
    rw [← Option.not_isSome_iff_eq_none, stages.issue_isSome]
    simp [deleted]
  have comment : stages.comment? = none := by
    rw [← Option.not_isSome_iff_eq_none, stages.comment_isSome]
    simp [other]
  have reading := stages.reading_of_mem member read
  rw [issue, comment] at reading
  rcases reading with impossible | impossible <;> cases impossible

end Stages

end Event

section Run

variable {σ : Type} {c : Collaborators σ} {s : σ} {sender : UserId} {w : Webhook}

theorem Webhook.stages {e : Event} (parsed : Event.parse w.body = .ok (some e)) :
    Nonempty (e.Stages w.instanceId ((w.relay sender).trace c s)) := by
  have path := path_trace c (w.relay sender) s
  rw [w.relay_event parsed] at path ⊢
  exact Event.relay_stages (Event.exists_comment parsed) path

/-- Every session that a run asks for was found for the account whose permissions count. -/
theorem relay_opening {session : Session} {answer : Option (Except ApiError Unit)}
    (asked : ⟨.openSession session, answer⟩ ∈ (w.relay sender).trace c s) :
    ∃ e, Event.parse w.body = .ok (some e) ∧
      e.FoundFor session ((w.relay sender).trace c s) := by
  obtain ⟨e, parsed⟩ := w.exists_event_of_mem_trace asked
  obtain ⟨stages⟩ := Webhook.stages parsed
  exact ⟨e, parsed, stages.foundFor asked⟩

/-- The tracker of every read is the one that was loaded. -/
theorem relay_fetch_tracker {x : Exchange} {session : Session} {path : String}
    {query : List (String × String)} (member : x ∈ (w.relay sender).trace c s)
    (read : x.call = .fetch session path query) :
    ⟨.loadInstance w.instanceId, some (.ok session.tracker)⟩ ∈ (w.relay sender).trace c s := by
  obtain ⟨e, parsed⟩ := w.exists_event_of_mem_trace member
  obtain ⟨stages⟩ := Webhook.stages parsed
  obtain ⟨_, _, _, _, same, -, loaded, -⟩ := stages.opening _ (stages.granted_of_mem member read)
  cases same
  exact loaded

end Run

/-- Every run of an event goes through the same stages in the same order, and no further than
what it was answered lets it; nothing is read of an issue that was deleted. A webhook that
stands for no event has nothing asked. -/
theorem stages_in_order {σ : Type} (c : Collaborators σ) (s : σ) (sender : UserId) (w : Webhook) :
    match Event.parse w.body with
    | .ok (some e) =>
      Nonempty (e.Stages w.instanceId ((w.relay sender).trace c s)) ∧
        (∀ x ∈ ((w.relay sender).trace c s).dropLast, x.answer ≠ none) ∧
        (e.kind = .issueDeleted → ∀ x ∈ (w.relay sender).trace c s,
          ∀ session path query, x.call ≠ .fetch session path query)
    | _ => (w.relay sender).trace c s = [] := by
  split
  · rename_i e parsed
    obtain ⟨about, -⟩ := Event.parse_aboutComment parsed
    obtain ⟨stages⟩ : Nonempty (e.Stages w.instanceId ((w.relay sender).trace c s)) :=
      Webhook.stages parsed
    refine ⟨⟨stages⟩, (path_trace c _ s).returned, fun deleted => stages.unread deleted ?_⟩
    rw [about, deleted]
    rfl
  · rename_i eventless
    obtain ⟨halt, ended, -⟩ := Webhook.relay_eventless eventless
    rw [ended]
    rfl

/-- The run of a comment whose issue lacks fields goes through all the stages but the direct
messages. -/
theorem comment_in_stages :
    ∃ e, Event.parse commentWebhook.body = .ok (some e) ∧
      Nonempty (e.Stages commentWebhook.instanceId ((commentWebhook.relay ⟨"bot"⟩).trace
        (.constant (restrictedTo (.string "Developers")) townAndDevelopers) ())) ∧
      (effects ((commentWebhook.relay ⟨"bot"⟩).trace
        (.constant (restrictedTo (.string "Developers")) townAndDevelopers) ())).map (fun x =>
          match x.call with
          | .openSession session => session.connection.account.text
          | .fetch _ path _ => path
          | .postToChannel _ _ _ channel _ => channel.text
          | _ => "") = ["ann", "2/issue/P-1", "https://t/c/7", "developers"] := by
  have stands : (Event.ofBody? commentWebhook.body).isSome = true := by decide +kernel
  obtain ⟨e, found⟩ := Option.isSome_iff_exists.mp stands
  have parsed := Event.ofBody?_eq_some_iff.mp found
  have staged := stages_in_order
    (.constant (restrictedTo (.string "Developers")) townAndDevelopers) () ⟨"bot"⟩ commentWebhook
  rw [parsed] at staged
  exact ⟨e, parsed, staged.1, by decide +kernel⟩

end Herald
