import Herald.Proofs.Run.Path
import Herald.Run.Relay

/-!
# What is read before an event is matched

What each stage of reading asks, on which answers it succeeds, and with what. A session
is opened in three calls (`Session.opening`), an issue is completed in at most one
(`Completion`), and a comment is read in one.

Main statements: what was asked and answered when a comment's event is ready to be matched
(`readied_path_comment`), and that reading posts nothing (`readied_reads`).
-/

namespace Herald

namespace Call

/-- The call belongs to the direct messages. -/
def isTelling : Call → Bool
  | .loadUser .. | .loadConnection .. | .postDirect .. => true
  | _ => false

/-- The call belongs to what is read about an event before it is matched. -/
def isReading : Call → Bool
  | .loadUser .. | .loadConnection .. | .openSession .. | .fetch .. => true
  | _ => false

/-- The channel that the call posts to. -/
def channel? : Call → Option ChannelId
  | .postToChannel _ _ _ channel _ => some channel
  | _ => none

theorem channel?_of_isTelling {call : Call} (telling : call.isTelling = true) :
    call.channel? = none := by
  cases call <;> first | rfl | cases telling

theorem channel?_of_isReading {call : Call} (reading : call.isReading = true) :
    call.channel? = none := by
  cases call <;> first | rfl | cases reading

end Call

/-- The calls that open a session as the person connected with an account, answered
with the session. -/
def Session.opening (session : Session) (account : AccountId) (user : UserId) : List Exchange :=
  [⟨.loadUser session.tracker.id account, some (.ok user)⟩,
    ⟨.loadConnection session.tracker.id user, some (.ok session.connection)⟩,
    ⟨.openSession session, some (.ok ())⟩]

/-- The call that asks for the fields of an issue. -/
abbrev Session.issueCall (session : Session) (issue : Issue) : Call :=
  .fetch session ("2/issue/" ++ issue.key.text) [("fields", Session.expansionFields)]

/-- The call that asks for a comment. -/
abbrev Session.commentCall (session : Session) (comment : Comment) : Call :=
  .fetch session comment.link []

/-- The calls that complete the issue of an event, with the event they make of it. -/
inductive Event.Completion (session : Session) (e : Event) : List Exchange → Event → Prop
  | complete (unneeded : e.wantsExpansion = false) : Completion session e [] e
  | fetched (wanted : e.wantsExpansion = true) (answer : Json) (fields : IssueFields)
      (decoded : IssueFields.decode answer = some fields) :
      Completion session e [⟨session.issueCall e.issue, some (Except.ok answer)⟩]
        { e with issue := { e.issue with fields := e.issue.fields.fillMissing fields } }

namespace Run

variable {α β : Type}

/-- A run within an attempt goes on with its result. -/
theorem run_bind_lift {ε : Type} (r : Run α) (f : α → ExceptT ε Run β) :
    (liftM r >>= f : ExceptT ε Run β).run = r >>= fun a => (f a).run := by
  have lifted : (liftM r : ExceptT ε Run α).run = r >>= fun a => .done (.ok a) := rfl
  rw [ExceptT.run_bind, lifted, bind_assoc]
  rfl

/-- Another name for the errors leaves the successes as they are. -/
theorem path_mapError {ε ε' : Type} {r : Run (Except ε α)} {f : ε → ε'} {trace : List Exchange}
    {a : α} :
    (r >>= fun x => .done (x.mapError f)).Path trace (some (.ok a)) ↔
      r.Path trace (some (.ok a)) := by
  rw [path_bind_done]
  constructor
  · intro given
    obtain ⟨_ | _ | b, path, same⟩ := given
    · cases same
    · cases same
    · cases same
      exact path
  · intro path
    exact ⟨_, path, rfl⟩

end Run

open Run

variable {trace : List Exchange}

namespace Attempt

variable {α : Type}

theorem run_api (stage : Stage) (answer : Run (Except ApiError α)) :
    (api stage answer).run = answer >>= fun r => .done (r.mapError (.api stage)) := by
  unfold api
  rw [run_bind_lift]
  congr 1
  funext r
  cases r <;> rfl

/-- A call to the tracker succeeds where it is answered. -/
theorem path_api {stage : Stage} {answer : Run (Except ApiError α)} {a : α} :
    (api stage answer).run.Path trace (some (.ok a)) ↔ answer.Path trace (some (.ok a)) := by
  rw [run_api, path_mapError]

theorem run_insist (attempt : Attempt α) :
    attempt.insist.run = attempt.run >>= fun r => .done (r.mapError .fail) := rfl

/-- Insisting on an attempt changes what its failure means and nothing else. -/
theorem path_insist {attempt : Attempt α} {a : α} :
    attempt.insist.run.Path trace (some (.ok a)) ↔ attempt.run.Path trace (some (.ok a)) := by
  rw [run_insist, path_mapError]

end Attempt

namespace Instance

/-- A record that is not there is no failure. -/
theorem run_recorded? {α : Type} (answer : Run (Except StoreError α)) :
    (recorded? answer).run = answer >>= fun
      | .ok a => .done (.ok (some a))
      | .error e => .done (if e.isNotFound then .ok none else .error (.store e)) := by
  unfold recorded?
  rw [run_bind_lift]
  congr 1
  funext r
  cases r with
  | ok a => rfl
  | error e => dsimp only; split <;> rfl

theorem path_recorded?_some {α : Type} {answer : Run (Except StoreError α)} {a : α} :
    (recorded? answer).run.Path trace (some (.ok (some a))) ↔
      answer.Path trace (some (.ok a)) := by
  rw [run_recorded?, path_bind]
  constructor
  · intro given
    rcases given with ⟨b | b, first, rest, path, ended, rfl⟩ | ⟨_, impossible⟩
    · obtain ⟨-, same⟩ := path_done.mp ended
      split at same <;> cases same
    · obtain ⟨rfl, same⟩ := path_done.mp ended
      cases same
      rwa [List.append_nil]
    · cases impossible
  · intro path
    exact .inl ⟨.ok a, trace, [], path, .done _, (List.append_nil trace).symm⟩

/-- A session is had only by looking up the account's user, then that user's
connection, and then asking for it. -/
theorem path_sessionOf?_some {tracker : Instance} {account : AccountId} {session : Session} :
    (tracker.sessionOf? account).run.Path trace (some (.ok (some session))) ↔
      session.tracker = tracker ∧ ∃ user, trace = session.opening account user := by
  unfold sessionOf?
  rw [path_bind_ok]
  constructor
  · intro given
    obtain ⟨_ | user, first, rest, found, next, rfl⟩ := given
    · obtain ⟨-, impossible⟩ := path_done.mp next
      cases impossible
    · obtain ⟨_ | connection, second, others, connected, later, rfl⟩ := path_bind_ok.mp next
      · obtain ⟨-, impossible⟩ := path_done.mp later
        cases impossible
      · obtain ⟨granted, third, none, opened, last, rfl⟩ := path_bind_ok.mp later
        obtain ⟨rfl, same⟩ := path_done.mp last
        cases same
        rw [path_recorded?_some, path_call] at found connected
        rw [Attempt.path_api, path_call] at opened
        subst found connected opened
        exact ⟨rfl, user, rfl⟩
  · intro given
    obtain ⟨rfl, user, rfl⟩ := given
    refine ⟨some user, _, _, path_recorded?_some.mpr (path_call.mpr rfl), ?_, rfl⟩
    refine path_bind_ok.mpr
      ⟨some session.connection, _, _, path_recorded?_some.mpr (path_call.mpr rfl), ?_, rfl⟩
    exact path_bind_ok.mpr
      ⟨(), _, [], Attempt.path_api.mpr (path_call.mpr rfl), .done _, rfl⟩

end Instance

/-- What an attempt to complete an issue makes of the answer. -/
def Issue.settled (issue : Issue) : Except ApiError Json → Except Failure (Option Issue)
  | .error err => .error (.api .issueExpansion err)
  | .ok body =>
    match IssueFields.decode body with
    | some fields => .ok (some { issue with fields := issue.fields.fillMissing fields })
    | none => .error (.parse .malformed)

/-- An attempt succeeds with an answer that can be read. -/
theorem Issue.settled_eq_ok_iff (issue : Issue) {answer : Except ApiError Json}
    {result : Option Issue} :
    issue.settled answer = .ok result ↔ ∃ body fields, answer = .ok body ∧
      IssueFields.decode body = some fields ∧
      result = some { issue with fields := issue.fields.fillMissing fields } := by
  cases answer with
  | error err => simp [settled]
  | ok body => cases decoded : IssueFields.decode body <;> simp [settled, decoded, eq_comm]

namespace Session

variable {session : Session} {issue : Issue}

/-- An issue that lacks nothing that matters is left alone. -/
theorem run_expand?_of_complete (complete : issue.fields.isComplete = true) :
    (session.expand? issue).run = .done (.ok none) := by
  have unneeded : ¬ issue.needsExpansion = true := by simp [Issue.needsExpansion, complete]
  unfold expand?
  rw [if_neg unneeded]
  rfl

/-- Any other issue is asked for, and the answer decides. -/
theorem run_expand?_of_incomplete (incomplete : issue.fields.isComplete = false) :
    (session.expand? issue).run =
      .ask (session.issueCall issue) fun answer => .done (issue.settled answer) := by
  have needed : issue.needsExpansion = true := by simp [Issue.needsExpansion, incomplete]
  unfold expand?
  rw [if_pos needed, ExceptT.run_bind, Attempt.run_api, bind_assoc, call_bind]
  congr 1
  funext answer
  cases answer with
  | error err => rfl
  | ok body =>
    dsimp only [Except.mapError, Issue.settled]
    change (ExceptT.run (match IssueFields.decode body with | some _ => _ | none => _)) = _
    cases decoded : IssueFields.decode body <;> rfl

/-- An issue that lacks nothing is left alone; otherwise the tracker's answer fills in
what is missing. -/
theorem path_expand? {result : Option Issue} :
    (session.expand? issue).run.Path trace (some (.ok result)) ↔
      (issue.needsExpansion = false ∧ trace = [] ∧ result = none) ∨
      (issue.needsExpansion = true ∧ ∃ answer fields,
        trace = [⟨session.issueCall issue, some (Except.ok answer)⟩] ∧
        IssueFields.decode answer = some fields ∧
        result = some { issue with fields := issue.fields.fillMissing fields }) := by
  unfold Issue.needsExpansion
  cases complete : issue.fields.isComplete with
  | true =>
    rw [run_expand?_of_complete complete, path_done]
    simp
  | false =>
    rw [run_expand?_of_incomplete complete, path_ask]
    constructor
    · rintro (⟨answer, rest, rfl, path⟩ | ⟨-, impossible⟩)
      · obtain ⟨rfl, same⟩ := path_done.mp path
        obtain ⟨body, fields, rfl, decoded, rfl⟩ :=
          issue.settled_eq_ok_iff.mp (Option.some.inj same).symm
        exact .inr ⟨rfl, body, fields, rfl, decoded, rfl⟩
      · cases impossible
    · rintro (⟨impossible, -⟩ | ⟨-, body, fields, rfl, decoded, rfl⟩)
      · cases impossible
      · have settled := (issue.settled_eq_ok_iff).mpr ⟨body, fields, rfl, decoded, rfl⟩
        exact .inl ⟨.ok body, [], rfl, path_done.mpr ⟨rfl, congrArg some settled.symm⟩⟩

theorem path_visibility {session : Session} {comment : Comment} {visibility : String} :
    (session.visibility comment).run.Path trace (some (.ok visibility)) ↔
      ∃ body, trace = [⟨session.commentCall comment, some (Except.ok body)⟩] ∧
        visibility = restriction body := by
  unfold Session.visibility
  rw [path_bind_ok]
  constructor
  · intro given
    obtain ⟨body, first, rest, asked, path, rfl⟩ := given
    rw [Attempt.path_api, path_call] at asked
    obtain ⟨rfl, same⟩ := path_done.mp path
    cases same
    subst asked
    exact ⟨body, rfl, rfl⟩
  · intro given
    obtain ⟨body, rfl, rfl⟩ := given
    exact ⟨body, _, [], Attempt.path_api.mpr (path_call.mpr rfl), .done _, rfl⟩

end Session

namespace Event

variable {tracker : Instance} {e ready : Event} {session : Session}

theorem path_authorSession {account : AccountId} (acting : e.actingAccount = some account) :
    (authorSession tracker e).run.Path trace (some (.ok session)) ↔
      session.tracker = tracker ∧ ∃ user, trace = session.opening account user := by
  unfold authorSession
  rw [acting]
  dsimp only
  rw [path_bind_ok]
  constructor
  · intro given
    obtain ⟨_ | found, first, rest, opened, path, rfl⟩ := given
    · obtain ⟨-, impossible⟩ := path_done.mp path
      cases impossible
    · rw [Attempt.path_insist, Instance.path_sessionOf?_some] at opened
      obtain ⟨rfl, same⟩ := path_done.mp path
      cases same
      rwa [List.append_nil]
  · intro opened
    have found := Attempt.path_insist.mpr (Instance.path_sessionOf?_some.mpr opened)
    exact ⟨some session, trace, [], found, .done _, (List.append_nil trace).symm⟩

theorem path_completed :
    (completed session e).run.Path trace (some (.ok ready)) ↔ Completion session e trace ready := by
  unfold completed
  cases wanted : e.wantsExpansion with
  | false =>
    simp only [Bool.false_eq_true, if_false]
    constructor
    · intro path
      obtain ⟨rfl, same⟩ := path_done.mp path
      cases same
      exact .complete wanted
    · intro given
      rcases given with _ | wants
      · exact .done _
      · rw [wanted] at wants
        cases wants
  | true =>
    have needed : e.issue.needsExpansion = true := (Bool.and_eq_true_iff.mp wanted).1
    simp only [if_true]
    rw [path_bind_ok]
    constructor
    · intro given
      obtain ⟨issue, first, rest, expanded, path, rfl⟩ := given
      obtain ⟨rfl, same⟩ := path_done.mp path
      cases same
      rw [Attempt.path_insist, Session.path_expand?] at expanded
      obtain ⟨unneeded, -⟩ | ⟨-, answer, fields, rfl, decoded, rfl⟩ := expanded
      · rw [needed] at unneeded
        cases unneeded
      · exact .fetched wanted answer fields decoded
    · intro given
      rcases given with unneeded | ⟨-, answer, fields, decoded⟩
      · rw [wanted] at unneeded
        cases unneeded
      · refine ⟨some _, _, [], Attempt.path_insist.mpr (Session.path_expand?.mpr (.inr
          ⟨needed, answer, fields, rfl, decoded, rfl⟩)), .done _, rfl⟩

/-- A comment's event is ready once a session of the comment's author is open, the issue
is complete and the comment was read: its visibility is what was read. -/
theorem readied_path_comment {comment : Comment} {visibility : String}
    (about : e.isCommentEvent = true) (present : e.comment = some comment) :
    (e.readied tracker).run.Path trace (some (.ok (ready, visibility))) ↔
      ∃ session user completing body, session.tracker = tracker ∧
        Completion session e completing ready ∧
        trace = session.opening comment.author.account user ++
          (completing ++ [⟨session.commentCall comment, some (Except.ok body)⟩]) ∧
        visibility = Session.restriction body := by
  have acting : e.actingAccount = some comment.author.account := by
    rw [actingAccount, present]
  have kept : ∀ {session completing ready}, Completion session e completing ready →
      ready.comment = some comment := by
    rintro session completing ready (_ | _) <;> exact present
  unfold readied
  rw [if_pos about, path_bind_ok]
  constructor
  · intro given
    obtain ⟨session, first, rest, opened, next, rfl⟩ := given
    obtain ⟨done, second, others, completed, later, rfl⟩ := path_bind_ok.mp next
    obtain ⟨tracked, user, rfl⟩ := (path_authorSession acting).mp opened
    rw [path_completed] at completed
    rw [kept completed] at later
    obtain ⟨read, third, none, reading, last, rfl⟩ := path_bind_ok.mp later
    obtain ⟨body, rfl, rfl⟩ := Session.path_visibility.mp (Attempt.path_insist.mp reading)
    obtain ⟨rfl, same⟩ := path_done.mp last
    cases same
    exact ⟨session, user, second, body, tracked, completed, rfl, rfl⟩
  · intro given
    obtain ⟨session, user, completing, body, tracked, completed, rfl, rfl⟩ := given
    refine ⟨session, _, _, (path_authorSession acting).mpr ⟨tracked, user, rfl⟩, ?_, rfl⟩
    refine path_bind_ok.mpr ⟨ready, completing, _, path_completed.mpr completed, ?_, rfl⟩
    rw [kept completed]
    exact path_bind_ok.mpr ⟨Session.restriction body, _, [],
      Attempt.path_insist.mpr (Session.path_visibility.mpr ⟨body, rfl, rfl⟩), .done _, rfl⟩

end Event

theorem Attempt.api_only {α : Type} {p : Call → Prop} {stage : Stage}
    {answer : Run (Except ApiError α)} (only : answer.Only p) : (api stage answer).run.Only p := by
  rw [run_api]
  exact only.bind fun _ => trivial

theorem Attempt.insist_only {α : Type} {p : Call → Prop} {attempt : Attempt α}
    (only : attempt.run.Only p) : attempt.insist.run.Only p := by
  rw [run_insist]
  exact only.bind fun _ => trivial

/-- A session is sought at one tracker, by the account alone. -/
theorem Instance.sessionOf?_only {p : Call → Prop} {tracker : Instance} {account : AccountId}
    (users : p (.loadUser tracker.id account))
    (connections : ∀ user, p (.loadConnection tracker.id user))
    (sessions : ∀ connection, p (.openSession ⟨tracker, connection⟩)) :
    (tracker.sessionOf? account).run.Only p := by
  have recorded : ∀ {α : Type} {answer : Run (Except StoreError α)}, answer.Only p →
      (recorded? answer).run.Only p := by
    intro α answer only
    rw [run_recorded?]
    refine only.bind fun r => ?_
    cases r <;> exact trivial
  unfold sessionOf?
  refine (recorded (Only.call users)).run_bind fun user? => ?_
  cases user? with
  | none => exact trivial
  | some user =>
    refine (recorded (Only.call (connections user))).run_bind fun connection? => ?_
    cases connection? with
    | none => exact trivial
    | some connection =>
      exact (Attempt.api_only (Only.call (sessions connection))).run_bind fun _ => trivial

/-- Completing an issue asks the tracker through the session alone. -/
theorem Session.expand?_only {p : Call → Prop} {session : Session} (issue : Issue)
    (fetches : ∀ path query, p (.fetch session path query)) :
    (session.expand? issue).run.Only p := by
  unfold expand?
  split
  · refine (Attempt.api_only (Only.call (fetches _ _))).run_bind fun answer => ?_
    split <;> exact trivial
  · exact trivial

theorem Session.visibility_only {p : Call → Prop} {session : Session} (comment : Comment)
    (fetches : ∀ path query, p (.fetch session path query)) :
    (session.visibility comment).run.Only p :=
  (Attempt.api_only (Only.call (fetches _ _))).run_bind fun _ => trivial

namespace Event

variable {p : Call → Prop} {tracker : Instance} {e : Event}

theorem completed_only {session : Session}
    (fetches : ∀ path query, p (.fetch session path query)) :
    (completed session e).run.Only p := by
  unfold completed
  split
  · exact (Attempt.insist_only (session.expand?_only e.issue fetches)).run_bind fun _ => trivial
  · exact trivial

section Sought

variable (users : ∀ account, p (.loadUser tracker.id account))
  (connections : ∀ user, p (.loadConnection tracker.id user))
  (sessions : ∀ connection, p (.openSession ⟨tracker, connection⟩))

include users connections sessions

theorem authorSession_only : (authorSession tracker e).run.Only p := by
  unfold authorSession
  split
  · exact trivial
  · rename_i account acting
    have sought := Instance.sessionOf?_only (users account) connections sessions
    refine (Attempt.insist_only sought).run_bind fun session? => ?_
    cases session? <;> exact trivial

theorem actorSession?_only : (actorSession? tracker e).run.Only p := by
  unfold actorSession?
  split
  · rename_i account acting
    split
    · rw [Run.run_bind_lift]
      refine (Instance.sessionOf?_only (users account) connections sessions).bind fun r => ?_
      rcases r with (_ | _ | _ | _) | _ <;> exact trivial
    · exact trivial
  · exact trivial

/-- Whatever an event needs is looked up and read at its tracker, and nothing is posted for
it. -/
theorem readied_only (fetches : ∀ session path query, p (.fetch session path query)) :
    (e.readied tracker).run.Only p := by
  unfold readied
  split
  · refine (authorSession_only users connections sessions).run_bind fun session => ?_
    refine (completed_only (fetches session)).run_bind fun ready => ?_
    split
    · rename_i comment present
      exact (Attempt.insist_only (session.visibility_only comment (fetches session))).run_bind
        fun _ => trivial
    · exact trivial
  · refine (actorSession?_only users connections sessions).run_bind fun session? => ?_
    cases session? with
    | none => exact trivial
    | some session => exact (completed_only (fetches session)).run_bind fun _ => trivial

end Sought

end Event

/-- The run makes no calls but those of reading. -/
abbrev Run.Reads {α : Type} (r : Run α) : Prop :=
  r.Only (·.isReading = true)

theorem Event.readied_reads (tracker : Instance) (e : Event) : (e.readied tracker).run.Reads :=
  readied_only (fun _ => rfl) (fun _ => rfl) (fun _ => rfl) fun _ _ _ => rfl

end Herald
