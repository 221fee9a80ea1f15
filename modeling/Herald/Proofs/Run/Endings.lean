import Herald.Proofs.Run.Sessions
import Herald.Proofs.Run.Visibility

/-!
# How runs end

A run is delivered unless something ends it before: the inductive `Ends` lists what can,
each by what was asked and answered, with what the run then comes to. Every part of a run
is judged by itself (`Judges`), and what ends a part ends the run.

Main statements: which answers to the look-up of a session end a run (`sessionOf?_judges`),
and how every run ends in which every call returns (`outcome_decided`).
-/

namespace Herald

open Run

/-- Two neighbours in a list are neighbours in its front or in its rest, or they meet where
the two are joined. -/
theorem pair_infix_append {α : Type} {a b : α} {front rest : List α}
    (inside : [a, b] <:+: front ++ rest) :
    [a, b] <:+: front ∨ [a, b] <:+: rest ∨ (front.getLast? = some a ∧ rest.head? = some b) := by
  induction front with
  | nil => exact .inr (.inl inside)
  | cons x front ih =>
    rw [List.cons_append, List.infix_cons_iff] at inside
    rcases inside with first | later
    · obtain ⟨rfl, second⟩ := List.cons_prefix_cons.mp first
      cases front with
      | nil =>
        obtain ⟨after, rfl⟩ := second
        exact .inr (.inr ⟨rfl, rfl⟩)
      | cons y front =>
        obtain ⟨rfl, -⟩ := List.cons_prefix_cons.mp second
        exact .inl ⟨[], front, rfl⟩
    · rcases ih later with early | late | ⟨last, head⟩
      · exact .inl (List.infix_cons early)
      · exact .inr (.inl late)
      · refine .inr (.inr ⟨?_, head⟩)
        rw [List.getLast?_cons, last, Option.getD_some]

/-- Looking up the user of an account, or then the connection of that user, was answered
with an error. -/
inductive Unfound (account : AccountId) (trace : List Exchange) (err : StoreError) : Prop
  | user (id : InstanceId) (asked : ⟨.loadUser id account, some (.error err)⟩ ∈ trace)
  | connection (id : InstanceId) (user : UserId)
      (asked : [⟨.loadUser id account, some (.ok user)⟩,
        ⟨.loadConnection id user, some (.error err)⟩] <:+: trace)

/-- Different ends are different outcomes. -/
theorem Halt.outcome_inj {halt other : Halt} : halt.outcome = other.outcome ↔ halt = other := by
  cases halt <;> cases other <;> simp [Halt.outcome]

/-- A run is delivered where nothing ended it before. -/
theorem Outcome.isDelivered_iff {outcome : Outcome} :
    outcome.isDelivered = true ↔ ∀ halt : Halt, outcome ≠ halt.outcome := by
  cases outcome with
  | delivered report =>
    refine iff_of_true rfl fun halt => ?_
    cases halt <;> exact nofun
  | ignored reason => exact iff_of_false nofun fun never => never (.ignore reason) rfl
  | failed failure => exact iff_of_false nofun fun never => never (.fail failure) rfl

theorem Outcome.failureKind?_eq_some_iff {outcome : Outcome} {kind : FailureKind} :
    outcome.failureKind? = some kind ↔
      ∃ failure, failure.kind = kind ∧ outcome = (Halt.fail failure).outcome := by
  cases outcome <;> simp [Outcome.failureKind?, Halt.outcome]

namespace Failure

/-- The failure is an error of the given kind that the tracker's API answered. -/
def OfApi (failure : Failure) (kind : ApiErrorKind) : Prop :=
  ∃ stage err, failure = .api stage err ∧ err.kind = kind

/-- What is to be made of a failure. Only an error that the API answered tells that it may
pass, or that it is one of permissions. -/
def CountsAs (failure : Failure) : FailureKind → Prop
  | .transient => failure.OfApi .transient
  | .permissionDenied => failure.OfApi .permissionDenied
  | .fatalToMessage => ¬ failure.OfApi .transient ∧ ¬ failure.OfApi .permissionDenied

theorem kind_eq_iff {failure : Failure} {kind : FailureKind} :
    failure.kind = kind ↔ failure.CountsAs kind := by
  unfold Failure.kind
  cases failure with
  | api stage err =>
    cases kind <;> cases given : err.kind <;> simp [CountsAs, OfApi, given, and_assoc]
  | _ => cases kind <;> simp [CountsAs, OfApi]

end Failure

namespace Event

/-- What ends the run of an event before it posts to channels, by what was asked and
answered, and what the run then comes to. -/
inductive Ends (e : Event) (id : InstanceId) (trace : List Exchange) : Halt → Prop
  | notInstalled {err : StoreError} (missing : err.isNotFound = true)
      (asked : ⟨.loadInstance id, some (.error err)⟩ ∈ trace) :
      Ends e id trace (.ignore (.instanceNotInstalled id))
  | trackerUnread {err : StoreError} (other : err.isNotFound = false)
      (asked : ⟨.loadInstance id, some (.error err)⟩ ∈ trace) :
      Ends e id trace (.fail (.store err))
  /-- Only comments need a person who may read them. -/
  | notConnected {account : AccountId} {err : StoreError} (about : e.isCommentEvent = true)
      (acting : e.actingAccount = some account) (missing : err.isNotFound = true)
      (unfound : Unfound account trace err) :
      Ends e id trace (.ignore (.authorNotConnected account))
  | accountUnread {account : AccountId} {err : StoreError}
      (acting : e.actingAccount = some account) (other : err.isNotFound = false)
      (unfound : Unfound account trace err) : Ends e id trace (.fail (.store err))
  | refused {session : Session} {err : ApiError} (about : e.isCommentEvent = true)
      (asked : ⟨.openSession session, some (.error err)⟩ ∈ trace) :
      Ends e id trace (.fail (.api .clientSetup err))
  | issueUnread {session : Session} {err : ApiError}
      (asked : ⟨session.issueCall e.issue, some (Except.error err)⟩ ∈ trace) :
      Ends e id trace (.fail (.api .issueExpansion err))
  | undecodable {session : Session} {answer : Json}
      (asked : ⟨session.issueCall e.issue, some (Except.ok answer)⟩ ∈ trace)
      (unreadable : IssueFields.decode answer = none) :
      Ends e id trace (.fail (.parse .malformed))
  | commentUnread {session : Session} {comment : Comment} {err : ApiError}
      (present : e.comment = some comment)
      (asked : ⟨session.commentCall comment, some (Except.error err)⟩ ∈ trace) :
      Ends e id trace (.fail (.api .visibilityLookup err))
  | subscriptionsUnread {tracker : InstanceId} {err : StoreError}
      (asked : ⟨.loadSubscriptions tracker, some (.error err)⟩ ∈ trace) :
      Ends e id trace (.fail (.store err))

variable {e : Event} {id : InstanceId}

/-- The trace does not break off between the two look-ups of a session. -/
def Settled (e : Event) (trace : List Exchange) : Prop :=
  ∀ id account user, e.actingAccount = some account →
    trace.getLast? ≠ some ⟨.loadUser id account, some (.ok user)⟩

theorem Settled.append {front rest : List Exchange} (first : Settled e front)
    (second : Settled e rest) : Settled e (front ++ rest) := by
  intro tracker account user acting last
  rw [List.getLast?_append] at last
  cases final : rest.getLast? with
  | none =>
    rw [final] at last
    exact first tracker account user acting last
  | some x =>
    rw [final] at last
    exact second tracker account user acting (final.trans last)

namespace Ends

variable {front rest trace : List Exchange} {halt : Halt}

theorem mono (ends : Ends e id front halt) (inside : front <:+: trace) : Ends e id trace halt := by
  have unfound {account : AccountId} {err : StoreError} (found : Unfound account front err) :
      Unfound account trace err := by
    cases found with
    | user tracker asked => exact .user tracker (inside.subset asked)
    | connection tracker user asked => exact .connection tracker user (asked.trans inside)
  cases ends with
  | notInstalled missing asked => exact .notInstalled missing (inside.subset asked)
  | trackerUnread other asked => exact .trackerUnread other (inside.subset asked)
  | notConnected about acting missing found =>
    exact .notConnected about acting missing (unfound found)
  | accountUnread acting other found => exact .accountUnread acting other (unfound found)
  | refused about asked => exact .refused about (inside.subset asked)
  | issueUnread asked => exact .issueUnread (inside.subset asked)
  | undecodable asked unreadable => exact .undecodable (inside.subset asked) unreadable
  | commentUnread present asked => exact .commentUnread present (inside.subset asked)
  | subscriptionsUnread asked => exact .subscriptionsUnread (inside.subset asked)

/-- What ends a run is found in one part of what was asked, or in the other. -/
theorem append_iff (settled : Settled e front) :
    Ends e id (front ++ rest) halt ↔ Ends e id front halt ∨ Ends e id rest halt := by
  have unfound {account : AccountId} {err : StoreError} (acting : e.actingAccount = some account)
      (found : Unfound account (front ++ rest) err) :
      Unfound account front err ∨ Unfound account rest err := by
    cases found with
    | user tracker asked =>
      exact (List.mem_append.mp asked).imp (.user tracker) (.user tracker)
    | connection tracker user asked =>
      rcases pair_infix_append asked with early | late | ⟨last, -⟩
      · exact .inl (.connection tracker user early)
      · exact .inr (.connection tracker user late)
      · exact absurd last (settled tracker account user acting)
  constructor
  · intro ends
    cases ends with
    | notInstalled missing asked =>
      exact (List.mem_append.mp asked).imp (.notInstalled missing) (.notInstalled missing)
    | trackerUnread other asked =>
      exact (List.mem_append.mp asked).imp (.trackerUnread other) (.trackerUnread other)
    | notConnected about acting missing found =>
      exact (unfound acting found).imp (.notConnected about acting missing)
        (.notConnected about acting missing)
    | accountUnread acting other found =>
      exact (unfound acting found).imp (.accountUnread acting other) (.accountUnread acting other)
    | refused about asked => exact (List.mem_append.mp asked).imp (.refused about) (.refused about)
    | issueUnread asked => exact (List.mem_append.mp asked).imp .issueUnread .issueUnread
    | undecodable asked unreadable =>
      exact (List.mem_append.mp asked).imp (.undecodable · unreadable) (.undecodable · unreadable)
    | commentUnread present asked =>
      exact (List.mem_append.mp asked).imp (.commentUnread present) (.commentUnread present)
    | subscriptionsUnread asked =>
      exact (List.mem_append.mp asked).imp .subscriptionsUnread .subscriptionsUnread
  · rintro (early | late)
    · exact early.mono (List.prefix_append front rest).isInfix
    · exact late.mono (List.suffix_append front rest).isInfix

end Ends

/-- Nothing that the call is answered with ends the run. -/
def Indifferent (e : Event) : Call → Prop
  | .loadUser _ account => e.actingAccount ≠ some account
  | .loadConnection .. | .postDirect .. | .postToChannel .. => True
  | .loadInstance _ | .loadSubscriptions _ | .openSession _ | .fetch .. => False

/-- The calls of a part of the run show whether it ends the run, and as what. -/
def Judges {α : Type} (e : Event) (id : InstanceId) (r : Run α) (ends : α → Halt → Prop) : Prop :=
  ∀ trace a, r.Path trace (some a) → Settled e trace ∧ ∀ halt, Ends e id trace halt ↔ ends a halt

namespace Judges

variable {α β : Type} {r : Run α} {ends : α → Halt → Prop} {ends' : β → Halt → Prop}

theorem done {a : α} (goesOn : ∀ halt, ¬ ends a halt) : Judges e id (.done a) ends := by
  intro trace b path
  obtain ⟨rfl, same⟩ := path_done.mp path
  cases same
  refine ⟨fun _ _ _ _ => nofun, fun halt => iff_of_false (fun ended => ?_) (goesOn halt)⟩
  cases ended <;> grind [Unfound]

/-- A part goes on to the next, or it ends the run as its calls show. -/
theorem bind {f : α → Run β} (first : Judges e id r ends)
    (rest : ∀ trace a, r.Path trace (some a) →
      ((∀ halt, ¬ ends a halt) ∧ Judges e id (f a) ends') ∨
        ∃ b, f a = .done b ∧ ∀ halt, ends a halt ↔ ends' b halt) :
    Judges e id (r >>= f) ends' := by
  intro trace b path
  rcases path_bind.mp path with ⟨a, front, last, begun, ended, rfl⟩ | ⟨-, impossible⟩
  · obtain ⟨settled, judged⟩ := first front a begun
    rcases rest front a begun with ⟨goesOn, next⟩ | ⟨b', same, agree⟩
    · obtain ⟨settled', judged'⟩ := next last b ended
      refine ⟨settled.append settled', fun halt => ?_⟩
      rw [Ends.append_iff settled, judged, judged']
      exact or_iff_right (goesOn halt)
    · rw [same] at ended
      obtain ⟨rfl, equal⟩ := path_done.mp ended
      cases equal
      rw [List.append_nil]
      exact ⟨settled, fun halt => (judged halt).trans (agree halt)⟩
  · cases impossible

/-- Working on the result changes nothing where it is judged as before. -/
theorem map {g : α → β} (first : Judges e id r ends)
    (agree : ∀ a halt, ends a halt ↔ ends' (g a) halt) :
    Judges e id (r >>= fun a => .done (g a)) ends' :=
  first.bind fun _ a _ => .inr ⟨g a, rfl, agree a⟩

/-- Calls that are neither the look-up of the person who acts nor among those whose failure
ends the run. -/
theorem of_only (idle : ∀ a halt, ¬ ends a halt) (only : r.Only (e.Indifferent ·)) :
    Judges e id r ends := by
  intro trace a path
  have indifferent := only.path path
  refine ⟨fun tracker account user acting last => ?_,
    fun halt => iff_of_false (fun ended => ?_) (idle a halt)⟩
  · exact indifferent _ (List.mem_of_getLast? last) acting
  · have unfound {account : AccountId} {err : StoreError}
        (acting : e.actingAccount = some account) (found : Unfound account trace err) : False := by
      cases found with
      | user tracker asked => exact indifferent _ asked acting
      | connection tracker user asked =>
        exact indifferent _ (asked.subset List.mem_cons_self) acting
    cases ended with
    | notConnected about acting missing found => exact unfound acting found
    | accountUnread acting other found => exact unfound acting found
    | notInstalled missing asked => exact indifferent _ asked
    | trackerUnread other asked => exact indifferent _ asked
    | refused about asked => exact indifferent _ asked
    | issueUnread asked => exact indifferent _ asked
    | undecodable asked unreadable => exact indifferent _ asked
    | commentUnread present asked => exact indifferent _ asked
    | subscriptionsUnread asked => exact indifferent _ asked

/-- A call that no session is sought by is judged by its answer. -/
theorem call {c : Call} {ends : c.Answer → Halt → Prop}
    (unrelated : ∀ id account, c ≠ .loadUser id account)
    (judged : ∀ answer halt, Ends e id [⟨c, some answer⟩] halt ↔ ends answer halt) :
    Judges e id (Run.call c) ends := by
  intro trace answer path
  rw [path_call] at path
  subst path
  refine ⟨fun tracker account user acting last => ?_, judged answer⟩
  cases last
  exact unrelated tracker account rfl

/-- A step that may end the run goes on to the next. -/
theorem run_bind {x : Step α} {f : α → Step β}
    (first : Judges e id x.run fun r halt => r = .error halt)
    (rest : ∀ trace a, x.run.Path trace (some (.ok a)) →
      Judges e id (f a).run fun r halt => r = .error halt) :
    Judges e id (x >>= f).run fun r halt => r = .error halt := by
  rw [ExceptT.run_bind]
  refine first.bind fun trace r path => ?_
  cases r with
  | error halt => exact .inr ⟨.error halt, rfl, fun other => by simp⟩
  | ok a => exact .inl ⟨by simp, rest trace a path⟩

end Judges

/-- How the search for a session may end the run. A session that is not had ends it only
where the event is about a comment. -/
def sought (e : Event) (account : AccountId) : Except Failure (Option Session) → Halt → Prop
  | .ok (some _), _ => False
  | .ok none, halt => e.isCommentEvent = true ∧ halt = .ignore (.authorNotConnected account)
  | .error (.api stage err), halt => e.isCommentEvent = true ∧ halt = .fail (.api stage err)
  | .error failure, halt => halt = .fail failure

variable {tracker : Instance} {session : Session}

/-- A record that is not there and one that cannot be read end the run in different
ways. -/
theorem ends_absence_iff {account : AccountId} {trace : List Exchange} {err : StoreError}
    {halt : Halt} (acting : e.actingAccount = some account) (found : Unfound account trace err)
    (alone : Ends e id trace halt → if err.isNotFound
      then e.isCommentEvent = true ∧ halt = .ignore (.authorNotConnected account)
      else halt = .fail (.store err)) :
    Ends e id trace halt ↔ e.sought account err.absence halt := by
  unfold StoreError.absence
  cases missing : err.isNotFound with
  | true =>
    rw [if_pos missing] at alone
    refine ⟨alone, fun given => ?_⟩
    obtain ⟨about, rfl⟩ := given
    exact .notConnected about acting missing found
  | false =>
    rw [missing] at alone
    refine ⟨alone, fun given => ?_⟩
    cases given
    exact .accountUnread acting missing found

theorem sessionOf?_judges {account : AccountId} (acting : e.actingAccount = some account) :
    Judges e id (tracker.sessionOf? account).run (e.sought account) := by
  intro trace found path
  cases Instance.sessionOf?_seeking path with
  | unknown err =>
    refine ⟨fun _ _ _ _ => nofun, fun halt =>
      ends_absence_iff acting (.user tracker.id List.mem_cons_self) fun ends => ?_⟩
    cases ends <;> grind [Unfound, List.infix_cons_iff]
  | unconnected user err =>
    refine ⟨fun _ _ _ _ => nofun, fun halt =>
      ends_absence_iff acting (.connection tracker.id user List.infix_rfl) fun ends => ?_⟩
    cases ends <;> grind [Unfound, List.infix_cons_iff]
  | refused user connection err =>
    refine ⟨fun _ _ _ _ => nofun, fun halt => ⟨fun ends => ?_, fun given => ?_⟩⟩
    · cases ends <;> grind [Unfound, List.infix_cons_iff, sought]
    · obtain ⟨about, rfl⟩ := given
      exact .refused about (List.mem_of_getLast? rfl)
  | opened user connection =>
    refine ⟨fun _ _ _ _ => nofun, fun halt => iff_of_false (fun ends => ?_) not_false⟩
    cases ends <;> grind [Unfound, List.infix_cons_iff, Session.opening]

theorem authorSession_judges (about : e.isCommentEvent = true) {account : AccountId}
    (acting : e.actingAccount = some account) :
    Judges e id (authorSession tracker e).run fun r halt => r = .error halt := by
  unfold authorSession
  rw [acting]
  dsimp only
  rw [ExceptT.run_bind, Attempt.run_insist, bind_assoc]
  refine (sessionOf?_judges acting).bind fun trace found path => ?_
  cases found with
  | ok session? =>
    cases session? with
    | none =>
      refine .inr ⟨.error (.ignore (.authorNotConnected account)), rfl, fun halt => ?_⟩
      simp [sought, about, eq_comm]
    | some session => exact .inl ⟨fun _ => not_false, .done (by simp)⟩
  | error failure =>
    refine .inr ⟨.error (.fail failure), rfl, fun halt => ?_⟩
    cases failure <;> simp [sought, about, eq_comm]

theorem actorSession?_judges (other : e.isCommentEvent = false) :
    Judges e id (actorSession? tracker e).run fun r halt => r = .error halt := by
  unfold actorSession?
  split
  · rename_i account acting
    split
    · rw [Run.run_bind_lift]
      refine (sessionOf?_judges acting).bind fun trace found path => ?_
      rcases found with (parse | store | api | _) | session?
      · refine .inr ⟨.error (.fail (.parse parse)), rfl, fun halt => ?_⟩
        simp [sought, eq_comm]
      · refine .inr ⟨.error (.fail (.store store)), rfl, fun halt => ?_⟩
        simp [sought, eq_comm]
      · exact .inl ⟨by simp [sought, other], .done (by simp)⟩
      · refine .inr ⟨.error (.fail .aborted), rfl, fun halt => ?_⟩
        simp [sought, eq_comm]
      · cases session? <;> exact .inl ⟨by simp [sought, other], .done (by simp)⟩
    · exact .done (by simp)
  · exact .done (by simp)

/-- How an attempt may end the run that insists on it. -/
def attempted {α : Type} : Except Failure α → Halt → Prop
  | .ok _, _ => False
  | .error failure, halt => halt = .fail failure

theorem insist_judges {α : Type} {attempt : Attempt α}
    (judged : Judges e id attempt.run attempted) :
    Judges e id attempt.insist.run fun r halt => r = .error halt := by
  rw [Attempt.run_insist]
  refine judged.map fun r halt => ?_
  cases r with
  | ok a => exact iff_of_false not_false nofun
  | error failure => exact ⟨fun same => same ▸ rfl, fun same => (Except.error.inj same).symm⟩

/-- How the answer to the question for an issue may end the run. -/
def issueAnswered : Except ApiError Json → Halt → Prop
  | .ok answer, halt => IssueFields.decode answer = none ∧ halt = .fail (.parse .malformed)
  | .error err, halt => halt = .fail (.api .issueExpansion err)

theorem issueCall_judges :
    Judges e id (Run.call (session.issueCall e.issue)) issueAnswered := by
  refine .call nofun fun (answer : Except ApiError Json) halt => ⟨fun ends => ?_, fun given => ?_⟩
  · cases ends <;> grind [Unfound, List.infix_cons_iff, issueAnswered]
  · cases answer with
    | ok answer =>
      obtain ⟨unreadable, rfl⟩ := given
      exact .undecodable List.mem_cons_self unreadable
    | error err =>
      cases given
      exact .issueUnread List.mem_cons_self

theorem expand?_judges : Judges e id (session.expand? e.issue).run attempted := by
  cases complete : e.issue.fields.isComplete with
  | true =>
    rw [Session.run_expand?_of_complete complete]
    exact .done fun _ => not_false
  | false =>
    rw [Session.run_expand?_of_incomplete complete]
    refine issueCall_judges.map fun (answer : Except ApiError Json) halt => ?_
    cases answer with
    | error err => exact Iff.rfl
    | ok body =>
      cases decoded : IssueFields.decode body <;>
        simp [issueAnswered, attempted, Issue.settled, decoded]

theorem completed_judges :
    Judges e id (completed session e).run fun r halt => r = .error halt := by
  unfold completed
  split
  · exact (insist_judges expand?_judges).run_bind fun _ _ _ => .done (by simp)
  · exact .done (by simp)

theorem visibility_judges {comment : Comment} (present : e.comment = some comment) :
    Judges e id (session.visibility comment).run attempted := by
  have asked : Judges e id (Run.call (session.commentCall comment))
      fun answer halt =>
        ∃ err, answer = .error err ∧ halt = .fail (.api .visibilityLookup err) := by
    refine .call nofun fun (answer : Except ApiError Json) halt => ⟨fun ends => ?_, fun given => ?_⟩
    · cases ends <;> grind [Unfound, List.infix_cons_iff]
    · obtain ⟨err, rfl, rfl⟩ := given
      exact .commentUnread present List.mem_cons_self
  unfold Session.visibility
  rw [ExceptT.run_bind, Attempt.run_api, bind_assoc]
  refine asked.bind fun trace (answer : Except ApiError Json) path => ?_
  cases answer with
  | error err =>
    refine .inr ⟨.error (.api .visibilityLookup err), rfl, fun halt => ?_⟩
    simp [attempted]
  | ok body => exact .inl ⟨by simp, .done fun _ => not_false⟩

theorem readied_judges (commented : e.isCommentEvent = true → e.comment.isSome = true) :
    Judges e id (e.readied tracker).run fun r halt => r = .error halt := by
  have kept : ∀ {session trace ready}, (completed session e).run.Path trace (some (.ok ready)) →
      ready.comment = e.comment := by
    intro session trace ready path
    cases path_completed.mp path <;> rfl
  unfold readied
  cases about : e.isCommentEvent with
  | true =>
    obtain ⟨comment, present⟩ := Option.isSome_iff_exists.mp (commented about)
    have acting : e.actingAccount = some comment.author.account := by rw [actingAccount, present]
    rw [if_pos rfl]
    refine (authorSession_judges about acting).run_bind fun _ session _ => ?_
    refine completed_judges.run_bind fun _ ready completing => ?_
    rw [kept completing, present]
    exact (insist_judges (visibility_judges present)).run_bind fun _ _ _ => .done (by simp)
  | false =>
    rw [if_neg Bool.false_ne_true]
    refine (actorSession?_judges about).run_bind fun _ session? _ => ?_
    cases session? with
    | none => exact .done (by simp)
    | some session => exact completed_judges.run_bind fun _ _ _ => .done (by simp)

/-- Posts to channels end no run. -/
theorem publish_judges {sender : UserId} {ready : Event} {visibility : String}
    {direct : DirectReport} :
    Judges e id (ready.publish sender tracker visibility direct)
      fun outcome halt => outcome = halt.outcome := by
  have asked : Judges e id (Run.call (.loadSubscriptions tracker.id))
      fun answer halt => ∃ err, answer = .error err ∧ halt = .fail (.store err) := by
    refine .call nofun fun (answer : Except StoreError (List Subscription)) halt =>
      ⟨fun ends => ?_, fun given => ?_⟩
    · cases ends <;> grind [Unfound, List.infix_cons_iff]
    · obtain ⟨err, rfl, rfl⟩ := given
      exact .subscriptionsUnread List.mem_cons_self
  unfold publish
  refine asked.bind fun trace (answer : Except StoreError (List Subscription)) path => ?_
  cases answer with
  | error err =>
    refine .inr ⟨.failed (.store err), rfl, fun halt => ?_⟩
    cases halt <;> simp [Halt.outcome, eq_comm]
  | ok subscriptions =>
    refine .inl ⟨by simp, ?_⟩
    dsimp only
    refine Judges.map (.of_only (fun _ _ => not_false) (fanOut_only fun _ _ => trivial))
      fun channels halt => ?_
    cases halt <;> simp [Halt.outcome]

/-- Those who are told are others than the one whose look-up may end the run. -/
theorem tellAll_indifferent {sender : UserId}
    (others : ∀ n ∈ e.notifications, some n.recipient.account ≠ e.actingAccount) :
    (e.tellAll sender tracker).Only e.Indifferent :=
  tellAll_only (fun n member acting => others n member acting.symm) (fun _ => trivial)
    fun _ _ => trivial

theorem relayFrom_judges {sender : UserId}
    (commented : e.isCommentEvent = true → e.comment.isSome = true)
    (others : ∀ n ∈ e.notifications, some n.recipient.account ≠ e.actingAccount) :
    Judges e id (e.relayFrom sender tracker) fun outcome halt => outcome = halt.outcome := by
  unfold relayFrom
  have told : Judges e id (e.tellAll sender tracker) fun _ _ => False :=
    .of_only (fun _ _ => not_false) (tellAll_indifferent others)
  refine told.bind fun _ direct _ => .inl ⟨fun _ => not_false, ?_⟩
  refine (readied_judges commented).bind fun _ ready _ => ?_
  cases ready with
  | error halt =>
    refine .inr ⟨halt.outcome, rfl, fun other => ?_⟩
    rw [Except.error.injEq, Halt.outcome_inj]
  | ok ready => exact .inl ⟨by simp, publish_judges⟩

/-- What becomes of a run whose tracker is not had. -/
def uninstalled (id : InstanceId) (err : StoreError) : Halt :=
  if err.isNotFound then .ignore (.instanceNotInstalled id) else .fail (.store err)

/-- What is asked and answered in the run of an event decides how it ends. -/
theorem relay_judges {sender : UserId}
    (commented : e.isCommentEvent = true → e.comment.isSome = true)
    (others : ∀ n ∈ e.notifications, some n.recipient.account ≠ e.actingAccount) :
    Judges e id (e.relay sender id) fun outcome halt => outcome = halt.outcome := by
  have asked : Judges e id (Run.call (.loadInstance id)) fun answer halt => ∃ err,
      answer = .error err ∧ halt = uninstalled id err := by
    refine .call nofun fun (answer : Except StoreError Instance) halt =>
      ⟨fun ends => ?_, fun given => ?_⟩
    · cases ends <;> grind [Unfound, List.infix_cons_iff, uninstalled]
    · obtain ⟨err, rfl, rfl⟩ := given
      unfold uninstalled
      cases missing : err.isNotFound with
      | true => exact .notInstalled missing List.mem_cons_self
      | false => exact .trackerUnread missing List.mem_cons_self
  unfold relay
  refine asked.bind fun _ (answer : Except StoreError Instance) _ => ?_
  cases answer with
  | ok tracker => exact .inl ⟨by simp, relayFrom_judges commented others⟩
  | error err =>
    refine .inr ⟨(uninstalled id err).outcome, ?_, fun halt => ?_⟩
    · unfold uninstalled
      cases missing : err.isNotFound <;> simp [missing, Halt.outcome]
    · rw [Halt.outcome_inj]
      simp [eq_comm]

end Event

/-- Whatever ends the run of a webhook before it posts to channels: that its payload stands
for no event, or what was asked and answered for its event. -/
inductive Webhook.Ends (w : Webhook) (trace : List Exchange) : Halt → Prop
  | notActionable (parsed : Event.parse w.body = .ok none) :
      Ends w trace (.ignore .notActionable)
  | unparsed {err : ParseError} (parsed : Event.parse w.body = .error err) :
      Ends w trace (.fail (.parse err))
  | event {e : Event} {halt : Halt} (parsed : Event.parse w.body = .ok (some e))
      (ends : e.Ends w.instanceId trace halt) : Ends w trace halt

namespace Webhook

variable {w : Webhook} {sender : UserId} {trace : List Exchange} {outcome : Outcome}

/-- Without an event nothing is asked. -/
theorem relay_eventless (eventless : ∀ e, Event.parse w.body ≠ .ok (some e)) :
    ∃ halt, w.relay sender = .done halt.outcome ∧
      ∀ trace other, w.Ends trace other ↔ halt = other := by
  unfold relay
  cases parsed : Event.parse w.body with
  | error err =>
    refine ⟨.fail (.parse err), rfl, fun trace other => ⟨fun ends => ?_, fun same => ?_⟩⟩
    · cases ends <;> simp_all
    · subst same
      exact .unparsed parsed
  | ok e? =>
    cases e? with
    | some e => exact absurd parsed (eventless e)
    | none =>
      refine ⟨.ignore .notActionable, rfl, fun trace other => ⟨fun ends => ?_, fun same => ?_⟩⟩
      · cases ends <;> simp_all
      · subst same
        exact .notActionable parsed

theorem path_ends_iff (path : (w.relay sender).Path trace (some outcome)) (halt : Halt) :
    w.Ends trace halt ↔ outcome = halt.outcome := by
  by_cases eventful : ∃ e, Event.parse w.body = .ok (some e)
  · obtain ⟨e, parsed⟩ := eventful
    obtain ⟨flagged, present⟩ := Event.parse_aboutComment parsed
    have commented : e.isCommentEvent = true → e.comment.isSome = true := by
      rw [flagged, present]
      exact fun about => about
    rw [w.relay_event parsed] at path
    have judged := Event.relay_judges commented (Event.parse_not_acting parsed) trace outcome path
    refine Iff.trans ⟨fun ends => ?_, .event parsed⟩ (judged.2 halt)
    cases ends with
    | event parsed' ends =>
      cases parsed.symm.trans parsed'
      exact ends
    | notActionable parsed' => cases parsed.symm.trans parsed'
    | unparsed parsed' => cases parsed.symm.trans parsed'
  · obtain ⟨given, ended, decided⟩ := relay_eventless (not_exists.mp eventful)
    rw [ended] at path
    obtain ⟨rfl, same⟩ := path_done.mp path
    cases same
    rw [decided, Halt.outcome_inj]

/-- Only a run that is delivered posts to channels. -/
theorem relay_silent (path : (w.relay sender).Path trace (some outcome)) :
    (∀ x ∈ trace, x.call.channel? = none) ∨ outcome.isDelivered = true := by
  by_cases eventful : ∃ e, Event.parse w.body = .ok (some e)
  · obtain ⟨e, parsed⟩ := eventful
    rw [w.relay_event parsed] at path
    rcases Event.relay_path path with ⟨⟨passage⟩⟩ | ⟨early, -⟩
    · obtain ⟨-, channels, delivered⟩ := passage.ended outcome rfl
      exact .inr (delivered ▸ rfl)
    · exact .inl fun x member => (early x member).1
  · obtain ⟨given, ended, -⟩ := relay_eventless (not_exists.mp eventful)
    rw [ended] at path
    obtain ⟨rfl, -⟩ := path_done.mp path
    exact .inl fun x member => absurd member List.not_mem_nil

end Webhook

variable {σ : Type}

/-- Where every call returns, a run ends: ignored or failed exactly for the reasons listed,
and delivered otherwise, whatever became of its posts. Only a run that is delivered posts
to channels, and one for no event asks nothing. -/
theorem outcome_decided (c : Collaborators σ) (s : σ) (sender : UserId) (w : Webhook)
    (returned : ∀ x ∈ (w.relay sender).trace c s, x.answer ≠ none) :
    ∃ outcome, ((w.relay sender).exec c s).1 = some outcome ∧
      (∀ reason, outcome = .ignored reason ↔
        w.Ends ((w.relay sender).trace c s) (.ignore reason)) ∧
      (∀ failure, outcome = .failed failure ↔
        w.Ends ((w.relay sender).trace c s) (.fail failure)) ∧
      (outcome.isDelivered = true ↔ ∀ halt, ¬ w.Ends ((w.relay sender).trace c s) halt) ∧
      (∀ kind, outcome.failureKind? = some kind ↔ ∃ failure, failure.CountsAs kind ∧
        w.Ends ((w.relay sender).trace c s) (.fail failure)) ∧
      (∀ x ∈ (w.relay sender).trace c s, x.call.channel? ≠ none → outcome.isDelivered = true) ∧
      (outcome = .ignored .notActionable → (w.relay sender).trace c s = []) := by
  have path := path_trace c (w.relay sender) s
  obtain ⟨outcome, ended⟩ := path.exists_result returned
  rw [ended] at path
  have decided := w.path_ends_iff path
  refine ⟨outcome, ended, fun reason => (decided (.ignore reason)).symm,
    fun failure => (decided (.fail failure)).symm, ?_, fun kind => ?_, ?_, ?_⟩
  · rw [Outcome.isDelivered_iff]
    exact forall_congr' fun halt => not_congr (decided halt).symm
  · simp only [decided, ← Failure.kind_eq_iff]
    exact Outcome.failureKind?_eq_some_iff
  · intro x member posts
    rcases Webhook.relay_silent path with silent | delivered
    · exact absurd (silent x member) posts
    · exact delivered
  · intro ignored
    cases (decided (.ignore .notActionable)).mpr ignored with
    | notActionable parsed =>
      simp only [Webhook.relay, parsed]
      rfl
    | event parsed ends => cases ends

/-- Everybody is connected, but nobody may read a comment. -/
def Collaborators.forbidding : Collaborators Unit where
  answer
    | .fetch _ _ [], s => (some (.error (.ofStatus 403 "no")), s)
    | call, s => (Collaborators.constant .null townAndDevelopers).answer call s

private theorem forbidding_returns (call : Call) (s : Unit) :
    (Collaborators.forbidding.answer call s).1 ≠ none := by
  cases call with
  | fetch session path query => cases query <;> exact nofun
  | _ => exact nofun

/-- A comment that its author may not read fails the run for want of permission, and no
channel hears of it. -/
theorem forbidden_comment_decided :
    (∀ x ∈ (commentWebhook.relay ⟨"bot"⟩).trace .forbidding (), x.answer ≠ none) ∧
    ∃ outcome, ((commentWebhook.relay ⟨"bot"⟩).exec .forbidding ()).1 = some outcome ∧
      outcome.failureKind? = some .permissionDenied ∧
      commentWebhook.Ends ((commentWebhook.relay ⟨"bot"⟩).trace .forbidding ())
        (.fail (.api .visibilityLookup (.ofStatus 403 "no"))) ∧
      ∀ x ∈ (commentWebhook.relay ⟨"bot"⟩).trace .forbidding (), x.call.channel? = none := by
  have returned : ∀ x ∈ (commentWebhook.relay ⟨"bot"⟩).trace .forbidding (), x.answer ≠ none := by
    intro x member lost
    obtain ⟨s, answered⟩ := trace_answer member
    exact forbidding_returns x.call s (answered.trans lost)
  obtain ⟨outcome, ended, -, failed, -, -, posting, -⟩ :=
    outcome_decided .forbidding () ⟨"bot"⟩ commentWebhook returned
  have forbidden : ((commentWebhook.relay ⟨"bot"⟩).exec .forbidding ()).1 =
      some (.failed (.api .visibilityLookup (.ofStatus 403 "no"))) := by decide +kernel
  cases ended.symm.trans forbidden
  refine ⟨returned, _, ended, rfl, (failed _).mp rfl, fun x member => ?_⟩
  refine Decidable.byContradiction fun posts => ?_
  cases posting x member posts

end Herald
