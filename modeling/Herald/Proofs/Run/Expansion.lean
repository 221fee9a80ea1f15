import Herald.Proofs.Event.Fields
import Herald.Proofs.Event.Merge
import Herald.Proofs.Run.Anonymous
import Herald.Proofs.Run.Parallel
import Herald.Proofs.Run.Visibility

/-!
# Fields that are fetched

A webhook may carry the fields of its issue or leave them out. In the second case they are
asked for, as the person whose permissions count, and from then on the run goes as in the
first: only those who are told directly may be others.

Main statement: channels are posted the same, and the run comes to the same (`same_posts`).
-/

namespace Herald

open Run

/-- What a channel gets to see of a call: the channel, the subscription that brings the post
there, and its text. -/
def Call.channelPost? : Call → Option (ChannelId × String × String)
  | .postToChannel _ e tracker channel name => some (channel, name, Message.channel e tracker)
  | _ => none

/-- A channel does not get to see what a post is answered. -/
def Exchange.channelPost? (x : Exchange) : Option (ChannelId × String × String) :=
  x.call.channelPost?

/-- The outcome apart from what became of the direct messages, and from the ids of posts. -/
def Outcome.undirected : Outcome → Outcome
  | .delivered r => .delivered { r with direct := ⟨[], []⟩, channels := r.channels.anonymous }
  | outcome => outcome

/-- Collaborators that can be relied on. The store always answers, and always the same; the
tracker always answers the same, if at all; every post comes back; and whether a post to a
channel succeeds depends on the channel alone. -/
structure Collaborators.Reliable {σ : Type} (c : Collaborators σ) : Prop where
  users : ∀ id account, ∃ answer, ∀ s, (c.answer (.loadUser id account) s).1 = some answer
  connections : ∀ id user, ∃ answer, ∀ s, (c.answer (.loadConnection id user) s).1 = some answer
  subscriptions : ∀ id, ∃ answer, ∀ s, (c.answer (.loadSubscriptions id) s).1 = some answer
  reads : ∀ session path query, ∃ answer, ∀ s, (c.answer (.fetch session path query) s).1 = answer
  directs : ∀ sender user message s, (c.answer (.postDirect sender user message) s).1 ≠ none
  channels : ∀ channel, ∃ answer : Except PostError PostId, ∀ sender e tracker name s,
    ((c.answer (.postToChannel sender e tracker channel name) s).1.map
      ((Call.postToChannel sender e tracker channel name).anonymous ·)) = some answer

variable {σ : Type} {c : Collaborators σ}

namespace Event

/-- The event without those whom it tells. -/
def unaddressed (e : Event) : Event :=
  { e with notifications := [] }

/-- Whatever the state is, the tracker is on record under the id of an instance, a session is
had for the account that acts in the event, and with it the tracker answers the event's issue
with the given fields. -/
structure Served (c : Collaborators σ) (id : InstanceId) (session : Session) (fields : Json)
    (e : Event) : Prop where
  installed : ∀ s, (c.answer (.loadInstance id) s).1 = some (.ok session.tracker)
  opened : ∃ account user, e.actingAccount = some account ∧
    ∀ x ∈ session.opening account user, ∀ s, (c.answer x.call s).1 = x.answer
  fetched : ∀ s, (c.answer (session.issueCall e.issue) s).1 =
    some (.ok (Json.object [("fields", fields)]).merged)

variable {e e' : Event} {sender : UserId} {tracker : Instance}

/-- Direct messages come back, and no channel sees them. -/
theorem tellAll_quiet (reliable : c.Reliable) :
    Quiet c Exchange.channelPost? (fun _ => True) (e.tellAll sender tracker) := by
  refine .of_only ((tellAll_tells e).mono fun call telling => ?_)
  cases call with
  | loadUser id account =>
    obtain ⟨answer, answered⟩ := reliable.users id account
    exact ⟨fun _ => rfl, fun s => by rw [answered s]; exact nofun⟩
  | loadConnection id user =>
    obtain ⟨answer, answered⟩ := reliable.connections id user
    exact ⟨fun _ => rfl, fun s => by rw [answered s]; exact nofun⟩
  | postDirect sender user message => exact ⟨fun _ => rfl, reliable.directs sender user message⟩
  | _ => cases telling

/-- Channels see the same of two events that are the same but for those whom they tell. -/
theorem fanOut_matches (reliable : c.Reliable) (same : e.unaddressed = e'.unaddressed)
    (subscriptions : List Subscription) :
    Matches c c Exchange.channelPost? anyStates (fun a b => a.anonymous = b.anonymous)
      (e.fanOut sender tracker subscriptions) (e'.fanOut sender tracker subscriptions) := by
  have shown : Message.channel e tracker = Message.channel e' tracker := by
    change Message.channel e.unaddressed tracker = Message.channel e'.unaddressed tracker
    rw [same]
  have single : ∀ s : Subscription,
      Matches c c Exchange.channelPost? anyStates (fun a b => a.anonymous = b.anonymous)
        (e.postTo sender tracker s) (e'.postTo sender tracker s) := by
    intro s
    obtain ⟨answer, answered⟩ := reliable.channels s.channel
    have posted : Matches c c Exchange.channelPost? anyStates
        (fun a b => a.map (fun _ => (⟨""⟩ : PostId)) = b.map fun _ => ⟨""⟩)
        (Run.call (.postToChannel sender e tracker s.channel s.name))
        (Run.call (.postToChannel sender e' tracker s.channel s.name)) := by
      refine .call fun t t' _ => ⟨?_, ?_, trivial⟩
      · simp only [Exchange.channelPost?, Call.channelPost?, shown]
      · obtain ⟨a, first, reported⟩ :=
          Option.map_eq_some_iff.mp (answered sender e tracker s.name t)
        obtain ⟨b, second, reported'⟩ :=
          Option.map_eq_some_iff.mp (answered sender e' tracker s.name t')
        rw [first, second]
        exact .some (reported.trans reported'.symm)
    refine posted.bind fun a b equal => .done ?_
    rw [ChannelPost.anonymous, ChannelPost.anonymous, equal]
  unfold fanOut
  refine (Matches.mapM single _).bind fun posts posts' equal => .done ?_
  rw [ChannelReport.anonymous_ofPosts, ChannelReport.anonymous_ofPosts,
    map_eq_iff_forall₂.mpr equal]

/-- Two events that are the same but for those whom they tell are published alike. -/
theorem publish_matches (reliable : c.Reliable) (same : e.unaddressed = e'.unaddressed)
    {visibility : String} {direct direct' : DirectReport} :
    Matches c c Exchange.channelPost? anyStates (fun a b => a.undirected = b.undirected)
      (e.publish sender tracker visibility direct)
      (e'.publish sender tracker visibility direct') := by
  have asked : Matches c c Exchange.channelPost? anyStates Eq
      (Run.call (.loadSubscriptions tracker.id)) (Run.call (.loadSubscriptions tracker.id)) := by
    obtain ⟨answer, answered⟩ := reliable.subscriptions tracker.id
    exact .call_same fun s s' _ => ⟨by rw [answered, answered], trivial⟩
  have accepted : ∀ s : Subscription, s.accepts e visibility = s.accepts e' visibility := by
    intro s
    change s.accepts e.unaddressed visibility = s.accepts e'.unaddressed visibility
    rw [same]
  unfold publish
  refine asked.bind fun answer answer' equal => ?_
  subst equal
  cases answer with
  | error err => exact .done rfl
  | ok subscriptions =>
    simp only [accepted]
    refine (fanOut_matches reliable same _).bind fun channels channels' reported => .done ?_
    simp only [Outcome.undirected, reported]

section Readied

variable {id : InstanceId} {session : Session} {fields : Json}

/-- The visibility of a comment is what the tracker always answers. -/
theorem visibility_matches (reliable : c.Reliable) (comment : Comment) :
    Matches c c Exchange.channelPost? anyStates Eq (session.visibility comment).insist.run
      (session.visibility comment).insist.run := by
  refine .of_only (Attempt.insist_only ?_)
  refine session.visibility_only comment fun path query s s' _ => ⟨?_, trivial⟩
  obtain ⟨answer, answered⟩ := reliable.reads session path query
  rw [answered s, answered s']

/-- The session of the acting account is had without a channel seeing it. -/
theorem Served.sessionOf?_quiet (served : e.Served c id session fields) :
    ∃ account, e.actingAccount = some account ∧ Quiet c Exchange.channelPost?
      (· = .ok (some session)) (session.tracker.sessionOf? account).run := by
  obtain ⟨account, user, acting, opened⟩ := served.opened
  refine ⟨account, acting, .of_path (Instance.path_sessionOf?_some.mpr ⟨rfl, user, rfl⟩) ?_ opened⟩
  simp [Session.opening, Exchange.channelPost?, Call.channelPost?]

theorem Served.authorSession_quiet (served : e.Served c id session fields) :
    Quiet c Exchange.channelPost? (· = .ok session) (authorSession session.tracker e).run := by
  obtain ⟨account, user, acting, opened⟩ := served.opened
  refine .of_path ((path_authorSession acting).mpr ⟨rfl, user, rfl⟩) ?_ opened
  simp [Session.opening, Exchange.channelPost?, Call.channelPost?]

/-- Where fields are missing the session is asked for. -/
theorem Served.actorSession?_quiet (served : e.Served c id session fields)
    (wanted : e.wantsExpansion = true) :
    Quiet c Exchange.channelPost? (· = .ok (some session))
      (actorSession? session.tracker e).run := by
  obtain ⟨account, acting, quiet⟩ := served.sessionOf?_quiet
  unfold actorSession?
  rw [acting]
  dsimp only
  rw [if_pos wanted, run_bind_lift]
  refine quiet.bind fun answer same => ?_
  cases same
  exact .done rfl

/-- Where nothing is missing no session is needed. -/
theorem actorSession?_unwanted (unwanted : e.wantsExpansion = false) :
    actorSession? tracker e = pure none := by
  unfold actorSession?
  rw [unwanted]
  cases e.actingAccount <;> rfl

/-- The event as it comes out of completing its bare form. -/
def refilled (e : Event) : Event :=
  { e with notifications := e.bare.notifications }

theorem Served.completed_bare_quiet (served : e.Served c id session fields)
    (wanted : e.bare.wantsExpansion = true)
    (decoded : IssueFields.decode (Json.object [("fields", fields)]).merged =
      some e.issue.fields) :
    Quiet c Exchange.channelPost? (· = .ok e.refilled) (completed session e.bare).run := by
  have completion : e.bare.Completion session _ _ := .fetched wanted _ _ decoded
  have path := path_completed.mpr completion
  rw [show e.bare.issue.fields = .none from rfl, IssueFields.none_fillMissing] at path
  refine .of_path path (by simp [Exchange.channelPost?, Call.channelPost?]) fun x member s => ?_
  rw [List.mem_singleton.mp member]
  exact served.fetched s

/-- The event and its bare form are readied to the same, but for those whom they tell. -/
theorem readied_matches (reliable : c.Reliable) (served : e.Served c id session fields)
    (complete : e.wantsExpansion = false) (wanted : e.bare.wantsExpansion = true)
    (decoded : IssueFields.decode (Json.object [("fields", fields)]).merged =
      some e.issue.fields) :
    Matches c c Exchange.channelPost? anyStates
      (fun a b => ∃ read : Except Halt String,
        a = read.map (e, ·) ∧ b = read.map (e.refilled, ·))
      (e.readied session.tracker).run (e.bare.readied session.tracker).run := by
  have servedBare : e.bare.Served c id session fields :=
    ⟨served.installed, served.opened, served.fetched⟩
  have completing := served.completed_bare_quiet wanted decoded
  have unneeded : completed session e = pure e := by rw [completed, complete]; rfl
  unfold readied
  rw [show e.bare.isCommentEvent = e.isCommentEvent from rfl]
  split
  · refine served.authorSession_quiet.run_bind_left ?_
    refine servedBare.authorSession_quiet.run_bind_right ?_
    rw [unneeded, pure_bind]
    refine completing.run_bind_right ?_
    rw [show e.refilled.comment = e.comment from rfl]
    cases e.comment with
    | none => exact .done ⟨.ok "", rfl, rfl⟩
    | some comment =>
      dsimp only
      rw [ExceptT.run_bind, ExceptT.run_bind]
      refine (visibility_matches reliable comment).bind fun read read' same => ?_
      subst same
      cases read with
      | error halt => exact .done ⟨.error halt, rfl, rfl⟩
      | ok visibility => exact .done ⟨.ok visibility, rfl, rfl⟩
  · rw [actorSession?_unwanted complete, pure_bind]
    refine (servedBare.actorSession?_quiet wanted).run_bind_right ?_
    refine completing.run_bind_right ?_
    exact .done ⟨.ok "", rfl, rfl⟩

/-- The runs of an event and of its bare form are the same to channels. -/
theorem relay_matches (sender : UserId) (reliable : c.Reliable)
    (served : e.Served c id session fields) (complete : e.wantsExpansion = false)
    (wanted : e.bare.wantsExpansion = true)
    (decoded : IssueFields.decode (Json.object [("fields", fields)]).merged =
      some e.issue.fields) :
    Matches c c Exchange.channelPost? anyStates (fun a b => a.undirected = b.undirected)
      (e.relay sender id) (e.bare.relay sender id) := by
  have installed : Quiet c Exchange.channelPost? (· = .ok session.tracker)
      (Run.call (.loadInstance id)) := .call (fun _ => rfl) fun s => ⟨_, served.installed s, rfl⟩
  unfold relay
  refine installed.bind_left fun _ found => installed.bind_right fun _ found' => ?_
  subst found found'
  dsimp only
  unfold relayFrom
  refine (tellAll_quiet reliable).bind_left fun direct _ => ?_
  refine (tellAll_quiet reliable).bind_right fun direct' _ => ?_
  refine (readied_matches reliable served complete wanted decoded).bind fun a b alike => ?_
  obtain ⟨read, rfl, rfl⟩ := alike
  cases read with
  | error halt => exact .done rfl
  | ok visibility =>
    have same : e.unaddressed = e.refilled.unaddressed := rfl
    exact publish_matches reliable same

end Readied

end Event

/-- A webhook whose issue still exists may come with the complete fields of that issue or
without them: where these are had from the tracker, as the account that acts, the same is
posted to the same channels, and the runs come to the same up to direct messages and the ids
of posts. -/
theorem same_posts (reliable : c.Reliable) {id : InstanceId} {session : Session}
    {whole stripped : Bytes} {document issue fields : Json} {e : Event}
    (plain : document.plain = true) (about : document.member? "issue" = some issue)
    (given : issue.member? "fields" = some fields) (read : Json.read? whole = some document)
    (readStripped : Json.read? stripped = some document.withoutIssueFields)
    (parsed : Event.parse whole = .ok (some e)) (kept : e.kind ≠ .issueDeleted)
    (complete : e.issue.fields.isComplete = true) (served : e.Served c id session fields)
    (sender : UserId) (s s' : σ) :
    seen Call.channelPost? ((Webhook.relay sender ⟨id, whole⟩).trace c s) =
        seen Call.channelPost? ((Webhook.relay sender ⟨id, stripped⟩).trace c s') ∧
      ((Webhook.relay sender ⟨id, whole⟩).exec c s).1.map Outcome.undirected =
        ((Webhook.relay sender ⟨id, stripped⟩).exec c s').1.map Outcome.undirected := by
  obtain ⟨parsedStripped, f?, fetched, made⟩ :=
    Event.parse_withoutIssueFields plain about given read readStripped parsed kept
  cases f? with
  | none =>
    rw [made] at complete
    cases complete
  | some f =>
    have decoded := IssueFields.decode_answer
      (Json.plain_of_member? (Json.plain_of_member? plain about) given)
      (Json.decode_of_optional fetched)
    rw [show f.issueFields = e.issue.fields from made.symm] at decoded
    have unneeded : e.wantsExpansion = false := by
      rw [Event.wantsExpansion, Issue.needsExpansion, complete]
      rfl
    have wanted : e.bare.wantsExpansion = true := by
      rw [Event.wantsExpansion, show (e.bare.kind != .issueDeleted) = true from bne_iff_ne.mpr kept]
      rfl
    rw [Webhook.relay_event parsed, Webhook.relay_event parsedStripped]
    have alike := Event.relay_matches sender reliable served unneeded wanted decoded
    obtain ⟨posts, results, -⟩ := alike s s' trivial
    exact ⟨posts, map_eq_of_rel results⟩

/-- A webhook about a new issue, with more members of that issue. -/
def createdIssue (members : String) : Webhook :=
  ⟨⟨"tracker"⟩, Text.Utf8.encode (
    "\x7b\"webhookEvent\":\"jira:issue_created\",\"user\":\x7b\"accountId\":\"ann\"\x7d," ++
    "\"issue\":\x7b\"key\":\"P-1\",\"self\":\"https://t/i/1\"" ++ members ++ "\x7d\x7d")⟩

/-- The fields of a bug that bob looks after. -/
def bugMembers : String :=
  ",\"fields\":\x7b\"summary\":\"Slow\",\"project\":\x7b\"key\":\"P\"\x7d," ++
  "\"issuetype\":\x7b\"name\":\"Bug\"\x7d,\"assignee\":\x7b\"accountId\":\"bob\"\x7d\x7d"

def bugFields : Json :=
  .object [("summary", .string "Slow"), ("project", .object [("key", .string "P")]),
    ("issuetype", .object [("name", .string "Bug")]),
    ("assignee", .object [("accountId", .string "bob")])]

def bugIssue : Json :=
  .object [("key", .string "P-1"), ("self", .string "https://t/i/1"), ("fields", bugFields)]

def bugDocument : Json :=
  .object [("webhookEvent", .string "jira:issue_created"),
    ("user", .object [("accountId", .string "ann")]), ("issue", bugIssue)]

/-- A subscription to new bugs of a project. -/
def subscribeBugs : Subscription :=
  ⟨"bugs", ⟨"town"⟩, "bugs", ⟨"tracker"⟩,
    ⟨.ofList [.created], .ofList ["P"], .ofList ["Bug"], []⟩⟩

/-- Everybody is connected, and every issue is the bug. -/
def Collaborators.describing : Collaborators Unit where
  answer
    | .fetch _ _ (_ :: _), s => (some (.ok (Json.object [("fields", bugFields)]).merged), s)
    | call, s => (Collaborators.constant .null [subscribeBugs]).answer call s

private theorem describing_reliable : Collaborators.describing.Reliable where
  users id account := ⟨_, fun _ => rfl⟩
  connections id user := ⟨_, fun _ => rfl⟩
  subscriptions id := ⟨_, fun _ => rfl⟩
  reads session path query := by cases query <;> exact ⟨_, fun _ => rfl⟩
  directs sender user message s := nofun
  channels channel := ⟨_, fun _ _ _ _ _ => rfl⟩

set_option maxRecDepth 4000 in
private theorem createdIssue_read :
    Json.read? (createdIssue bugMembers).body = some bugDocument := by
  -- Documents cannot be decided equal, so both sides are evaluated.
  with_unfolding_all rfl

set_option maxRecDepth 4000 in
private theorem createdIssue_readBare :
    Json.read? (createdIssue "").body = some bugDocument.withoutIssueFields := by
  with_unfolding_all rfl

private theorem createdIssue_parsed :
    ∃ e, Event.parse (createdIssue bugMembers).body = .ok (some e) ∧ e.kind = .issueCreated ∧
      e.issue.fields.isComplete = true ∧ e.actingAccount = some ⟨"ann"⟩ := by
  have about : (Event.ofBody? (createdIssue bugMembers).body).any (fun e =>
      e.kind = .issueCreated ∧ e.issue.fields.isComplete = true ∧
        e.actingAccount = some ⟨"ann"⟩) = true := by decide +kernel
  obtain ⟨e, found, about⟩ := (Option.any_eq_true _ _).mp about
  exact ⟨e, Event.ofBody?_eq_some_iff.mp found, of_decide_eq_true about⟩

/-- A new bug is posted to the channel that asks for such bugs, whether its webhook says that
it is one or not. -/
theorem created_bug_posted :
    seen Call.channelPost? (((createdIssue bugMembers).relay ⟨"bot"⟩).trace .describing ()) =
        [(⟨"town"⟩, "bugs", "ann created [P-1](https://t/browse/P-1): Slow")] ∧
      seen Call.channelPost? (((createdIssue "").relay ⟨"bot"⟩).trace .describing ()) =
        [(⟨"town"⟩, "bugs", "ann created [P-1](https://t/browse/P-1): Slow")] ∧
      (((createdIssue bugMembers).relay ⟨"bot"⟩).exec .describing ()).1.map Outcome.undirected =
        (((createdIssue "").relay ⟨"bot"⟩).exec .describing ()).1.map Outcome.undirected := by
  obtain ⟨e, parsed, kind, complete, acting⟩ := createdIssue_parsed
  let session : Session :=
    ⟨⟨⟨"tracker"⟩, "https://t", .cloud⟩, ⟨⟨"ann"⟩, "ann", .bearer "token", .disabled⟩⟩
  have opened : ∀ x ∈ session.opening ⟨"ann"⟩ ⟨"ann"⟩, ∀ s,
      (Collaborators.describing.answer x.call s).1 = x.answer := by
    intro x member s
    simp only [Session.opening, List.mem_cons, List.not_mem_nil, or_false] at member
    rcases member with rfl | rfl | rfl <;> rfl
  have served : e.Served .describing ⟨"tracker"⟩ session bugFields :=
    ⟨fun _ => rfl, ⟨⟨"ann"⟩, ⟨"ann"⟩, acting, opened⟩, fun _ => rfl⟩
  have plain : bugDocument.plain = true := rfl
  have about : bugDocument.member? "issue" = some bugIssue := rfl
  have given : bugIssue.member? "fields" = some bugFields := rfl
  obtain ⟨posts, results⟩ := same_posts describing_reliable plain about given createdIssue_read
    createdIssue_readBare parsed (by simp [kind]) complete served ⟨"bot"⟩ () ()
  have posted : seen Call.channelPost?
      (((createdIssue bugMembers).relay ⟨"bot"⟩).trace .describing ()) =
        [(⟨"town"⟩, "bugs", "ann created [P-1](https://t/browse/P-1): Slow")] := by
    decide +kernel
  exact ⟨posted, posts.symm.trans posted, results⟩

end Herald
