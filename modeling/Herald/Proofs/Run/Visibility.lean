import Herald.Proofs.Event.Shape
import Herald.Proofs.Run.Passage
import Herald.Proofs.Subscription.Filters

/-!
# Who gets to see a comment

A comment may be restricted to some of the people who use the tracker, and a channel may
hold others. So before a comment's event is posted to any channel, the relay has read the
comment as its author: the `Clearance` of the post, which says what was asked and answered
up to then.

Main statements: every post about a comment has its clearance before it and goes to a
subscription that the clearance admits (`relay_comment_cleared`), and exactly when a
restriction that cannot be read lets a comment into a channel that never asked for it
(`unreadable_restriction_exposes_iff`).
-/

namespace Herald

open Run

namespace Session

/-- The restriction that a comment carries, in the form in which the tracker answers
it: the text at `visibility.value`, empty where there is no such text. -/
inductive Restriction (comment : Json) : String → Prop
  | value {visibility : Json} {restriction : String}
      (present : comment.member? "visibility" = some visibility)
      (text : visibility.member? "value" = some (.string restriction)) :
      Restriction comment restriction
  | absent (none : ∀ visibility restriction, comment.member? "visibility" = some visibility →
      visibility.member? "value" ≠ some (.string restriction)) : Restriction comment ""

/-- The relay reads exactly the texts at `visibility.value`. -/
theorem read_eq_some_iff {comment : Json} {text : String} :
    ((comment.member? "visibility").bind (·.member? "value")).bind Json.string? = some text ↔
      ∃ visibility, comment.member? "visibility" = some visibility ∧
        visibility.member? "value" = some (.string text) := by
  have string : ∀ json : Json, json.string? = some text ↔ json = .string text := by
    intro json
    cases json <;> simp [Json.string?]
  simp only [Option.bind_eq_some_iff, string]
  constructor
  · intro given
    obtain ⟨_, ⟨visibility, present, value⟩, rfl⟩ := given
    exact ⟨visibility, present, value⟩
  · intro given
    obtain ⟨visibility, present, value⟩ := given
    exact ⟨_, ⟨visibility, present, value⟩, rfl⟩

theorem restriction_eq_iff {comment : Json} {visibility : String} :
    restriction comment = visibility ↔ Restriction comment visibility := by
  unfold restriction
  cases read : ((comment.member? "visibility").bind (·.member? "value")).bind Json.string? with
  | some text =>
    obtain ⟨found, present, value⟩ := read_eq_some_iff.mp read
    rw [Option.getD_some]
    constructor
    · intro same
      subst same
      exact .value present value
    · intro given
      rcases given with ⟨other, same⟩ | absent
      · cases present.symm.trans other
        cases value.symm.trans same
        rfl
      · exact absurd value (absent found text present)
  | none =>
    have absent : ∀ found text, comment.member? "visibility" = some found →
        found.member? "value" ≠ some (.string text) := by
      intro found text present value
      rw [read_eq_some_iff.mpr ⟨found, present, value⟩] at read
      cases read
    rw [Option.getD_none]
    constructor
    · intro same
      subst same
      exact .absent absent
    · intro given
      rcases given with ⟨present, value⟩ | -
      · exact absurd value (absent _ _ present)
      · rfl

/-- A comment that says something about its visibility, but nothing that can be read
as a restriction. -/
def Unreadable (comment : Json) : Prop :=
  ∃ visibility, comment.member? "visibility" = some visibility ∧ visibility ≠ .null ∧
    ∀ text, visibility.member? "value" = some (.string text) → text = ""

/-- What cannot be read is taken for no restriction at all. -/
theorem Restriction.of_unreadable {comment : Json} {visibility : String}
    (read : Restriction comment visibility) (unreadable : Unreadable comment) :
    visibility = "" := by
  obtain ⟨found, given, -, empty⟩ := unreadable
  cases read with
  | value present text =>
    cases given.symm.trans present
    exact empty _ text
  | absent none => rfl

end Session

namespace Event

/-- What clears a comment's event for channels: a session of the comment's author, the
completed event, the comment as it was read, and the subscriptions to the instance. -/
structure Clearance (e : Event) (comment : Comment) where
  session : Session
  user : UserId
  completing : List Exchange
  ready : Event
  body : Json
  visibility : String
  subscriptions : List Subscription
  completed : Completion session e completing ready
  restricted : Session.Restriction body visibility

namespace Clearance

variable {e : Event} {comment : Comment}

/-- How the clearance was read, in order. The session acts through the connection that the
store answers for the author of the comment. -/
def reading (c : e.Clearance comment) : List Exchange :=
  c.session.opening comment.author.account c.user ++
    (c.completing ++ [⟨c.session.commentCall comment, some (Except.ok c.body)⟩])

/-- How the clearance was had for a webhook of an instance, in order. -/
def exchanges (c : e.Clearance comment) (id : InstanceId) : List Exchange :=
  ⟨.loadInstance id, some (.ok c.session.tracker)⟩ :: (c.reading ++
    [⟨.loadSubscriptions c.session.tracker.id, some (.ok c.subscriptions)⟩])

/-- The post brings the event to a subscription that accepts it at the restriction of the
comment. Of a restricted comment the subscription has an active filter on the visibility,
and all of these accept the restriction. -/
def Admits (c : e.Clearance comment) (sender : UserId) (post : Call) : Prop :=
  ∃ s ∈ c.subscriptions, post = c.ready.postCall sender c.session.tracker s ∧
    s.accepts c.ready c.visibility = true ∧
    (c.visibility ≠ "" → s.asksVisibility = true ∧
      ∀ f ∈ s.filters.fields, f.asksVisibility = true → f.accepts [c.visibility] = true)

theorem read_mem (c : e.Clearance comment) :
    ⟨c.session.commentCall comment, some (Except.ok c.body)⟩ ∈ c.reading := by
  simp [reading]

/-- The comment itself is read once. -/
theorem read_once (c : e.Clearance comment) {x : Exchange} {session : Session}
    (member : x ∈ c.reading) (read : x.call = session.commentCall comment) :
    x = ⟨c.session.commentCall comment, some (Except.ok c.body)⟩ := by
  have completing : ∀ y ∈ c.completing, y.call ≠ session.commentCall comment := by
    intro y inside
    rcases c with ⟨_, _, _, _, _, _, _, _ | _, _⟩
    · cases inside
    · rw [List.mem_singleton.mp inside]
      simp
  unfold reading Session.opening at member
  simp only [List.mem_append, List.mem_cons, List.not_mem_nil, or_false] at member
  rcases member with (rfl | rfl | rfl) | inside | rfl
  · cases read
  · cases read
  · cases read
  · exact absurd read (completing x inside)
  · rfl

end Clearance

namespace Passage

variable {sender : UserId} {id : InstanceId} {e : Event} {comment : Comment}
  {trace : List Exchange} {result : Option Outcome}

/-- The clearance is the one that was had on the passage. -/
structure ClearedBy (p : e.Passage sender id trace result) (c : e.Clearance comment) : Prop where
  tracker : c.session.tracker = p.tracker
  reading : c.reading = p.reading
  ready : c.ready = p.ready
  visibility : c.visibility = p.visibility
  subscriptions : c.subscriptions = p.subscriptions

/-- A comment's event only gets to the subscriptions with a clearance. -/
theorem exists_clearedBy (p : e.Passage sender id trace result) (about : e.isCommentEvent = true)
    (present : e.comment = some comment) : ∃ c : e.Clearance comment, p.ClearedBy c := by
  obtain ⟨session, user, completing, body, tracked, completed, reading, read⟩ :=
    (readied_path_comment about present).mp p.readied
  exact ⟨⟨session, user, completing, p.ready, body, p.visibility, p.subscriptions, completed,
    Session.restriction_eq_iff.mp read.symm⟩, tracked, reading.symm, rfl, rfl, rfl⟩

variable {p : e.Passage sender id trace result} {c : e.Clearance comment}

theorem ClearedBy.sublist (cleared : p.ClearedBy c) : (c.exchanges id).Sublist p.preparation := by
  unfold preparation Clearance.exchanges
  rw [cleared.tracker, cleared.reading, cleared.subscriptions]
  exact (List.sublist_append_right p.told _).cons_cons _

theorem ClearedBy.inside (cleared : p.ClearedBy c) : ∀ x ∈ c.exchanges id, x ∈ trace := by
  intro x member
  rw [p.trace_eq]
  exact List.mem_append_left p.posts (cleared.sublist.subset member)

/-- Every post on the passage is admitted. -/
theorem ClearedBy.admits (cleared : p.ClearedBy c) {post : Exchange} (posted : post ∈ p.posts) :
    c.Admits sender post.call := by
  obtain ⟨s, stored, accepted, same⟩ := mem_channelCalls (p.call_mem_channelCalls posted)
  rw [← cleared.ready, ← cleared.visibility] at accepted
  refine ⟨s, cleared.subscriptions ▸ stored, by rw [same, cleared.ready, cleared.tracker],
    accepted, fun restricted => ?_⟩
  exact Subscription.accepts_restricted restricted accepted

/-- Where the comment was read, its clearance has the answer. -/
theorem ClearedBy.read_of_mem (cleared : p.ClearedBy c) {session : Session}
    {answer : Option (Except ApiError Json)}
    (member : (⟨session.commentCall comment, answer⟩ : Exchange) ∈ trace) :
    session = c.session ∧ answer = some (.ok c.body) := by
  rw [p.trace_eq, List.mem_append] at member
  unfold preparation at member
  simp only [List.mem_cons, List.mem_append, List.not_mem_nil, or_false] at member
  rcases member with (impossible | told | reading | impossible) | posted
  · cases impossible
  · cases p.telling _ told
  · have read := c.read_once (cleared.reading ▸ reading) rfl
    cases read
    exact ⟨rfl, rfl⟩
  · cases impossible
  · obtain ⟨s, -, -, impossible⟩ := mem_channelCalls (p.call_mem_channelCalls posted)
    cases impossible

end Passage

end Event

/-- An event with a comment flag has the comment. -/
theorem Event.exists_comment {body : Bytes} {e : Event} (parsed : Event.parse body = .ok (some e))
    (about : e.isCommentEvent = true) : ∃ comment, e.comment = some comment := by
  obtain ⟨flagged, present⟩ := parse_aboutComment parsed
  rw [← flagged, about] at present
  exact Option.isSome_iff_exists.mp present

variable {σ : Type}

/-- Whatever the store, the tracker and the chat do, a comment's event is posted to a
channel only after its clearance and as that clearance admits. A comment that could not be
read is posted nowhere, and the visibility that is reported is always one that was
read. -/
theorem relay_comment_cleared (c : Collaborators σ) (s : σ) (sender : UserId) {w : Webhook}
    {e : Event} (parsed : Event.parse w.body = .ok (some e)) (about : e.isCommentEvent = true) :
    ∃ comment, e.comment = some comment ∧
      (∀ before post after, (w.relay sender).trace c s = before ++ post :: after →
        post.call.channel? ≠ none →
        ∃ clearance : e.Clearance comment,
          (clearance.exchanges w.instanceId).Sublist before ∧
            clearance.Admits sender post.call) ∧
      (∀ (session : Session) answer,
        ⟨session.commentCall comment, answer⟩ ∈ (w.relay sender).trace c s →
        (∀ body, answer ≠ some (Except.ok body)) →
        ∀ x ∈ (w.relay sender).trace c s, x.call.channel? = none) ∧
      (∀ report, ((w.relay sender).exec c s).1 = some (.delivered report) →
        ∃ (session : Session) (body : Json),
          ⟨session.commentCall comment, some (Except.ok body)⟩ ∈ (w.relay sender).trace c s ∧
            Session.Restriction body report.visibility) := by
  obtain ⟨comment, present⟩ := Event.exists_comment parsed about
  have path := path_trace c (w.relay sender) s
  rw [w.relay_event parsed] at path ⊢
  refine ⟨comment, present, ?_⟩
  rcases Event.relay_path path with ⟨⟨p⟩⟩ | ⟨early, undelivered⟩
  · obtain ⟨clearance, cleared⟩ := p.exists_clearedBy about present
    refine ⟨fun before post after split posts => ?_, fun session answer member failed => ?_,
      fun report delivered => ?_⟩
    · obtain ⟨prepared, posted⟩ := p.before_post split posts
      exact ⟨clearance, cleared.sublist.trans prepared.sublist, cleared.admits posted⟩
    · obtain ⟨-, answered⟩ := cleared.read_of_mem member
      exact absurd answered (failed clearance.body)
    · obtain ⟨-, channels, same⟩ := p.ended _ delivered
      cases same
      refine ⟨clearance.session, clearance.body, ?_, cleared.visibility ▸ clearance.restricted⟩
      exact cleared.inside _ (List.mem_cons_of_mem _ (List.mem_append_left _ clearance.read_mem))
  · refine ⟨fun before post after split posts => ?_, fun _ _ _ _ x member => (early x member).1,
      fun report delivered => absurd delivered (undelivered report)⟩
    exact absurd (early post (by simp [split])).1 posts

/-- A webhook about a new comment of the account "ann". -/
def commentWebhook : Webhook :=
  ⟨⟨"tracker"⟩, Text.Utf8.encode (
    "\x7b\"webhookEvent\":\"comment_created\",\"issue\":\x7b\"key\":\"P-1\"\x7d," ++
    "\"comment\":\x7b\"id\":\"7\",\"self\":\"https://t/c/7\",\"body\":\"hi\"," ++
    "\"author\":\x7b\"accountId\":\"ann\"\x7d\x7d\x7d")⟩

/-- Everybody is connected, and every comment and list of subscriptions is the same. -/
def Collaborators.constant (comment : Json) (subscriptions : List Subscription) :
    Collaborators Unit where
  answer
    | .loadInstance id, s => (some (.ok ⟨id, "https://t", .cloud⟩), s)
    | .loadUser _ account, s => (some (.ok ⟨account.text⟩), s)
    | .loadConnection _ user, s =>
      (some (.ok ⟨⟨user.text⟩, user.text, .bearer "token", .disabled⟩), s)
    | .loadSubscriptions _, s => (some (.ok subscriptions), s)
    | .openSession _, s => (some (.ok ()), s)
    | .fetch _ _ [], s => (some (.ok comment), s)
    | .fetch .., s => (some (.ok (.object [("fields", .object [])])), s)
    | .postDirect .., s => (some (.ok ⟨"direct"⟩), s)
    | .postToChannel .., s => (some (.ok ⟨"post"⟩), s)

/-- A comment with the given value in its visibility. -/
def restrictedTo (value : Json) : Json :=
  .object [("visibility", .object [("type", .string "role"), ("value", value)])]

/-- A subscription to new comments under field filters. -/
def subscribeComments (channel : String) (fields : List FieldFilter) : Subscription :=
  ⟨channel, ⟨channel⟩, "comments", ⟨"tracker"⟩, ⟨.ofList [.createdComment], .empty, .empty, fields⟩⟩

/-- One channel for everybody and one for developers. -/
def townAndDevelopers : List Subscription :=
  [subscribeComments "town" [],
    subscribeComments "developers" [⟨visibilityKey, .includeAny, .ofList ["Developers"]⟩]]

private theorem commentWebhook_parsed :
    ∃ e, Event.parse commentWebhook.body = .ok (some e) ∧ e.isCommentEvent = true := by
  have about : (Event.ofBody? commentWebhook.body).any (·.isCommentEvent) = true := by
    decide +kernel
  obtain ⟨e, found, about⟩ := (Option.any_eq_true _ _).mp about
  exact ⟨e, Event.ofBody?_eq_some_iff.mp found, about⟩

/-- A comment for developers is posted to their channel, and cleared before. -/
theorem developers_comment_cleared :
    ∃ e comment, Event.parse commentWebhook.body = .ok (some e) ∧ e.isCommentEvent = true ∧
      ∃ before post after,
        (commentWebhook.relay ⟨"bot"⟩).trace
          (.constant (restrictedTo (.string "Developers")) townAndDevelopers) () =
            before ++ post :: after ∧
        post.call.channel? = some ⟨"developers"⟩ ∧
        ∃ clearance : e.Clearance comment,
          (clearance.exchanges commentWebhook.instanceId).Sublist before ∧
            clearance.Admits ⟨"bot"⟩ post.call := by
  obtain ⟨e, parsed, about⟩ := commentWebhook_parsed
  obtain ⟨comment, -, cleared, -, -⟩ := relay_comment_cleared
    (.constant (restrictedTo (.string "Developers")) townAndDevelopers) () ⟨"bot"⟩ parsed about
  have posted : ((commentWebhook.relay ⟨"bot"⟩).trace
      (.constant (restrictedTo (.string "Developers")) townAndDevelopers) ()).any
        (·.call.channel? == some ⟨"developers"⟩) = true := by decide +kernel
  obtain ⟨post, member, channel⟩ := List.any_eq_true.mp posted
  rw [beq_iff_eq] at channel
  obtain ⟨before, after, split⟩ := List.append_of_mem member
  exact ⟨e, comment, parsed, about, before, post, after, split, channel,
    cleared before post after split (by simp [channel])⟩

/-- No subscription of the channel has an active filter on the visibility of comments. -/
def Unasked (subscriptions : List Subscription) (channel : ChannelId) : Prop :=
  ∀ s ∈ subscriptions, s.channel = channel → s.asksVisibility = false

/-- A channel is posted to that never asked for restricted comments. -/
def Exposes (trace : List Exchange) (subscriptions : List Subscription) : Prop :=
  ∃ x ∈ trace, ∃ channel, x.call.channel? = some channel ∧ Unasked subscriptions channel

/-- A restriction that cannot be read is taken for none. The comment then gets into a
channel that never asked for restricted comments exactly where a subscription of such a
channel accepts the event as one that everybody may see, unless a call takes the run down
before. -/
theorem unreadable_restriction_exposes_iff (c : Collaborators σ) (s : σ) (sender : UserId)
    {w : Webhook} {e : Event} {comment : Comment} {session : Session} {body : Json}
    {id : InstanceId} {subscriptions : List Subscription}
    (parsed : Event.parse w.body = .ok (some e)) (about : e.isCommentEvent = true)
    (present : e.comment = some comment)
    (read : ⟨session.commentCall comment, some (Except.ok body)⟩ ∈ (w.relay sender).trace c s)
    (unreadable : Session.Unreadable body)
    (stored : ⟨.loadSubscriptions id, some (.ok subscriptions)⟩ ∈ (w.relay sender).trace c s) :
    ∃ clearance : e.Clearance comment,
      clearance.session = session ∧ clearance.body = body ∧
      clearance.subscriptions = subscriptions ∧
      (clearance.exchanges w.instanceId).Sublist ((w.relay sender).trace c s) ∧
      (Exposes ((w.relay sender).trace c s) subscriptions →
        ∃ s ∈ subscriptions, s.accepts clearance.ready "" = true ∧
          Unasked subscriptions s.channel) ∧
      (((w.relay sender).exec c s).1.isSome = true →
        (∃ s ∈ subscriptions, s.accepts clearance.ready "" = true ∧
          Unasked subscriptions s.channel) →
        Exposes ((w.relay sender).trace c s) subscriptions) := by
  have path := path_trace c (w.relay sender) s
  rw [w.relay_event parsed] at path read stored ⊢
  rcases Event.relay_path path with ⟨⟨p⟩⟩ | ⟨early, -⟩
  · obtain ⟨clearance, cleared⟩ := p.exists_clearedBy about present
    obtain ⟨rfl, answered⟩ := cleared.read_of_mem read
    cases answered
    have same : clearance.subscriptions = subscriptions := by
      rw [cleared.subscriptions, p.subscriptions_of_mem stored]
    have everybody : clearance.visibility = "" := clearance.restricted.of_unreadable unreadable
    have inside : ∀ x ∈ p.posts, x ∈ (Event.relay sender w.instanceId e).trace c s := by
      intro x posted
      rw [p.trace_eq]
      exact List.mem_append_right p.preparation posted
    refine ⟨clearance, rfl, rfl, same, ?_, ?_, ?_⟩
    · rw [p.trace_eq]
      exact cleared.sublist.trans (List.sublist_append_left ..)
    · intro given
      obtain ⟨x, member, channel, posts, unasked⟩ := given
      obtain ⟨before, after, split⟩ := List.append_of_mem member
      obtain ⟨-, posted⟩ := p.before_post split (by simp [posts])
      obtain ⟨s, stored, call, accepted, -⟩ := cleared.admits posted
      rw [call, Call.channel?, Option.some.injEq] at posts
      rw [same] at stored
      rw [everybody] at accepted
      exact ⟨s, stored, accepted, posts ▸ unasked⟩
    · rintro returned ⟨s, stored, accepted, unasked⟩
      obtain ⟨outcome, returned⟩ := Option.isSome_iff_exists.mp returned
      obtain ⟨all, -⟩ := p.ended outcome returned
      rw [← everybody, cleared.ready, cleared.visibility] at accepted
      rw [← same, cleared.subscriptions] at stored
      have reached : ∃ call ∈ p.ready.channelCalls sender p.tracker p.visibility p.subscriptions,
          call.channel? = some s.channel := Event.exists_mem_channelCalls stored accepted
      obtain ⟨call, made, channel⟩ := reached
      rw [← all] at made
      obtain ⟨x, posted, rfl⟩ := List.mem_map.mp made
      exact ⟨x, inside x posted, s.channel, channel, unasked⟩
  · exact absurd rfl ((early _ stored).2 id subscriptions)

private theorem restrictedTo_null_unreadable : Session.Unreadable (restrictedTo .null) := by
  refine ⟨.object [("type", .string "role"), ("value", .null)], rfl, by simp, fun text read => ?_⟩
  have value : (Json.object [("type", .string "role"), ("value", .null)]).member? "value" =
      some .null := rfl
  rw [value] at read
  cases read

private theorem restrictedTo_null_exposes :
    Exposes ((commentWebhook.relay ⟨"bot"⟩).trace
      (.constant (restrictedTo .null) townAndDevelopers) ()) townAndDevelopers := by
  have posted : ((commentWebhook.relay ⟨"bot"⟩).trace
      (.constant (restrictedTo .null) townAndDevelopers) ()).any
        (·.call.channel? == some ⟨"town"⟩) = true := by decide +kernel
  obtain ⟨x, member, channel⟩ := List.any_eq_true.mp posted
  exact ⟨x, member, ⟨"town"⟩, beq_iff_eq.mp channel, by unfold Unasked; decide⟩

/-- The comment of the webhook is read, and its subscriptions are had. -/
private theorem restrictedTo_null_read :
    ∃ e comment, ∃ (session : Session) (id : InstanceId),
      Event.parse commentWebhook.body = .ok (some e) ∧ e.isCommentEvent = true ∧
      e.comment = some comment ∧
      ⟨session.commentCall comment, some (Except.ok (restrictedTo .null))⟩ ∈
        (commentWebhook.relay ⟨"bot"⟩).trace (.constant (restrictedTo .null) townAndDevelopers) () ∧
      ⟨.loadSubscriptions id, some (.ok townAndDevelopers)⟩ ∈
        (commentWebhook.relay ⟨"bot"⟩).trace
          (.constant (restrictedTo .null) townAndDevelopers) () := by
  obtain ⟨e, parsed, about⟩ := commentWebhook_parsed
  obtain ⟨comment, present⟩ := Event.exists_comment parsed about
  obtain ⟨x, member, channel, posts, -⟩ := restrictedTo_null_exposes
  have path := path_trace (.constant (restrictedTo .null) townAndDevelopers)
    (commentWebhook.relay ⟨"bot"⟩) ()
  rw [commentWebhook.relay_event parsed] at path member ⊢
  rcases Event.relay_path path with ⟨⟨p⟩⟩ | ⟨early, -⟩
  · obtain ⟨clearance, cleared⟩ := p.exists_clearedBy about present
    have read := cleared.inside _
      (List.mem_cons_of_mem _ (List.mem_append_left _ clearance.read_mem))
    have stored := cleared.inside _
      (List.mem_cons_of_mem _ (List.mem_append_right _ List.mem_cons_self))
    obtain ⟨_, comments⟩ := trace_answer read
    obtain ⟨_, subscriptions⟩ := trace_answer stored
    have body : restrictedTo .null = clearance.body := Except.ok.inj (Option.some.inj comments)
    have all : townAndDevelopers = clearance.subscriptions :=
      Except.ok.inj (Option.some.inj subscriptions)
    rw [← body] at read
    rw [← all] at stored
    exact ⟨e, comment, clearance.session, clearance.session.tracker.id, parsed, about, present,
      read, stored⟩
  · exact absurd (early x member).1 (by simp [posts])

/-- A comment that is restricted to null gets into a channel that never asked for
restricted comments. -/
theorem null_restriction_exposed :
    ∃ e comment, ∃ (session : Session) (id : InstanceId),
      Event.parse commentWebhook.body = .ok (some e) ∧ e.isCommentEvent = true ∧
      e.comment = some comment ∧ Session.Unreadable (restrictedTo .null) ∧
      ⟨session.commentCall comment, some (Except.ok (restrictedTo .null))⟩ ∈
        (commentWebhook.relay ⟨"bot"⟩).trace (.constant (restrictedTo .null) townAndDevelopers) () ∧
      ⟨.loadSubscriptions id, some (.ok townAndDevelopers)⟩ ∈
        (commentWebhook.relay ⟨"bot"⟩).trace
          (.constant (restrictedTo .null) townAndDevelopers) () ∧
      Exposes ((commentWebhook.relay ⟨"bot"⟩).trace
        (.constant (restrictedTo .null) townAndDevelopers) ()) townAndDevelopers := by
  obtain ⟨e, comment, session, id, parsed, about, present, read, stored⟩ := restrictedTo_null_read
  exact ⟨e, comment, session, id, parsed, about, present, restrictedTo_null_unreadable, read,
    stored, restrictedTo_null_exposes⟩

/-- The subscription that brings it there. -/
theorem null_restriction_accepted :
    ∃ e comment, ∃ clearance : e.Clearance comment,
      Event.parse commentWebhook.body = .ok (some e) ∧ clearance.body = restrictedTo .null ∧
      ∃ s ∈ townAndDevelopers, s.accepts clearance.ready "" = true ∧
        Unasked townAndDevelopers s.channel := by
  obtain ⟨e, comment, session, id, parsed, about, present, read, stored⟩ := restrictedTo_null_read
  obtain ⟨clearance, -, body, -, -, exposing, -⟩ := unreadable_restriction_exposes_iff
    (.constant (restrictedTo .null) townAndDevelopers) () ⟨"bot"⟩ parsed about present read
    restrictedTo_null_unreadable stored
  exact ⟨e, comment, clearance, parsed, body, exposing restrictedTo_null_exposes⟩

end Herald
