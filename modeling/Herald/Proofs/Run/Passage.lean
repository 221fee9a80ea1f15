import Herald.Proofs.Run.Reading
import Herald.Proofs.Run.Series
import Herald.Proofs.Subscription.Channels

/-!
# How far a relay gets

A relay tells the people that its event concerns, reads what the event needs, asks for
the subscriptions and posts to channels. Only one that was answered the subscriptions has
posted to a channel or been delivered, and that one went through all the stages before:
its `Passage`.

Main statements: which calls a fan-out makes (`fanOut_path`), and that every other way
through a relay ends without a post to a channel (`relay_path`).
-/

namespace Herald

open Run

variable {trace : List Exchange}

/-- The exchange neither posts to a channel nor brings subscriptions. -/
def Exchange.Preliminary (x : Exchange) : Prop :=
  x.call.channel? = none ∧ ∀ id subscriptions, x ≠ ⟨.loadSubscriptions id, some (.ok subscriptions)⟩

namespace Exchange.Preliminary

variable {x : Exchange}

theorem of_isTelling (telling : x.call.isTelling = true) : x.Preliminary := by
  refine ⟨Call.channel?_of_isTelling telling, fun id subscriptions same => ?_⟩
  rw [same] at telling
  cases telling

theorem of_isReading (reading : x.call.isReading = true) : x.Preliminary := by
  refine ⟨Call.channel?_of_isReading reading, fun id subscriptions same => ?_⟩
  rw [same] at reading
  cases reading

end Exchange.Preliminary

namespace Event

/-- The call that posts an event to the channel of a subscription. -/
abbrev postCall (sender : UserId) (tracker : Instance) (e : Event) (s : Subscription) : Call :=
  .postToChannel sender e tracker s.channel s.name

/-- The calls that post an event at a visibility: one for each channel that a
subscription brings the event to. -/
def channelCalls (sender : UserId) (tracker : Instance) (e : Event) (visibility : String)
    (subscriptions : List Subscription) : List Call :=
  (Subscription.firstOfChannel [] (subscriptions.filter (·.accepts e visibility))).map
    (e.postCall sender tracker)

variable {sender : UserId} {id : InstanceId} {tracker : Instance} {e : Event}
  {visibility : String} {subscriptions : List Subscription}

/-- Every post is made for a subscription that accepts the event. -/
theorem mem_channelCalls {call : Call}
    (member : call ∈ e.channelCalls sender tracker visibility subscriptions) :
    ∃ s ∈ subscriptions, s.accepts e visibility = true ∧ call = e.postCall sender tracker s := by
  obtain ⟨s, kept, rfl⟩ := List.mem_map.mp member
  obtain ⟨stored, accepted⟩ := List.mem_filter.mp (Subscription.mem_of_mem_firstOfChannel kept)
  exact ⟨s, stored, accepted, rfl⟩

/-- Every subscription that accepts the event has its channel posted to. -/
theorem exists_mem_channelCalls {s : Subscription} (stored : s ∈ subscriptions)
    (accepted : s.accepts e visibility = true) :
    ∃ call ∈ e.channelCalls sender tracker visibility subscriptions,
      call.channel? = some s.channel := by
  have kept : s ∈ subscriptions.filter (·.accepts e visibility) :=
    List.mem_filter.mpr ⟨stored, accepted⟩
  obtain ⟨first, kept, channel⟩ :=
    Subscription.exists_mem_firstOfChannel kept (List.not_mem_nil (a := s.channel))
  exact ⟨_, List.mem_map_of_mem kept, congrArg some channel⟩

/-- A fan-out posts for the first subscription of each channel in turn, up to a post that takes
the run down. -/
theorem fanOut_path {result : Option ChannelReport}
    (path : (e.fanOut sender tracker subscriptions).Path trace result) :
    trace.map Exchange.call <+:
        (Subscription.firstOfChannel [] subscriptions).map (e.postCall sender tracker) ∧
      (result.isSome = true → trace.map Exchange.call =
        (Subscription.firstOfChannel [] subscriptions).map (e.postCall sender tracker)) := by
  have each : ∀ s part post?, (e.postTo sender tracker s).Path part post? →
      (∀ x ∈ part, True) → part.filterMap (some ∘ Exchange.call) <+: [e.postCall sender tracker s] ∧
        (post?.isSome = true →
          part.filterMap (some ∘ Exchange.call) = [e.postCall sender tracker s]) := by
    intro s part post? path _
    obtain ⟨answer, called, -⟩ := path_bind_done.mp path
    rw [path_call.mp called]
    exact ⟨List.prefix_rfl, fun _ => rfl⟩
  obtain ⟨posts, made, rfl⟩ := path_bind_done.mp path
  have shown := path_mapM_shown each made fun _ _ => trivial
  rwa [List.filterMap_eq_map, ← List.map_eq_flatMap, ← Option.isSome_map] at shown

/-- A fan-out only posts to channels. -/
theorem fanOut_only {p : Call → Prop}
    (posts : ∀ channel name, p (.postToChannel sender e tracker channel name)) :
    (e.fanOut sender tracker subscriptions).Only p := by
  have each : ∀ s, (e.postTo sender tracker s).Only p :=
    fun s => ⟨posts s.channel s.name, fun _ => trivial⟩
  exact Only.bind (Only.mapM each) fun _ => trivial

/-- Besides asking for the subscriptions, publishing only posts to channels. -/
theorem publish_only {p : Call → Prop} {direct : DirectReport}
    (asks : p (.loadSubscriptions tracker.id))
    (posts : ∀ channel name, p (.postToChannel sender e tracker channel name)) :
    (e.publish sender tracker visibility direct).Only p := by
  refine ⟨asks, fun (answer : Except StoreError (List Subscription)) => ?_⟩
  cases answer with
  | error err => exact trivial
  | ok subscriptions => exact (fanOut_only posts).bind fun _ => trivial

/-- Those who are told are looked up at one tracker, and posted to directly. -/
theorem tellAll_only {p : Call → Prop}
    (users : ∀ n ∈ e.notifications, p (.loadUser tracker.id n.recipient.account))
    (connections : ∀ user, p (.loadConnection tracker.id user))
    (directs : ∀ user message, p (.postDirect sender user message)) :
    (e.tellAll sender tracker).Only p := by
  have each : ∀ n ∈ e.notifications, (e.tell sender tracker n).Only p := by
    intro n member
    unfold tell
    refine ⟨users n member, fun user? => ?_⟩
    cases user? with
    | error err => exact trivial
    | ok user =>
      refine ⟨connections user, fun connection? => ?_⟩
      cases connection? with
      | error err => exact trivial
      | ok connection =>
        change Only p (if connection.settings.allows n.role then _ else _)
        split
        · exact ⟨directs _ _, fun _ => trivial⟩
        · exact trivial
  exact Only.bind (Only.mapM_mem each) fun _ => trivial

theorem tellAll_tells (e : Event) : (e.tellAll sender tracker).Only (·.isTelling = true) :=
  tellAll_only (fun _ _ => rfl) (fun _ => rfl) fun _ _ => rfl

/-- A way through the relay of an event on which the subscriptions were answered, stage
by stage. -/
structure Passage (sender : UserId) (id : InstanceId) (e : Event) (trace : List Exchange)
    (result : Option Outcome) where
  tracker : Instance
  told : List Exchange
  direct : DirectReport
  reading : List Exchange
  ready : Event
  visibility : String
  subscriptions : List Subscription
  posts : List Exchange
  telling : ∀ x ∈ told, x.call.isTelling = true
  readied : (e.readied tracker).run.Path reading (some (.ok (ready, visibility)))
  /-- The run may be taken down by any of the posts. -/
  posted : posts.map Exchange.call <+:
    ready.channelCalls sender tracker visibility subscriptions
  stages : trace = ⟨.loadInstance id, some (.ok tracker)⟩ :: (told ++ (reading ++
    ⟨.loadSubscriptions tracker.id, some (.ok subscriptions)⟩ :: posts))
  ended : ∀ outcome, result = some outcome →
    posts.map Exchange.call = ready.channelCalls sender tracker visibility subscriptions ∧
      ∃ channels, outcome = .delivered ⟨direct, channels, visibility⟩

namespace Passage

variable {result : Option Outcome}

/-- What is asked and answered before the posts. -/
def preparation (p : e.Passage sender id trace result) : List Exchange :=
  ⟨.loadInstance id, some (.ok p.tracker)⟩ :: (p.told ++ (p.reading ++
    [⟨.loadSubscriptions p.tracker.id, some (.ok p.subscriptions)⟩]))

theorem trace_eq (p : e.Passage sender id trace result) : trace = p.preparation ++ p.posts := by
  simp [p.stages, preparation]

theorem preparation_silent (p : e.Passage sender id trace result) :
    ∀ x ∈ p.preparation, x.call.channel? = none := by
  intro x member
  unfold preparation at member
  simp only [List.mem_cons, List.mem_append, List.not_mem_nil, or_false] at member
  rcases member with rfl | told | reading | rfl
  · rfl
  · exact Call.channel?_of_isTelling (p.telling x told)
  · exact Call.channel?_of_isReading ((e.readied_reads p.tracker).path p.readied x reading)
  · rfl

theorem call_mem_channelCalls (p : e.Passage sender id trace result) {x : Exchange}
    (member : x ∈ p.posts) :
    x.call ∈ p.ready.channelCalls sender p.tracker p.visibility p.subscriptions :=
  p.posted.subset (List.mem_map_of_mem member)

/-- The subscriptions are asked for once. -/
theorem subscriptions_of_mem (p : e.Passage sender id trace result) {other : InstanceId}
    {found : List Subscription}
    (member : (⟨.loadSubscriptions other, some (.ok found)⟩ : Exchange) ∈ trace) :
    found = p.subscriptions := by
  rw [p.trace_eq, List.mem_append] at member
  unfold preparation at member
  simp only [List.mem_cons, List.mem_append, List.not_mem_nil, or_false] at member
  rcases member with (impossible | told | reading | same) | posted
  · cases impossible
  · cases p.telling _ told
  · cases (e.readied_reads p.tracker).path p.readied _ reading
  · cases same
    rfl
  · obtain ⟨s, -, -, impossible⟩ := mem_channelCalls (p.call_mem_channelCalls posted)
    cases impossible

/-- Before a post to a channel, everything was asked that is asked before the posts. -/
theorem before_post (p : e.Passage sender id trace result) {before after : List Exchange}
    {post : Exchange} (split : trace = before ++ post :: after)
    (posts : post.call.channel? ≠ none) : p.preparation <+: before ∧ post ∈ p.posts := by
  rw [p.trace_eq] at split
  rcases List.append_eq_append_iff.mp split with ⟨earlier, same, rest⟩ | ⟨later, same, rest⟩
  · exact ⟨⟨earlier, same.symm⟩, rest ▸ List.mem_append_right earlier List.mem_cons_self⟩
  · cases later with
    | nil =>
      rw [List.append_nil] at same
      rw [List.nil_append] at rest
      exact ⟨same ▸ List.prefix_rfl, rest ▸ List.mem_cons_self⟩
    | cons x more =>
      obtain ⟨rfl, -⟩ := List.cons.inj rest
      exact absurd (p.preparation_silent post (by simp [same])) posts

end Passage

/-- No subscriptions were had, so nothing was posted to a channel, and nothing came of
it that could be reported. -/
def Fruitless (trace : List Exchange) (result : Option Outcome) : Prop :=
  (∀ x ∈ trace, x.Preliminary) ∧ ∀ report, result ≠ some (.delivered report)

namespace Fruitless

variable {first rest : List Exchange} {result : Option Outcome}

theorem append (early : ∀ x ∈ first, x.Preliminary) (fruitless : Fruitless rest result) :
    Fruitless (first ++ rest) result :=
  ⟨List.forall_mem_append.mpr ⟨early, fruitless.1⟩, fruitless.2⟩

theorem cons {x : Exchange} (early : x.Preliminary) (fruitless : Fruitless rest result) :
    Fruitless (x :: rest) result :=
  ⟨List.forall_mem_cons.mpr ⟨early, fruitless.1⟩, fruitless.2⟩

theorem nil (undelivered : ∀ report, result ≠ some (.delivered report)) : Fruitless [] result :=
  ⟨by simp, undelivered⟩

end Fruitless

theorem publish_path {direct : DirectReport} {result : Option Outcome}
    (path : (e.publish sender tracker visibility direct).Path trace result) :
    (∃ subscriptions posts,
      trace = ⟨.loadSubscriptions tracker.id, some (.ok subscriptions)⟩ :: posts ∧
      posts.map Exchange.call <+: e.channelCalls sender tracker visibility subscriptions ∧
      ∀ outcome, result = some outcome →
        posts.map Exchange.call = e.channelCalls sender tracker visibility subscriptions ∧
          ∃ channels, outcome = .delivered ⟨direct, channels, visibility⟩) ∨
    Fruitless trace result := by
  unfold publish at path
  rw [call_bind] at path
  rcases path_ask.mp path with ⟨answer, rest, rfl, next⟩ | ⟨rfl, rfl⟩
  · cases answer with
    | ok subscriptions =>
      obtain ⟨channels, fanned, rfl⟩ := path_bind_done.mp next
      obtain ⟨started, complete⟩ := fanOut_path fanned
      refine .inl ⟨subscriptions, rest, rfl, started, fun outcome same => ?_⟩
      obtain ⟨report, rfl, rfl⟩ := Option.map_eq_some_iff.mp same
      exact ⟨complete rfl, report, rfl⟩
    | error err =>
      obtain ⟨rfl, rfl⟩ := path_done.mp next
      exact .inr (.cons ⟨rfl, by simp⟩ (.nil (by simp)))
  · exact .inr (.cons ⟨rfl, by simp⟩ (.nil (by simp)))

/-- A halt is no delivery. -/
theorem halt_undelivered (halt : Halt) (report : Report) :
    some halt.outcome ≠ some (.delivered report) := by
  cases halt <;> simp [Halt.outcome]

theorem relayFrom_path {result : Option Outcome}
    (path : (e.relayFrom sender tracker).Path trace result) :
    Nonempty (e.Passage sender id (⟨.loadInstance id, some (.ok tracker)⟩ :: trace) result) ∨
      Fruitless trace result := by
  unfold relayFrom at path
  have telling : ∀ {told direct}, (e.tellAll sender tracker).Path told direct →
      ∀ x ∈ told, x.call.isTelling = true := fun all => (tellAll_tells e).path all
  have reads : ∀ {reading r}, (e.readied tracker).run.Path reading r →
      ∀ x ∈ reading, x.Preliminary := fun read x member =>
    .of_isReading ((e.readied_reads tracker).path read x member)
  rcases path_bind.mp path with ⟨direct, told, others, all, later, rfl⟩ | ⟨down, rfl⟩
  · have early : ∀ x ∈ told, x.Preliminary := fun x member => .of_isTelling (telling all x member)
    rcases path_bind.mp later with ⟨halt | ready, reading, rest, read, last, rfl⟩ | ⟨down, rfl⟩
    · obtain ⟨rfl, rfl⟩ := path_done.mp last
      exact .inr (.append early (.append (reads read) (.nil (halt_undelivered _))))
    · rcases publish_path last with ⟨subscriptions, posts, rfl, posted, ended⟩ | fruitless
      · exact .inl ⟨tracker, told, direct, reading, ready.1, ready.2, subscriptions, posts,
          telling all, read, posted, rfl, ended⟩
      · exact .inr (.append early (.append (reads read) fruitless))
    · exact .inr (.append early ⟨reads down, by simp⟩)
  · exact .inr ⟨fun x member => .of_isTelling (telling down x member), by simp⟩

/-- A relay is answered the subscriptions at the end of a passage, or it posts to no
channel and is not delivered. -/
theorem relay_path {result : Option Outcome} (path : (e.relay sender id).Path trace result) :
    Nonempty (e.Passage sender id trace result) ∨ Fruitless trace result := by
  unfold relay at path
  rw [call_bind] at path
  rcases path_ask.mp path with ⟨answer, rest, rfl, next⟩ | ⟨rfl, rfl⟩
  · cases answer with
    | ok tracker =>
      rcases relayFrom_path next with passage | fruitless
      · exact .inl passage
      · exact .inr (.cons ⟨rfl, by simp⟩ fruitless)
    | error err =>
      dsimp only at next
      split at next <;>
      · obtain ⟨rfl, rfl⟩ := path_done.mp next
        exact .inr (.cons ⟨rfl, by simp⟩ (.nil (by simp)))
  · exact .inr (.cons ⟨rfl, by simp⟩ (.nil (by simp)))

end Event

namespace Webhook

variable {w : Webhook} {sender : UserId}

theorem relay_event {e : Event} (parsed : Event.parse w.body = .ok (some e)) (sender : UserId) :
    w.relay sender = e.relay sender w.instanceId := by
  unfold Webhook.relay
  rw [parsed]

/-- Only for an event is anything asked. -/
theorem exists_event_of_mem_trace {σ : Type} {c : Collaborators σ} {s : σ} {x : Exchange}
    (member : x ∈ (w.relay sender).trace c s) : ∃ e, Event.parse w.body = .ok (some e) := by
  cases parsed : Event.parse w.body with
  | error err =>
    simp only [relay, parsed] at member
    cases member
  | ok e? =>
    cases e? with
    | none =>
      simp only [relay, parsed] at member
      cases member
    | some e => exact ⟨e, rfl⟩

end Webhook

end Herald
