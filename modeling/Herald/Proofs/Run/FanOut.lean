import Herald.Proofs.Run.Visibility

/-!
# One post for each channel

A fan-out posts to every channel of its subscriptions once, in the order in which the channels
first occur and under the name of the first subscription of each. A post that fails is reported
and changes nothing for the posts after it.

Main statement: what a fan-out posts and reports, whatever the posts are answered
(`fanOut_posts_once`).
-/

namespace Herald

open Run

namespace Exchange

/-- The channel that was posted to, with the post. -/
def delivered? : Exchange → Option (ChannelId × PostId)
  | ⟨.postToChannel _ _ _ channel _, some (.ok post)⟩ => some (channel, post)
  | _ => none

/-- The channel that could not be posted to, with the text of the error. -/
def failed? : Exchange → Option (ChannelId × String)
  | ⟨.postToChannel _ _ _ channel _, some (.error e)⟩ => some (channel, e.message)
  | _ => none

end Exchange

/-- A post is reported as delivered or as failed, and as one of them only. -/
theorem ChannelReport.ofPosts_channels (posts : List ChannelPost) :
    ((ofPosts posts).delivered.map (·.1) ++ (ofPosts posts).failed.map (·.1)).Perm
      (posts.map (·.channel)) := by
  unfold ofPosts
  induction posts with
  | nil => exact .nil
  | cons p rest ih =>
    obtain ⟨channel, e | post⟩ := p
    · exact List.perm_middle.trans (ih.cons channel)
    · exact ih.cons channel

namespace Event

variable {sender : UserId} {tracker : Instance} {e : Event} {l : List Subscription}
  {trace : List Exchange}

/-- The posts that bring an event to the channels of subscriptions: one to each channel, under
the name of its first subscription. -/
def duePosts (sender : UserId) (tracker : Instance) (e : Event) (l : List Subscription) :
    List Call :=
  (Subscription.channels l).filterMap fun channel =>
    (Subscription.firstTo? l channel).map (e.postCall sender tracker)

/-- How a fan-out goes in which every post is answered. -/
structure FannedOut (sender : UserId) (tracker : Instance) (e : Event) (l : List Subscription)
    (trace : List Exchange) (report : ChannelReport) : Prop where
  posts : trace.map Exchange.call = e.duePosts sender tracker l
  channels : trace.filterMap (·.call.channel?) = Subscription.channels l
  delivered : report.delivered = trace.filterMap Exchange.delivered?
  failed : report.failed = trace.filterMap Exchange.failed?
  /-- Every channel is in the report. -/
  every : (report.delivered.map (·.1) ++ report.failed.map (·.1)).Perm (Subscription.channels l)
  /-- No channel is in the report twice. -/
  once : (report.delivered.map (·.1) ++ report.failed.map (·.1)).Nodup
  attempted : report.attempted = (Subscription.channels l).length

theorem duePosts_eq :
    e.duePosts sender tracker l =
      (Subscription.firstOfChannel [] l).map (e.postCall sender tracker) := by
  rw [← Subscription.filterMap_firstTo?, List.map_filterMap]
  rfl

/-- The posts are due in order, and none is missing where the run ends. -/
theorem fanOut_path_duePosts {result : Option ChannelReport}
    (path : (e.fanOut sender tracker l).Path trace result) :
    trace.map Exchange.call <+: e.duePosts sender tracker l ∧
      (result.isSome = true → trace.map Exchange.call = e.duePosts sender tracker l) := by
  rw [duePosts_eq]
  exact fanOut_path path

theorem path_postTo {s : Subscription} {post : ChannelPost}
    (path : (e.postTo sender tracker s).Path trace (some post)) :
    trace = [⟨e.postCall sender tracker s, some post.answer⟩] ∧ post.channel = s.channel := by
  obtain ⟨answer, called, same⟩ := path_bind_done.mp path
  rw [path_call] at called
  subst called
  obtain ⟨answer, rfl, rfl⟩ := Option.map_eq_some_iff.mp same.symm
  exact ⟨rfl, rfl⟩

theorem fannedOut_of_path {report : ChannelReport}
    (path : (e.fanOut sender tracker l).Path trace (some report)) :
    FannedOut sender tracker e l trace report := by
  have due := (fanOut_path_duePosts path).2 rfl
  obtain ⟨_, made, same⟩ := path_bind_done.mp path
  obtain ⟨posts, rfl, rfl⟩ := Option.map_eq_some_iff.mp same.symm
  have channels : trace.filterMap (·.call.channel?) = posts.map (·.channel) := by
    rw [← List.filterMap_eq_map]
    refine path_mapM_collected (fun s part post single => ?_) made
    obtain ⟨rfl, channel⟩ := path_postTo single
    exact congrArg (fun c => [c]) channel.symm
  have delivered :
      trace.filterMap Exchange.delivered? = posts.filterMap ChannelPost.delivered? := by
    refine path_mapM_collected (fun s part post single => ?_) made
    obtain ⟨rfl, channel⟩ := path_postTo single
    obtain ⟨_, e | id⟩ := post <;> cases channel <;> rfl
  have failed : trace.filterMap Exchange.failed? = posts.filterMap ChannelPost.failed? := by
    refine path_mapM_collected (fun s part post single => ?_) made
    obtain ⟨rfl, channel⟩ := path_postTo single
    obtain ⟨_, e | id⟩ := post <;> cases channel <;> rfl
  have first : trace.filterMap (·.call.channel?) = Subscription.channels l := by
    have calls : trace.filterMap (·.call.channel?) =
        (trace.map Exchange.call).filterMap Call.channel? := by
      rw [List.filterMap_map]
      rfl
    have named : Call.channel? ∘ e.postCall sender tracker = some ∘ Subscription.channel := rfl
    rw [calls, due, duePosts_eq, List.filterMap_map, named, List.filterMap_eq_map,
      Subscription.channels_eq]
  have every := (ChannelReport.ofPosts_channels posts).trans (.of_eq (channels.symm.trans first))
  refine ⟨due, first, delivered.symm, failed.symm, every,
    every.nodup_iff.mpr (nodup_eraseDups _), ?_⟩
  simpa [ChannelReport.attempted] using every.length_eq

/-- Whatever the posts are answered, a fan-out posts once to each channel, in the order in which
the channels first occur and under the name of each channel's first subscription, and reports
each channel as delivered with its post or as failed with the text of its error, in the order
of the posts. Other answers do not change the posts, and another order of the subscriptions does
not change the channels. Where a post takes the run down, only those after it are missing. -/
theorem fanOut_posts_once {σ : Type} (c : Collaborators σ) (s : σ) (sender : UserId)
    (tracker : Instance) (e : Event) (l : List Subscription) :
    ((e.fanOut sender tracker l).trace c s).map Exchange.call <+: e.duePosts sender tracker l ∧
      ((e.fanOut sender tracker l).Answered c s →
        (∃ report, ((e.fanOut sender tracker l).exec c s).1 = some report ∧
          FannedOut sender tracker e l ((e.fanOut sender tracker l).trace c s) report) ∧
        (∀ {τ : Type} (c' : Collaborators τ) (s' : τ), (e.fanOut sender tracker l).Answered c' s' →
          ((e.fanOut sender tracker l).trace c' s').map Exchange.call =
            ((e.fanOut sender tracker l).trace c s).map Exchange.call) ∧
        (∀ {τ : Type} (c' : Collaborators τ) (s' : τ) (l' : List Subscription), l'.Perm l →
          (e.fanOut sender tracker l').Answered c' s' →
          (((e.fanOut sender tracker l').trace c' s').filterMap (·.call.channel?)).Perm
            (((e.fanOut sender tracker l).trace c s).filterMap (·.call.channel?)))) := by
  refine ⟨(fanOut_path_duePosts (path_trace c _ s)).1, fun answered => ?_⟩
  obtain ⟨report, ended, path⟩ := answered.exists_result
  have fanned := fannedOut_of_path path
  refine ⟨⟨report, ended, fanned⟩, fun c' s' answered' => ?_,
    fun c' s' l' reordered answered' => ?_⟩
  · obtain ⟨_, -, path'⟩ := answered'.exists_result
    rw [(fannedOut_of_path path').posts, fanned.posts]
  · obtain ⟨_, -, path'⟩ := answered'.exists_result
    rw [(fannedOut_of_path path').channels, fanned.channels]
    exact Subscription.channels_perm reordered

end Event

/-- Every second post to a channel fails, and the others are numbered. -/
def Collaborators.alternating : Collaborators Nat where
  answer
    | .postToChannel .., n =>
      (some (if n % 2 = 0 then .ok ⟨toString n⟩ else .error .unanswered), n + 1)
    | call, n => (((constant .null []).answer call ()).1, n)

/-- An issue of which little but the key is known was created. -/
def createdIssueEvent : Event where
  kind := .issueCreated
  flags := .ofList [.created]
  issue := ⟨"1", ⟨"P-1"⟩, "https://t/1", .none⟩
  actor := none
  comment := none
  changelog := []
  timestamp := none
  notifications := []

/-- Two subscriptions of the channel "town", with one of "developers" between them. -/
def townTwice : List Subscription :=
  [subscribeComments "town" [], subscribeComments "developers" [], subscribeComments "town" [],
    subscribeComments "support" []]

/-- The channel "town" is posted to once, and that "developers" could not be posted to does not
keep "support" from its post. -/
theorem town_posted_once :
    let fan := createdIssueEvent.fanOut ⟨"bot"⟩ ⟨⟨"tracker"⟩, "https://t", .cloud⟩ townTwice
    fan.Answered .alternating 0 ∧ ∃ report, (fan.exec .alternating 0).1 = some report ∧
      Event.FannedOut ⟨"bot"⟩ ⟨⟨"tracker"⟩, "https://t", .cloud⟩ createdIssueEvent townTwice
        (fan.trace .alternating 0) report ∧
      report = ⟨[(⟨"town"⟩, ⟨"0"⟩), (⟨"support"⟩, ⟨"2"⟩)],
        [(⟨"developers"⟩, "request failed: no usable answer")]⟩ := by
  intro fan
  have answered : fan.Answered .alternating 0 := answered_of_all (by decide +kernel)
  obtain ⟨-, isolated⟩ := Event.fanOut_posts_once .alternating 0 ⟨"bot"⟩
    ⟨⟨"tracker"⟩, "https://t", .cloud⟩ createdIssueEvent townTwice
  obtain ⟨⟨report, ended, fanned⟩, -⟩ := isolated answered
  have reported : (fan.exec .alternating 0).1 = some ⟨[(⟨"town"⟩, ⟨"0"⟩), (⟨"support"⟩, ⟨"2"⟩)],
      [(⟨"developers"⟩, "request failed: no usable answer")]⟩ := by decide +kernel
  exact ⟨answered, report, ended, fanned, Option.some.inj (ended.symm.trans reported)⟩

end Herald
