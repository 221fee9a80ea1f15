import Herald.Run.Basic

/-!
# Channel posts of a run

An event is posted once to every channel that some subscription brings it to,
under the name of the first such subscription. A post that fails is reported and
the others go ahead.
-/

namespace Herald

/-- What the channel posts of an event came to, each list in the order of the
posts. -/
structure ChannelReport where
  delivered : List (ChannelId × PostId)
  /-- The channels that could not be posted to, with the text of the error. -/
  failed : List (ChannelId × String)
  deriving DecidableEq, Repr

/-- The outcome of a post to a channel. -/
structure ChannelPost where
  channel : ChannelId
  answer : Except PostError PostId

namespace ChannelPost

def delivered? (p : ChannelPost) : Option (ChannelId × PostId) :=
  match p.answer with
  | .ok post => some (p.channel, post)
  | .error _ => none

def failed? (p : ChannelPost) : Option (ChannelId × String) :=
  match p.answer with
  | .ok _ => none
  | .error e => some (p.channel, e.message)

end ChannelPost

namespace ChannelReport

def ofPosts (posts : List ChannelPost) : ChannelReport :=
  ⟨posts.filterMap ChannelPost.delivered?, posts.filterMap ChannelPost.failed?⟩

def attempted (r : ChannelReport) : Nat :=
  r.delivered.length + r.failed.length

end ChannelReport

namespace Subscription

/-- The first subscription of each channel that is not among those `seen`. -/
def firstOfChannel : (seen : List ChannelId) → List Subscription → List Subscription
  | _, [] => []
  | seen, s :: rest =>
    if s.channel ∈ seen then firstOfChannel seen rest
    else s :: firstOfChannel (s.channel :: seen) rest

end Subscription

namespace Event

/-- Posts an event to the channel of a subscription. -/
def postTo (sender : UserId) (tracker : Instance) (e : Event) (s : Subscription) :
    Run ChannelPost := do
  return ⟨s.channel, ← Run.call (.postToChannel sender e tracker s.channel s.name)⟩

/-- Posts an event to the channels of subscriptions. -/
def fanOut (sender : UserId) (tracker : Instance) (e : Event) (subscriptions : List Subscription) :
    Run ChannelReport := do
  return .ofPosts (← (Subscription.firstOfChannel [] subscriptions).mapM (e.postTo sender tracker))

end Event

end Herald
