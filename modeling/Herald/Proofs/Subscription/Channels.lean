import Herald.Proofs.FirstOccurrence
import Herald.Run.FanOut
import Mathlib.Data.List.Basic

/-!
# The first subscription of each channel

Of several subscriptions that bring an event to one channel the first counts. Those that count
are one for each channel, in the order in which the channels first occur.

Main statements: the channels of the subscriptions that count (`firstOfChannel_channels`), and
which subscription counts for a channel (`firstOfChannel_eq`).
-/

namespace Herald

namespace Subscription

variable {s : Subscription} {l : List Subscription} {seen : List ChannelId}

/-- The channels of subscriptions, each once, in the order in which they first occur. -/
def channels (l : List Subscription) : List ChannelId :=
  (l.map (·.channel)).eraseDups

/-- The first subscription of a channel. -/
def firstTo? (l : List Subscription) (channel : ChannelId) : Option Subscription :=
  l.find? (·.channel == channel)

/-- Whichever order the subscriptions are in, their channels are the same. -/
theorem channels_perm {l' : List Subscription} (reordered : l'.Perm l) :
    (channels l').Perm (channels l) :=
  eraseDups_perm (reordered.map _)

theorem firstOfChannel_channels (seen : List ChannelId) (l : List Subscription) :
    (firstOfChannel seen l).map (·.channel) =
      ((l.map (·.channel)).filter (· ∉ seen)).eraseDups := by
  induction l generalizing seen with
  | nil => rfl
  | cons s rest ih =>
    rw [firstOfChannel, List.map_cons]
    split
    · rename_i known
      rw [ih, List.filter_cons_of_neg (by simpa using known)]
    · rename_i fresh
      rw [List.map_cons, ih, eraseDups_unmet_cons fresh]

/-- What is kept is found again as the first of its channel. -/
theorem firstOfChannel_eq (seen : List ChannelId) (l : List Subscription) :
    firstOfChannel seen l =
      ((l.map (·.channel)).filter (· ∉ seen)).eraseDups.filterMap (firstTo? l) := by
  induction l generalizing seen with
  | nil => rfl
  | cons s rest ih =>
    -- The first subscription counts for no channel but its own.
    have others : ∀ channels : List ChannelId, s.channel ∉ channels →
        channels.filterMap (firstTo? (s :: rest)) = channels.filterMap (firstTo? rest) := by
      intro channels absent
      apply List.filterMap_congr
      intro channel member
      have other : s.channel ≠ channel := fun same => absent (same ▸ member)
      simp [firstTo?, other]
    rw [firstOfChannel, List.map_cons]
    split
    · rename_i known
      rw [ih, List.filter_cons_of_neg (by simpa using known), others _ (by simp [known])]
    · rename_i fresh
      have first : firstTo? (s :: rest) s.channel = some s := by simp [firstTo?]
      rw [ih, eraseDups_unmet_cons fresh, List.filterMap_cons, first, others _ (by simp)]

/-- The first subscriptions are one for each channel. -/
theorem channels_eq (l : List Subscription) :
    channels l = (firstOfChannel [] l).map (·.channel) := by
  simp [firstOfChannel_channels, channels]

/-- The first subscriptions, channel by channel. -/
theorem filterMap_firstTo? (l : List Subscription) :
    (channels l).filterMap (firstTo? l) = firstOfChannel [] l := by
  simp [firstOfChannel_eq, channels]

/-- What is kept was there. -/
theorem mem_of_mem_firstOfChannel (member : s ∈ firstOfChannel seen l) : s ∈ l := by
  rw [firstOfChannel_eq] at member
  obtain ⟨channel, -, found⟩ := List.mem_filterMap.mp member
  exact List.mem_of_find?_eq_some found

/-- No channel is lost where a channel is kept once. -/
theorem exists_mem_firstOfChannel (member : s ∈ l) (fresh : s.channel ∉ seen) :
    ∃ first ∈ firstOfChannel seen l, first.channel = s.channel := by
  have kept : s.channel ∈ (firstOfChannel seen l).map (·.channel) := by
    rw [firstOfChannel_channels, List.mem_eraseDups, List.mem_filter]
    exact ⟨List.mem_map_of_mem member, decide_eq_true fresh⟩
  exact List.mem_map.mp kept

end Subscription

end Herald
