import Herald.Proofs.Config.Acceptance
import Herald.Proofs.Pool.Steps

/-!
# Starting with an accepted configuration

The queue of the worker pool may be configured with any positive number of 64 bits, but it cannot
be made with more places than an eighth of the largest of them. Configurations beyond that are
accepted, and the relay does not start with them.

Main statements: with how many places a pool starts (`exists_start?_iff`), what another capacity
changes of a configuration (`read_assign_queueCapacity`), and which accepted configurations start
(`accepted_starts_iff`).
-/

namespace Herald

namespace Pool

/-- A queue can be made with this many places: with some, and with at most an eighth of the largest
number of 64 bits. -/
def Makeable (places : Nat) : Prop :=
  places ≠ 0 ∧ places ≤ (Nat.pow 2 64 - 1) >>> 3

instance (places : Nat) : Decidable (Makeable places) :=
  inferInstanceAs (Decidable (_ ∧ _))

theorem makeable_iff {places : Nat} : Makeable places ↔ 1 ≤ places ∧ places ≤ maxCapacity := by
  have eighth : (Nat.pow 2 64 - 1) >>> 3 = maxCapacity := by decide
  unfold Makeable
  rw [eighth]
  omega

/-- A pool starts exactly where its queue can be made, where no places at all count as one. -/
theorem exists_start?_iff {workers capacity : Nat} :
    (∃ p, start? workers capacity = some p) ↔ Makeable (max capacity 1) := by
  have room : 1 ≤ max capacity 1 := Nat.le_max_right capacity 1
  rw [makeable_iff, and_iff_right room]
  constructor
  · rintro ⟨p, started⟩
    exact (start?_eq_some_iff.mp started).1
  · intro fits
    exact ⟨_, start?_eq_some_iff.mpr ⟨fits, rfl⟩⟩

theorem start?_eq_none_iff {workers capacity : Nat} :
    start? workers capacity = none ↔ maxCapacity < capacity := by
  have room : 1 ≤ maxCapacity := by decide
  rw [← not_iff_not, ← ne_eq, Option.ne_none_iff_exists', exists_start?_iff, makeable_iff]
  omega

end Pool

theorem Variable.name_inj {v w : Variable} : v.name = w.name ↔ v = w := by
  constructor
  · cases v <;> cases w <;> simp [Variable.name]
  · rintro rfl
    rfl

namespace Config

variable {lookup : String → Option String} {v w : Variable} {value : String} {c : Config} {n : Nat}

/-! ### Setting a variable -/

/-- The variables, of which one is set to a value. -/
def assign (lookup : String → Option String) (v : Variable) (value : String) (name : String) :
    Option String :=
  if name = v.name then some value else lookup name

theorem value?_assign_self (nonempty : value ≠ "") (trimmed : Text.trimmed value = value) :
    value? (assign lookup v value) v = some value :=
  value?_eq_some_iff.mpr ⟨nonempty, value, if_pos rfl, trimmed.symm⟩

theorem value?_assign_other (other : w ≠ v) :
    value? (assign lookup v value) w = value? lookup w := by
  have unnamed : w.name ≠ v.name := fun same => other (Variable.name_inj.mp same)
  rw [value?, assign, if_neg unnamed, value?]

/-! ### The capacity of the queue -/

/-- A number that is set and one that is the default are positive and fit 64 bits. -/
theorem setting_bounds {text : Option String} {default : Nat} (positive : 1 ≤ default)
    (fits : default < Nat.pow 2 64) (made : Setting text default IsCount n) :
    1 ≤ n ∧ n < Nat.pow 2 64 := by
  rcases made with ⟨-, rfl⟩ | ⟨value, -, count⟩
  · exact ⟨positive, fits⟩
  · exact ⟨count.positive, count.fits⟩

/-- Setting the capacity changes nothing but the capacity. -/
theorem read_assign_queueCapacity (accepted : read lookup = .ok c) (positive : 1 ≤ n)
    (fits : n < Nat.pow 2 64) :
    read (assign lookup .queueCapacity (toString n)) = .ok { c with queueCapacity := n } := by
  have made := read_eq_ok_iff.mp accepted
  have given : value? (assign lookup .queueCapacity (toString n)) .queueCapacity =
      some (toString n) := value?_assign_self (toString_ne_empty n) (trimmed_toString n)
  have kept : ∀ w, w ≠ .queueCapacity →
      value? (assign lookup .queueCapacity (toString n)) w = value? lookup w :=
    fun w other => value?_assign_other other
  refine read_eq_ok_iff.mpr ⟨?_, ?_, .inr ⟨_, given, isCount_toString positive fits⟩, ?_, ?_, ?_,
    ?_, ?_, ?_⟩
  all_goals rw [kept _ (by decide)]
  · exact made.listenAddress
  · exact made.workers
  · exact made.httpTimeout
  · exact made.webhookSecret
  · exact made.storePath
  · exact made.chatUrl
  · exact made.botToken
  · exact made.botUserId

/-- Only a capacity that was set can be too large for a queue. -/
theorem capacity_large_iff (made : MadeOf lookup c) : Pool.maxCapacity < c.queueCapacity ↔
    ∃ value n, value? lookup .queueCapacity = some value ∧ Denotes value n ∧ Nat.pow 2 61 ≤ n := by
  have least : ∀ n, Pool.maxCapacity < n ↔ Nat.pow 2 61 ≤ n := by
    intro n
    have room : Pool.maxCapacity + 1 = Nat.pow 2 61 := by decide
    omega
  rw [least]
  constructor
  · intro large
    rcases made.queueCapacity with ⟨-, standard⟩ | ⟨value, given, count⟩
    · rw [standard] at large
      exact absurd large (by decide)
    · exact ⟨value, _, given, count.denotes, large⟩
  · rintro ⟨value, n, given, denotes, large⟩
    rcases made.queueCapacity with ⟨unset, -⟩ | ⟨value', given', count⟩
    · cases unset.symm.trans given
    · cases given.symm.trans given'
      rwa [← denotes.unique count.denotes]

/-- The capacity of an accepted configuration is a positive number of 64 bits, so that the pool
takes it as it is, and each such number is accepted in its place. With it the pool starts exactly
where a queue can be made with as many places, which are fewer than an eighth of `2 ^ 64`, and it
fails to start exactly where the variable is set and denotes at least that many. -/
theorem accepted_starts_iff (accepted : read lookup = .ok c) :
    (1 ≤ c.queueCapacity ∧ c.queueCapacity ≤ Nat.pow 2 64 - 1 ∧
      max c.queueCapacity 1 = c.queueCapacity) ∧
    ((∃ p, Pool.start? c.workers c.queueCapacity = some p) ↔ Pool.Makeable c.queueCapacity) ∧
    (∀ p, Pool.start? c.workers c.queueCapacity = some p → p.capacity = c.queueCapacity) ∧
    (Pool.Makeable c.queueCapacity ↔ c.queueCapacity ≤ Nat.pow 2 61 - 1) ∧
    (Pool.start? c.workers c.queueCapacity = none ↔ ∃ value n,
      value? lookup .queueCapacity = some value ∧ Denotes value n ∧ Nat.pow 2 61 ≤ n) ∧
    ∀ n, 1 ≤ n → n < Nat.pow 2 64 →
      read (assign lookup .queueCapacity (toString n)) = .ok { c with queueCapacity := n } := by
  have made := read_eq_ok_iff.mp accepted
  obtain ⟨positive, fits⟩ := setting_bounds (by decide) (by decide) made.queueCapacity
  have unclamped : max c.queueCapacity 1 = c.queueCapacity := Nat.max_eq_left positive
  refine ⟨⟨positive, Nat.le_sub_one_of_lt fits, unclamped⟩, ?_, ?_, ?_, ?_, ?_⟩
  · rw [Pool.exists_start?_iff, unclamped]
  · intro p started
    obtain ⟨-, rfl⟩ := Pool.start?_eq_some_iff.mp started
    exact unclamped
  · rw [Pool.makeable_iff, and_iff_right positive]
    rfl
  · rw [Pool.start?_eq_none_iff, capacity_large_iff made]
  · intro n
    exact read_assign_queueCapacity accepted

/-- Nothing is set but what is needed. -/
def sparse (name : String) : Option String :=
  [("JIRA_RELAY_WEBHOOK_SECRET", "s3cret"), ("MATTERMOST_URL", "https://chat"),
    ("MATTERMOST_BOT_TOKEN", "tok"), ("MATTERMOST_BOT_USER_ID", "bot")].lookup name

/-- The capacity is one more than a queue can have. -/
def oversized : String → Option String :=
  assign sparse .queueCapacity "2305843009213693952"

/-- What is made of the variables that are needed. -/
def sparseConfig : Config where
  listenAddress := .v4 ⟨0, 0, 0, 0⟩ 3000
  workers := 4
  queueCapacity := 1024
  webhookSecret := "s3cret"
  storePath := none
  chatUrl := "https://chat"
  botToken := "tok"
  botUserId := "bot"
  httpTimeout := 30

private theorem sparse_read : read sparse = .ok sparseConfig := by
  decide +kernel

private theorem oversized_read :
    read oversized = .ok { sparseConfig with queueCapacity := Nat.pow 2 61 } := by
  decide +kernel

/-- Not every configuration that is accepted starts, nor does every one have a capacity with which
a queue can be made. -/
theorem oversized_queue_unstarted :
    (¬ ∀ (lookup : String → Option String) (c : Config), read lookup = .ok c →
      ∃ p, Pool.start? c.workers c.queueCapacity = some p) ∧
    ¬ ∀ (lookup : String → Option String) (c : Config), read lookup = .ok c →
      1 ≤ max c.queueCapacity 1 ∧ max c.queueCapacity 1 ≤ Nat.pow 2 61 - 1 := by
  constructor
  · intro starts
    have makeable := Pool.exists_start?_iff.mp (starts _ _ oversized_read)
    exact absurd makeable (by decide)
  · intro bounded
    have bounds := bounded _ _ oversized_read
    exact absurd bounds (by decide)

/-- With the default the pool starts, and with the largest capacity that is accepted it does not. -/
theorem oversized_queue_accepted :
    read sparse = .ok sparseConfig ∧
    (∃ p, Pool.start? 4 1024 = some p ∧ p.capacity = 1024) ∧
    read (assign sparse .queueCapacity (toString (Nat.pow 2 64 - 1))) =
      .ok { sparseConfig with queueCapacity := Nat.pow 2 64 - 1 } ∧
    Pool.start? 4 (Nat.pow 2 64 - 1) = none := by
  obtain ⟨-, starts, places, -, -, assigned⟩ := accepted_starts_iff sparse_read
  obtain ⟨p, started⟩ := starts.mpr (by decide)
  have accepted := assigned (Nat.pow 2 64 - 1) (by decide) (by decide)
  obtain ⟨-, -, -, -, unstarted, -⟩ := accepted_starts_iff accepted
  have given : value? (assign sparse .queueCapacity (toString (Nat.pow 2 64 - 1))) .queueCapacity =
      some (toString (Nat.pow 2 64 - 1)) :=
    value?_assign_self (toString_ne_empty _) (trimmed_toString _)
  exact ⟨sparse_read, ⟨p, started, places p started⟩, accepted,
    unstarted.mpr ⟨_, _, given, denotes_toString _, by decide⟩⟩

end Config

end Herald
