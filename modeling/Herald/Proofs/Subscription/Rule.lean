import Herald.Proofs.Event.Shape
import Herald.Proofs.Subscription.Filters
import Mathlib.Data.Set.Basic

/-!
# The rule of a subscription

What a subscription asks for, said over sets and without an order in which it is asked
(`Subscription.Wants`). What is equal as sets is then equal to a subscription.

Main statement: a subscription accepts exactly what its rule wants, and so neither the order
nor the number of its field filters or of an issue's values matters to it (`accepts_by_rule`).
-/

namespace Herald

/-- What the filter asks of the values of its field. -/
def FieldFilter.Holds (f : FieldFilter) (actual : Set String) : Prop :=
  match f.inclusion with
  | .includeAny => ∃ value ∈ f.values, value ∈ actual
  | .includeAll => ∀ value ∈ f.values, value ∈ actual
  | .excludeAny => ∀ value ∈ f.values, value ∉ actual
  | .empty => ∀ value, value ∉ actual

theorem FieldFilter.accepts_iff_holds {f : FieldFilter} {actual : List String} :
    f.accepts actual = true ↔ f.Holds {value | value ∈ actual} := by
  unfold accepts Holds
  cases f.inclusion with
  | includeAny =>
    simp only [List.any_eq_true, decide_eq_true_eq, Set.mem_ofPred_eq]
    exact exists_congr fun value => and_comm
  | includeAll => simp [SortedSet.mem_toList]
  | excludeAny =>
    simp only [Bool.not_eq_true', List.any_eq_false, decide_eq_true_eq, Set.mem_ofPred_eq]
    exact forall_congr' fun value => imp_not_comm
  | empty => simp [List.eq_nil_iff_forall_not_mem]

/-- The values of an event that a filter looks at: for the visibility of comments the
restriction, if there is one, and for any other key those of the issue. -/
def Event.valuesAt (e : Event) (visibility key : String) : Set String :=
  {value | if key = visibilityKey then value = visibility ∧ visibility ≠ ""
    else value ∈ e.issue.fieldValues key}

theorem Event.valuesAt_eq (e : Event) (visibility key : String) :
    e.valuesAt visibility key = {value | value ∈ Filters.valuesFor key e.issue visibility} := by
  unfold valuesAt Filters.valuesFor
  by_cases about : key = visibilityKey <;> by_cases everybody : visibility = "" <;>
    simp [about, everybody]

/-- Two events are the same to every subscription: the same has happened, in the same project
and to the same type of issue, and each field has the same values, in whatever order and
however often. -/
structure Event.SameValues (e e' : Event) : Prop where
  flags : e.flags = e'.flags
  project : e.issue.projectKey = e'.issue.projectKey
  type : e.issue.fields.issueType = e'.issue.fields.issueType
  values : ∀ key value, value ∈ e.issue.fieldValues key ↔ value ∈ e'.issue.fieldValues key

namespace Event.SameValues

variable {e e' : Event}

theorem symm (same : e.SameValues e') : e'.SameValues e :=
  ⟨same.flags.symm, same.project.symm, same.type.symm,
    fun key value => (same.values key value).symm⟩

/-- The fields that hold several values may hold them in another order or repeat them. -/
theorem of_lists {labels : List String} {custom : SortedMap String (List String)}
    (sameLabels : ∀ value, value ∈ e.issue.fields.labels ↔ value ∈ labels)
    (sameCustom : ∀ key value, value ∈ (e.issue.fields.custom.get? key).getD [] ↔
      value ∈ (custom.get? key).getD []) :
    e.SameValues
      { e with issue := { e.issue with fields := { e.issue.fields with labels, custom } } } := by
  refine ⟨rfl, rfl, rfl, fun key value => ?_⟩
  unfold Issue.fieldValues
  dsimp only
  split
  · exact sameLabels value
  · -- The keys in between are of fields that hold one value, and these are as before.
    repeat (split; · exact Iff.rfl)
    exact sameCustom key value

end Event.SameValues

namespace Filters

variable {f : Filters}

theorem wantsFlags_iff {flags : FlagSet} :
    f.wantsFlags flags = true ↔
      (∃ flag ∈ f.events, flag ≠ .updatedAny ∧ flag ∈ flags) ∨
        (.updatedAny ∈ f.events ∧ ∃ flag ∈ flags, flag.isIssueUpdate = true) := by
  unfold wantsFlags
  rw [List.any_eq_true]
  constructor
  · intro given
    obtain ⟨wanted, listed, met⟩ := given
    by_cases wildcard : wanted = .updatedAny
    · subst wildcard
      exact .inr ⟨listed, List.any_eq_true.mp met⟩
    · refine .inl ⟨wanted, listed, wildcard, ?_⟩
      cases wanted <;> first | exact of_decide_eq_true met | exact absurd rfl wildcard
  · rintro (⟨wanted, listed, wildcard, flagged⟩ | ⟨listed, updated⟩)
    · refine ⟨wanted, listed, ?_⟩
      cases wanted <;> first | exact decide_eq_true flagged | exact absurd rfl wildcard
    · exact ⟨.updatedAny, listed, List.any_eq_true.mpr updated⟩

theorem wantsProject_iff {issue : Issue} :
    f.wantsProject issue = true ↔ f.projects = .empty ∨ issue.projectKey ∈ f.projects := by
  simp [wantsProject, SortedSet.isEmpty_iff]

theorem wantsType_iff {issue : Issue} :
    f.wantsType issue = true ↔ f.issueTypes = .empty ∨ ∃ type,
      issue.fields.issueType = some type ∧ (type.id ∈ f.issueTypes ∨ type.name ∈ f.issueTypes) := by
  unfold wantsType
  cases issue.fields.issueType <;> simp [SortedSet.isEmpty_iff]

end Filters

namespace Subscription

/-- What the subscription wants of an event at a visibility. The flag for all updates stands
for others and is itself no flag of an event. -/
structure Wants (s : Subscription) (e : Event) (visibility : String) : Prop where
  flag : (∃ flag ∈ s.filters.events, flag ≠ .updatedAny ∧ flag ∈ e.flags) ∨
    (.updatedAny ∈ s.filters.events ∧ ∃ flag ∈ e.flags, flag.isIssueUpdate = true)
  project : s.filters.projects = .empty ∨ e.issue.projectKey ∈ s.filters.projects
  type : s.filters.issueTypes = .empty ∨ ∃ type, e.issue.fields.issueType = some type ∧
    (type.id ∈ s.filters.issueTypes ∨ type.name ∈ s.filters.issueTypes)
  fields : ∀ f ∈ s.filters.fields, f.isActive = true → f.Holds (e.valuesAt visibility f.key)
  /-- Restricted comments have to be asked for. -/
  restricted : visibility = "" ∨
    ∃ f ∈ s.filters.fields, f.isActive = true ∧ f.key = visibilityKey

/-- The subscription with other field filters. -/
def withFields (s : Subscription) (fields : List FieldFilter) : Subscription :=
  { s with filters := { s.filters with fields } }

/-- The subscription to other flags. -/
def withEvents (s : Subscription) (events : FlagSet) : Subscription :=
  { s with filters := { s.filters with events } }

variable {s : Subscription} {e e' : Event} {visibility : String}

theorem asksVisibility_iff :
    s.asksVisibility = true ↔
      ∃ f ∈ s.filters.fields, f.isActive = true ∧ f.key = visibilityKey := by
  simp [asksVisibility, FieldFilter.asksVisibility]

theorem accepts_iff_wants : s.accepts e visibility = true ↔ s.Wants e visibility := by
  rw [accepts_iff, Filters.wantsFlags_iff, Filters.wantsProject_iff, Filters.wantsType_iff,
    asksVisibility_iff]
  simp only [FieldFilter.accepts_iff_holds, ← Event.valuesAt_eq]
  constructor
  · intro given
    obtain ⟨flag, project, type, fields, restricted⟩ := given
    exact ⟨flag, project, type, fields, restricted⟩
  · intro wants
    exact ⟨wants.flag, wants.project, wants.type, wants.fields, wants.restricted⟩

/-- Only the active ones among the field filters count. -/
theorem Wants.withFields {fields : List FieldFilter} (wants : s.Wants e visibility)
    (same : ∀ f, f.isActive = true → (f ∈ fields ↔ f ∈ s.filters.fields)) :
    (s.withFields fields).Wants e visibility where
  flag := wants.flag
  project := wants.project
  type := wants.type
  fields f member active := wants.fields f ((same f active).mp member) active
  restricted := by
    refine wants.restricted.imp_right fun asked => ?_
    obtain ⟨f, member, active, key⟩ := asked
    exact ⟨f, (same f active).mpr member, active, key⟩

/-- Only the sets of an event's values count. -/
theorem Wants.sameValues (wants : s.Wants e visibility) (same : e.SameValues e') :
    s.Wants e' visibility where
  flag := same.flags ▸ wants.flag
  project := same.project ▸ wants.project
  type := same.type ▸ wants.type
  fields f member active := by
    have values : e.valuesAt visibility f.key = e'.valuesAt visibility f.key := by
      simp only [Event.valuesAt, same.values]
    exact values ▸ wants.fields f member active
  restricted := wants.restricted

theorem Wants.withEvents {events : FlagSet} (wants : s.Wants e visibility)
    (more : ∀ flag ∈ s.filters.events, flag ∈ events) :
    (s.withEvents events).Wants e visibility where
  flag := wants.flag.imp
    (fun listed => by
      obtain ⟨flag, wanted, plain, flagged⟩ := listed
      exact ⟨flag, more flag wanted, plain, flagged⟩)
    (And.imp_left (more .updatedAny))
  project := wants.project
  type := wants.type
  fields := wants.fields
  restricted := wants.restricted

end Subscription

/-- A subscription accepts exactly what its rule wants. In the rule the flag for all updates is
not looked for among the flags of an event, and no event that a webhook stands for has it.
Neither the order nor the number of field filters or of an issue's values matters, nor do
inactive filters, and a subscription to more flags accepts no less. -/
theorem accepts_by_rule :
    (∀ (s : Subscription) (e : Event) (visibility : String),
      s.accepts e visibility = true ↔ s.Wants e visibility) ∧
    (∀ (s : Subscription) (e : Event), .updatedAny ∉ e.flags →
      ((∃ flag ∈ s.filters.events, flag ≠ .updatedAny ∧ flag ∈ e.flags) ↔
        ∃ flag ∈ s.filters.events, flag ∈ e.flags)) ∧
    (∀ (body : Bytes) (e : Event), Event.parse body = .ok (some e) → .updatedAny ∉ e.flags) ∧
    (∀ (s : Subscription) (fields : List FieldFilter) (e : Event) (visibility : String),
      (∀ f, f.isActive = true → (f ∈ fields ↔ f ∈ s.filters.fields)) →
      (s.withFields fields).accepts e visibility = s.accepts e visibility) ∧
    (∀ (s : Subscription) (e e' : Event) (visibility : String), e.SameValues e' →
      s.accepts e visibility = s.accepts e' visibility) ∧
    (∀ (s : Subscription) (events : FlagSet) (e : Event) (visibility : String),
      (∀ flag ∈ s.filters.events, flag ∈ events) → s.accepts e visibility = true →
      (s.withEvents events).accepts e visibility = true) := by
  refine ⟨fun s e visibility => Subscription.accepts_iff_wants, ?_,
    fun body e => Event.parse_updatedAny_not_mem, ?_, ?_, ?_⟩
  · intro s e plain
    constructor
    · intro given
      obtain ⟨flag, wanted, -, flagged⟩ := given
      exact ⟨flag, wanted, flagged⟩
    · intro given
      obtain ⟨flag, wanted, flagged⟩ := given
      exact ⟨flag, wanted, fun wildcard => plain (wildcard ▸ flagged), flagged⟩
  · intro s fields e visibility same
    rw [Bool.eq_iff_iff, Subscription.accepts_iff_wants, Subscription.accepts_iff_wants]
    constructor
    · intro wants
      exact wants.withFields fun f active => (same f active).symm
    · intro wants
      exact wants.withFields same
  · intro s e e' visibility same
    rw [Bool.eq_iff_iff, Subscription.accepts_iff_wants, Subscription.accepts_iff_wants]
    exact ⟨fun wants => wants.sameValues same, fun wants => wants.sameValues same.symm⟩
  · intro s events e visibility more accepted
    rw [Subscription.accepts_iff_wants] at accepted ⊢
    exact accepted.withEvents more

/-- The body of a webhook about an issue whose labels were changed. -/
def labelsBody : Bytes :=
  Text.Utf8.encode (
    "\x7b\"webhookEvent\":\"jira:issue_updated\",\"issue\":\x7b\"key\":\"P-1\"," ++
    "\"self\":\"https://t/i/1\",\"fields\":\x7b\"labels\":[\"late\",\"slow\"]\x7d\x7d," ++
    "\"changelog\":\x7b\"items\":[\x7b\"field\":\"labels\"\x7d]\x7d\x7d")

/-- Asks for both labels. -/
def lateAndSlow : FieldFilter :=
  ⟨"labels", .includeAll, .ofList ["late", "slow"]⟩

/-- A subscription to changed labels under field filters. -/
def subscribeLabels (fields : List FieldFilter) : Subscription :=
  ⟨"labels", ⟨"town"⟩, "labels", ⟨"tracker"⟩, ⟨.ofList [.updatedLabels], .empty, .empty, fields⟩⟩

/-- A subscription accepts an issue with both labels whatever their order, with its filter
given twice beside one without values, and with all updates among its flags. -/
theorem late_and_slow_accepted :
    ∃ e, Event.parse labelsBody = .ok (some e) ∧ .updatedAny ∉ e.flags ∧
      (∃ flag ∈ (subscribeLabels [lateAndSlow]).filters.events, flag ∈ e.flags) ∧
      (subscribeLabels [lateAndSlow]).Wants e "" ∧
      ((subscribeLabels [lateAndSlow]).withFields
        [lateAndSlow, ⟨"status", .includeAny, .empty⟩, lateAndSlow]).accepts e "" = true ∧
      (∃ e', e'.issue.fields.labels = ["slow", "late", "slow"] ∧
        (subscribeLabels [lateAndSlow]).accepts e' "" = true) ∧
      ((subscribeLabels [lateAndSlow]).withEvents (.ofList [.updatedLabels, .updatedAny])).accepts
        e "" = true := by
  obtain ⟨rule, plain, events, fields, values, more⟩ := accepts_by_rule
  have about : (Event.ofBody? labelsBody).any (fun e =>
      e.issue.fields.labels = ["late", "slow"] ∧ .updatedLabels ∈ e.flags ∧
        (subscribeLabels [lateAndSlow]).accepts e "" = true) = true := by decide +kernel
  obtain ⟨e, found, about⟩ := (Option.any_eq_true _ _).mp about
  obtain ⟨labels, flagged, accepted⟩ := of_decide_eq_true about
  have parsed := Event.ofBody?_eq_some_iff.mp found
  have wildcard := events _ _ parsed
  refine ⟨e, parsed, wildcard, ?_, (rule _ _ _).mp accepted, ?_, ?_, ?_⟩
  · exact (plain _ _ wildcard).mp
      ⟨.updatedLabels, SortedSet.mem_ofList.mpr List.mem_cons_self, nofun, flagged⟩
  · rw [fields _ _ _ "" fun f active => ?_]
    · exact accepted
    · simp only [subscribeLabels, List.mem_cons, List.not_mem_nil, or_false]
      refine ⟨?_, .inl⟩
      rintro (rfl | rfl | rfl)
      · rfl
      · cases active
      · rfl
  · have rearranged : e.SameValues { e with issue := { e.issue with
        fields := { e.issue.fields with labels := ["slow", "late", "slow"] } } } :=
      .of_lists (by simp [labels, or_comm]) fun _ _ => Iff.rfl
    exact ⟨_, rfl, values _ _ _ "" rearranged ▸ accepted⟩
  · exact more _ _ _ "" (by simp [subscribeLabels]) accepted

end Herald
