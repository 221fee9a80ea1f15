import Herald.Subscription

/-!
# What the field filters of a subscription ask for

The filters are run through one by one and the first that refuses ends it. Main
statements: the order does not matter (`runFields_eq_some_iff`), a subscription accepts
what all its conditions accept (`accepts_iff`), and at a restricted visibility that takes an
active filter on the visibility (`accepts_restricted`).
-/

namespace Herald

/-- The filter is on the visibility of comments, and active. -/
def FieldFilter.asksVisibility (f : FieldFilter) : Bool :=
  f.isActive && f.key == visibilityKey

/-- Some active filter of the subscription is on the visibility of comments. -/
def Subscription.asksVisibility (s : Subscription) : Bool :=
  s.filters.fields.any FieldFilter.asksVisibility

namespace Filters

/-- All active filters accept, and the result tells whether one of them was on the
visibility. -/
theorem runFields_eq_some_iff {issue : Issue} {visibility : String} {onVisibility result : Bool}
    {fields : List FieldFilter} :
    runFields issue visibility onVisibility fields = some result ↔
      (∀ f ∈ fields, f.isActive = true → f.accepts (valuesFor f.key issue visibility) = true) ∧
      result = (onVisibility || fields.any FieldFilter.asksVisibility) := by
  induction fields generalizing onVisibility with
  | nil =>
    rw [runFields, Option.some.injEq, List.any_nil, Bool.or_false]
    exact ⟨fun same => ⟨by simp, same.symm⟩, fun both => both.2.symm⟩
  | cons f rest ih =>
    rw [runFields]
    by_cases active : f.isActive = true
    · rw [if_pos active]
      by_cases accepted : f.accepts (valuesFor f.key issue visibility) = true
      · rw [if_pos accepted, ih]
        simp [active, accepted, FieldFilter.asksVisibility, Bool.or_assoc]
      · simp [active, accepted]
    · rw [if_neg active, ih]
      simp [active, FieldFilter.asksVisibility]

/-- A filter on the visibility looks at the restriction of the comment and at nothing
else. -/
theorem valuesFor_visibilityKey (issue : Issue) {visibility : String}
    (restricted : visibility ≠ "") : valuesFor visibilityKey issue visibility = [visibility] := by
  simp [valuesFor, restricted]

end Filters

namespace Subscription

variable {s : Subscription} {e : Event} {visibility : String}

/-- The subscription's conditions hold one by one; a restricted comment is moreover only
accepted where the visibility is asked for. -/
theorem accepts_iff :
    s.accepts e visibility = true ↔
      s.filters.wantsFlags e.flags = true ∧ s.filters.wantsProject e.issue = true ∧
      s.filters.wantsType e.issue = true ∧
      (∀ f ∈ s.filters.fields, f.isActive = true →
        f.accepts (Filters.valuesFor f.key e.issue visibility) = true) ∧
      (visibility = "" ∨ s.asksVisibility = true) := by
  unfold accepts
  dsimp only
  split
  · simp_all
  · split
    · simp_all
    · split
      · simp_all
      · rename_i flags project type
        rw [Bool.not_eq_true, Bool.not_eq_false'] at flags project type
        simp only [flags, project, type, true_and]
        cases ran : Filters.runFields e.issue visibility false s.filters.fields with
        | some onVisibility =>
          obtain ⟨accepted, rfl⟩ := Filters.runFields_eq_some_iff.mp ran
          simp only [Bool.false_or, Bool.or_eq_true, String.isEmpty_iff]
          exact ⟨fun asked => ⟨accepted, asked⟩, fun both => both.2⟩
        | none =>
          constructor
          · intro impossible
            cases impossible
          · intro given
            obtain ⟨accepted, -⟩ := given
            rw [Filters.runFields_eq_some_iff.mpr ⟨accepted, rfl⟩] at ran
            cases ran

/-- At a restricted visibility the subscription asks for the visibility, and all that it
asks is that the restriction be accepted. -/
theorem accepts_restricted (restricted : visibility ≠ "")
    (accepted : s.accepts e visibility = true) :
    s.asksVisibility = true ∧
      ∀ f ∈ s.filters.fields, f.asksVisibility = true → f.accepts [visibility] = true := by
  obtain ⟨-, -, -, fields, asked⟩ := accepts_iff.mp accepted
  refine ⟨asked.resolve_left restricted, fun f member asks => ?_⟩
  obtain ⟨active, key⟩ := Bool.and_eq_true_iff.mp asks
  have judged := fields f member active
  rwa [beq_iff_eq.mp key, Filters.valuesFor_visibilityKey e.issue restricted] at judged

end Subscription

end Herald
