import Herald.Event.Issue

/-!
# Filling in missing fields

Fields are filled in from another source where they are missing, and what is there stays. Three
disciplines meet in it: a single field is taken where it is not set, a list where it is empty,
and the custom fields one by one. Each of them is associative, has a neutral value and takes a
source in only once, and so does the whole.

Main statements: nothing that is there is lost (`keptIn_fillMissing`), filling in from the
same source again changes nothing (`fillMissing_again`), and the laws of filling in together with
what it takes to be complete (`fillMissing_laws`).
-/

namespace Herald.IssueFields

variable {f g : IssueFields}

/-- Whatever is known of the one is the same in the other: single fields that are set, lists
that are not empty, and custom fields one by one. -/
structure KeptIn (f g : IssueFields) : Prop where
  summary : ∀ value, f.summary = some value → g.summary = some value
  project : ∀ value, f.project = some value → g.project = some value
  issueType : ∀ value, f.issueType = some value → g.issueType = some value
  status : ∀ value, f.status = some value → g.status = some value
  priority : ∀ value, f.priority = some value → g.priority = some value
  resolution : ∀ value, f.resolution = some value → g.resolution = some value
  assignee : ∀ user, f.assignee = some user → g.assignee = some user
  reporter : ∀ user, f.reporter = some user → g.reporter = some user
  labels : f.labels ≠ [] → g.labels = f.labels
  watchers : f.watchers ≠ [] → g.watchers = f.watchers
  custom : ∀ key values, f.custom.get? key = some values → g.custom.get? key = some values

section Values

variable {α : Type} {a b c : List α}

theorem or_of_eq_some {first : Option α} {value : α} (known : first = some value)
    (second : Option α) : first.or second = some value := by
  rw [known, Option.some_or]

theorem orIfEmpty_of_ne_nil (known : a ≠ []) (b : List α) : orIfEmpty a b = a :=
  if_neg (by simpa using known)

theorem orIfEmpty_nil : orIfEmpty a [] = a := by
  cases a <;> rfl

theorem nil_orIfEmpty : orIfEmpty [] a = a := rfl

theorem orIfEmpty_assoc : orIfEmpty (orIfEmpty a b) c = orIfEmpty a (orIfEmpty b c) := by
  cases a <;> rfl

theorem orIfEmpty_self : orIfEmpty a a = a := by
  cases a <;> rfl

theorem orIfEmpty_orIfEmpty_self : orIfEmpty (orIfEmpty a b) a = orIfEmpty a b := by
  cases a with
  | nil => exact orIfEmpty_nil
  | cons x rest => rfl

theorem or_or_self (first second : Option α) : (first.or second).or first = first.or second := by
  cases first with
  | none => rw [Option.none_or, Option.or_none]
  | some value => rw [Option.some_or, Option.some_or]

end Values

theorem KeptIn.refl (f : IssueFields) : f.KeptIn f where
  summary _ known := known
  project _ known := known
  issueType _ known := known
  status _ known := known
  priority _ known := known
  resolution _ known := known
  assignee _ known := known
  reporter _ known := known
  labels _ := rfl
  watchers _ := rfl
  custom _ _ known := known

theorem keptIn_fillMissing (f g : IssueFields) : f.KeptIn (f.fillMissing g) where
  summary _ known := or_of_eq_some known g.summary
  project _ known := or_of_eq_some known g.project
  issueType _ known := or_of_eq_some known g.issueType
  status _ known := or_of_eq_some known g.status
  priority _ known := or_of_eq_some known g.priority
  resolution _ known := or_of_eq_some known g.resolution
  assignee _ known := or_of_eq_some known g.assignee
  reporter _ known := or_of_eq_some known g.reporter
  labels known := orIfEmpty_of_ne_nil known g.labels
  watchers known := orIfEmpty_of_ne_nil known g.watchers
  custom key _ known := (SortedMap.get?_union _ _ key).trans (or_of_eq_some known _)

theorem none_fillMissing (f : IssueFields) : none.fillMissing f = f := by
  simp [fillMissing, none, nil_orIfEmpty, SortedMap.empty_union]

theorem fillMissing_none (f : IssueFields) : f.fillMissing none = f := by
  simp [fillMissing, none, orIfEmpty_nil, SortedMap.union_empty]

theorem fillMissing_assoc (f g h : IssueFields) :
    (f.fillMissing g).fillMissing h = f.fillMissing (g.fillMissing h) := by
  simp only [fillMissing, Option.or_assoc, orIfEmpty_assoc, SortedMap.union_assoc]

theorem fillMissing_self (f : IssueFields) : f.fillMissing f = f := by
  simp only [fillMissing, Option.or_self, orIfEmpty_self, SortedMap.union_self]

/-- The same source has nothing more to give. -/
theorem fillMissing_again (f g : IssueFields) :
    (f.fillMissing g).fillMissing g = f.fillMissing g := by
  rw [fillMissing_assoc, fillMissing_self]

/-- Neither has what was there from the start, though another source came in between. -/
theorem fillMissing_back (f g : IssueFields) :
    (f.fillMissing g).fillMissing f = f.fillMissing g := by
  simp only [fillMissing, or_or_self, orIfEmpty_orIfEmpty_self, SortedMap.union_union_self]

/-- What matters has to be known from the one source or from the other. -/
theorem isComplete_fillMissing_iff (f g : IssueFields) :
    (f.fillMissing g).isComplete = true ↔
      (f.summary.isSome = true ∨ g.summary.isSome = true) ∧
      (f.project.isSome = true ∨ g.project.isSome = true) ∧
      (f.issueType.isSome = true ∨ g.issueType.isSome = true) := by
  simp only [isComplete, fillMissing, Option.isSome_or, Bool.and_eq_true, Bool.or_eq_true,
    and_assoc]

/-- Filling in is associative, sources without fields are neutral, and a source counts once, be it
the last or the first. The result is complete exactly where each field that matters is known from
one of the two, so what was complete remains so. -/
theorem fillMissing_laws (f g h : IssueFields) :
    (f.fillMissing g).fillMissing h = f.fillMissing (g.fillMissing h) ∧
    f.fillMissing none = f ∧ none.fillMissing f = f ∧
    (f.fillMissing g).fillMissing g = f.fillMissing g ∧
    (f.fillMissing g).fillMissing f = f.fillMissing g ∧
    ((f.fillMissing g).isComplete = true ↔
      (f.summary.isSome = true ∨ g.summary.isSome = true) ∧
      (f.project.isSome = true ∨ g.project.isSome = true) ∧
      (f.issueType.isSome = true ∨ g.issueType.isSome = true)) ∧
    (f.isComplete = true ∨ g.isComplete = true → (f.fillMissing g).isComplete = true) := by
  refine ⟨fillMissing_assoc f g h, fillMissing_none f, none_fillMissing f, fillMissing_again f g,
    fillMissing_back f g, isComplete_fillMissing_iff f g, fun complete => ?_⟩
  rw [isComplete_fillMissing_iff]
  simp only [isComplete, Bool.and_eq_true, and_assoc] at complete
  rcases complete with ⟨summary, project, issueType⟩ | ⟨summary, project, issueType⟩
  · exact ⟨.inl summary, .inl project, .inl issueType⟩
  · exact ⟨.inr summary, .inr project, .inr issueType⟩

/-- An issue as a webhook may send it, with little of its fields. -/
def partly : IssueFields :=
  { none with summary := some "Login", labels := ["web"] }

/-- The same issue as the tracker answers for it. -/
def wholly : IssueFields :=
  { none with
    summary := some "Log in"
    project := some ⟨"1", "P", "Portal"⟩
    issueType := some ⟨"2", "Bug"⟩
    labels := ["web", "sso"] }

/-- What the tracker answers completes what was sent, and leaves it as it was. -/
theorem partly_completed :
    partly.isComplete = false ∧ (partly.fillMissing wholly).isComplete = true ∧
      (partly.fillMissing wholly).summary = some "Login" ∧
      ((partly.fillMissing wholly).fillMissing partly).labels = ["web"] := by
  obtain ⟨-, -, -, -, back, -, kept⟩ := fillMissing_laws partly wholly none
  refine ⟨by decide, kept (.inr (by decide)), rfl, ?_⟩
  rw [back]
  rfl

end Herald.IssueFields
