import Herald.Sorted.Set

/-!
# Event flags

The fixed classification of events that subscriptions filter on.
-/

namespace Herald

inductive EventFlag where
  | created
  | deleted
  | deletedUnresolved
  | createdComment
  | updatedComment
  | deletedComment
  | updatedAssignee
  | updatedAttachment
  | updatedDescription
  | updatedLabels
  | updatedPriority
  | updatedRank
  | updatedSprint
  | updatedStatus
  | updatedSummary
  | updatedIssueType
  | updatedFixVersion
  | updatedAffectsVersion
  | reopened
  | resolved
  /-- Only in subscriptions, where it stands for every flag of an issue update. -/
  | updatedAny
  deriving DecidableEq, Repr

namespace EventFlag

def all : List EventFlag :=
  [.created, .deleted, .deletedUnresolved, .createdComment, .updatedComment, .deletedComment,
    .updatedAssignee, .updatedAttachment, .updatedDescription, .updatedLabels, .updatedPriority,
    .updatedRank, .updatedSprint, .updatedStatus, .updatedSummary, .updatedIssueType,
    .updatedFixVersion, .updatedAffectsVersion, .reopened, .resolved, .updatedAny]

/-- The name under which subscriptions store a flag. -/
def name : EventFlag → String
  | .created => "event_created"
  | .deleted => "event_deleted"
  | .deletedUnresolved => "event_deleted_unresolved"
  | .createdComment => "event_created_comment"
  | .updatedComment => "event_updated_comment"
  | .deletedComment => "event_deleted_comment"
  | .updatedAssignee => "event_updated_assignee"
  | .updatedAttachment => "event_updated_attachment"
  | .updatedDescription => "event_updated_description"
  | .updatedLabels => "event_updated_labels"
  | .updatedPriority => "event_updated_priority"
  | .updatedRank => "event_updated_rank"
  | .updatedSprint => "event_updated_sprint"
  | .updatedStatus => "event_updated_status"
  | .updatedSummary => "event_updated_summary"
  | .updatedIssueType => "event_updated_issue_type"
  | .updatedFixVersion => "event_updated_fix_version"
  | .updatedAffectsVersion => "event_updated_affects_version"
  | .reopened => "event_updated_reopened"
  | .resolved => "event_updated_resolved"
  | .updatedAny => "event_updated_any"

def ofName? (name : String) : Option EventFlag :=
  all.find? (·.name == name)

/-- The flag is one of the three for comments. -/
def isComment : EventFlag → Bool
  | .createdComment | .updatedComment | .deletedComment => true
  | _ => false

/-- The flag says that something about an existing issue changed: one of those
that `updatedAny` stands for. -/
def isIssueUpdate : EventFlag → Bool
  | .created | .deleted | .deletedUnresolved | .createdComment | .updatedComment
  | .deletedComment | .updatedAny => false
  | _ => true

instance : Ord EventFlag := ⟨compareOn EventFlag.ctorIdx⟩

instance : Std.TransOrd EventFlag := inferInstanceAs (Std.TransCmp (compareOn EventFlag.ctorIdx))

instance : Std.LawfulEqOrd EventFlag where
  eq_of_compare {a b} h := by
    have h : a.ctorIdx = b.ctorIdx := Std.LawfulEqOrd.eq_of_compare h
    revert h
    cases a <;> cases b <;> decide

theorem mem_all (f : EventFlag) : f ∈ all := by
  cases f <;> decide

theorem ofName?_name (f : EventFlag) : ofName? f.name = some f := by
  cases f <;> decide

end EventFlag

/-- The flags of an event, in the order of their declaration. -/
abbrev FlagSet := SortedSet EventFlag

end Herald
