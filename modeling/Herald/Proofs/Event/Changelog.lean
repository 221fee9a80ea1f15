import Herald.Proofs.Event.Recipients

/-!
# The flags of a changelog

Each change of an issue's field is classified by itself, and the flags of an update are those
of its changes together. One field is looked for twice, by its name in lower case to classify
the change and regardless of the case of ASCII letters to tell the new assignee.

Main statements: an update has the union of the flags of its changes, however often they occur
and in whatever order (`flagsOf_eq_flagsTogether`), both ways of looking for the assignee find
the same changes (`flag?_eq_updatedAssignee_iff`), and so the two agree on an update that a
webhook stands for (`update_flagged`).
-/

namespace Herald

namespace SortedSet

variable {α : Type} [Ord α] [Std.TransOrd α]

/-- The elements of both sets. -/
def union (s t : SortedSet α) : SortedSet α :=
  ofList (s.toList ++ t.toList)

@[simp] theorem mem_union [Std.LawfulEqOrd α] {a : α} {s t : SortedSet α} :
    a ∈ s.union t ↔ a ∈ s ∨ a ∈ t := by
  rw [union, mem_ofList, List.mem_append]
  rfl

end SortedSet

namespace Change

/-- The flags of a change, of which there is one at most. -/
def flags (change : Change) : FlagSet :=
  SortedSet.ofList change.flag?.toList

/-- The union of the flags of the changes. -/
def flagsTogether (changes : List Change) : FlagSet :=
  changes.foldr (fun change known => change.flags.union known) .empty

@[simp] theorem mem_flags {change : Change} {flag : EventFlag} :
    flag ∈ change.flags ↔ change.flag? = some flag := by
  rw [flags, SortedSet.mem_ofList, Option.mem_toList]

@[simp] theorem mem_flagsTogether {changes : List Change} {flag : EventFlag} :
    flag ∈ flagsTogether changes ↔ ∃ change ∈ changes, change.flag? = some flag := by
  induction changes with
  | nil => simp [flagsTogether]
  | cons change rest ih =>
    have step : flagsTogether (change :: rest) = change.flags.union (flagsTogether rest) := rfl
    rw [step, SortedSet.mem_union, mem_flags, ih, List.exists_mem_cons_iff]

/-- Only which flags occur matters. -/
theorem flagsTogether_congr {changes changes' : List Change}
    (same : ∀ flag, (∃ change ∈ changes, change.flag? = some flag) ↔
      ∃ change ∈ changes', change.flag? = some flag) :
    flagsTogether changes = flagsTogether changes' := by
  apply SortedSet.ext_mem
  intro flag
  rw [mem_flagsTogether, mem_flagsTogether, same flag]

theorem flagsTogether_append (changes more : List Change) :
    flagsTogether (changes ++ more) = (flagsTogether changes).union (flagsTogether more) := by
  apply SortedSet.ext_mem
  intro flag
  simp [or_and_right, exists_or]

theorem flagsTogether_perm {changes changes' : List Change} (moved : changes.Perm changes') :
    flagsTogether changes = flagsTogether changes' := by
  apply flagsTogether_congr
  intro flag
  simp only [moved.mem_iff]

theorem flagsTogether_again {changes : List Change} {change : Change} (there : change ∈ changes) :
    flagsTogether (change :: changes) = flagsTogether changes := by
  apply flagsTogether_congr
  intro flag
  rw [List.exists_mem_cons_iff]
  exact or_iff_right_of_imp fun classified => ⟨change, there, classified⟩

theorem flagsTogether_unclassified {change : Change} (unclassified : change.flag? = none)
    (changes more : List Change) :
    flagsTogether (changes ++ change :: more) = flagsTogether (changes ++ more) := by
  apply flagsTogether_congr
  intro flag
  simp [unclassified, or_and_right, exists_or]

/-- The fields that are classified. -/
def classified : List String :=
  ["assignee", "attachment", "description", "labels", "priority", "rank", "sprint", "status",
    "summary", "issuetype", "fix version", "version", "resolution"]

/-- The name of the field, in lower case. -/
def lowerField (change : Change) : String :=
  String.ofList (Text.lower change.field.toList)

theorem flag?_eq (change : Change) :
    change.flag? = if change.lowerField = "resolution" then
      if change.newId.getD "" = "" then some .reopened else some .resolved
    else fieldFlags.lookup change.lowerField :=
  rfl

/-- A change is classified by its field. -/
theorem flag?_isSome_iff {change : Change} :
    change.flag?.isSome = true ↔ change.lowerField ∈ classified := by
  rw [flag?_eq]
  have names : classified = fieldFlags.map (·.1) ++ ["resolution"] := rfl
  rw [names, List.mem_append, List.mem_singleton]
  split
  · rename_i resolution
    split <;> simp [resolution]
  · rename_i other
    simp [other, List.lookup_isSome_iff]

/-- The assignee is looked for by name in lower case. -/
theorem flag?_eq_updatedAssignee_iff_lowerField {change : Change} :
    change.flag? = some .updatedAssignee ↔ change.lowerField = "assignee" := by
  rw [flag?_eq]
  split
  · rename_i resolution
    split <;> simp [resolution]
  · constructor
    · intro found
      have only : ∀ entry ∈ fieldFlags, entry.2 = .updatedAssignee → entry.1 = "assignee" := by
        decide
      obtain ⟨before, after, split, -⟩ := List.lookup_eq_some_iff.mp found
      have listed : (change.lowerField, EventFlag.updatedAssignee) ∈ fieldFlags := by
        rw [split]
        exact List.mem_append_right before List.mem_cons_self
      exact only _ listed rfl
    · intro assignee
      rw [assignee]
      rfl

/-- Both ways of looking for a change of the assignee come to the same. -/
theorem flag?_eq_updatedAssignee_iff {change : Change} :
    change.flag? = some .updatedAssignee ↔
      Text.sameIgnoringAsciiCase change.field.toList "assignee".toList = true := by
  have tested : ("assignee".toList.all fun c => c.toNat < 0x80 ∧ c ≠ 'k') = true := by decide
  have ascii : ∀ c ∈ "assignee".toList, c.toNat < 0x80 ∧ c ≠ 'k' := fun c member =>
    of_decide_eq_true (List.all_eq_true.mp tested c member)
  have lowered : "assignee".toList.map Char.toLower = "assignee".toList := rfl
  rw [flag?_eq_updatedAssignee_iff_lowerField, Text.sameIgnoringAsciiCase, lowered, beq_iff_eq,
    ← Text.lower_eq_iff ascii, lowerField, ← String.toList_inj, String.toList_ofList]

end Change

namespace Event

theorem flagsOf_eq_flagsTogether (fields : IssueFields) (changes : List Change) :
    flagsOf .issueUpdated fields changes = Change.flagsTogether changes := by
  apply SortedSet.ext_mem
  intro flag
  rw [flagsOf, SortedSet.mem_ofList, Change.mem_flagsTogether, List.mem_filterMap]

/-- The changelog of a parsed event is that of its payload. -/
theorem parse_changelog {body : Bytes} {document : Json} {p : Payload} {e : Event}
    (read : Json.read? body = some document) (decoded : Payload.decode document = some p)
    (parsed : parse body = .ok (some e)) :
    p.kind? = some e.kind ∧ e.changelog = p.changelog.getD [] ∧
      ∃ issue, p.issue = some issue ∧
        e.flags = flagsOf e.kind issue.issueFields (p.changelog.getD []) := by
  obtain ⟨document', p', read', decoded', stands⟩ := parse_eq_ok_iff.mp parsed
  cases read.symm.trans read'
  cases decoded.symm.trans decoded'
  obtain ⟨kind, issue, comment, key, link, declared, given, -, -, -, -, rfl⟩ :=
    ofPayload_eq_some_iff.mp stands
  exact ⟨declared, rfl, issue, given, rfl⟩

/-- Of those whom an update of an issue concerns, the new assignees are told as such. -/
theorem mem_concerned_assignee {e : Event} (update : e.kind = .issueUpdated) {n : Notification}
    (role : n.role = .assignee) : n ∈ e.concerned ↔ n.recipient ∈ e.assigned := by
  obtain ⟨recipient, reason⟩ := n
  subst role
  have parties : e.parties = [(.assignee, e.assigned), (.watching, e.issue.fields.watchers)] := by
    rw [Event.parties, update]
  rw [concerned, parties]
  simp

theorem mem_assigned {e : Event} {u : User} :
    u ∈ e.assigned ↔ ∃ change ∈ e.changelog,
      Text.sameIgnoringAsciiCase change.field.toList "assignee".toList = true ∧
      change.newId.getD "" ≠ "" ∧ u = ⟨⟨change.newId.getD ""⟩, change.newText.getD ""⟩ := by
  rw [assigned, List.mem_map]
  constructor
  · rintro ⟨change, kept, rfl⟩
    obtain ⟨listed, tests⟩ := List.mem_filter.mp kept
    obtain ⟨named, set⟩ := Bool.and_eq_true_iff.mp tests
    exact ⟨change, listed, named, by simpa using set, rfl⟩
  · rintro ⟨change, listed, named, set, rfl⟩
    refine ⟨change, List.mem_filter.mpr ⟨listed, ?_⟩, rfl⟩
    rw [named, Bool.true_and, bne_iff_ne]
    exact set

/-- Who is told as the new assignee of an update was made it by a change of the assignee. -/
theorem updatedAssignee_of_told {body : Bytes} {e : Event} (parsed : parse body = .ok (some e))
    (update : e.kind = .issueUpdated) {n : Notification} (told : n ∈ e.notifications)
    (role : n.role = .assignee) : .updatedAssignee ∈ Change.flagsTogether e.changelog := by
  have assigned := (mem_concerned_assignee update role).mp (concerned_of_told parsed told)
  obtain ⟨change, listed, named, -, -⟩ := mem_assigned.mp assigned
  rw [Change.mem_flagsTogether]
  exact ⟨change, listed, Change.flag?_eq_updatedAssignee_iff.mpr named⟩

/-- Whom a change makes the assignee is told as such, unless they made it. -/
theorem exists_told_assignee {body : Bytes} {e : Event} (parsed : parse body = .ok (some e))
    (update : e.kind = .issueUpdated) {change : Change} (listed : change ∈ e.changelog)
    (named : Text.sameIgnoringAsciiCase change.field.toList "assignee".toList = true)
    {account : String} (becomes : change.newId = some account) (set : account ≠ "")
    (other : e.actor.map (·.account) ≠ some ⟨account⟩) :
    ∃ n ∈ e.notifications, n.role = .assignee ∧ n.recipient.account = ⟨account⟩ := by
  let n : Notification := ⟨⟨⟨account⟩, change.newText.getD ""⟩, .assignee⟩
  have concerned : n ∈ e.concerned := by
    rw [mem_concerned_assignee update rfl, mem_assigned]
    refine ⟨change, listed, named, ?_, ?_⟩ <;> rw [becomes]
    · exact set
    · rfl
  have uncommented : e.comment = none := by
    have about := (parse_aboutComment parsed).2
    rw [update] at about
    exact Option.isSome_eq_false_iff.mp about |> Option.isNone_iff_eq_none.mp
  have apart : some n.recipient.account ≠ e.actingAccount := by
    rw [actingAccount, uncommented]
    exact other.symm
  obtain ⟨m, told, account, order⟩ := exists_told parsed concerned apart
  have first : Role.all.idxOf m.role ≤ Role.all.idxOf Role.assignee := of_decide_eq_true order
  refine ⟨m, told, ?_, account⟩
  cases role : m.role with
  | assignee => rfl
  | _ =>
    rw [role] at first
    exact absurd first (by decide)

/-- The flags of an update are the union of those of its changes, and it is ignored where
there are none. -/
theorem update_flagged {body : Bytes} {document : Json} {p : Payload}
    (read : Json.read? body = some document) (decoded : Payload.decode document = some p)
    (declared : p.kind? = some .issueUpdated) (given : p.issue.isSome = true) :
    (parse body = .ok none ↔ Change.flagsTogether (p.changelog.getD []) = .empty) ∧
    (∀ e, parse body = .ok (some e) →
      e.changelog = p.changelog.getD [] ∧ e.flags = Change.flagsTogether e.changelog ∧
      ((∃ n ∈ e.notifications, n.role = .assignee) → .updatedAssignee ∈ e.flags) ∧
      ∀ change ∈ e.changelog,
        Text.sameIgnoringAsciiCase change.field.toList "assignee".toList = true →
        ∀ account, change.newId = some account → account ≠ "" →
          e.actor.map (·.account) ≠ some ⟨account⟩ →
          ∃ n ∈ e.notifications, n.role = .assignee ∧ n.recipient.account = ⟨account⟩) ∧
    (∀ fields changes more, flagsOf .issueUpdated fields (changes ++ more) =
      (flagsOf .issueUpdated fields changes).union (flagsOf .issueUpdated fields more)) ∧
    (∀ fields, ∀ changes changes' : List Change, changes.Perm changes' →
      flagsOf .issueUpdated fields changes = flagsOf .issueUpdated fields changes') ∧
    (∀ fields changes, ∀ change ∈ changes,
      flagsOf .issueUpdated fields (change :: changes) = flagsOf .issueUpdated fields changes) ∧
    (∀ fields changes change more, change.flag? = none →
      flagsOf .issueUpdated fields (changes ++ change :: more) =
        flagsOf .issueUpdated fields (changes ++ more)) ∧
    ∀ change : Change, change.flag? = some .updatedAssignee ↔
      Text.sameIgnoringAsciiCase change.field.toList "assignee".toList = true := by
  obtain ⟨issue, present⟩ := Option.isSome_iff_exists.mp given
  simp only [flagsOf_eq_flagsTogether]
  refine ⟨?_, ?_, fun _ => Change.flagsTogether_append, fun _ _ _ => Change.flagsTogether_perm,
    fun _ _ _ => Change.flagsTogether_again, ?_, fun _ => Change.flag?_eq_updatedAssignee_iff⟩
  · have ignored : parse body = .ok none ↔ ofPayload p = .ok none := by
      rw [parse_eq_ok_iff]
      simp [read, decoded]
    rw [ignored, ofPayload_eq_none_iff, declared, present]
    simp [flagsOf_eq_flagsTogether, SortedSet.isEmpty_iff]
  · intro e parsed
    obtain ⟨kind, changelog, issue, -, flags⟩ := parse_changelog read decoded parsed
    have update : e.kind = .issueUpdated := Option.some.inj (kind.symm.trans declared)
    rw [update, flagsOf_eq_flagsTogether, ← changelog] at flags
    refine ⟨changelog, flags, ?_, ?_⟩
    · rintro ⟨n, told, role⟩
      rw [flags]
      exact updatedAssignee_of_told parsed update told role
    · intro change listed named account becomes set other
      exact exists_told_assignee parsed update listed named becomes set other
  · intro _ changes change more unclassified
    exact Change.flagsTogether_unclassified unclassified changes more

/-- The body of a webhook about an update by "ann" that hands the issue over to "bea", moves it
on and says how long it will take. -/
def handedOverBody : Bytes :=
  Text.Utf8.encode (
    "\x7b\"webhookEvent\":\"jira:issue_updated\",\"user\":\x7b\"name\":\"ann\"\x7d," ++
    "\"issue\":\x7b\"key\":\"P-1\",\"self\":\"https://t/i/1\"\x7d,\"changelog\":\x7b\"items\":[" ++
    "\x7b\"field\":\"timeestimate\",\"to\":\"60\"\x7d,\x7b\"field\":\"Status\",\"to\":\"3\"\x7d," ++
    "\x7b\"field\":\"ASSIGNEE\",\"to\":\"bea\"\x7d,\x7b\"field\":\"status\",\"to\":\"4\"\x7d]\x7d\x7d")

/-- The issue has two flags for its four changes, and "bea" is told. -/
theorem handed_over_flagged :
    ∃ document p e, Json.read? handedOverBody = some document ∧
      Payload.decode document = some p ∧ p.kind? = some .issueUpdated ∧
      p.issue.isSome = true ∧ parse handedOverBody = .ok (some e) ∧ e.changelog.length = 4 ∧
      e.flags = Change.flagsTogether e.changelog ∧
      e.flags = SortedSet.ofList [.updatedAssignee, .updatedStatus] ∧
      ∃ n ∈ e.notifications, n.role = .assignee ∧ n.recipient.account = ⟨"bea"⟩ := by
  let change : Change := ⟨"ASSIGNEE", none, none, some "bea", none⟩
  have about : (ofBody? handedOverBody).any (fun e => e.kind = .issueUpdated ∧
      e.changelog.length = 4 ∧ change ∈ e.changelog ∧ e.actor = some ⟨⟨"ann"⟩, ""⟩ ∧
      e.flags = SortedSet.ofList [.updatedAssignee, .updatedStatus]) = true := by
    decide +kernel
  obtain ⟨e, found, about⟩ := (Option.any_eq_true _ _).mp about
  obtain ⟨update, size, listed, actor, two⟩ := of_decide_eq_true about
  have parsed := ofBody?_eq_some_iff.mp found
  obtain ⟨document, p, read, decoded, -⟩ := parse_eq_ok_iff.mp parsed
  obtain ⟨kind, -, issue, present, -⟩ := parse_changelog read decoded parsed
  rw [update] at kind
  have given : p.issue.isSome = true := by rw [present, Option.isSome_some]
  obtain ⟨-, events, -⟩ := update_flagged read decoded kind given
  obtain ⟨-, flags, -, assigned⟩ := events e parsed
  have other : e.actor.map (·.account) ≠ some ⟨"bea"⟩ := by
    rw [actor]
    decide
  have told := assigned change listed (by decide) "bea" rfl (by decide) other
  exact ⟨document, p, e, read, decoded, kind, given, parsed, size, flags, two, told⟩

end Event

end Herald
