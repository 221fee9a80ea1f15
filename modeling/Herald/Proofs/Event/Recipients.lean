import Herald.Proofs.Event.Shape
import Mathlib.Data.List.Nodup

/-!
# Who is told directly, and why

An event concerns people for several reasons (`Event.parties`), and the same person may be
concerned for more than one. The direct messages that it asks for are worked out role by
role with the accounts kept in mind that were told before.

Main statements: this comes to sorting the people by role, leaving out who acted and keeping
the first entry of each account (`recipients_eq`), and so everybody else is told exactly once
and for the earliest reason (`notifications_by_first_role`).
-/

namespace Herald

namespace Notification

/-- The role of the first comes no later than that of the second. -/
def precedes (m n : Notification) : Bool :=
  Role.all.idxOf m.role ≤ Role.all.idxOf n.role

def sameAccount (m n : Notification) : Bool :=
  m.recipient.account == n.recipient.account

theorem precedes_trans (l m n : Notification) (first : l.precedes m = true)
    (second : m.precedes n = true) : l.precedes n = true := by
  unfold precedes at *
  rw [decide_eq_true_eq] at *
  exact Nat.le_trans first second

theorem precedes_total (m n : Notification) : (m.precedes n || n.precedes m) = true := by
  unfold precedes
  rw [Bool.or_eq_true, decide_eq_true_eq, decide_eq_true_eq]
  exact Nat.le_total _ _

theorem precedes_of_role_eq {m n : Notification} (same : m.role = n.role) :
    m.precedes n = true := by
  unfold precedes
  rw [same]
  exact decide_eq_true (Nat.le_refl _)

/-- Sorting by role moves nobody past another of the same role. -/
theorem filter_mergeSort (l : List Notification) (role : Role) :
    (l.mergeSort precedes).filter (·.role = role) = l.filter (·.role = role) := by
  have ofRole : ∀ n ∈ l.filter (·.role = role), n.role = role := by
    intro n member
    exact of_decide_eq_true (List.mem_filter.mp member).2
  have alike : (l.filter (·.role = role)).Pairwise fun m n => m.precedes n = true := by
    apply List.pairwise_of_forall_mem_list
    intro m hasM n hasN
    exact precedes_of_role_eq ((ofRole m hasM).trans (ofRole n hasN).symm)
  have kept : (l.filter (·.role = role)).Sublist (l.mergeSort precedes) :=
    List.sublist_mergeSort precedes_trans precedes_total alike List.filter_sublist
  have inside : (l.filter (·.role = role)).Sublist
      ((l.mergeSort precedes).filter (·.role = role)) := by
    have again := kept.filter (·.role = role)
    rwa [List.filter_eq_self.mpr (List.forall_mem_filter.mpr fun _ _ same => same)] at again
  have sizes : ((l.mergeSort precedes).filter (·.role = role)).length =
      (l.filter (·.role = role)).length :=
    ((List.mergeSort_perm l precedes).filter _).length_eq
  exact (inside.eq_of_length sizes.symm).symm

/-- A list in the order of the roles is made up of its parts for one role each. -/
theorem flatMap_filter_of_sorted {l : List Notification}
    (sorted : l.Pairwise fun m n => m.precedes n = true) :
    (Role.all.flatMap fun role => l.filter (·.role = role)) = l := by
  induction l with
  | nil => rfl
  | cons n rest ih =>
    obtain ⟨first, later⟩ := List.pairwise_cons.mp sorted
    have parts := ih later
    have passed : ∀ role, Role.all.idxOf role < Role.all.idxOf n.role →
        rest.filter (·.role = role) = [] := by
      intro role before
      rw [List.filter_eq_nil_iff]
      intro m member same
      have order := of_decide_eq_true (first m member)
      rw [of_decide_eq_true same] at order
      omega
    -- Of the roles before that of the first entry there is nobody among the rest.
    cases role : n.role with
    | assignee => simpa [Role.all, role] using parts
    | mention =>
      have assignees := passed .assignee (by rw [role]; decide)
      simpa [Role.all, role, assignees] using parts
    | reporter =>
      have assignees := passed .assignee (by rw [role]; decide)
      have mentions := passed .mention (by rw [role]; decide)
      simpa [Role.all, role, assignees, mentions] using parts
    | watching =>
      have assignees := passed .assignee (by rw [role]; decide)
      have mentions := passed .mention (by rw [role]; decide)
      have reporters := passed .reporter (by rw [role]; decide)
      simpa [Role.all, role, assignees, mentions, reporters] using parts

end Notification

namespace Event

open Notification (precedes sameAccount)

/-- The people who are told are the first entry of each account, without those who acted or
were told before. -/
theorem untold_eq (acting : Option AccountId) (told : List AccountId) (l : List Notification) :
    untold acting told l =
      ((l.filter fun n => some n.recipient.account ≠ acting).filter
        fun n => n.recipient.account ∉ told).eraseDupsBy sameAccount := by
  induction l generalizing told with
  | nil => rfl
  | cons n rest ih =>
    rw [untold]
    split
    · rename_i left
      rw [ih]
      rcases left with acted | before
      · simp [acted]
      · by_cases acted : some n.recipient.account = acting <;> simp [acted, before]
    · rename_i kept
      obtain ⟨other, fresh⟩ := not_or.mp kept
      rw [ih, List.filter_cons_of_pos (by simpa using other),
        List.filter_cons_of_pos (by simpa using fresh), List.eraseDupsBy_cons, List.filter_filter,
        List.filter_filter, List.filter_filter]
      congr 2
      apply List.filter_congr
      intro m _
      simp [sameAccount]

/-- Who is told comes in the order of the candidates. -/
theorem untold_sublist (acting : Option AccountId) (told : List AccountId)
    (l : List Notification) : (untold acting told l).Sublist l := by
  induction l generalizing told with
  | nil => exact List.Sublist.slnil
  | cons n rest ih =>
    rw [untold]
    split
    · exact (ih told).cons n
    · exact (ih _).cons_cons n

/-- Nobody is told twice, or again. -/
theorem untold_nodup (acting : Option AccountId) (told : List AccountId)
    (l : List Notification) :
    ((untold acting told l).map (·.recipient.account)).Nodup ∧
      ∀ n ∈ untold acting told l, n.recipient.account ∉ told := by
  induction l generalizing told with
  | nil => simp [untold]
  | cons n rest ih =>
    rw [untold]
    split
    · exact ih told
    · rename_i kept
      obtain ⟨-, fresh⟩ := not_or.mp kept
      obtain ⟨distinct, later⟩ := ih (n.recipient.account :: told)
      constructor
      · rw [List.map_cons, List.nodup_cons]
        refine ⟨fun again => ?_, distinct⟩
        obtain ⟨m, member, same⟩ := List.mem_map.mp again
        exact later m member (same ▸ List.mem_cons_self)
      · rw [List.forall_mem_cons]
        exact ⟨fresh, fun m member earlier => later m member (List.mem_cons_of_mem _ earlier)⟩

/-- Every candidate who neither acted nor was told before is told, in this entry or an
earlier one. -/
theorem exists_untold {acting : Option AccountId} {told : List AccountId}
    {R : Notification → Notification → Prop} (refl : ∀ n, R n n) {l : List Notification}
    (sorted : l.Pairwise R) {n : Notification} (listed : n ∈ l)
    (other : some n.recipient.account ≠ acting) (fresh : n.recipient.account ∉ told) :
    ∃ m ∈ untold acting told l, m.recipient.account = n.recipient.account ∧ R m n := by
  induction l generalizing told with
  | nil => cases listed
  | cons first rest ih =>
    obtain ⟨ahead, later⟩ := List.pairwise_cons.mp sorted
    rw [untold]
    by_cases same : first.recipient.account = n.recipient.account
    · have kept : ¬ (some first.recipient.account = acting ∨ first.recipient.account ∈ told) := by
        rw [same]
        exact not_or.mpr ⟨other, fresh⟩
      rw [if_neg kept]
      refine ⟨first, List.mem_cons_self, same, ?_⟩
      rcases List.mem_cons.mp listed with rfl | member
      · exact refl n
      · exact ahead n member
    · have member : n ∈ rest := by
        rcases List.mem_cons.mp listed with rfl | member
        · exact absurd rfl same
        · exact member
      split
      · exact ih later member fresh
      · have still : n.recipient.account ∉ first.recipient.account :: told := by
          simp [Ne.symm same, fresh]
        obtain ⟨m, found, account, order⟩ := ih later member still
        exact ⟨m, List.mem_cons_of_mem first found, account, order⟩

/-- The accounts that changes of the assignee move the issue to, with their names. -/
def assigned (e : Event) : List User :=
  (e.changelog.filter fun change =>
    Text.sameIgnoringAsciiCase change.field.toList "assignee".toList &&
      change.newId.getD "" != "").map
    fun change => ⟨⟨change.newId.getD ""⟩, change.newText.getD ""⟩

/-- The people whom an event concerns, by the reasons for it. -/
def parties (e : Event) : List (Role × List User) :=
  let fields := e.issue.fields
  match e.kind with
  | .issueCreated => [(.assignee, fields.assignee.toList)]
  | .issueUpdated => [(.assignee, e.assigned), (.watching, fields.watchers)]
  | .commentCreated | .commentUpdated =>
    [(.mention, e.comment.toList.flatMap fun comment =>
        (Mention.all comment.body).map (User.mk · "")),
      (.assignee, fields.assignee.toList), (.reporter, fields.reporter.toList),
      (.watching, fields.watchers)]
  | .issueDeleted | .commentDeleted => []

/-- Everybody whom an event concerns, each with the reason, reason by reason. -/
def concerned (e : Event) : List Notification :=
  e.parties.flatMap fun (role, users) => users.map (Notification.mk · role)

theorem filterMap_newAssignee? (e : Event) : e.changelog.filterMap newAssignee? = e.assigned := by
  unfold assigned
  induction e.changelog with
  | nil => rfl
  | cons change rest ih =>
    rw [List.filterMap_cons, List.filter_cons, ih]
    unfold newAssignee?
    generalize Text.sameIgnoringAsciiCase change.field.toList "assignee".toList = named
    cases named with
    | false => rfl
    | true =>
      cases given : change.newId with
      | none => rfl
      | some account =>
        by_cases unset : account = ""
        · simp [unset]
        · simp [unset, given]

theorem candidates_eq_concerned (e : Event) : e.candidates = e.concerned := by
  unfold candidates concerned parties
  rw [filterMap_newAssignee?]
  cases e.kind with
  | issueCreated => simp
  | issueUpdated => simp
  | issueDeleted => rfl
  | commentDeleted => rfl
  | commentCreated => cases e.comment <;> simp
  | commentUpdated => cases e.comment <;> simp

/-- The people are gone through in the order of their roles. -/
theorem recipients_eq_untold (e : Event) :
    e.recipients = untold e.actingAccount [] (e.concerned.mergeSort precedes) := by
  have sorted := List.pairwise_mergeSort Notification.precedes_trans Notification.precedes_total
    e.concerned
  have byRole : (Role.all.flatMap fun role => e.concerned.filter (·.role = role)) =
      e.concerned.mergeSort precedes := by
    rw [← Notification.flatMap_filter_of_sorted sorted]
    simp only [Notification.filter_mergeSort]
  rw [recipients, candidates_eq_concerned, byRole]

theorem recipients_eq (e : Event) :
    e.recipients =
      ((e.concerned.mergeSort precedes).filter fun n =>
        some n.recipient.account ≠ e.actingAccount).eraseDupsBy sameAccount := by
  rw [recipients_eq_untold, untold_eq]
  simp

/-- A parsed event tells its recipients. -/
theorem parse_notifications {body : Bytes} {e : Event} (parsed : parse body = .ok (some e)) :
    e.notifications = e.recipients := by
  obtain ⟨document, payload, -, -, stands⟩ := parse_eq_ok_iff.mp parsed
  obtain ⟨kind, issue, comment, key, link, -, -, -, -, -, -, rfl⟩ := ofPayload_eq_some_iff.mp stands
  rfl

/-- Whom an event concerns is told of it, for a reason that comes no later, unless they
acted. -/
theorem exists_told {body : Bytes} {e : Event} (parsed : parse body = .ok (some e))
    {n : Notification} (concerned : n ∈ e.concerned)
    (other : some n.recipient.account ≠ e.actingAccount) :
    ∃ m ∈ e.notifications, m.recipient.account = n.recipient.account ∧ m.precedes n = true := by
  have sorted := List.pairwise_mergeSort Notification.precedes_trans Notification.precedes_total
    e.concerned
  have listed : n ∈ e.concerned.mergeSort precedes := List.mem_mergeSort.mpr concerned
  have same : ∀ n : Notification, n.precedes n = true :=
    fun n => Notification.precedes_of_role_eq rfl
  rw [parse_notifications parsed, recipients_eq_untold]
  exact exists_untold same sorted listed other List.not_mem_nil

/-- Nobody is told whom the event does not concern. -/
theorem concerned_of_told {body : Bytes} {e : Event} (parsed : parse body = .ok (some e))
    {n : Notification} (told : n ∈ e.notifications) : n ∈ e.concerned := by
  rw [parse_notifications parsed, recipients_eq_untold] at told
  have kept := (untold_sublist e.actingAccount [] (e.concerned.mergeSort precedes)).subset told
  exact List.mem_mergeSort.mp kept

/-- Those who are told are the people whom the event concerns, sorted by role, without who
acted, and each account with its first entry only. So no account is told twice, the roles
come in their order, and everybody who is concerned and did not act is told once, for the
earliest reason. -/
theorem notifications_by_first_role {body : Bytes} {e : Event}
    (parsed : parse body = .ok (some e)) :
    e.notifications =
        ((e.concerned.mergeSort fun m n => Role.all.idxOf m.role ≤ Role.all.idxOf n.role).filter
          fun n => some n.recipient.account ≠ e.actingAccount).eraseDupsBy
            (fun m n => m.recipient.account == n.recipient.account) ∧
      (e.notifications.map (·.recipient.account)).Nodup ∧
      (e.notifications.Pairwise fun m n => Role.all.idxOf m.role ≤ Role.all.idxOf n.role) ∧
      (∀ n ∈ e.concerned, some n.recipient.account ≠ e.actingAccount →
        (e.notifications.map (·.recipient.account)).count n.recipient.account = 1) ∧
      ∀ n ∈ e.notifications, n ∈ e.concerned ∧ some n.recipient.account ≠ e.actingAccount ∧
        ∀ m ∈ e.concerned, m.recipient.account = n.recipient.account →
          Role.all.idxOf n.role ≤ Role.all.idxOf m.role := by
  have reference := (parse_notifications parsed).trans (recipients_eq e)
  have told := (parse_notifications parsed).trans (recipients_eq_untold e)
  have sorted := List.pairwise_mergeSort Notification.precedes_trans Notification.precedes_total
    e.concerned
  have part := untold_sublist e.actingAccount [] (e.concerned.mergeSort precedes)
  have distinct := (untold_nodup e.actingAccount [] (e.concerned.mergeSort precedes)).1
  rw [← told] at part distinct
  have reached : ∀ n ∈ e.concerned, some n.recipient.account ≠ e.actingAccount →
      ∃ m ∈ e.notifications, m.recipient.account = n.recipient.account ∧
        m.precedes n = true := by
    intro n concerned other
    rw [told]
    exact exists_untold (fun n => Notification.precedes_of_role_eq rfl) sorted
      (List.mem_mergeSort.mpr concerned) other List.not_mem_nil
  refine ⟨reference, distinct, ?_, ?_, ?_⟩
  · exact (sorted.sublist part).imp of_decide_eq_true
  · intro n concerned other
    obtain ⟨m, member, account, -⟩ := reached n concerned other
    apply List.count_eq_one_of_mem distinct
    exact account ▸ List.mem_map_of_mem member
  · intro n member
    have other := parse_not_acting parsed n member
    refine ⟨List.mem_mergeSort.mp (part.subset member), other, ?_⟩
    intro m concerned same
    obtain ⟨first, found, account, order⟩ := reached m concerned (same ▸ other)
    have entry : first = n :=
      List.inj_on_of_nodup_map distinct found member (account.trans same)
    rw [entry] at order
    exact of_decide_eq_true order

/-- The body of a webhook about a comment of "ann" in which she mentions "bea", whom the
issue is assigned to, herself, and "eve". Among the watchers are "bea" again and "cal", who
has reported the issue. -/
def crowdedBody : Bytes :=
  Text.Utf8.encode (
    "\x7b\"webhookEvent\":\"comment_created\",\"issue\":\x7b\"key\":\"P-1\",\"fields\":" ++
    "\x7b\"assignee\":\x7b\"name\":\"bea\"\x7d,\"reporter\":\x7b\"name\":\"cal\"\x7d," ++
    "\"watches\":\x7b\"watchers\":[\x7b\"name\":\"cal\"\x7d,\x7b\"name\":\"dan\"\x7d," ++
    "\x7b\"name\":\"bea\"\x7d]\x7d\x7d\x7d," ++
    "\"comment\":\x7b\"id\":\"7\",\"self\":\"https://t/c/7\"," ++
    "\"body\":\"[~bea] [~accountid:ann] [~eve]\",\"author\":\x7b\"name\":\"ann\"\x7d\x7d\x7d")

/-- Of the three reasons to tell "bea" the assignment counts, and "ann" is not told. -/
theorem crowded_comment_told :
    ∃ e, parse crowdedBody = .ok (some e) ∧
      e.notifications.map (fun n => (n.recipient.account.text, n.role)) =
        [("bea", .assignee), ("eve", .mention), ("cal", .reporter), ("dan", .watching)] ∧
      (e.concerned.filter (·.recipient.account = ⟨"bea"⟩)).map (·.role) =
        [.mention, .assignee, .watching] ∧
      (e.notifications.map (·.recipient.account)).count ⟨"bea"⟩ = 1 := by
  have about : (ofBody? crowdedBody).any (fun e =>
      e.notifications.map (fun n => (n.recipient.account.text, n.role)) =
          [("bea", .assignee), ("eve", .mention), ("cal", .reporter), ("dan", .watching)] ∧
        (e.concerned.filter (·.recipient.account = ⟨"bea"⟩)).map (·.role) =
          [.mention, .assignee, .watching] ∧
        ⟨⟨⟨"bea"⟩, ""⟩, .watching⟩ ∈ e.concerned ∧ e.actingAccount = some ⟨"ann"⟩) = true := by
    decide +kernel
  obtain ⟨e, found, about⟩ := (Option.any_eq_true _ _).mp about
  obtain ⟨told, reasons, watches, acting⟩ := of_decide_eq_true about
  have parsed := ofBody?_eq_some_iff.mp found
  obtain ⟨-, -, -, once, -⟩ := notifications_by_first_role parsed
  exact ⟨e, parsed, told, reasons, once _ watches (by rw [acting]; decide)⟩

end Event

end Herald
