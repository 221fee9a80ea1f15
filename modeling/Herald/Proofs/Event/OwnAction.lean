import Herald.Proofs.Event.Recipients

/-!
# Who is told of their own action

The account that acted is not told. Where an event is about a comment that is the comment's
author, whoever it is that the webhook names as having caused the event. Main statement: an
author is never told of the own comment, and who caused an event is told of it exactly where
it is about the comment of somebody else and concerns them (`actor_told_iff`).
-/

namespace Herald.Event

/-- The author of a comment is the one who acted. -/
theorem actingAccount_comment {e : Event} {comment : Comment} (present : e.comment = some comment) :
    e.actingAccount = some comment.author.account := by
  rw [actingAccount, present]

theorem actingAccount_actor {e : Event} {actor : User} (absent : e.comment = none)
    (named : e.actor = some actor) : e.actingAccount = some actor.account := by
  rw [actingAccount, absent, named]
  rfl

/-- The author of a comment is never told of it. Whom the webhook names as having caused the
event is told exactly where somebody else wrote the comment and the event concerns them. -/
theorem actor_told_iff {body : Bytes} {e : Event} (parsed : parse body = .ok (some e)) :
    (∀ comment, e.comment = some comment →
      ∀ n ∈ e.notifications, n.recipient.account ≠ comment.author.account) ∧
    ∀ actor, e.actor = some actor →
      ((∃ n ∈ e.notifications, n.recipient.account = actor.account) ↔
        ∃ comment, e.comment = some comment ∧ comment.author.account ≠ actor.account ∧
          ∃ n ∈ e.concerned, n.recipient.account = actor.account) := by
  have other := parse_not_acting parsed
  refine ⟨?_, fun actor named => ⟨?_, ?_⟩⟩
  · intro comment present n told same
    apply other n told
    rw [actingAccount_comment present, same]
  · rintro ⟨n, told, same⟩
    have apart := other n told
    rw [same] at apart
    cases present : e.comment with
    | none => exact absurd (actingAccount_actor present named).symm apart
    | some comment =>
      rw [actingAccount_comment present] at apart
      refine ⟨comment, rfl, ?_, n, concerned_of_told parsed told, same⟩
      exact fun author => apart (by rw [author])
  · rintro ⟨comment, present, author, n, concerned, same⟩
    have apart : some n.recipient.account ≠ e.actingAccount := by
      rw [actingAccount_comment present, same]
      exact fun acting => author (Option.some.inj acting).symm
    obtain ⟨m, told, account, -⟩ := exists_told parsed concerned apart
    exact ⟨m, told, account.trans same⟩

/-- The body of a webhook about a comment of "ann" that "bob" has edited, on an issue that is
assigned to him. -/
def editedBody : Bytes :=
  Text.Utf8.encode (
    "\x7b\"webhookEvent\":\"comment_updated\",\"user\":\x7b\"name\":\"bob\"\x7d," ++
    "\"issue\":\x7b\"key\":\"P-1\",\"fields\":\x7b\"assignee\":\x7b\"name\":\"bob\"\x7d\x7d\x7d," ++
    "\"comment\":\x7b\"id\":\"7\",\"self\":\"https://t/c/7\"," ++
    "\"author\":\x7b\"name\":\"ann\"\x7d\x7d\x7d")

private theorem editedBody_parsed : ∃ e, parse editedBody = .ok (some e) ∧
    e.actor = some ⟨⟨"bob"⟩, ""⟩ ∧ e.comment.map (·.author) = some ⟨⟨"ann"⟩, ""⟩ ∧
    ⟨⟨⟨"bob"⟩, ""⟩, .assignee⟩ ∈ e.notifications := by
  have about : (ofBody? editedBody).any (fun e => e.actor = some ⟨⟨"bob"⟩, ""⟩ ∧
      e.comment.map (·.author) = some ⟨⟨"ann"⟩, ""⟩ ∧
      ⟨⟨⟨"bob"⟩, ""⟩, .assignee⟩ ∈ e.notifications) = true := by
    decide +kernel
  obtain ⟨e, found, about⟩ := (Option.any_eq_true _ _).mp about
  exact ⟨e, ofBody?_eq_some_iff.mp found, of_decide_eq_true about⟩

/-- Some are told of what they did themselves. -/
theorem editor_told : ¬ ∀ (body : Bytes) (e : Event), parse body = .ok (some e) →
    ∀ n ∈ e.notifications, some n.recipient.account ≠ e.actor.map (·.account) ∧
      ∀ comment, e.comment = some comment → n.recipient.account ≠ comment.author.account := by
  intro excluded
  obtain ⟨e, parsed, actor, -, told⟩ := editedBody_parsed
  obtain ⟨apart, -⟩ := excluded _ e parsed _ told
  rw [actor] at apart
  exact apart rfl

/-- "bob" is told of his own edit because the comment is by "ann" and the issue is his. -/
theorem editor_concerned : ∃ e actor comment, parse editedBody = .ok (some e) ∧
    e.actor = some actor ∧ e.comment = some comment ∧
    comment.author.account ≠ actor.account ∧
    (∃ n ∈ e.concerned, n.recipient.account = actor.account) ∧
    ∃ n ∈ e.notifications, n.recipient.account = actor.account := by
  obtain ⟨e, parsed, actor, -, told⟩ := editedBody_parsed
  obtain ⟨-, decided⟩ := actor_told_iff parsed
  obtain ⟨comment, present, author, concerned⟩ := (decided _ actor).mp ⟨_, told, rfl⟩
  exact ⟨e, _, comment, parsed, actor, present, author, concerned, _, told, rfl⟩

end Herald.Event
