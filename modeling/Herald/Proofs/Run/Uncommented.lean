import Herald.Proofs.Event.Verdict
import Herald.Proofs.Run.Visibility

/-!
# Comments in webhooks about issues

A tracker may send the comment that came with a change of an issue inside the webhook about the
issue. What such a webhook stands for is posted without a look at who may see the comment, so
nothing of the comment may have a part in it.

Main statements: the comment of a webhook about an issue makes no difference to what the webhook is
parsed to (`parse_recommented`), nor to anything that is asked or posted in its run, and every
event that is posted without its comment having been read stands for such a webhook
(`issue_webhooks_uncommented`).
-/

namespace Herald

namespace Payload

/-- The webhook declares that an issue was created, deleted or updated, where the finer type of the
update is none of those for comments. -/
def isAboutIssue (document : Json) : Bool :=
  declares document ["jira:issue_created", "jira:issue_deleted"] || isUpdate document

/-- What is handled is about an issue or about a comment. -/
theorem isAboutIssue_eq (document : Json) :
    isAboutIssue document = (declares document handled && !isAboutComment document) := by
  unfold isAboutIssue isUpdate isAboutComment declares handled
  cases document.part? keys "webhookEvent" with
  | none => rfl
  | some part =>
    cases part with
    | string type =>
      by_cases updated : type = "jira:issue_updated"
      · cases detailed : details document commentUpdates <;> simp [updated]
      · by_cases about : type ∈ ["comment_created", "comment_updated", "comment_deleted"]
        · have other : type ∉ ["jira:issue_created", "jira:issue_deleted"] := by
            intro issue
            simp only [List.mem_cons, List.not_mem_nil, or_false] at about issue
            rcases issue with rfl | rfl <;> simp at about
          simp [about, other, updated]
        · simp_all
    | _ => rfl

/-- The second document says what the first does, but for the comment, which it may lack. Either
comment is null or can be read, where it is there. -/
structure Recommented (document document' : Json) : Prop where
  isRecord : (document'.record keys keys.length).isSome = (document.record keys keys.length).isSome
  others : ∀ key ∈ keys, key ≠ "comment" → document'.part? keys key = document.part? keys key
  readable : (Json.optional Comment.decode (document.part? keys "comment")).isSome = true
  readable' : (Json.optional Comment.decode (document'.part? keys "comment")).isSome = true

/-- All members with another key are among those that are not the comment. -/
theorem filter_key_eq {key : String} (other : key ≠ "comment") (members : List (String × Json)) :
    members.filter (·.1 == key) = (members.filter (·.1 != "comment")).filter (·.1 == key) := by
  rw [List.filter_filter]
  refine List.filter_congr fun member _ => ?_
  by_cases same : member.1 = key
  · simp [same, other]
  · simp [same]

/-- Documents with the same members, but for one that is the comment. -/
theorem Recommented.of_members {members members' : List (String × Json)}
    (others : members'.filter (·.1 != "comment") = members.filter (·.1 != "comment"))
    (once : (members.filter (·.1 == "comment")).length ≤ 1)
    (once' : (members'.filter (·.1 == "comment")).length ≤ 1)
    (readable : ∀ member ∈ members, member.1 = "comment" →
      (Json.optional Comment.decode (some member.2)).isSome = true)
    (readable' : ∀ member ∈ members', member.1 = "comment" →
      (Json.optional Comment.decode (some member.2)).isSome = true) :
    Recommented (.object members) (.object members') := by
  have same {key : String} (other : key ≠ "comment") :
      members'.filter (·.1 == key) = members.filter (·.1 == key) := by
    rw [filter_key_eq other, filter_key_eq other members, others]
  have unrepeated : Json.unrepeated keys members' = Json.unrepeated keys members := by
    refine List.all_congr rfl fun key => ?_
    by_cases comment : key = "comment"
    · subst comment
      rw [decide_eq_true once, decide_eq_true once']
    · rw [same comment]
  have found {members : List (String × Json)} (readable : ∀ member ∈ members,
      member.1 = "comment" → (Json.optional Comment.decode (some member.2)).isSome = true) :
      (Json.optional Comment.decode
        ((Json.object members).part? keys "comment")).isSome = true := by
    rw [Json.part?, Json.member?]
    cases sought : members.reverse.find? (·.1 == "comment") with
    | none => rfl
    | some member =>
      have named := List.find?_some sought
      exact readable member (List.mem_reverse.mp (List.mem_of_find?_eq_some sought))
        (beq_iff_eq.mp named)
  refine ⟨?_, fun key _ other => ?_, found readable, found readable'⟩
  · rw [Json.record, Json.record, unrepeated]
    split <;> rfl
  · rw [Json.part?, Json.part?, Json.member?, Json.member?, ← List.head?_filter,
      ← List.head?_filter, List.filter_reverse, List.filter_reverse, same other]

/-- The payload is the same but for the comment. -/
theorem Recommented.decode_eq {document document' : Json}
    (recommented : Recommented document document') :
    ∃ comment, decode document' = (decode document).map fun p => { p with comment } := by
  obtain ⟨comment, decoded⟩ := Option.isSome_iff_exists.mp recommented.readable
  obtain ⟨comment', decoded'⟩ := Option.isSome_iff_exists.mp recommented.readable'
  refine ⟨comment', ?_⟩
  have isRecord := recommented.isRecord
  change (document'.record keys keys.length).bind _ =
    ((document.record keys keys.length).bind _).map _
  cases read : document.record keys keys.length with
  | none =>
    rw [read, Option.isSome_none, Option.isSome_eq_false_iff, Option.isNone_iff_eq_none] at isRecord
    rw [isRecord]
    rfl
  | some m =>
    rw [read, Option.isSome_some] at isRecord
    obtain ⟨m', read'⟩ := Option.isSome_iff_exists.mp isRecord
    have same (key : String) (known : key ∈ keys) (other : key ≠ "comment") : m' key = m key := by
      rw [Json.record_eq_part? read known, Json.record_eq_part? read' known]
      exact recommented.others key known other
    rw [← Json.record_eq_part? read (by decide)] at decoded
    rw [← Json.record_eq_part? read' (by decide)] at decoded'
    rw [read']
    simp only [Option.bind_some, Option.bind_eq_bind, Option.map_bind, Function.comp_def, decoded,
      decoded', same "webhookEvent" (by decide) (by decide),
      same "issue_event_type_name" (by decide) (by decide),
      same "timestamp" (by decide) (by decide), same "user" (by decide) (by decide),
      same "issue" (by decide) (by decide), same "changelog" (by decide) (by decide)]
    rfl

/-- What a webhook about no comment stands for is made up without one. -/
theorem ofPayload_uncommented {p : Payload} (comment : Option Comment)
    (other : ∀ kind, p.kind? = some kind → kind.isComment = false) :
    Event.ofPayload { p with comment } = Event.ofPayload p := by
  have declared : Payload.kind? { p with comment } = p.kind? := rfl
  unfold Event.ofPayload
  rw [declared]
  cases kind : p.kind? with
  | none => rfl
  | some given =>
    cases given with
    | issueCreated | issueUpdated | issueDeleted => rfl
    | commentCreated | commentUpdated | commentDeleted => cases other _ kind

end Payload

namespace Event

/-- Webhooks about the same issue are parsed to the same with any comment and without one. -/
theorem parse_recommented {body body' : Bytes} {document document' : Json}
    (read : Json.read? body = some document) (read' : Json.read? body' = some document')
    (about : Payload.isAboutIssue document = true)
    (recommented : Payload.Recommented document document') : parse body' = parse body := by
  rw [Payload.isAboutIssue_eq, Bool.and_eq_true, Bool.not_eq_true'] at about
  obtain ⟨comment, decoded'⟩ := recommented.decode_eq
  unfold parse ofJson
  rw [read, read']
  dsimp only
  rw [decoded']
  cases decoded : Payload.decode document with
  | none => rfl
  | some p =>
    refine Payload.ofPayload_uncommented comment fun kind declared => ?_
    rw [← (Payload.checked_of_decode decoded).aboutComment kind declared, about.2]

/-- A webhook that stands for an event is about an issue exactly where the event has no flag for
comments. -/
theorem isAboutIssue_of_parse {body : Bytes} {document : Json} {e : Event}
    (read : Json.read? body = some document) (parsed : parse body = .ok (some e)) :
    Payload.isAboutIssue document = !e.isCommentEvent := by
  obtain ⟨flagged, -⟩ := parse_aboutComment parsed
  obtain ⟨payload, decoded, stands⟩ := payload_of_parse read parsed
  obtain ⟨issue, declared, -⟩ := ofPayload_some stands
  have checked := Payload.checked_of_decode decoded
  rw [Payload.isAboutIssue_eq, checked.handled, checked.aboutComment _ declared, declared, flagged]
  rfl

theorem parse_aboutIssue {body : Bytes} {e : Event} (parsed : parse body = .ok (some e))
    (unflagged : e.isCommentEvent = false) :
    ∃ document, Json.read? body = some document ∧ Payload.isAboutIssue document = true := by
  obtain ⟨document, -, read, -⟩ := parse_eq_ok_iff.mp parsed
  exact ⟨document, read, by rw [isAboutIssue_of_parse read parsed, unflagged, Bool.not_false]⟩

/-- The event of a webhook about an issue has neither a flag for comments nor a comment. -/
theorem parse_uncommented {body : Bytes} {document : Json} {e : Event}
    (read : Json.read? body = some document) (about : Payload.isAboutIssue document = true)
    (parsed : parse body = .ok (some e)) : e.isCommentEvent = false ∧ e.comment = none := by
  rw [isAboutIssue_of_parse read parsed, Bool.not_eq_true'] at about
  obtain ⟨flagged, present⟩ := parse_aboutComment parsed
  rw [← flagged, about, Option.isSome_eq_false_iff, Option.isNone_iff_eq_none] at present
  exact ⟨about, present⟩

end Event

namespace Webhook

variable {σ : Type}

/-- Where something is posted to a channel and no comment was read before, there was no flag for
comments. -/
theorem aboutIssue_of_unread {c : Collaborators σ} {s : σ} {sender : UserId} {w : Webhook}
    {post : Exchange} (posted : post ∈ (w.relay sender).trace c s)
    (channel : post.call.channel? ≠ none)
    (unread : ∀ x ∈ (w.relay sender).trace c s, ∀ (session : Session) comment,
      x.call ≠ session.commentCall comment) :
    ∃ document, Json.read? w.body = some document ∧ Payload.isAboutIssue document = true := by
  obtain ⟨e, parsed⟩ := w.exists_event_of_mem_trace posted
  refine Event.parse_aboutIssue parsed ?_
  by_contra flagged
  rw [Bool.not_eq_false] at flagged
  obtain ⟨comment, present⟩ := Event.exists_comment parsed flagged
  have path := Run.path_trace c (w.relay sender) s
  rw [w.relay_event parsed] at path posted unread
  rcases Event.relay_path path with ⟨⟨p⟩⟩ | ⟨early, -⟩
  · -- The passage of a comment's event has a clearance, and that has read the comment.
    obtain ⟨clearance, cleared⟩ := p.exists_clearedBy flagged present
    have read := cleared.inside _
      (List.mem_cons_of_mem _ (List.mem_append_left _ clearance.read_mem))
    exact unread _ read _ _ rfl
  · exact channel (early post posted).1

/-- The comment of a webhook about an issue, which it may have or not, has no part in the event
nor in the run: the same is asked, posted and reported. All events without a flag for comments
stand for such webhooks, and so does whatever is posted to a channel without a comment having been
read for it. -/
theorem issue_webhooks_uncommented :
    (∀ body body' document document', Json.read? body = some document →
      Json.read? body' = some document' → Payload.isAboutIssue document = true →
      Payload.Recommented document document' →
        Event.parse body' = Event.parse body ∧
        (∀ e, Event.parse body = .ok (some e) → e.isCommentEvent = false ∧ e.comment = none) ∧
        ∀ (sender : UserId) (id : InstanceId) (σ : Type) (c : Collaborators σ) (s : σ),
          (relay sender ⟨id, body'⟩).trace c s = (relay sender ⟨id, body⟩).trace c s ∧
          (relay sender ⟨id, body'⟩).exec c s = (relay sender ⟨id, body⟩).exec c s) ∧
    (∀ body e, Event.parse body = .ok (some e) → e.isCommentEvent = false →
      ∃ document, Json.read? body = some document ∧ Payload.isAboutIssue document = true) ∧
    (∀ (σ : Type) (c : Collaborators σ) (s : σ) (sender : UserId) (w : Webhook),
      (∃ post ∈ (w.relay sender).trace c s, post.call.channel? ≠ none) →
      (∀ x ∈ (w.relay sender).trace c s, ∀ (session : Session) comment,
        x.call ≠ session.commentCall comment) →
      ∃ document, Json.read? w.body = some document ∧ Payload.isAboutIssue document = true) := by
  refine ⟨fun body body' document document' read read' about recommented => ?_,
    fun body e parsed unflagged => Event.parse_aboutIssue parsed unflagged,
    fun σ c s sender w posted unread => ?_⟩
  · have same := Event.parse_recommented read read' about recommented
    refine ⟨same, fun e parsed => Event.parse_uncommented read about parsed, fun _ _ _ _ _ => ?_⟩
    unfold relay
    rw [same]
    exact ⟨rfl, rfl⟩
  · obtain ⟨post, posted, channel⟩ := posted
    exact aboutIssue_of_unread posted channel unread

/-- A webhook about a new summary, with what the tracker sends about the comment that came with
it. -/
def renamedIssue (comment : String) : Webhook :=
  ⟨⟨"tracker"⟩, Text.Utf8.encode (
    "\x7b\"webhookEvent\":\"jira:issue_updated\"," ++ comment ++
    "\"issue\":\x7b\"key\":\"P-1\",\"self\":\"https://t/i/1\"\x7d," ++
    "\"changelog\":\x7b\"items\":[\x7b\"field\":\"summary\"\x7d]\x7d\x7d")⟩

def renamed (comment : List (String × Json)) : Json :=
  .object (("webhookEvent", .string "jira:issue_updated") :: comment ++
    [("issue", .object [("key", .string "P-1"), ("self", .string "https://t/i/1")]),
    ("changelog", .object [("items", .array [.object [("field", .string "summary")]])])])

/-- A comment that is for developers only. -/
def confidential : Json :=
  .object [("body", .string "Leaked"), ("visibility", .object [("value", .string "Developers")])]

def confidentialMember : String :=
  "\"comment\":\x7b\"body\":\"Leaked\"," ++
  "\"visibility\":\x7b\"value\":\"Developers\"\x7d\x7d,"

/-- A subscription to new summaries. -/
def subscribeSummaries : Subscription :=
  ⟨"town", ⟨"town"⟩, "summaries", ⟨"tracker"⟩, ⟨.ofList [.updatedSummary], .empty, .empty, []⟩⟩

set_option maxRecDepth 4000 in
private theorem renamedIssue_read : Json.read? (renamedIssue "").body = some (renamed []) := by
  with_unfolding_all rfl

set_option maxRecDepth 4000 in
private theorem renamedIssue_readCommented :
    Json.read? (renamedIssue confidentialMember).body =
      some (renamed [("comment", confidential)]) := by
  with_unfolding_all rfl

private theorem renamed_recommented :
    Payload.Recommented (renamed [("comment", confidential)]) (renamed []) := by
  refine .of_members rfl (by decide) (by decide) ?_ ?_ <;> decide

/-- The run posts to the channel and reads nothing. -/
private theorem renamedIssue_posted :
    (((renamedIssue confidentialMember).relay ⟨"bot"⟩).trace
      (.constant .null [subscribeSummaries]) ()).any (·.call.channel? == some ⟨"town"⟩) = true ∧
    (((renamedIssue confidentialMember).relay ⟨"bot"⟩).trace
      (.constant .null [subscribeSummaries]) ()).all (!·.call.isReading) = true := by
  decide +kernel

/-- The new summary is posted without a look at the comment, and just as it is where the webhook
has no comment. -/
theorem confidential_comment_withheld :
    Payload.isAboutIssue (renamed [("comment", confidential)]) = true ∧
      Payload.Recommented (renamed [("comment", confidential)]) (renamed []) ∧
      (∃ e, Event.parse (renamedIssue confidentialMember).body = .ok (some e) ∧
        e.isCommentEvent = false ∧ e.comment = none) ∧
      ((renamedIssue "").relay ⟨"bot"⟩).trace (.constant .null [subscribeSummaries]) () =
        ((renamedIssue confidentialMember).relay ⟨"bot"⟩).trace
          (.constant .null [subscribeSummaries]) () ∧
      ∃ post ∈ ((renamedIssue "").relay ⟨"bot"⟩).trace (.constant .null [subscribeSummaries]) (),
        post.call.channel? = some ⟨"town"⟩ := by
  obtain ⟨uncommented, -, unread⟩ := issue_webhooks_uncommented
  obtain ⟨posted, nothing⟩ := renamedIssue_posted
  obtain ⟨post, member, channel⟩ := List.any_eq_true.mp posted
  rw [beq_iff_eq] at channel
  obtain ⟨document, read, about⟩ := unread Unit (.constant .null [subscribeSummaries]) () ⟨"bot"⟩
    (renamedIssue confidentialMember) ⟨post, member, by simp [channel]⟩ fun x asked _ _ same => by
      have quiet := List.all_eq_true.mp nothing x asked
      rw [same] at quiet
      cases quiet
  cases read.symm.trans renamedIssue_readCommented
  obtain ⟨-, plain, runs⟩ := uncommented _ _ _ _ renamedIssue_readCommented renamedIssue_read about
    renamed_recommented
  obtain ⟨e, parsed⟩ := exists_event_of_mem_trace member
  have same := (runs ⟨"bot"⟩ ⟨"tracker"⟩ Unit (.constant .null [subscribeSummaries]) ()).1
  exact ⟨about, renamed_recommented, ⟨e, parsed, plain e parsed⟩, same, post,
    (congrArg (post ∈ ·) same).mpr member, channel⟩

end Webhook

end Herald
