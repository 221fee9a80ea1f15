import Herald.Proofs.Event.FieldValues
import Herald.Proofs.Event.Verdict
import Herald.Proofs.Json.Thinned

/-!
# Webhooks with less in them

Trackers send what they do not know as null, or not at all. For the records that a webhook consists
of it is told here where members that are null may be left out (`ThinnedWebhook`, `ThinnedIssue`):
anywhere, save the changes of a changelog.

Main statement: what is left of a webhook or of an issue stands for the same (`thinned_read_alike`).
-/

namespace Herald

open Json (AlikeAt AlikeItems Blind DistinctMember Thinned ThinnedMember ThinnedMembers)

namespace Payload

def ThinnedPerson : Json → Json → Prop :=
  Thinned Person.keys [] []

def ThinnedNamed : Json → Json → Prop :=
  Thinned ["name"] [] []

def ThinnedProject : Json → Json → Prop :=
  Thinned ["id", "key", "name"] [] []

def ThinnedIssueType : Json → Json → Prop :=
  Thinned ["id", "name"] [] []

def ThinnedWatches : Json → Json → Prop :=
  Thinned ["watchers"] [] [("watchers", AlikeItems ThinnedPerson)]

/-- The fields that are records. All others may only be left out as a whole, be they custom fields
or unknown. -/
def Fields.records : List (String × (Json → Json → Prop)) :=
  [("project", ThinnedProject), ("issuetype", ThinnedIssueType), ("status", ThinnedNamed),
    ("priority", ThinnedNamed), ("resolution", ThinnedNamed), ("assignee", ThinnedPerson),
    ("reporter", ThinnedPerson), ("watches", ThinnedWatches)]

def ThinnedFields : Json → Json → Prop :=
  Thinned Fields.keys [] Fields.records

def ThinnedIssue : Json → Json → Prop :=
  Thinned Issue.keys [] [("fields", ThinnedFields)]

def ThinnedComment : Json → Json → Prop :=
  Thinned Comment.keys [] [("author", ThinnedPerson)]

def ThinnedChange : Json → Json → Prop :=
  Thinned changeKeys [] []

/-- A changelog may lack its changes, but not have null in their place. -/
def ThinnedChangelog : Json → Json → Prop :=
  Thinned ["items"] ["items"] [("items", AlikeItems ThinnedChange)]

def ThinnedWebhook : Json → Json → Prop :=
  Thinned keys [] [("user", ThinnedPerson), ("issue", ThinnedIssue), ("comment", ThinnedComment),
    ("changelog", ThinnedChangelog)]

theorem Person.decode_blind : Blind ThinnedPerson Eq Person.decode :=
  .record Eq.refl fun _ _ thinned distinct => by
    simp only [(thinned _).optional_eq (Json.blind_eq Json.text) (distinct _)]

theorem named_blind : Blind ThinnedNamed Eq named :=
  .record Eq.refl fun _ _ thinned distinct =>
    (thinned _).optional_eq (Json.blind_eq Json.text) (distinct _)

theorem project_blind : Blind ThinnedProject Eq project :=
  .record Eq.refl fun _ _ thinned distinct => by
    simp only [(thinned _).optional_eq (Json.blind_eq Json.text) (distinct _),
      (thinned _).looseId_eq]

theorem issueType_blind : Blind ThinnedIssueType Eq issueType :=
  .record Eq.refl fun _ _ thinned distinct => by
    simp only [(thinned _).optional_eq (Json.blind_eq Json.text) (distinct _),
      (thinned _).looseId_eq]

theorem watches_blind : Blind ThinnedWatches Eq watches :=
  .record Eq.refl fun _ _ thinned distinct =>
    (thinned "watchers").optional_eq Person.decode_blind.listOf (distinct _)

theorem change_blind : Blind ThinnedChange Eq change :=
  .record Eq.refl fun _ _ thinned distinct => by
    simp only [(thinned _).optional_eq (Json.blind_eq Json.text) (distinct _),
      (thinned _).looseId_eq, (thinned _).required_eq (show Json.text .null = none from rfl)]

theorem changes_blind : Blind ThinnedChangelog Eq changes :=
  .record Eq.refl fun _ _ thinned distinct =>
    (thinned "items").defaulted_eq (by simp) change_blind.listOf (distinct _)

example : changes (.object []) = some [] ∧ changes (.object [("items", .null)]) = none := by
  decide

theorem Comment.decode_blind : Blind ThinnedComment Eq Comment.decode :=
  .record Eq.refl fun _ _ thinned distinct => by
    simp only [(thinned "self").optional_eq (Json.blind_eq Json.text) (distinct _),
      (thinned "body").optional_eq (Json.blind_eq Json.text) (distinct _),
      (thinned "author").optional_eq Person.decode_blind (distinct _),
      (thinned "id").looseId_eq]

namespace Fields

/-- The fields that are records are known. -/
theorem alikeAt_records {key : String} (other : key ∉ keys) : AlikeAt records key = Eq := by
  have known : ∀ key ∈ records.map (·.1), key ∈ keys := by decide
  rw [AlikeAt, SortedMap.lookup_eq_none_of_not_mem fun listed => other (known key listed)]
  rfl

section Others

variable {members members' : List (String × Json)}
  (thinned : ThinnedMembers [] records members members')

include thinned

theorem readable_others_thinned :
    Json.readableMembers (othersOf members) = Json.readableMembers (othersOf members') := by
  unfold othersOf
  induction thinned with
  | nil => rfl
  | @leftOut key members members' _ _ ih =>
    rw [List.filter_cons]
    split <;> exact ih
  | @kept key value value' members members' alike _ ih =>
    rw [List.filter_cons, List.filter_cons]
    by_cases known : key ∈ keys
    · simpa only [known, not_true_eq_false, decide_false, Bool.false_eq_true, if_false] using ih
    · rw [alikeAt_records known] at alike
      simp only [known, not_false_eq_true, decide_true, if_true, Json.readableMembers, alike, ih]

/-- A custom field that is null has no texts, as one that is absent. -/
theorem custom_thinned (distinct : (members.map (·.1)).Nodup) :
    (SortedMap.ofList (othersOf members)).filterMap customTexts? =
      (SortedMap.ofList (othersOf members')).filterMap customTexts? := by
  refine SortedMap.ext_get? fun key => ?_
  have alike := thinned.lookup distinct key
  rw [get?_custom, get?_custom, Json.member?_object distinct,
    Json.member?_object (distinct.sublist thinned.keys_sublist)]
  generalize Json.lookup members key = member at alike
  generalize Json.lookup members' key = member' at alike
  cases alike with
  | same => rfl
  | leftOut => exact ite_self _
  | kept given =>
    rw [Option.bind_some, Option.bind_some]
    by_cases known : key ∈ keys
    · rw [customTexts?_of_mem_keys known, customTexts?_of_mem_keys known]
    · rw [alikeAt_records known] at given
      rw [given]

end Others

/-- The fields of an issue stand for the same, though what is kept of the others is less. -/
theorem decode_blind :
    Blind ThinnedFields (Option.Rel fun f f' => f.issueFields = f'.issueFields) decode where
  null_iff := Thinned.null_iff
  agrees thinned distinct := by
    cases thinned with
    | same => exact Json.rel_refl (fun f => Eq.refl f.issueFields) _
    | array => exact .none
    | @object members members' thinned =>
      obtain ⟨once, -⟩ := Json.distinct_object_iff.mp distinct
      have read : (Json.object members).record keys keys.length = some (Json.lookup members) :=
        if_pos (Json.unrepeated_of_nodup once)
      have read' : (Json.object members').record keys keys.length = some (Json.lookup members') :=
        if_pos (Json.unrepeated_of_nodup (once.sublist thinned.keys_sublist))
      have alike := thinned.lookup once
      have each := Json.distinct_of_record distinct read
      have customs := custom_thinned thinned once
      have readable := readable_others_thinned thinned
      have text := Json.blind_eq Json.text
      unfold othersOf at customs readable
      rw [decode, decode, read, read']
      simp only [Option.bind_eq_bind, Option.bind_some, readable,
        (alike "summary").optional_eq text (each _),
        (alike "project").optional_eq project_blind (each _),
        (alike "issuetype").optional_eq issueType_blind (each _),
        (alike "status").optional_eq named_blind (each _),
        (alike "priority").optional_eq named_blind (each _),
        (alike "resolution").optional_eq named_blind (each _),
        (alike "assignee").optional_eq Person.decode_blind (each _),
        (alike "reporter").optional_eq Person.decode_blind (each _),
        (alike "labels").optional_eq (Json.blind_eq (Json.listOf Json.text)) (each _),
        (alike "watches").optional_eq watches_blind (each _)]
      refine Json.rel_ite ?_ .none
      iterate 10 refine Json.rel_bind_same fun _ => ?_
      exact .some (by simp only [issueFields, custom, customs])

end Fields

namespace Issue

/-- The issues are the same in all that is ever asked of them. -/
structure Agrees (i i' : Issue) : Prop where
  id : i.id = i'.id
  key : i.key = i'.key
  link : i.link = i'.link
  fields : i.issueFields = i'.issueFields

theorem Agrees.refl (i : Issue) : i.Agrees i :=
  ⟨rfl, rfl, rfl, rfl⟩

theorem decode_blind : Blind ThinnedIssue (Option.Rel Agrees) decode :=
  .record (Json.rel_refl Agrees.refl) fun m m' alike each => by
    have text := Json.blind_eq Json.text
    have fields := (alike "fields").optional_rel Fields.decode_blind (fun _ => rfl) (each _)
    simp only [(alike "id").looseId_eq, (alike "key").optional_eq text (each _),
      (alike "self").optional_eq text (each _)]
    iterate 3 refine Json.rel_bind_same fun _ => ?_
    refine Json.rel_bind fields fun f? f?' agrees => .some ⟨rfl, rfl, rfl, ?_⟩
    cases agrees with
    | none => rfl
    | some same => exact same

end Issue

/-- The payloads are the same but for their issues, and these agree. -/
def Agrees (p p' : Payload) : Prop :=
  ∃ issue', p' = { p with issue := issue' } ∧ Option.Rel Issue.Agrees p.issue issue'

theorem Agrees.refl (p : Payload) : p.Agrees p :=
  ⟨p.issue, rfl, Json.rel_refl Issue.Agrees.refl p.issue⟩

theorem decode_blind : Blind ThinnedWebhook (Option.Rel Agrees) decode :=
  .record (Json.rel_refl Agrees.refl) fun m m' alike each => by
    have text := Json.blind_eq Json.text
    have issue := (alike "issue").optional_rel Issue.decode_blind Issue.Agrees.refl (each _)
    simp only [(alike "webhookEvent").required_eq (show Json.text .null = none from rfl),
      (alike "issue_event_type_name").optional_eq text (each _),
      (alike "timestamp").optional_eq (Json.blind_eq Json.int64) (each _),
      (alike "user").optional_eq Person.decode_blind (each _),
      (alike "comment").optional_eq Comment.decode_blind (each _),
      (alike "changelog").optional_eq changes_blind (each _)]
    iterate 4 refine Json.rel_bind_same fun _ => ?_
    refine Json.rel_bind issue fun i? i?' agrees => ?_
    iterate 2 refine Json.rel_bind_same fun _ => ?_
    exact .some ⟨_, rfl, agrees⟩

end Payload

namespace Event

theorem ofPayload_congr {p p' : Payload} (agrees : p.Agrees p') : ofPayload p = ofPayload p' := by
  obtain ⟨issue', rfl, issue⟩ := agrees
  have kinds : Payload.kind? { p with issue := issue' } = p.kind? := rfl
  have comments : commentOf { p with issue := issue' } = commentOf p := rfl
  unfold ofPayload
  rw [kinds, comments]
  generalize p.issue = issue? at issue
  cases issue with
  | none => rfl
  | some agrees =>
    obtain ⟨id, key, link, fields⟩ := agrees
    simp only [need, bind, Except.bind, id, key, link, fields]

theorem ofJson_thinned {document document' : Json} (distinct : document.distinct = true)
    (thinned : Payload.ThinnedWebhook document document') : ofJson document' = ofJson document := by
  have decoded := Payload.decode_blind.agrees thinned distinct
  unfold ofJson
  generalize Payload.decode document = p? at decoded
  generalize Payload.decode document' = p?' at decoded
  cases decoded with
  | none => rfl
  | some agrees => exact (ofPayload_congr agrees).symm

end Event

theorem IssueFields.decode_thinned {issue issue' : Json} (distinct : issue.distinct = true)
    (thinned : Payload.ThinnedIssue issue issue') : decode issue' = decode issue := by
  have decoded := Payload.Issue.decode_blind.agrees thinned distinct
  unfold decode
  generalize Payload.Issue.decode issue = i? at decoded
  generalize Payload.Issue.decode issue' = i?' at decoded
  cases decoded with
  | none => rfl
  | some agrees => exact congrArg some agrees.fields.symm

/-- It is all the same whether a member is null or left out, in a webhook, in an issue, and in the
records within them: an event is the same, as is the refusal of one. -/
theorem thinned_read_alike :
    (∀ (body body' : Bytes) (document document' : Json), Json.read? body = some document →
      Json.read? body' = some document' → document.distinct = true →
      Payload.ThinnedWebhook document document' → Event.parse body' = Event.parse body) ∧
    ∀ issue issue' : Json, issue.distinct = true → Payload.ThinnedIssue issue issue' →
      IssueFields.decode issue' = IssueFields.decode issue := by
  refine ⟨fun body body' document document' read read' distinct thinned => ?_,
    fun issue issue' => IssueFields.decode_thinned⟩
  rw [Event.parse, Event.parse, read, read']
  exact Event.ofJson_thinned distinct thinned

/-- An issue of which little is known, with null for the rest. -/
def wordyIssue : Json :=
  .object [("id", .null), ("key", .string "P-1"), ("self", .string "u"),
    ("fields", .object [("customfield_1", .null), ("status", .object [("name", .null)]),
      ("watches", .object [("watchers",
        .array [.object [("name", .string "ann"), ("accountId", .null)]])])])]

/-- The same issue without what is not known. -/
def terseIssue : Json :=
  .object [("key", .string "P-1"), ("self", .string "u"),
    ("fields", .object [("status", .object []),
      ("watches", .object [("watchers", .array [.object [("name", .string "ann")]])])])]

def wordyBody : Bytes :=
  Text.Utf8.encode ("\x7b\"webhookEvent\":\"jira:issue_created\",\"timestamp\":null,\"x\":null," ++
    "\"issue\":\x7b\"id\":null,\"key\":\"P-1\",\"self\":\"u\",\"fields\":\x7b" ++
    "\"customfield_1\":null,\"status\":\x7b\"name\":null\x7d,\"watches\":\x7b\"watchers\":" ++
    "[\x7b\"name\":\"ann\",\"accountId\":null\x7d]\x7d\x7d\x7d\x7d")

def terseBody : Bytes :=
  Text.Utf8.encode ("\x7b\"webhookEvent\":\"jira:issue_created\"," ++
    "\"issue\":\x7b\"key\":\"P-1\",\"self\":\"u\",\"fields\":\x7b\"status\":\x7b\x7d," ++
    "\"watches\":\x7b\"watchers\":[\x7b\"name\":\"ann\"\x7d]\x7d\x7d\x7d\x7d")

def wordy : Json :=
  .object [("webhookEvent", .string "jira:issue_created"), ("timestamp", .null), ("x", .null),
    ("issue", wordyIssue)]

def terse : Json :=
  .object [("webhookEvent", .string "jira:issue_created"), ("issue", terseIssue)]

set_option maxRecDepth 4000 in
private theorem wordyBody_read : Json.read? wordyBody = some wordy := by
  with_unfolding_all rfl

set_option maxRecDepth 4000 in
private theorem terseBody_read : Json.read? terseBody = some terse := by
  with_unfolding_all rfl

private theorem terseIssue_thinned : Payload.ThinnedIssue wordyIssue terseIssue := by
  have free : ∀ key : String, key ∉ [] := fun _ => List.not_mem_nil
  have person : Payload.ThinnedPerson (.object [("name", .string "ann"), ("accountId", .null)])
      (.object [("name", .string "ann")]) :=
    .object (.kept rfl (.leftOut (free _) .nil))
  have watches : Payload.ThinnedWatches
      (.object [("watchers", .array [.object [("name", .string "ann"), ("accountId", .null)]])])
      (.object [("watchers", .array [.object [("name", .string "ann")]])]) :=
    .object (.kept (AlikeItems.array (.cons person .nil)) .nil)
  have status : Payload.ThinnedNamed (.object [("name", .null)]) (.object []) :=
    .object (.leftOut (free _) .nil)
  have fields : Payload.ThinnedFields
      (.object [("customfield_1", .null), ("status", .object [("name", .null)]),
        ("watches", .object [("watchers",
          .array [.object [("name", .string "ann"), ("accountId", .null)]])])])
      (.object [("status", .object []),
        ("watches", .object [("watchers", .array [.object [("name", .string "ann")]])])]) :=
    .object (.leftOut (free _) (.kept status (.kept watches .nil)))
  exact .object (.leftOut (free _) (.kept rfl (.kept rfl (.kept fields .nil))))

/-- The creation of an issue is told the same, in many words or in few. -/
theorem terse_read_alike :
    Event.parse terseBody = Event.parse wordyBody ∧
      IssueFields.decode terseIssue = IssueFields.decode wordyIssue ∧
      (Event.ofBody? terseBody).map (·.issue.fields.watchers) = some [⟨⟨"ann"⟩, ""⟩] := by
  obtain ⟨webhooks, issues⟩ := thinned_read_alike
  have thinned : Payload.ThinnedWebhook wordy terse :=
    .object (.kept rfl (.leftOut List.not_mem_nil (.leftOut List.not_mem_nil
      (.kept terseIssue_thinned .nil))))
  refine ⟨webhooks _ _ _ _ wordyBody_read terseBody_read (by decide) thinned,
    issues _ _ (by decide) terseIssue_thinned, ?_⟩
  rw [Event.ofBody?, Event.parse, terseBody_read]
  decide +kernel

end Herald
