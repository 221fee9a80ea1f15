import Herald.Proofs.Event.FieldValues
import Herald.Proofs.Event.Verdict
import Herald.Proofs.Subscription.Rule

/-!
# The key of a project

The project of an issue is told by the first source that has one, and where none has it by the
issue's own key. A project may come without its key. It is then a project with an empty key, and
stands in the way of what later sources and the key of the issue would tell.

Main statements: the key of an issue's project after any number of sources, and which subscriptions
to the project of the issue's key are refused for it (`projectKey_of_first_project`).
-/

namespace Herald

/-- The project of a key stands before the last hyphen. -/
theorem IssueKey.project_eq {key : IssueKey} {project number : List Char}
    (hyphened : key.text.toList = project ++ '-' :: number) (last : '-' ∉ number) :
    key.project = String.ofList project := by
  have before : Text.beforeLast? '-' key.text.toList = some project := by
    have plain : ∀ c ∈ number.reverse, (c != '-') = true := by
      intro c inside
      rw [List.mem_reverse] at inside
      exact bne_iff_ne.mpr fun hyphen => last (hyphen ▸ inside)
    rw [hyphened, Text.beforeLast?, List.reverse_append, List.reverse_cons, List.append_assoc,
      List.dropWhile_append_of_pos plain]
    simp
  rw [IssueKey.project, before]

/-- The first that the one finds in its list is the first that the other finds, where they find
the same member by member. -/
theorem findSome?_of_forall₂ {α β γ : Type} {f : α → Option γ} {g : β → Option γ} {as : List α}
    {bs : List β} (same : List.Forall₂ (fun a b => f a = g b) as bs) :
    as.findSome? f = bs.findSome? g := by
  induction same with
  | nil => rfl
  | cons head _ ih => rw [List.findSome?_cons, List.findSome?_cons, head, ih]

namespace Payload

def projectKeys : List String :=
  ["id", "key", "name"]

/-- The project that the document of an issue gives. -/
def project? (issue : Json) : Option Json :=
  field? issue "project"

/-- The key that the document of a project gives, empty where it gives none. -/
def statedKey (project : Json) : String :=
  match project.given? projectKeys "key" with
  | some (.string key) => key
  | _ => ""

theorem key_of_project {j : Json} {p : Herald.Project} (decoded : project j = some p) :
    statedKey j = p.key := by
  simp only [project, Option.bind_eq_bind, Option.bind_eq_some_iff, Option.pure_def,
    Option.some.injEq] at decoded
  obtain ⟨m, read, id, -, key, hasKey, name, -, rfl⟩ := decoded
  rw [statedKey, projectKeys, Json.given?_text read (by decide) hasKey]
  cases key <;> rfl

theorem Fields.project_of_decode {j : Json} {f : Fields} (decoded : decode j = some f) :
    (j.given? keys "project").bind (some ∘ statedKey) = f.project.map (·.key) := by
  obtain ⟨m, read, hasProject, -⟩ := record_of_decode decoded
  rw [Option.map_eq_bind]
  exact Json.bind_given? read (by decide) hasProject fun _ _ decoded =>
    congrArg some (key_of_project decoded)

/-- Whatever an issue says of its project, its fields have the key that is stated of it. -/
theorem Issue.project_of_decode {j : Json} {i : Issue} (decoded : decode j = some i) :
    (project? j).map statedKey = i.issueFields.project.map (·.key) := by
  have each := bind_field? decoded fun _ _ => Fields.project_of_decode
  rw [Option.map_eq_bind, project?, each]
  unfold issueFields
  cases i.fields <;> rfl

/-- The project has no key, or an empty one. -/
def Keyless (project : Json) : Prop :=
  project.given? projectKeys "key" = none ∨ project.given? projectKeys "key" = some (.string "")

theorem Keyless.statedKey_eq {project : Json} (keyless : Keyless project) :
    statedKey project = "" := by
  unfold statedKey
  rcases keyless with absent | empty
  · rw [absent]
  · rw [empty]

end Payload

namespace Issue

/-- The project is that of the first source that has one. -/
theorem project_filledFrom (issue : Issue) (sources : List IssueFields) :
    (issue.filledFrom sources).fields.project =
      (issue.fields :: sources).findSome? (·.project) := by
  induction sources generalizing issue with
  | nil => cases known : issue.fields.project <;> simp [filledFrom, withFields, known]
  | cons f rest ih =>
    have filled := ih (issue.withFields (issue.fields.fillMissing f))
    rw [List.findSome?_cons] at filled ⊢
    refine filled.trans ?_
    cases known : issue.fields.project <;>
      simp [withFields, IssueFields.fillMissing, known, List.findSome?_cons]

theorem projectKey_eq (issue : Issue) :
    issue.projectKey = (issue.fields.project.map (·.key)).getD issue.key.project := by
  unfold projectKey
  cases issue.fields.project <;> rfl

end Issue

namespace Event

variable {body : Bytes} {e : Event} {document issue : Json} {answers : List Json}
  {sources : List IssueFields}

/-- The issue of an event has the key that its document gives, and the project. -/
theorem issue_of_parse (parsed : parse body = .ok (some e)) (read : Json.read? body = some document)
    (given : Payload.issue? document = some issue) :
    issue.given? Payload.Issue.keys "key" = some (.string e.issue.key.text) ∧
      (Payload.project? issue).map Payload.statedKey = e.issue.fields.project.map (·.key) := by
  obtain ⟨payload, decoded, stands⟩ := payload_of_parse read parsed
  obtain ⟨i, isIssue, decodedIssue⟩ := Payload.issue_of_decode decoded given
  obtain ⟨kind, _, comment, key, link, -, present, -, -, hasKey, -, rfl⟩ :=
    ofPayload_eq_some_iff.mp stands
  cases isIssue.symm.trans present
  refine ⟨?_, Payload.Issue.project_of_decode decodedIssue⟩
  rw [Payload.Issue.key_of_decode decodedIssue, hasKey]
  rfl

/-- The key of the project of an issue that was filled in from answers of the tracker. -/
theorem projectKey_filledFrom (parsed : parse body = .ok (some e))
    (read : Json.read? body = some document) (given : Payload.issue? document = some issue)
    (decoded : List.Forall₂ (fun answer f => IssueFields.decode answer = some f) answers sources) :
    (e.issue.filledFrom sources).projectKey =
      (((issue :: answers).findSome? Payload.project?).map Payload.statedKey).getD
        e.issue.key.project := by
  have each : List.Forall₂
      (fun j f => (Payload.project? j).map Payload.statedKey = f.project.map (·.key))
      (issue :: answers) (e.issue.fields :: sources) := by
    refine .cons (issue_of_parse parsed read given).2 (decoded.imp fun answer f isFields => ?_)
    obtain ⟨i, decodedIssue, rfl⟩ := Option.map_eq_some_iff.mp isFields
    exact Payload.Issue.project_of_decode decodedIssue
  rw [Issue.projectKey_eq, Issue.project_filledFrom, List.map_findSome?, List.map_findSome?]
  exact congrArg (Option.getD · e.issue.key.project) (findSome?_of_forall₂ each).symm

/-- The key of the project is the one that the first source with a project gives, be it the webhook
or an answer of the tracker, and empty where that one gives none. Only where no source has a project
is it told by the key of the issue, as the part before its last hyphen. So a subscription to the
project that the issue's own key names is refused exactly where there is a project in some source,
and the first one has no key or the key of a project that the subscription is not to. -/
theorem projectKey_of_first_project (parsed : parse body = .ok (some e))
    (read : Json.read? body = some document) (given : Payload.issue? document = some issue)
    (decoded : List.Forall₂ (fun answer f => IssueFields.decode answer = some f) answers sources) :
    issue.given? Payload.Issue.keys "key" = some (.string e.issue.key.text) ∧
    (∀ project number, e.issue.key.text.toList = project ++ '-' :: number → '-' ∉ number →
      e.issue.key.project = String.ofList project) ∧
    ((issue :: answers).findSome? Payload.project? = none →
      (e.issue.filledFrom sources).projectKey = e.issue.key.project) ∧
    (∀ project, (issue :: answers).findSome? Payload.project? = some project →
      (e.issue.filledFrom sources).projectKey = Payload.statedKey project ∧
      (Payload.Keyless project → (e.issue.filledFrom sources).projectKey = "")) ∧
    ∀ f : Filters, e.issue.key.project ∈ f.projects →
      (f.wantsProject (e.issue.filledFrom sources) = false ↔
        ∃ project, (issue :: answers).findSome? Payload.project? = some project ∧
          Payload.statedKey project ∉ f.projects) := by
  have key := projectKey_filledFrom parsed read given decoded
  refine ⟨(issue_of_parse parsed read given).1, fun _ _ => IssueKey.project_eq, fun none => ?_,
    fun project first => ?_, fun f subscribed => ?_⟩
  · rw [key, none]
    rfl
  · rw [first] at key
    exact ⟨key, fun keyless => key.trans keyless.statedKey_eq⟩
  · have asked : f.projects ≠ .empty := fun empty =>
      SortedSet.not_mem_empty _ (empty ▸ subscribed)
    rw [← Bool.not_eq_true, Filters.wantsProject_iff, or_iff_right asked, key]
    cases (issue :: answers).findSome? Payload.project? with
    | none => simp [subscribed]
    | some project => simp

/-- A webhook about a new issue whose project is known by its id alone. -/
def keylessBody : Bytes :=
  Text.Utf8.encode (
    "\x7b\"webhookEvent\":\"jira:issue_created\",\"issue\":\x7b\"key\":\"PROJ-1\"," ++
    "\"self\":\"https://t/i/1\",\"fields\":\x7b\"project\":\x7b\"id\":\"100\"\x7d\x7d\x7d\x7d")

def keylessIssue : Json :=
  .object [("key", .string "PROJ-1"), ("self", .string "https://t/i/1"),
    ("fields", .object [("project", .object [("id", .string "100")])])]

/-- A subscription to the project of the issue. -/
def subscribeProject : Filters :=
  ⟨.ofList [.created], .ofList ["PROJ"], .empty, []⟩

set_option maxRecDepth 4000 in
private theorem keylessBody_read :
    Json.read? keylessBody = some (.object [("webhookEvent", .string "jira:issue_created"),
      ("issue", keylessIssue)]) := by
  with_unfolding_all rfl

private theorem keylessBody_parsed : ∃ e, parse keylessBody = .ok (some e) ∧
    e.issue.key = ⟨"PROJ-1"⟩ ∧ e.issue.projectKey = "" := by
  have about : (ofBody? keylessBody).any
      (fun e => e.issue.key = ⟨"PROJ-1"⟩ ∧ e.issue.projectKey = "") = true := by
    decide +kernel
  obtain ⟨e, found, about⟩ := (Option.any_eq_true _ _).mp about
  exact ⟨e, ofBody?_eq_some_iff.mp found, of_decide_eq_true about⟩

/-- A project without a key is not told by the key of the issue. -/
theorem keyless_project_hidden : ¬ ∀ (body : Bytes) (e : Event) (document issue project : Json),
    parse body = .ok (some e) → Json.read? body = some document →
    Payload.issue? document = some issue → Payload.project? issue = some project →
    Payload.Keyless project → e.issue.projectKey = e.issue.key.project ∧
      ∀ f : Filters, e.issue.key.project ∈ f.projects → f.wantsProject e.issue = true := by
  intro told
  obtain ⟨e, parsed, key, empty⟩ := keylessBody_parsed
  obtain ⟨same, -⟩ := told _ e _ keylessIssue _ parsed keylessBody_read rfl rfl (.inl rfl)
  rw [empty, key] at same
  exact absurd same (by decide)

/-- The subscription is refused although the tracker answers with the key of the project. -/
theorem keyless_project_refused : ∃ e f, parse keylessBody = .ok (some e) ∧
    IssueFields.decode (.object [("fields",
      .object [("project", .object [("key", .string "PROJ")])])]) = some f ∧
    f.project.map (·.key) = some "PROJ" ∧ e.issue.key.project ∈ subscribeProject.projects ∧
    subscribeProject.wantsProject (e.issue.filledFrom [f]) = false := by
  obtain ⟨e, parsed, key, -⟩ := keylessBody_parsed
  have answered : (IssueFields.decode (.object [("fields",
      .object [("project", .object [("key", .string "PROJ")])])])).any
        (fun f => f.project.map (·.key) = some "PROJ") = true := by decide +kernel
  obtain ⟨f, decoded, known⟩ := (Option.any_eq_true _ _).mp answered
  obtain ⟨-, -, -, -, refused⟩ := projectKey_of_first_project parsed keylessBody_read rfl
    (.cons decoded .nil)
  have subscribed : e.issue.key.project ∈ subscribeProject.projects := by
    rw [key]
    decide
  refine ⟨e, f, parsed, decoded, of_decide_eq_true known, subscribed, ?_⟩
  exact (refused _ subscribed).mpr ⟨_, rfl, by decide⟩

end Event

end Herald
