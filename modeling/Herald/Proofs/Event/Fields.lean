import Herald.Proofs.Event.Shape
import Herald.Proofs.Json.Merged

/-!
# The fields of an issue, sent or fetched

The fields of an issue come with a webhook, or they are asked for. Main statement: the
tracker's answer with the fields that a webhook would have carried stands for the same
fields (`decode_answer`).
-/

namespace Herald

open Json (Stable optional_merged text_stable looseId_merged listOf_stable)

namespace Payload

theorem Person.decode_stable : Stable Person.decode :=
  .record fun m plain => by
    simp only [optional_merged text_stable (plain _)]

theorem named_stable : Stable named :=
  .record fun _ plain => optional_merged text_stable (plain _)

theorem project_stable : Stable project :=
  .record fun m plain => by
    simp only [optional_merged text_stable (plain _), looseId_merged (plain _)]

theorem issueType_stable : Stable issueType :=
  .record fun m plain => by
    simp only [optional_merged text_stable (plain _), looseId_merged (plain _)]

theorem watches_stable : Stable watches :=
  .record fun _ plain => optional_merged (listOf_stable Person.decode_stable) (plain _)

namespace Fields

mutual

theorem texts_merged : ∀ {j : Json}, j.plain = true → texts j.merged = texts j
  | .array items, plain => by
    rw [Json.merged, texts, texts]
    exact itemTexts_merged items (Json.plain_array_iff.mp plain)
  | .object members, plain => by
    have found := Json.member?_merged plain
    rw [Json.merged] at found ⊢
    rw [texts, texts, found, found]
    cases (Json.object members).member? "value" with
    | some value => simp [Json.string?_merged]
    | none => cases (Json.object members).member? "name" <;> simp [Json.string?_merged]
  | .null, _ | .bool _, _ | .number _, _ | .string _, _ | .unreadable, _ => rfl

theorem itemTexts_merged : ∀ items : List Json, (∀ item ∈ items, item.plain = true) →
    itemTexts (Json.mergedItems items) = itemTexts items
  | [], _ => rfl
  | item :: rest, plain => by
    rw [List.forall_mem_cons] at plain
    rw [Json.mergedItems, itemTexts, itemTexts, texts_merged plain.1, itemTexts_merged rest plain.2]

end

/-- The members that are none of the fields. -/
def othersOf (members : List (String × Json)) : List (String × Json) :=
  members.filter fun member => member.1 ∉ keys

theorem nodup_othersOf {members : List (String × Json)} (distinct : (members.map (·.1)).Nodup) :
    ((othersOf members).map (·.1)).Nodup :=
  distinct.sublist (List.filter_sublist.map _)

theorem readable_othersOf {members : List (String × Json)}
    (readable : (Json.object members).readable = true) :
    Json.readableMembers (othersOf members) = true := by
  rw [Json.readable, Json.readableMembers_iff] at readable
  rw [Json.readableMembers_iff]
  exact fun member kept => readable member (List.mem_filter.mp kept).1

/-- The custom fields of a value are those of the document that it was made of. -/
theorem custom_merged {members : List (String × Json)}
    (plain : (Json.object members).plain = true) :
    (SortedMap.ofList (othersOf (SortedMap.ofList (Json.mergedMembers members)).entries)).filterMap
        customTexts? =
      (SortedMap.ofList (othersOf members)).filterMap customTexts? := by
  obtain ⟨distinct, values⟩ := Json.plain_object_iff.mp plain
  refine SortedMap.ext_get? fun key => ?_
  rw [SortedMap.get?_filterMap, SortedMap.get?_filterMap,
    SortedMap.get?_ofList (nodup_othersOf (SortedMap.nodup_keys _)),
    SortedMap.get?_ofList (nodup_othersOf distinct), ← Json.lookup_eq, ← Json.lookup_eq,
    othersOf, othersOf, Json.lookup_filter fun key => decide (key ∉ keys),
    Json.lookup_filter fun key => decide (key ∉ keys), Json.lookup_merged distinct]
  cases other : decide (key ∉ keys) with
  | false => rfl
  | true =>
    cases found : Json.lookup members key with
    | none => rfl
    | some value =>
      have texts := texts_merged (values _ (Json.mem_of_lookup found))
      rw [if_pos rfl, if_pos rfl, Option.map_some, Option.bind_some, Option.bind_some,
        customTexts?, customTexts?, texts]

/-- The same fields are read from a document and from the value that it stands for. -/
theorem issueFields_decode_merged {j : Json} (plain : j.plain = true) :
    (decode j.merged).map issueFields = (decode j).map issueFields := by
  cases j with
  | object members =>
    have customs := custom_merged plain
    rw [Json.merged, decode, decode, ← Json.merged, Json.record_merged plain]
    cases found : (Json.object members).record keys keys.length with
    | none => rfl
    | some m =>
      have each := Json.plain_of_record plain found
      simp only [Option.map_some, Option.bind_eq_bind, Option.bind_some,
        optional_merged text_stable (each _), optional_merged project_stable (each _),
        optional_merged issueType_stable (each _), optional_merged named_stable (each _),
        optional_merged Person.decode_stable (each _), optional_merged watches_stable (each _),
        optional_merged (listOf_stable text_stable) (each _)]
      have kept := readable_othersOf (Json.readable_merged (Bool.and_eq_true_iff.mp plain).1)
      have given := readable_othersOf (Bool.and_eq_true_iff.mp plain).1
      unfold othersOf at kept given customs
      simp only [kept, given, if_true, Option.map_bind, Function.comp_def, Option.pure_def,
        Option.map_some, issueFields, custom, customs]
  | _ => rfl

end Fields

end Payload

/-- An answer with the fields that a webhook would have carried stands for the same fields. -/
theorem IssueFields.decode_answer {fields : Json} {f : Payload.Fields}
    (plain : fields.plain = true) (decoded : Payload.Fields.decode fields = some f) :
    decode (Json.object [("fields", fields)]).merged = some f.issueFields := by
  have answer : (Json.object [("fields", fields)]).plain = true := by
    simp [Json.plain_object_iff, plain]
  have same := Payload.Fields.issueFields_decode_merged plain
  rw [decoded] at same
  obtain ⟨f', decoded', equal⟩ := Option.map_eq_some_iff.mp same
  have fetched := Json.optional_some decoded' rfl
  have absent : ∀ key, key ≠ "fields" → Json.lookup [("fields", fields)] key = Option.none := by
    intro key other
    simp [Json.lookup, Ne.symm other]
  have present : Json.lookup [("fields", fields)] "fields" = some fields := by simp [Json.lookup]
  unfold decode Payload.Issue.decode
  rw [Json.record_merged answer, Json.record, if_pos (Json.unrepeated_of_nodup (by simp))]
  simp only [Option.map_some, Option.bind_eq_bind, Option.bind_some, absent "id" (by decide),
    absent "key" (by decide), absent "self" (by decide), present, Option.map_none,
    Json.looseId_none, Json.optional_none, fetched, Option.pure_def, Payload.Issue.issueFields,
    Option.getD_some, equal]

/-- The document of a webhook without the fields of its issue. -/
def Json.withoutIssueFields (document : Json) : Json :=
  document.mapMember "issue" (·.erase "fields")

namespace Payload

/-- What an issue is read as once its fields are left out. -/
theorem Issue.decode_erase {issue fields : Json} {i : Issue} (plain : issue.plain = true)
    (given : issue.member? "fields" = some fields) (decoded : decode issue = some i) :
    Json.optional Fields.decode (some fields) = some i.fields ∧
      decode (issue.erase "fields") = some { i with fields := none } := by
  cases issue with
  | object members =>
    obtain ⟨distinct, -⟩ := Json.plain_object_iff.mp plain
    rw [Json.member?_object distinct] at given
    rw [decode, Json.record, if_pos (Json.unrepeated_of_nodup distinct)] at decoded
    simp only [Option.bind_eq_bind, Option.bind_some, Option.bind_eq_some_iff, Option.pure_def,
      Option.some.injEq] at decoded
    obtain ⟨id, hasId, key, hasKey, link, hasLink, found, hasFields, rfl⟩ := decoded
    rw [given] at hasFields
    refine ⟨hasFields, ?_⟩
    rw [decode, Json.record_erase distinct]
    simp [hasId, hasKey, hasLink]
  | _ => cases given

/-- What a webhook's document is read as once the fields of its issue are left out. -/
theorem decode_withoutIssueFields {document issue fields : Json} {p : Payload}
    (plain : document.plain = true) (about : document.member? "issue" = some issue)
    (given : issue.member? "fields" = some fields) (decoded : decode document = some p) :
    ∃ i, p.issue = some i ∧ Json.optional Fields.decode (some fields) = some i.fields ∧
      decode document.withoutIssueFields =
        some { p with issue := some { i with fields := none } } := by
  have plainIssue := Json.plain_of_member? plain about
  cases document with
  | object members =>
    obtain ⟨distinct, -⟩ := Json.plain_object_iff.mp plain
    rw [Json.member?_object distinct] at about
    rw [decode, Json.record, if_pos (Json.unrepeated_of_nodup distinct)] at decoded
    simp only [Option.bind_eq_bind, Option.bind_some, Option.bind_eq_some_iff, Option.pure_def,
      Option.some.injEq] at decoded
    obtain ⟨webhook, hasWebhook, update, hasUpdate, timestamp, hasTimestamp, user, hasUser,
      found, hasIssue, comment, hasComment, changelog, hasChangelog, rfl⟩ := decoded
    rw [about] at hasIssue
    cases issue with
    | object inner =>
      obtain ⟨i, decodedIssue, rfl⟩ := Option.map_eq_some_iff.mp hasIssue
      obtain ⟨kept, erased⟩ := Issue.decode_erase plainIssue given decodedIssue
      have bare := Json.optional_some erased rfl
      refine ⟨i, rfl, kept, ?_⟩
      rw [Json.withoutIssueFields, decode, Json.record_mapMember distinct]
      simp [hasWebhook, hasUpdate, hasTimestamp, hasUser, hasComment, hasChangelog, about, bare]
    | _ => cases given
  | _ => cases about

end Payload

namespace Event

/-- The flags of an event depend on the fields of its issue only where that is deleted. -/
theorem flagsOf_congr {kind : EventKind} (kept : kind ≠ .issueDeleted)
    (fields fields' : IssueFields) (changes : List Change) :
    flagsOf kind fields changes = flagsOf kind fields' changes := by
  cases kind <;> first | rfl | exact absurd rfl kept

/-- The event as it is told without the fields of its issue. Only those whom the fields name
are not told directly. -/
def bare (e : Event) : Event :=
  let event := { e with issue := { e.issue with fields := .none }, notifications := [] }
  { event with notifications := event.recipients }

/-- A webhook that leaves out the fields of its issue stands for the bare event, where the
issue still exists. -/
theorem parse_withoutIssueFields {whole stripped : Bytes} {document issue fields : Json}
    {e : Event} (plain : document.plain = true) (about : document.member? "issue" = some issue)
    (given : issue.member? "fields" = some fields) (read : Json.read? whole = some document)
    (readStripped : Json.read? stripped = some document.withoutIssueFields)
    (parsed : parse whole = .ok (some e)) (kept : e.kind ≠ .issueDeleted) :
    parse stripped = .ok (some e.bare) ∧
      ∃ f?, Json.optional Payload.Fields.decode (some fields) = some f? ∧
        e.issue.fields = (f?.map Payload.Fields.issueFields).getD .none := by
  obtain ⟨document', p, read', decoded, stands⟩ := parse_eq_ok_iff.mp parsed
  cases read.symm.trans read'
  obtain ⟨kind, i, comment, key, link, declared, present, flagged, commented, keyed, linked, rfl⟩ :=
    ofPayload_eq_some_iff.mp stands
  obtain ⟨i', present', fetched, decodedStripped⟩ :=
    Payload.decode_withoutIssueFields plain about given decoded
  cases present.symm.trans present'
  have flags : flagsOf kind i.issueFields (p.changelog.getD []) =
      flagsOf kind .none (p.changelog.getD []) := flagsOf_congr kept _ _ _
  refine ⟨parse_eq_ok_iff.mpr ⟨_, _, readStripped, decodedStripped, ?_⟩, i.fields, fetched, rfl⟩
  refine ofPayload_eq_some_iff.mpr ⟨kind, { i with fields := none }, comment, key, link, declared,
    rfl, ?_, commented, keyed, linked, ?_⟩
  · exact flags ▸ flagged
  · have bareFields : ({ i with fields := none } : Payload.Issue).issueFields = .none := rfl
    unfold assembled bare
    simp only [bareFields, flags]

end Event

end Herald
