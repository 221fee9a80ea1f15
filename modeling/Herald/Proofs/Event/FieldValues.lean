import Herald.Proofs.Event.Certain
import Herald.Proofs.Event.Fields
import Herald.Proofs.Event.Merge
import Herald.Proofs.Tracker.Url
import Herald.Subscription

/-!
# Where the values of a field come from

A filter compares with the values of a field, and an issue gets its fields from one source after
another. The values are those of the first source that has any. For custom fields this rests on
an invariant of the decoder: what is filled in is looked up by the key alone, so a field must not
be on record with nothing in it (`Valued`).

Main statements: which custom fields an issue's document gives, and with which texts
(`custom_eq_some_iff`), the values after one source (`fieldValues_fillMissing`) and after any number
of them (`fieldValues_filledFrom`), and both together (`values_of_first_source`).
-/

namespace Herald

/-- Nothing is decoded where nothing is given, or null. -/
theorem Json.optional_eq_some_none_iff {α : Type} {decode : Json → Option α}
    {member : Option Json} :
    optional decode member = some none ↔ member = none ∨ member = some .null := by
  cases member with
  | none => simp
  | some j => cases j <;> simp [optional]

namespace Payload

/-- The texts in a value, from left to right: what is printed of it, and of an option what it is
called. -/
inductive Spells : Json → List String → Prop
  | null : Spells .null []
  | unreadable : Spells .unreadable []
  | string (s : String) : Spells (.string s) [s]
  | number (n : Json.Number) : Spells (.number n) [n.text]
  | true : Spells (.bool true) ["true"]
  | false : Spells (.bool false) ["false"]
  | nil : Spells (.array []) []
  | cons {item : Json} {rest : List Json} {first later : List String} (head : Spells item first)
      (tail : Spells (.array rest) later) : Spells (.array (item :: rest)) (first ++ later)
  | value {members : List (String × Json)} {s : String}
      (called : (Json.object members).member? "value" = some (.string s)) :
      Spells (.object members) [s]
  | name {members : List (String × Json)} {s : String}
      (valueless : (Json.object members).member? "value" = none)
      (called : (Json.object members).member? "name" = some (.string s)) :
      Spells (.object members) [s]
  | uncalled {members : List (String × Json)}
      (value : ∀ s, (Json.object members).member? "value" ≠ some (.string s))
      (name : (Json.object members).member? "value" = none →
        ∀ s, (Json.object members).member? "name" ≠ some (.string s)) :
      Spells (.object members) []

namespace Fields

theorem texts_of_spells {j : Json} {l : List String} (spells : Spells j l) : texts j = l := by
  induction spells with
  | null | unreadable | string | number | true | false | nil => rfl
  | cons _ _ first later =>
    rw [texts] at later ⊢
    rw [itemTexts, first, later]
  | value called => simp [texts, called, Json.string?]
  | name valueless called => simp [texts, valueless, called, Json.string?]
  | @uncalled members value name =>
    rw [texts]
    cases given : (Json.object members).member? "value" with
    | some part =>
      cases part with
      | string s => exact absurd given (value s)
      | _ => rfl
    | none =>
      cases given' : (Json.object members).member? "name" with
      | some part =>
        cases part with
        | string s => exact absurd given' (name given s)
        | _ => rfl
      | none => rfl

theorem spells_object (members : List (String × Json)) :
    Spells (.object members) (texts (.object members)) := by
  rw [texts]
  cases given : (Json.object members).member? "value" with
  | some part =>
    cases part with
    | string s => exact .value given
    | _ => exact .uncalled (by simp [given]) (by simp [given])
  | none =>
    cases given' : (Json.object members).member? "name" with
    | some part =>
      cases part with
      | string s => exact .name given given'
      | _ => exact .uncalled (by simp [given]) (by simp [given'])
    | none => exact .uncalled (by simp [given]) (by simp [given'])

mutual

theorem spells_texts : ∀ j : Json, Spells j (texts j)
  | .null => .null
  | .unreadable => .unreadable
  | .bool true => .true
  | .bool false => .false
  | .number n => .number n
  | .string s => .string s
  | .array items => spells_itemTexts items
  | .object members => spells_object members

theorem spells_itemTexts : ∀ items : List Json, Spells (.array items) (itemTexts items)
  | [] => .nil
  | item :: rest => .cons (spells_texts item) (spells_itemTexts rest)

end

theorem spells_iff {j : Json} {l : List String} : Spells j l ↔ texts j = l :=
  ⟨texts_of_spells, fun same => same ▸ spells_texts j⟩

theorem customTexts?_eq_some_iff {key : String} {value : Json} {values : List String} :
    customTexts? key value = some values ↔
      "customfield_".toList <+: key.toList ∧ values ≠ [] ∧ Spells value values := by
  unfold customTexts?
  rw [spells_iff, ← Text.startsWith_iff]
  split
  · rename_i named
    cases texts value with
    | nil => simp
    | cons first rest =>
      simp only [Option.some.injEq, named, true_and]
      exact ⟨fun same => ⟨by simp [← same], same⟩, fun given => given.2⟩
  · rename_i other
    simp only [other, false_and, reduceCtorEq, Bool.false_eq_true]

/-- None of the fields that are known is a custom field. -/
theorem customTexts?_of_mem_keys {key : String} (known : key ∈ keys) (value : Json) :
    customTexts? key value = none := by
  have unnamed : ∀ key ∈ keys, ¬ Text.startsWith "customfield_".toList key.toList = true := by
    decide
  exact if_neg (unnamed key known)

/-- The last member of a key makes the custom field. -/
theorem get?_custom (members : List (String × Json)) (key : String) :
    ((SortedMap.ofList (othersOf members)).filterMap customTexts?).get? key =
      ((Json.object members).member? key).bind (customTexts? key) := by
  have last : (Json.object members).member? key = Json.lookup members.reverse key := rfl
  rw [SortedMap.get?_filterMap, SortedMap.get?_ofList_reverse, othersOf, ← List.filter_reverse,
    ← Json.lookup_eq, Json.lookup_filter fun key => decide (key ∉ keys), last]
  by_cases known : key ∈ keys
  · cases Json.lookup members.reverse key with
    | none => simp
    | some value => simp [known, customTexts?_of_mem_keys known]
  · simp [known]

/-- Fields are read off an object, and keep all its members that have no place of their own. -/
theorem decode_others {j : Json} {f : Fields} (decoded : decode j = some f) :
    ∃ members, j = .object members ∧ f.others = othersOf members := by
  cases j with
  | object members =>
    simp only [decode, Option.bind_eq_bind, Option.bind_eq_some_iff] at decoded
    obtain ⟨m, -, made⟩ := decoded
    obtain ⟨-, made⟩ := Option.ite_none_right_eq_some.mp made
    simp only [Option.pure_def, Option.bind_eq_some_iff, Option.some.injEq] at made
    obtain ⟨_, -, _, -, _, -, _, -, _, -, _, -, _, -, _, -, _, -, _, -, rfl⟩ := made
    exact ⟨members, rfl, rfl⟩
  | _ => cases decoded

end Fields

/-- What the document of an issue gives for one of its fields. -/
def fieldPart? (issue : Json) (key : String) : Option Json :=
  (issue.part? Issue.keys "fields").bind (Json.member? key)

end Payload

namespace IssueFields

/-- A custom field that is on record has a value. -/
def Valued (f : IssueFields) : Prop :=
  ∀ key, f.custom.get? key ≠ some []

theorem none_valued : none.Valued := nofun

/-- The decoder keeps no custom field without a value. -/
theorem valued_of_payload (f : Payload.Fields) : f.issueFields.Valued := by
  intro key held
  have made : (f.custom).get? key = some [] := held
  rw [Payload.Fields.custom, SortedMap.get?_filterMap, Option.bind_eq_some_iff] at made
  obtain ⟨value, -, empty⟩ := made
  exact (Payload.Fields.customTexts?_eq_some_iff.mp empty).2.1 rfl

theorem valued_of_issue (i : Payload.Issue) : i.issueFields.Valued := by
  cases given : i.fields with
  | none => simpa [Payload.Issue.issueFields, given] using none_valued
  | some f => simpa [Payload.Issue.issueFields, given] using valued_of_payload f

theorem valued_of_decode {j : Json} {f : IssueFields} (decoded : decode j = some f) :
    f.Valued := by
  obtain ⟨i, -, rfl⟩ := Option.map_eq_some_iff.mp decoded
  exact valued_of_issue i

theorem valued_of_parse {body : Bytes} {e : Event} (parsed : Event.parse body = .ok (some e)) :
    e.issue.fields.Valued := by
  obtain ⟨document, p, -, -, stands⟩ := Event.parse_eq_ok_iff.mp parsed
  obtain ⟨kind, i, comment, key, link, -, -, -, -, -, -, rfl⟩ :=
    Event.ofPayload_eq_some_iff.mp stands
  exact valued_of_issue i

variable {f g : IssueFields}

theorem Valued.fillMissing (valued : f.Valued) (valued' : g.Valued) :
    (f.fillMissing g).Valued := by
  intro key held
  rw [IssueFields.fillMissing, SortedMap.get?_union, Option.or_eq_some_iff] at held
  rcases held with first | ⟨-, second⟩
  · exact valued key first
  · exact valued' key second

theorem Valued.foldl {sources : List IssueFields} (valued : f.Valued)
    (each : ∀ g ∈ sources, g.Valued) : (sources.foldl .fillMissing f).Valued := by
  induction sources generalizing f with
  | nil => exact valued
  | cons g rest ih =>
    rw [List.forall_mem_cons] at each
    exact ih (valued.fillMissing each.1) each.2

/-- The custom fields of an issue are those that its document gives with some text. -/
theorem custom_eq_some_iff {j : Json} {f : IssueFields} (decoded : decode j = some f)
    {key : String} {values : List String} :
    f.custom.get? key = some values ↔ "customfield_".toList <+: key.toList ∧ values ≠ [] ∧
      ∃ value, Payload.fieldPart? j key = some value ∧ Payload.Spells value values := by
  obtain ⟨i, decodedIssue, rfl⟩ := Option.map_eq_some_iff.mp decoded
  simp only [Payload.Issue.decode, Option.bind_eq_bind, Option.bind_eq_some_iff, Option.pure_def,
    Option.some.injEq] at decodedIssue
  obtain ⟨m, read, id, -, name, -, link, -, fields, hasFields, rfl⟩ := decodedIssue
  have found : ((fields.map Payload.Fields.issueFields).getD none).custom.get? key =
      (Payload.fieldPart? j key).bind (Payload.Fields.customTexts? key) := by
    unfold Payload.fieldPart?
    rw [Json.record_eq_part? read (by decide)] at hasFields
    change Json.optional _ (j.part? Payload.Issue.keys "fields") = _ at hasFields
    cases fields with
    | none =>
      rcases Json.optional_eq_some_none_iff.mp hasFields with absent | null
      · rw [absent]
        rfl
      · rw [null]
        rfl
    | some f =>
      cases given : j.part? Payload.Issue.keys "fields" with
      | none => rw [given] at hasFields; cases hasFields
      | some part =>
        rw [given] at hasFields
        obtain ⟨members, rfl, others⟩ :=
          Payload.Fields.decode_others (Json.decode_of_optional hasFields)
        rw [Option.bind_some, ← Payload.Fields.get?_custom, ← others]
        rfl
  change ((fields.map Payload.Fields.issueFields).getD none).custom.get? key = _ ↔ _
  rw [found, Option.bind_eq_some_iff]
  simp only [Payload.Fields.customTexts?_eq_some_iff]
  constructor
  · rintro ⟨value, given, named, nonempty, spells⟩
    exact ⟨named, nonempty, value, given, spells⟩
  · rintro ⟨named, nonempty, value, given, spells⟩
    exact ⟨value, given, named, nonempty, spells⟩

end IssueFields

namespace Issue

/-- The issue with other fields. -/
def withFields (issue : Issue) (f : IssueFields) : Issue :=
  { issue with fields := f }

/-- The issue after its fields were filled in from one source after another. -/
def filledFrom (issue : Issue) (sources : List IssueFields) : Issue :=
  issue.withFields (sources.foldl .fillMissing issue.fields)

theorem toList_or {α : Type} (a b : Option α) :
    (a.or b).toList = IssueFields.orIfEmpty a.toList b.toList := by
  cases a <;> rfl

/-- An empty list in the first place would stand in the way of what comes second. -/
theorem getD_or {α : Type} {a : Option (List α)} (valued : a ≠ some []) (b : Option (List α)) :
    (a.or b).getD [] = IssueFields.orIfEmpty (a.getD []) (b.getD []) := by
  cases a with
  | none => rfl
  | some values => exact (IssueFields.orIfEmpty_of_ne_nil (fun none => valued (none ▸ rfl)) _).symm

variable {key : String}

/-- The values of a field come from the other source where there are none. -/
theorem fieldValues_fillMissing (issue : Issue) (g : IssueFields) (other : key ≠ "project")
    (valued : issue.fields.Valued) :
    (issue.withFields (issue.fields.fillMissing g)).fieldValues key =
      IssueFields.orIfEmpty (issue.fieldValues key) ((issue.withFields g).fieldValues key) := by
  have custom := getD_or (valued key) (g.custom.get? key)
  unfold fieldValues
  simp only [withFields, IssueFields.fillMissing, Option.map_or, toList_or, if_neg other,
    SortedMap.get?_union, custom]
  split_ifs <;> rfl

/-- The values of the first of some sources that has any. -/
def firstValues (issue : Issue) (key : String) (sources : List IssueFields) : List String :=
  ((sources.find? fun f => (issue.withFields f).fieldValues key ≠ []).map fun f =>
    (issue.withFields f).fieldValues key).getD []

theorem firstValues_cons (issue : Issue) (key : String) (f : IssueFields)
    (rest : List IssueFields) :
    issue.firstValues key (f :: rest) =
      IssueFields.orIfEmpty ((issue.withFields f).fieldValues key)
        (issue.firstValues key rest) := by
  unfold firstValues
  rw [List.find?_cons]
  cases given : (issue.withFields f).fieldValues key with
  | nil => simp [IssueFields.nil_orIfEmpty]
  | cons value values => simp [given, IssueFields.orIfEmpty]

theorem firstValues_eq_nil_iff {issue : Issue} {sources : List IssueFields} :
    issue.firstValues key sources = [] ↔
      ∀ f ∈ sources, (issue.withFields f).fieldValues key = [] := by
  induction sources with
  | nil => simp [firstValues]
  | cons f rest ih =>
    rw [firstValues_cons, List.forall_mem_cons, ← ih]
    cases (issue.withFields f).fieldValues key with
    | nil => simp [IssueFields.nil_orIfEmpty]
    | cons value values => simp [IssueFields.orIfEmpty]

/-- Whatever the sources are, each of them is asked only for what those before it lack. -/
theorem fieldValues_filledFrom {issue : Issue} {sources : List IssueFields}
    (other : key ≠ "project") (valued : ∀ f ∈ issue.fields :: sources, f.Valued) :
    (issue.filledFrom sources).fieldValues key =
      issue.firstValues key (issue.fields :: sources) := by
  induction sources generalizing issue with
  | nil =>
    rw [firstValues_cons, firstValues, List.find?_nil]
    exact IssueFields.orIfEmpty_nil.symm
  | cons f rest ih =>
    obtain ⟨first, second, later⟩ :
        issue.fields.Valued ∧ f.Valued ∧ ∀ f ∈ rest, f.Valued := by simpa using valued
    have filled := @ih (issue.withFields (issue.fields.fillMissing f))
      (List.forall_mem_cons.mpr ⟨first.fillMissing second, later⟩)
    rw [firstValues_cons] at filled
    rw [firstValues_cons, firstValues_cons, ← IssueFields.orIfEmpty_assoc]
    refine filled.trans (congrArg (IssueFields.orIfEmpty · _) ?_)
    exact fieldValues_fillMissing issue f other first

end Issue

/-- The custom fields of an issue that was decoded are the members of its fields that are named as
such and have some text, each with its texts from left to right. After any number of such sources
were filled in, the values of a field are those of the first that has any, so a filter for
emptiness accepts exactly where none had one. An issue from a webhook may be the base, and so
may one that was filled in before. -/
theorem values_of_first_source :
    (∀ (j : Json) (f : IssueFields), IssueFields.decode j = some f →
      (∀ key values, f.custom.get? key = some values ↔
        "customfield_".toList <+: key.toList ∧ values ≠ [] ∧
          ∃ value, Payload.fieldPart? j key = some value ∧ Payload.Spells value values) ∧
      f.Valued) ∧
    (∀ body e, Event.parse body = .ok (some e) → e.issue.fields.Valued) ∧
    ∀ (base : Issue) (sources : List IssueFields), base.fields.Valued →
      (∀ f ∈ sources, ∃ j, IssueFields.decode j = some f) →
      (base.filledFrom sources).fields.Valued ∧
      ∀ key, key ≠ "project" →
        (base.filledFrom sources).fieldValues key =
          base.firstValues key (base.fields :: sources) ∧
        ∀ wanted, (⟨key, .empty, wanted⟩ : FieldFilter).accepts
            ((base.filledFrom sources).fieldValues key) = true ↔
          ∀ f ∈ base.fields :: sources, (base.withFields f).fieldValues key = [] := by
  refine ⟨fun j f decoded => ⟨fun key values => IssueFields.custom_eq_some_iff decoded,
    IssueFields.valued_of_decode decoded⟩, fun body e => IssueFields.valued_of_parse,
    fun base sources valued decoded => ?_⟩
  have each : ∀ f ∈ sources, f.Valued := fun f member =>
    IssueFields.valued_of_decode (decoded f member).choose_spec
  refine ⟨valued.foldl each, fun key other => ?_⟩
  have values := Issue.fieldValues_filledFrom other (List.forall_mem_cons.mpr ⟨valued, each⟩)
  refine ⟨values, fun wanted => ?_⟩
  rw [values, ← Issue.firstValues_eq_nil_iff]
  exact List.isEmpty_iff

/-- An issue that says nothing of its team. -/
def teamless : Json :=
  .object [("key", .string "P-1"),
    ("fields", .object [("customfield_1", .null), ("customfield_2", .array [.array []])])]

/-- An issue whose team is a list, and lists in it. -/
def teamed : Json :=
  .object [("key", .string "P-1"),
    ("fields", .object [
      ("customfield_1", .array [
        .array [.string "A", .number (.integer 1), .bool true],
        .object [("name", .string "C"), ("value", .string "B")],
        .object [("name", .string "D")]]),
      ("customfield_2", .string "E")])]

/-- The fields of an issue, or none at all where they cannot be read. -/
def fieldsOf (j : Json) : IssueFields :=
  (IssueFields.decode j).getD .none

/-- A team that the first source does not have comes from the second, text by text, and the second
is not asked where there was one. -/
theorem team_of_second_source :
    (Issue.filledFrom ⟨"1", ⟨"P-1"⟩, "", fieldsOf teamless⟩
      [fieldsOf teamed, fieldsOf teamless]).fieldValues "customfield_1" =
        ["A", "1", "true", "B", "D"] := by
  have read : ∀ j ∈ [teamless, teamed], IssueFields.decode j = some (fieldsOf j) := by
    decide +kernel
  obtain ⟨custom, -, filled⟩ := values_of_first_source
  have base := (custom teamless _ (read _ (by simp))).2
  obtain ⟨-, values⟩ := filled ⟨"1", ⟨"P-1"⟩, "", fieldsOf teamless⟩
    [fieldsOf teamed, fieldsOf teamless] base (by
      intro f member
      rcases List.mem_pair.mp member with rfl | rfl
      · exact ⟨teamed, read _ (by simp)⟩
      · exact ⟨teamless, read _ (by simp)⟩)
  obtain ⟨first, -⟩ := values "customfield_1" (by decide)
  exact first.trans (by decide +kernel)

end Herald
