import Herald.Proofs.Json.Abridged
import Herald.Proofs.Json.RoundTrip
import Herald.Store.SeedJson
import Mathlib.Data.List.Nodup

/-!
# The format of seeds

A seed is a document of records within records. Each of the records is read back from what it is
written as, in whatever order the document gives its members (`readsBack`), and each may leave out
its members that have a default (`Abridged`, `readsAlike`). The defaults are stated as what would be
written for them.

Main statement: seeds are read back, and what is left out of one stands for its default
(`seeds_read_back`).
-/

namespace Herald

open Json (AlikeItems ReadsAlike ReadsBack Stable defaulted_merged readsAlike_eq required_merged)

namespace Instance

theorem readsBack : ReadsBack toJson ofJson? where
  plain i := Json.plain_object_iff.mpr (by simp)
  decoded i := by
    rw [toJson, ofJson?, Json.record_object (by simp)]
    simp [InstanceKind.ofName?_name]
  stable := .record fun m plain => by
    simp only [required_merged Json.text_stable (plain _),
      defaulted_merged (Json.name_stable _) (plain _)]

/-- An instance without its kind is in the cloud. -/
def Abridged : Json → Json → Prop :=
  Json.Abridged ["id", "base_url", "kind"] [("kind", .string "cloud")] []

theorem readsAlike : ReadsAlike Abridged ofJson? :=
  .record fun m m' each => by
    simp only [(each "id").required_eq (readsAlike_eq _) rfl,
      (each "base_url").required_eq (readsAlike_eq _) rfl,
      (each "kind").defaulted_eq (readsAlike_eq (Json.name InstanceKind.ofName?))
        (show _ = some .cloud by decide)]

end Instance

namespace Credentials

/-- The secrets are stable whether they are the members of an object or the items of an array. -/
theorem ofParts?_stable (type : String) : Stable (ofParts? type) := by
  intro parts plain
  unfold ofParts?
  split
  · exact Stable.record (fun m plain => by
      simp only [required_merged Json.text_stable (plain _)]) parts plain
  · split
    · exact Stable.record (fun m plain => by
        simp only [required_merged Json.text_stable (plain _)]) parts plain
    · rfl

/-- Without its type an object is kept as the value of its other members. -/
theorem filter_merged {members : List (String × Json)} (distinct : (members.map (·.1)).Nodup) :
    Json.object ((SortedMap.ofList (Json.mergedMembers members)).entries.filter (·.1 != "type")) =
      (Json.object (members.filter (·.1 != "type"))).merged := by
  rw [Json.merged]
  congr 1
  refine SortedMap.eq_of_lookup_eq (List.Pairwise.filter _ (SortedMap.sorted _))
    (SortedMap.sorted _) fun key => ?_
  rw [← Json.lookup_eq, ← Json.lookup_eq, Json.lookup_filter (· != "type"),
    Json.lookup_merged distinct, Json.lookup_merged (distinct.sublist (List.filter_sublist.map _)),
    Json.lookup_filter (· != "type")]
  split <;> rfl

theorem stable : Stable ofJson? := by
  intro j plain
  have readable := (Bool.and_eq_true_iff.mp plain).1
  have readable' := Json.readable_merged readable
  cases j with
  | object members =>
    obtain ⟨distinct, values⟩ := Json.plain_object_iff.mp plain
    have others : (Json.object (members.filter (·.1 != "type"))).plain = true :=
      Json.plain_object_iff.mpr ⟨distinct.sublist (List.filter_sublist.map _),
        fun member listed => values member (List.mem_of_mem_filter listed)⟩
    have read := Json.record_object distinct ["type"] 1
    have read' := Json.record_merged plain ["type"] 1
    have typed := Json.plain_of_record plain read "type"
    rw [Json.merged] at readable' read' ⊢
    rw [ofJson?, ofJson?, if_pos readable, if_pos readable', read', read]
    simp only [Option.map_some, Option.bind_eq_bind, Option.bind_some, filter_merged distinct,
      ofParts?_stable _ _ others, required_merged Json.text_stable typed]
  | array items =>
    cases items with
    | nil => rfl
    | cons type parts =>
      have each := List.forall_mem_cons.mp (Json.plain_array_iff.mp plain)
      have others : ∀ kind, ofParts? kind (.array (Json.mergedItems parts)) =
          ofParts? kind (.array parts) := fun kind =>
        ofParts?_stable kind (.array parts) (Json.plain_array_iff.mpr each.2)
      rw [Json.merged, Json.mergedItems] at readable' ⊢
      rw [ofJson?, ofJson?, if_pos readable, if_pos readable']
      simp only [others, Json.text_stable type each.1]
  | _ => rfl

theorem readsBack : ReadsBack toJson ofJson? where
  plain c := by cases c <;> exact Json.plain_object_iff.mpr (by simp)
  decoded c := by cases c <;> rfl
  stable := stable

end Credentials

namespace Settings

/-- What a member says about a role. -/
def setting? (member : String × Json) : Option (Role × Bool) := do
  return (← Role.ofName? member.1, ← Json.flag member.2)

theorem roles?_object (members : List (String × Json)) :
    roles? (.object members) =
      if ∀ member ∈ members, (setting? member).isSome then
        some (SortedMap.ofList (members.filterMap setting?))
      else none := by
  have read : roles? (.object members) =
      members.mapM setting? >>= fun settings => some (SortedMap.ofList settings) := rfl
  rw [read, Json.mapM_eq_filterMap]
  split <;> rfl

theorem setting?_merged (member : String × Json) :
    setting? (member.1, member.2.merged) = setting? member := by
  obtain ⟨key, value⟩ := member
  cases value <;> rfl

/-- Members of different keys speak of different roles. -/
theorem nodup_settings {members : List (String × Json)} (distinct : (members.map (·.1)).Nodup) :
    ((members.filterMap setting?).map (·.1)).Nodup := by
  rw [List.Nodup, List.pairwise_map] at distinct ⊢
  refine List.pairwise_filterMap.mpr (distinct.imp ?_)
  intro member member' other (role, on) said (role', on') said' same
  have named : ∀ {member role on}, setting? member = some (role, on) → role.name = member.1 := by
    intro member role on said
    obtain ⟨known, found, said⟩ := Option.bind_eq_some_iff.mp said
    obtain ⟨_, _, made⟩ := Option.bind_eq_some_iff.mp said
    cases made
    simpa using List.find?_some found
  exact other ((named said).symm.trans ((congrArg Role.name same).trans (named said')))

theorem roles?_stable : Stable roles? := by
  intro j plain
  cases j with
  | object members =>
    obtain ⟨distinct, -⟩ := Json.plain_object_iff.mp plain
    have same := Json.entries_merged_perm distinct
    have said : ((SortedMap.ofList (Json.mergedMembers members)).entries.filterMap setting?).Perm
        (members.filterMap setting?) := by
      refine (same.filterMap setting?).trans (.of_eq ?_)
      rw [List.filterMap_map]
      exact congrArg (members.filterMap ·) (funext setting?_merged)
    have every : (∀ member ∈ (SortedMap.ofList (Json.mergedMembers members)).entries,
        (setting? member).isSome) ↔ ∀ member ∈ members, (setting? member).isSome := by
      simp only [same.mem_iff, List.forall_mem_map, setting?_merged]
    rw [Json.merged, roles?_object, roles?_object,
      SortedMap.ofList_congr said (nodup_settings (SortedMap.nodup_keys _))]
    simp only [every]
  | _ => rfl

theorem roles_readBack : ReadsBack
    (fun roles => .object (roles.entries.map fun (role, on) => (role.name, .bool on))) roles? where
  plain roles := by
    have named : (roles.entries.map fun (role, on) => (role.name, Json.bool on)).map (·.1) =
        (roles.entries.map (·.1)).map Role.name := by
      rw [List.map_map, List.map_map]
      rfl
    have apart : Function.Injective Role.name := fun role role' same => by
      rw [← Option.some_inj, ← Role.ofName?_name role, same, Role.ofName?_name]
    refine Json.plain_object_iff.mpr ⟨?_, List.forall_mem_map.mpr fun entry _ => rfl⟩
    rw [named]
    exact List.Nodup.map apart (SortedMap.nodup_keys roles)
  decoded roles := by
    have said : ∀ entry : Role × Bool, setting? (entry.1.name, .bool entry.2) = some entry := by
      rintro ⟨role, on⟩
      simp [setting?, Role.ofName?_name]
    rw [roles?_object, if_pos (List.forall_mem_map.mpr fun entry _ => by rw [said entry]; rfl),
      List.filterMap_map]
    simp [said]
  stable := roles?_stable

theorem readsBack : ReadsBack toJson ofJson? where
  plain s := Json.plain_object_iff.mpr (by simp [roles_readBack.plain s.roles])
  decoded s := by
    rw [toJson, ofJson?, Json.record_object (by simp)]
    simp [roles_readBack.decoded s.roles]
  stable := .record fun m plain => by
    simp only [defaulted_merged ReadsBack.flag.stable (plain _),
      defaulted_merged roles?_stable (plain _)]

/-- Settings without a general switch have it off, and without roles they set none. -/
def Abridged : Json → Json → Prop :=
  Json.Abridged ["notifications", "roles_for_dm_notification"]
    [("notifications", .bool false), ("roles_for_dm_notification", .object [])] []

theorem readsAlike : ReadsAlike Abridged ofJson? :=
  .record fun m m' each => by
    simp only [(each "notifications").defaulted_eq (readsAlike_eq Json.flag)
        (show _ = some false from rfl),
      (each "roles_for_dm_notification").defaulted_eq (readsAlike_eq roles?)
        (show _ = some .empty from rfl)]

end Settings

namespace Connection

theorem readsBack : ReadsBack toJson ofJson? where
  plain c := Json.plain_object_iff.mpr
    (by simp [Credentials.readsBack.plain c.credentials, Settings.readsBack.plain c.settings])
  decoded c := by
    rw [toJson, ofJson?, Json.record_object (by simp)]
    simp [Credentials.readsBack.decoded c.credentials, Settings.readsBack.decoded c.settings]
  stable := .record fun m plain => by
    simp only [required_merged Json.text_stable (plain _),
      defaulted_merged Json.text_stable (plain _),
      required_merged Credentials.stable (plain _),
      defaulted_merged Settings.readsBack.stable (plain _)]

/-- A connection without a name to show has the empty one, and without settings it asks for no
direct messages. -/
def Abridged : Json → Json → Prop :=
  Json.Abridged ["account_id", "display_name", "credentials", "settings"]
    [("display_name", .string ""), ("settings", Settings.disabled.toJson)]
    [("settings", Settings.Abridged)]

theorem readsAlike : ReadsAlike Abridged ofJson? :=
  .record fun m m' each => by
    simp only [(each "account_id").required_eq (readsAlike_eq _) rfl,
      (each "display_name").defaulted_eq (readsAlike_eq Json.text) (show _ = some "" from rfl),
      (each "credentials").required_eq (readsAlike_eq _) rfl,
      (each "settings").defaulted_eq Settings.readsAlike
        (Settings.readsBack.decoded Settings.disabled)]

end Connection

namespace UserRecord

theorem readsBack : ReadsBack toJson ofJson? where
  plain u := Json.plain_object_iff.mpr (by simp [Connection.readsBack.plain u.connection])
  decoded u := by
    rw [toJson, ofJson?, Json.record_object (by simp)]
    simp [Connection.readsBack.decoded u.connection]
  stable := .record fun m plain => by
    simp only [required_merged Json.text_stable (plain _),
      required_merged Connection.readsBack.stable (plain _)]

def Abridged : Json → Json → Prop :=
  Json.Abridged ["instance_id", "mattermost_user_id", "connection"] []
    [("connection", Connection.Abridged)]

theorem readsAlike : ReadsAlike Abridged ofJson? :=
  .record fun m m' each => by
    simp only [(each "instance_id").required_eq (readsAlike_eq _) rfl,
      (each "mattermost_user_id").required_eq (readsAlike_eq _) rfl,
      (each "connection").required_eq Connection.readsAlike rfl]

end UserRecord

/-- A set is read back item by item. -/
theorem SortedSet.readsBack {α : Type} [Ord α] [Std.TransOrd α] [Std.LawfulEqOrd α]
    {toJson : α → Json} {decode : Json → Option α} (reads : ReadsBack toJson decode) :
    ReadsBack (fun s : SortedSet α => .array (s.toList.map toJson)) (ofJson? decode) where
  plain s := reads.listOf.plain s.toList
  decoded s := by
    rw [ofJson?, reads.listOf.decoded, Option.map_some, ofList_toList]
  stable j plain := congrArg (Option.map ofList) (reads.listOf.stable j plain)

theorem texts_readBack :
    ReadsBack (fun s : SortedSet String => .ofTexts s.toList) (SortedSet.ofJson? Json.text) :=
  SortedSet.readsBack ReadsBack.text

theorem EventFlag.names_readBack :
    ReadsBack (fun s : FlagSet => .ofTexts (s.toList.map EventFlag.name))
      (SortedSet.ofJson? (Json.name EventFlag.ofName?)) := by
  simpa [Json.ofTexts, Function.comp_def] using
    SortedSet.readsBack (ReadsBack.name EventFlag.ofName?_name)

namespace FieldFilter

theorem readsBack : ReadsBack toJson ofJson? where
  plain f := Json.plain_object_iff.mpr (by simp [texts_readBack.plain f.values])
  decoded f := by
    rw [toJson, ofJson?, Json.record_object (by simp)]
    simp [Inclusion.ofName?_name, texts_readBack.decoded f.values]
  stable := .record fun m plain => by
    simp only [required_merged Json.text_stable (plain _),
      required_merged (Json.name_stable _) (plain _),
      defaulted_merged texts_readBack.stable (plain _)]

/-- A filter without values has none. -/
def Abridged : Json → Json → Prop :=
  Json.Abridged ["key", "inclusion", "values"] [("values", .array [])] []

theorem readsAlike : ReadsAlike Abridged ofJson? :=
  .record fun m m' each => by
    simp only [(each "key").required_eq (readsAlike_eq _) rfl,
      (each "inclusion").required_eq (readsAlike_eq _) rfl,
      (each "values").defaulted_eq (readsAlike_eq (SortedSet.ofJson? Json.text))
        (show _ = some .empty from rfl)]

end FieldFilter

namespace Filters

theorem readsBack : ReadsBack toJson ofJson? where
  plain f := Json.plain_object_iff.mpr
    (by simp [EventFlag.names_readBack.plain f.events, texts_readBack.plain f.projects,
      texts_readBack.plain f.issueTypes, FieldFilter.readsBack.listOf.plain f.fields])
  decoded f := by
    rw [toJson, ofJson?, Json.record_object (by simp)]
    simp [EventFlag.names_readBack.decoded f.events, texts_readBack.decoded f.projects,
      texts_readBack.decoded f.issueTypes, FieldFilter.readsBack.listOf.decoded f.fields]
  stable := .record fun m plain => by
    simp only [defaulted_merged EventFlag.names_readBack.stable (plain _),
      defaulted_merged texts_readBack.stable (plain _),
      defaulted_merged FieldFilter.readsBack.listOf.stable (plain _)]

/-- Filters that leave out a set or the filters on fields ask for nothing there. -/
def Abridged : Json → Json → Prop :=
  Json.Abridged ["events", "projects", "issue_types", "fields"]
    [("events", .array []), ("projects", .array []), ("issue_types", .array []),
      ("fields", .array [])]
    [("fields", AlikeItems FieldFilter.Abridged)]

theorem readsAlike : ReadsAlike Abridged ofJson? :=
  .record fun m m' each => by
    simp only [(each "events").defaulted_eq
        (readsAlike_eq (SortedSet.ofJson? (Json.name EventFlag.ofName?)))
        (show _ = some .empty from rfl),
      (each "projects").defaulted_eq (readsAlike_eq (SortedSet.ofJson? Json.text))
        (show _ = some .empty from rfl),
      (each "issue_types").defaulted_eq (readsAlike_eq (SortedSet.ofJson? Json.text))
        (show _ = some .empty from rfl),
      (each "fields").defaulted_eq FieldFilter.readsAlike.listOf (show _ = some [] from rfl)]

end Filters

namespace Subscription

theorem readsBack : ReadsBack toJson ofJson? where
  plain s := Json.plain_object_iff.mpr (by simp [Filters.readsBack.plain s.filters])
  decoded s := by
    rw [toJson, ofJson?, Json.record_object (by simp)]
    simp [Filters.readsBack.decoded s.filters]
  stable := .record fun m plain => by
    simp only [required_merged Json.text_stable (plain _),
      required_merged Filters.readsBack.stable (plain _)]

def Abridged : Json → Json → Prop :=
  Json.Abridged ["id", "channel_id", "name", "instance_id", "filters"] []
    [("filters", Filters.Abridged)]

theorem readsAlike : ReadsAlike Abridged ofJson? :=
  .record fun m m' each => by
    simp only [(each "id").required_eq (readsAlike_eq _) rfl,
      (each "channel_id").required_eq (readsAlike_eq _) rfl,
      (each "name").required_eq (readsAlike_eq _) rfl,
      (each "instance_id").required_eq (readsAlike_eq _) rfl,
      (each "filters").required_eq Filters.readsAlike rfl]

end Subscription

namespace Seed

theorem readsBack : ReadsBack toJson ofJson? where
  plain s := Json.plain_object_iff.mpr
    (by simp [Instance.readsBack.listOf.plain s.instances,
      UserRecord.readsBack.listOf.plain s.users,
      Subscription.readsBack.listOf.plain s.subscriptions])
  decoded s := by
    rw [toJson, ofJson?, Json.record_object (by simp)]
    simp [Instance.readsBack.listOf.decoded s.instances,
      UserRecord.readsBack.listOf.decoded s.users,
      Subscription.readsBack.listOf.decoded s.subscriptions]
  stable := .record fun m plain => by
    simp only [defaulted_merged Instance.readsBack.listOf.stable (plain _),
      defaulted_merged UserRecord.readsBack.listOf.stable (plain _),
      defaulted_merged Subscription.readsBack.listOf.stable (plain _)]

/-- A seed that leaves out its instances, users or subscriptions has none. -/
def Abridged : Json → Json → Prop :=
  Json.Abridged ["instances", "users", "subscriptions"]
    [("instances", .array []), ("users", .array []), ("subscriptions", .array [])]
    [("instances", AlikeItems Instance.Abridged), ("users", AlikeItems UserRecord.Abridged),
      ("subscriptions", AlikeItems Subscription.Abridged)]

theorem readsAlike : ReadsAlike Abridged ofJson? :=
  .record fun m m' each => by
    simp only [(each "instances").defaulted_eq Instance.readsAlike.listOf
        (show _ = some [] from rfl),
      (each "users").defaulted_eq UserRecord.readsAlike.listOf (show _ = some [] from rfl),
      (each "subscriptions").defaulted_eq Subscription.readsAlike.listOf
        (show _ = some [] from rfl)]

/-- Every seed is read back from what it is written as, and from the value that this is kept as.
What leaves out members that have a default, be it of the seed or of any record within it, is read
as the document that gives the defaults. -/
theorem seeds_read_back :
    (∀ s : Seed, ofJson? s.toJson = some s ∧ ofJson? s.toJson.merged = some s) ∧
      ∀ full short, Abridged full short → ofJson? short = ofJson? full :=
  ⟨fun s => ⟨readsBack.decoded s, readsBack.merged s⟩, readsAlike⟩

example : ofJson? (.object []) = some empty := by
  rfl

/-- Ann, connected to an instance in the cloud, with direct messages on. -/
def annsSeed : Seed where
  instances := [⟨⟨"jira"⟩, "https://jira.example.com", .cloud⟩]
  users := [⟨⟨"jira"⟩, ⟨"ann"⟩, ⟨⟨"5b10"⟩, "", .bearer "secret", .enabled⟩⟩]
  subscriptions := []

/-- The same without all that goes without saying. -/
def annsTerseDocument : Json :=
  .object [
    ("instances", .array [.object [("id", .string "jira"),
      ("base_url", .string "https://jira.example.com")]]),
    ("users", .array [.object [("instance_id", .string "jira"),
      ("mattermost_user_id", .string "ann"),
      ("connection", .object [("account_id", .string "5b10"),
        ("credentials", (Credentials.bearer "secret").toJson),
        ("settings", .object [("notifications", .bool true)])])]])]

theorem annsTerseDocument_abridged : Abridged annsSeed.toJson annsTerseDocument := by
  refine .object ?_
  refine .kept ?_ (by decide) (AlikeItems.array (.cons ?installed .nil))
  case installed =>
    refine .object ?_
    refine .kept ?_ (by decide) rfl
    refine .kept ?_ (by decide) rfl
    exact .leftOut .nil (by decide) rfl
  refine .kept ?_ (by decide) (AlikeItems.array (.cons ?user .nil))
  case user =>
    refine .object ?_
    refine .kept ?_ (by decide) rfl
    refine .kept ?_ (by decide) rfl
    refine .kept .nil (by decide) (Json.Abridged.object ?_)
    refine .kept ?_ (by decide) rfl
    refine .leftOut ?_ (by decide) rfl
    refine .kept ?_ (by decide) rfl
    refine .kept .nil (by decide) (Json.Abridged.object ?_)
    refine .kept ?_ (by decide) rfl
    exact .leftOut .nil (by decide) rfl
  exact .leftOut .nil (by decide) rfl

theorem anns_terse_document_read : Abridged annsSeed.toJson annsTerseDocument ∧
    ofJson? annsTerseDocument = some annsSeed := by
  have abridged := annsTerseDocument_abridged
  exact ⟨abridged, (seeds_read_back.2 _ _ abridged).trans (seeds_read_back.1 annsSeed).1⟩

end Seed

end Herald
