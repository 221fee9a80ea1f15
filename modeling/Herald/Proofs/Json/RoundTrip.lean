import Herald.Proofs.Json.Merged

/-!
# Reading back what was written

An encoder and a decoder belong together where what is written is plain and is read back
(`ReadsBack`), and where the decoder makes the same of a document and of the value that it stands
for. Then what was written is also read back once it is kept as a value (`ReadsBack.merged`).

Main statements: a list is read back item by item (`ReadsBack.listOf`), a name of a fixed set as
its string (`ReadsBack.name`).
-/

namespace Herald.Json

@[simp] theorem plain_string (s : String) : (string s).plain = true := rfl

@[simp] theorem plain_bool (value : Bool) : (bool value).plain = true := rfl

@[simp] theorem text_string (s : String) : text (string s) = some s := rfl

@[simp] theorem flag_bool (value : Bool) : flag (bool value) = some value := rfl

@[simp] theorem name_string {α : Type} (ofName? : String → Option α) (s : String) :
    name ofName? (string s) = ofName? s := rfl

@[simp] theorem required_some {α : Type} (decode : Json → Option α) (j : Json) :
    required decode (some j) = decode j := rfl

@[simp] theorem defaulted_some {α : Type} (default : α) (decode : Json → Option α) (j : Json) :
    defaulted default decode (some j) = decode j := rfl

@[simp] theorem lookup_nil (key : String) : lookup [] key = none := rfl

@[simp] theorem lookup_cons (member : String × Json) (members : List (String × Json))
    (key : String) : lookup (member :: members) key =
      if key = member.1 then some member.2 else lookup members key := by
  rw [lookup_eq, lookup_eq, SortedMap.lookup_cons_eq]

theorem record_object {members : List (String × Json)} (distinct : (members.map (·.1)).Nodup)
    (keys : List String) (least : Nat) :
    (object members).record keys least = some (lookup members) :=
  if_pos (unrepeated_of_nodup distinct)

/-- An object that is kept as a value has the members of the object. -/
theorem entries_merged_perm {members : List (String × Json)}
    (distinct : (members.map (·.1)).Nodup) :
    (SortedMap.ofList (mergedMembers members)).entries.Perm
      (members.map fun member => (member.1, member.2.merged)) := by
  rw [mergedMembers_eq]
  exact SortedMap.entries_ofList_perm (by simpa [Function.comp_def] using distinct)

theorem name_of_length_ne_one {α : Type} (ofName? : String → Option α)
    {members : List (String × Json)} (several : members.length ≠ 1) :
    name ofName? (object members) = none := by
  match members with
  | [] | _ :: _ :: _ => simp [name]
  | [_] => exact absurd rfl several

theorem name_stable {α : Type} (ofName? : String → Option α) : Stable (name ofName?) := by
  intro j plain
  cases j with
  | object members =>
    obtain ⟨distinct, -⟩ := plain_object_iff.mp plain
    by_cases single : members.length = 1
    · obtain ⟨⟨key, value⟩, rfl⟩ := List.length_eq_one_iff.mp single
      cases value <;> rfl
    · have several := (entries_merged_perm distinct).length_eq
      rw [List.length_map] at several
      rw [merged, name_of_length_ne_one ofName? single,
        name_of_length_ne_one ofName? (several ▸ single)]
  | null | bool | number | string | array | unreadable => rfl

/-- What is written is plain and is read back, and the decoder does not look at more than the value
of a document. -/
structure ReadsBack {α : Type} (toJson : α → Json) (decode : Json → Option α) : Prop where
  plain : ∀ a, (toJson a).plain = true
  decoded : ∀ a, decode (toJson a) = some a
  stable : Stable decode

variable {α : Type} {toJson : α → Json} {decode : Json → Option α}

theorem ReadsBack.merged (reads : ReadsBack toJson decode) (a : α) :
    decode (toJson a).merged = some a :=
  (reads.stable _ (reads.plain a)).trans (reads.decoded a)

theorem ReadsBack.text : ReadsBack .string text where
  plain := plain_string
  decoded := text_string
  stable := text_stable

theorem ReadsBack.flag : ReadsBack .bool flag where
  plain := plain_bool
  decoded := flag_bool
  stable j _ := by cases j <;> rfl

theorem ReadsBack.name {nameOf : α → String} {ofName? : String → Option α}
    (known : ∀ a, ofName? (nameOf a) = some a) :
    ReadsBack (fun a => .string (nameOf a)) (name ofName?) where
  plain a := plain_string (nameOf a)
  decoded := known
  stable := name_stable ofName?

/-- Either all items are decoded or nothing is. -/
theorem mapM_eq_filterMap {β γ : Type} (f : β → Option γ) (items : List β) :
    items.mapM f = if ∀ b ∈ items, (f b).isSome then some (items.filterMap f) else none := by
  induction items with
  | nil => rfl
  | cons b rest ih =>
    rw [List.mapM_cons, ih]
    cases made : f b with
    | none => simp [made]
    | some c =>
      by_cases every : ∀ b ∈ rest, (f b).isSome
      · rw [if_pos every, if_pos (List.forall_mem_cons.mpr ⟨made ▸ rfl, every⟩),
          List.filterMap_cons_some made]
        rfl
      · rw [if_neg every, if_neg fun all => every (List.forall_mem_cons.mp all).2]
        rfl

theorem ReadsBack.listOf (reads : ReadsBack toJson decode) :
    ReadsBack (fun items => .array (items.map toJson)) (listOf decode) where
  plain items := plain_array_iff.mpr (List.forall_mem_map.mpr fun a _ => reads.plain a)
  decoded items := by
    have each : decode ∘ toJson = fun a => pure a := funext reads.decoded
    rw [Json.listOf, List.mapM_map, each, List.mapM_pure, List.map_id']
    rfl
  stable := listOf_stable reads.stable

end Herald.Json
