import Herald.Json.Decode

/-!
# Documents as values

A document that is kept as a value has the members of its objects in the order of their
keys. Where no key repeats this changes nothing that a decoder looks at.

Main statements: a record has the same members in either form (`record_merged`), so a
decoder that is made of records reads the same from both (`Stable.record`); and what a
record still has where a member is left out or changed (`record_erase`, `record_mapMember`).
-/

namespace Herald.Json

mutual

/-- No key repeats within an object. -/
def distinct : Json → Bool
  | .array items => distinctItems items
  | .object members => decide (members.map (·.1)).Nodup && distinctMembers members
  | _ => true
termination_by structural j => j

def distinctItems : List Json → Bool
  | [] => true
  | item :: rest => item.distinct && distinctItems rest
termination_by structural items => items

def distinctMembers : List (String × Json) → Bool
  | [] => true
  | (_, value) :: rest => value.distinct && distinctMembers rest
termination_by structural members => members

end

/-- The document stands for a value, and says nothing twice. -/
def plain (j : Json) : Bool :=
  j.readable && j.distinct

theorem readableItems_iff {items : List Json} :
    readableItems items = true ↔ ∀ item ∈ items, item.readable = true := by
  induction items with
  | nil => simp [readableItems]
  | cons item rest ih => simp [readableItems, ih]

theorem readableMembers_iff {members : List (String × Json)} :
    readableMembers members = true ↔ ∀ member ∈ members, member.2.readable = true := by
  induction members with
  | nil => simp [readableMembers]
  | cons member rest ih => simp [readableMembers, ih]

theorem distinctItems_iff {items : List Json} :
    distinctItems items = true ↔ ∀ item ∈ items, item.distinct = true := by
  induction items with
  | nil => simp [distinctItems]
  | cons item rest ih => simp [distinctItems, ih]

theorem distinctMembers_iff {members : List (String × Json)} :
    distinctMembers members = true ↔ ∀ member ∈ members, member.2.distinct = true := by
  induction members with
  | nil => simp [distinctMembers]
  | cons member rest ih => simp [distinctMembers, ih]

theorem plain_array_iff {items : List Json} :
    (array items).plain = true ↔ ∀ item ∈ items, item.plain = true := by
  simp [plain, readable, distinct, readableItems_iff, distinctItems_iff, forall_and]

theorem plain_object_iff {members : List (String × Json)} :
    (object members).plain = true ↔
      (members.map (·.1)).Nodup ∧ ∀ member ∈ members, member.2.plain = true := by
  simp only [plain, readable, distinct, readableMembers_iff, distinctMembers_iff,
    Bool.and_eq_true, decide_eq_true_iff]
  exact ⟨fun given => ⟨given.2.1, fun m member => ⟨given.1 m member, given.2.2 m member⟩⟩,
    fun given => ⟨fun m member => (given.2 m member).1, given.1, fun m member =>
      (given.2 m member).2⟩⟩

theorem mergedItems_eq (items : List Json) : mergedItems items = items.map merged := by
  induction items with
  | nil => rfl
  | cons item rest ih => rw [mergedItems, ih, List.map_cons]

theorem mergedMembers_eq (members : List (String × Json)) :
    mergedMembers members = members.map fun member => (member.1, member.2.merged) := by
  induction members with
  | nil => rfl
  | cons member rest ih => rw [mergedMembers, ih, List.map_cons]

theorem lookup_eq (members : List (String × Json)) (key : String) :
    lookup members key = members.lookup key := by
  induction members with
  | nil => rfl
  | cons member rest ih =>
    rw [SortedMap.lookup_cons_eq, ← ih, lookup, List.find?_cons]
    by_cases same : key = member.1
    · simp [same]
    · simp [same, beq_eq_false_iff_ne.mpr (Ne.symm same), lookup]

/-- Leaving members out by their keys leaves out these keys. -/
theorem lookup_filter (keep : String → Bool) (members : List (String × Json)) (key : String) :
    lookup (members.filter fun member => keep member.1) key =
      if keep key then lookup members key else none := by
  rw [lookup_eq, lookup_eq]
  induction members with
  | nil => simp
  | cons member rest ih =>
    rw [List.filter_cons, SortedMap.lookup_cons_eq]
    by_cases same : key = member.1
    · subst same
      cases kept : keep member.1 with
      | true => simp [SortedMap.lookup_cons_eq]
      | false => simpa [kept] using ih
    · cases kept : keep member.1 <;> simpa [same, SortedMap.lookup_cons_eq] using ih

theorem mem_of_lookup {members : List (String × Json)} {key : String} {value : Json}
    (found : lookup members key = some value) : (key, value) ∈ members := by
  obtain ⟨member, first, rfl⟩ := Option.map_eq_some_iff.mp found
  have named : member.1 = key := by simpa using List.find?_some first
  rw [← named]
  exact List.mem_of_find?_eq_some first

/-- Without repeated keys the last member of a name is the first. -/
theorem member?_object {members : List (String × Json)} (distinct : (members.map (·.1)).Nodup)
    (key : String) : (object members).member? key = lookup members key := by
  rw [member?, ← lookup, lookup_eq, lookup_eq, SortedMap.lookup_reverse distinct]

theorem plain_of_member? {j value : Json} {key : String} (plain : j.plain = true)
    (found : j.member? key = some value) : value.plain = true := by
  cases j with
  | object members =>
    obtain ⟨distinct, values⟩ := plain_object_iff.mp plain
    rw [member?_object distinct] at found
    exact values _ (mem_of_lookup found)
  | _ => cases found

theorem unrepeated_of_nodup {keys : List String} {members : List (String × Json)}
    (distinct : (members.map (·.1)).Nodup) : unrepeated keys members = true := by
  rw [unrepeated, List.all_eq_true]
  intro key _
  rw [decide_eq_true_iff]
  have once : (members.map (·.1)).count key ≤ 1 := List.nodup_iff_count.mp distinct key
  rwa [List.count, List.countP_map, List.countP_eq_length_filter] at once

/-- The members of an object that is kept as a value, one by one. -/
theorem lookup_merged {members : List (String × Json)} (distinct : (members.map (·.1)).Nodup)
    (key : String) :
    lookup (SortedMap.ofList (mergedMembers members)).entries key =
      (lookup members key).map merged := by
  have keys : ((mergedMembers members).map (·.1)).Nodup := by
    simpa [mergedMembers_eq, Function.comp_def] using distinct
  have found : ∀ l : List (String × Json),
      (l.map fun member => (member.1, member.2.merged)).lookup key = (l.lookup key).map merged := by
    intro l
    induction l with
    | nil => rfl
    | cons member rest ih =>
      rw [List.map_cons, SortedMap.lookup_cons_eq, SortedMap.lookup_cons_eq, ih]
      split <;> rfl
  rw [lookup_eq, lookup_eq, ← SortedMap.get?, SortedMap.get?_ofList keys, mergedMembers_eq, found]

theorem member?_merged {members : List (String × Json)} (plain : (object members).plain = true)
    (key : String) :
    (object members).merged.member? key = ((object members).member? key).map merged := by
  obtain ⟨distinct, -⟩ := plain_object_iff.mp plain
  rw [merged, member?_object (SortedMap.nodup_keys _), member?_object distinct,
    lookup_merged distinct]

mutual

theorem readable_merged : ∀ {j : Json}, j.readable = true → j.merged.readable = true
  | .array items, readable => by
    rw [Json.readable] at readable
    rw [merged, mergedItems_eq, Json.readable, readableItems_iff, List.forall_mem_map]
    exact readable_mergedItems items readable
  | .object members, readable => by
    rw [Json.readable] at readable
    rw [merged, mergedMembers_eq, Json.readable, readableMembers_iff]
    intro entry member
    obtain ⟨origin, listed, rfl⟩ := List.mem_map.mp (SortedMap.mem_of_mem_ofList member)
    exact readable_mergedMembers members readable origin listed
  | .null, _ | .bool _, _ | .number _, _ | .string _, _ => rfl
  | .unreadable, readable => by cases readable

theorem readable_mergedItems : ∀ items, readableItems items = true →
    ∀ item ∈ items, item.merged.readable = true
  | [], _ => nofun
  | item :: rest, readable => by
    rw [readableItems, Bool.and_eq_true] at readable
    rw [List.forall_mem_cons]
    exact ⟨readable_merged readable.1, readable_mergedItems rest readable.2⟩

theorem readable_mergedMembers : ∀ members, readableMembers members = true →
    ∀ member ∈ members, member.2.merged.readable = true
  | [], _ => nofun
  | (_, value) :: rest, readable => by
    rw [readableMembers, Bool.and_eq_true] at readable
    rw [List.forall_mem_cons]
    exact ⟨readable_merged readable.1, readable_mergedMembers rest readable.2⟩

end

/-- The members of a record that is kept as a value. -/
theorem record_merged {j : Json} (plain : j.plain = true) (keys : List String) (least : Nat) :
    j.merged.record keys least = (j.record keys least).map fun m key => (m key).map merged := by
  cases j with
  | object members =>
    obtain ⟨distinct, -⟩ := plain_object_iff.mp plain
    rw [merged, record, record, if_pos (unrepeated_of_nodup (SortedMap.nodup_keys _)),
      if_pos (unrepeated_of_nodup distinct), Option.map_some]
    congr 1
    funext key
    exact lookup_merged distinct key
  | array items =>
    have zipped : ∀ keys : List String, ∀ items : List Json, ∀ key,
        (keys.zip (items.map merged)).lookup key = ((keys.zip items).lookup key).map merged := by
      intro keys items key
      induction keys generalizing items with
      | nil => rfl
      | cons first rest ih =>
        cases items with
        | nil => rfl
        | cons item items =>
          rw [List.map_cons, List.zip_cons_cons, List.zip_cons_cons, SortedMap.lookup_cons_eq,
            SortedMap.lookup_cons_eq, ih]
          split <;> rfl
    rw [merged, mergedItems_eq, record, record, List.length_map]
    split
    · rw [Option.map_some]
      congr 1
      funext key
      exact zipped keys items key
    · rfl
  | _ => rfl

/-- What a record holds is a member of an object, or an item of an array. -/
theorem mem_of_record {j : Json} {keys : List String} {least : Nat} {m : Members}
    (read : j.record keys least = some m) {key : String} {value : Json}
    (found : m key = some value) :
    (∃ members, j = object members ∧ (key, value) ∈ members) ∨
      ∃ items, j = array items ∧ value ∈ items := by
  cases j with
  | object members =>
    rw [record] at read
    split at read
    · cases read
      exact .inl ⟨members, rfl, mem_of_lookup found⟩
    · cases read
  | array items =>
    rw [record] at read
    split at read
    · cases read
      obtain ⟨before, after, split, -⟩ := List.lookup_eq_some_iff.mp found
      have zipped : (key, value) ∈ keys.zip items := by rw [split]; simp
      exact .inr ⟨items, rfl, (List.of_mem_zip zipped).2⟩
    · cases read
  | _ => cases read

/-- The member of a plain document, or none. -/
def PlainMember (member : Option Json) : Prop :=
  ∀ value ∈ member, value.plain = true

/-- What a record holds is plain where the record is. -/
theorem plain_of_record {j : Json} (plain : j.plain = true) {keys : List String} {least : Nat}
    {m : Members} (members : j.record keys least = some m) (key : String) :
    PlainMember (m key) := by
  intro value found
  rcases mem_of_record members found with ⟨members, rfl, member⟩ | ⟨items, rfl, member⟩
  · exact (plain_object_iff.mp plain).2 _ member
  · exact plain_array_iff.mp plain _ member

/-- The decoder reads the same from a plain document and from the value that it stands for. -/
def Stable {α : Type} (decode : Json → Option α) : Prop :=
  ∀ j, j.plain = true → decode j.merged = decode j

variable {α β : Type} {decode : Json → Option α}

theorem string?_merged (j : Json) : j.merged.string? = j.string? := by
  cases j <;> rfl

theorem text_stable : Stable text :=
  fun j _ => string?_merged j

@[simp] theorem optional_none : optional decode none = some none := rfl

@[simp] theorem looseId_none : looseId none = some none := rfl

/-- A member that is no null is decoded. -/
theorem optional_some {j : Json} {a : α} (decoded : decode j = some a)
    (unnull : decode .null = none) : optional decode (some j) = some (some a) := by
  cases j with
  | null => cases unnull.symm.trans decoded
  | _ => exact congrArg (Option.map some) decoded

/-- What is there was decoded. -/
theorem decode_of_optional {j : Json} {a : α} (there : optional decode (some j) = some (some a)) :
    decode j = some a := by
  cases j with
  | null => cases there
  | _ =>
    obtain ⟨b, decoded, same⟩ := Option.map_eq_some_iff.mp there
    cases same
    exact decoded

theorem optional_merged (stable : Stable decode) {member : Option Json}
    (plain : PlainMember member) :
    optional decode (member.map merged) = optional decode member := by
  cases member with
  | none => rfl
  | some j =>
    have same := stable j (plain j rfl)
    cases j <;> first | rfl | exact congrArg (Option.map some) same

theorem required_merged (stable : Stable decode) {member : Option Json}
    (plain : PlainMember member) :
    required decode (member.map merged) = required decode member := by
  cases member with
  | none => rfl
  | some j => exact stable j (plain j rfl)

theorem defaulted_merged (stable : Stable decode) {default : α} {member : Option Json}
    (plain : PlainMember member) :
    defaulted default decode (member.map merged) = defaulted default decode member := by
  cases member with
  | none => rfl
  | some j => exact stable j (plain j rfl)

theorem looseId_merged {member : Option Json} (plain : PlainMember member) :
    looseId (member.map merged) = looseId member := by
  cases member with
  | none => rfl
  | some j =>
    have readable : j.readable = true := (Bool.and_eq_true_iff.mp (plain j rfl)).1
    have after := readable_merged readable
    cases j with
    | array _ | object _ =>
      simp only [Option.map_some, merged, looseId] at after ⊢
      simp [after, readable]
    | _ => rfl

theorem listOf_stable (stable : Stable decode) : Stable (listOf decode) := by
  intro j plain
  cases j with
  | array items =>
    have each := plain_array_iff.mp plain
    rw [merged, mergedItems_eq, listOf, listOf]
    clear plain
    induction items with
    | nil => rfl
    | cons item rest ih =>
      rw [List.forall_mem_cons] at each
      rw [List.map_cons, List.mapM_cons, List.mapM_cons, stable item each.1, ih each.2]
  | _ => rfl

/-- A decoder of records is stable where what it makes of the members is. -/
theorem Stable.record {keys : List String} {least : Nat} {make : Members → Option α}
    (stable : ∀ m : Members, (∀ key, PlainMember (m key)) →
      make (fun key => (m key).map merged) = make m) :
    Stable fun j => j.record keys least >>= make := by
  intro j plain
  dsimp only
  rw [record_merged plain]
  cases found : j.record keys least with
  | none => rfl
  | some m => exact stable m (plain_of_record plain found)

/-- The object without the member of a key. -/
def erase (key : String) : Json → Json
  | .object members => .object (members.filter fun member => member.1 ≠ key)
  | j => j

/-- The object with the member of a key changed. -/
def mapMember (key : String) (change : Json → Json) : Json → Json
  | .object members => .object (members.map fun member =>
      if member.1 = key then (member.1, change member.2) else member)
  | j => j

variable {members : List (String × Json)} {key : String}

theorem lookup_mapMember (change : Json → Json) (k : String) :
    lookup (members.map fun member =>
      if member.1 = key then (member.1, change member.2) else member) k =
      if k = key then (lookup members k).map change else lookup members k := by
  rw [lookup_eq, lookup_eq]
  induction members with
  | nil => simp
  | cons member rest ih =>
    rw [List.map_cons, SortedMap.lookup_cons_eq, SortedMap.lookup_cons_eq, ih]
    by_cases same : k = member.1
    · subst same
      by_cases changed : member.1 = key <;> simp [changed]
    · by_cases changed : member.1 = key
      · subst changed
        simp [same]
      · simp [changed, same]

/-- The members of a record without the one of a key. -/
theorem record_erase (distinct : (members.map (·.1)).Nodup) (keys : List String) (least : Nat) :
    ((object members).erase key).record keys least =
      some fun k => if k = key then none else lookup members k := by
  have distinct' : ((members.filter fun member => member.1 ≠ key).map (·.1)).Nodup :=
    distinct.sublist (List.filter_sublist.map _)
  rw [erase, record, if_pos (unrepeated_of_nodup distinct')]
  congr 1
  funext k
  rw [lookup_filter fun k => decide (k ≠ key)]
  by_cases same : k = key <;> simp [same]

/-- The members of a record with the one of a key changed. -/
theorem record_mapMember (distinct : (members.map (·.1)).Nodup) (change : Json → Json)
    (keys : List String) (least : Nat) :
    ((object members).mapMember key change).record keys least =
      some fun k => if k = key then (lookup members k).map change else lookup members k := by
  have kept : (members.map fun member =>
      if member.1 = key then (member.1, change member.2) else member).map (·.1) =
      members.map (·.1) := by
    rw [List.map_map]
    refine List.map_congr_left fun member _ => ?_
    simp only [Function.comp_apply]
    split <;> rfl
  rw [mapMember, record, if_pos (unrepeated_of_nodup (kept ▸ distinct))]
  exact congrArg some (funext (lookup_mapMember change))

end Herald.Json
