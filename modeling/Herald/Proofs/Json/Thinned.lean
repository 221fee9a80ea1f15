import Herald.Proofs.Json.Merged
import Mathlib.Data.List.Forall2

/-!
# Members that are null

To most decoders a member that is null says as much as none. A document is compared here with what
remains of it where such members were left out, of a record and of the records within it
(`Thinned`), and a decoder is `Blind` to this where it reads both alike.

Main statements: the members of the two records, key by key (`Thinned.record`), and from them what
it takes to be blind for a decoder that is made of records (`Blind.record`) and for one of their
lists (`Blind.listOf`).
-/

namespace Herald.Json

/-- How the value of a key may differ: as it is told for that key, or else not at all. -/
def AlikeAt (parts : List (String × (Json → Json → Prop))) (key : String) : Json → Json → Prop :=
  (parts.lookup key).getD Eq

/-- Some members that are null were left out, but none of a fixed key. The others are there. -/
inductive ThinnedMembers (fixed : List String) (parts : List (String × (Json → Json → Prop))) :
    List (String × Json) → List (String × Json) → Prop
  | nil : ThinnedMembers fixed parts [] []
  | leftOut {key : String} {members members' : List (String × Json)} (free : key ∉ fixed)
      (rest : ThinnedMembers fixed parts members members') :
      ThinnedMembers fixed parts ((key, .null) :: members) members'
  | kept {key : String} {value value' : Json} {members members' : List (String × Json)}
      (alike : AlikeAt parts key value value')
      (rest : ThinnedMembers fixed parts members members') :
      ThinnedMembers fixed parts ((key, value) :: members) ((key, value') :: members')

/-- The same for members that are told apart by their places. None of them can be left out. -/
inductive ThinnedItems (parts : List (String × (Json → Json → Prop))) :
    List String → List Json → List Json → Prop
  | same (keys : List String) (items : List Json) : ThinnedItems parts keys items items
  | kept {key : String} {keys : List String} {item item' : Json} {items items' : List Json}
      (alike : AlikeAt parts key item item') (rest : ThinnedItems parts keys items items') :
      ThinnedItems parts (key :: keys) (item :: items) (item' :: items')

/-- A record without some of its members that are null. -/
inductive Thinned (keys fixed : List String) (parts : List (String × (Json → Json → Prop))) :
    Json → Json → Prop
  | same (j : Json) : Thinned keys fixed parts j j
  | object {members members' : List (String × Json)}
      (thinned : ThinnedMembers fixed parts members members') :
      Thinned keys fixed parts (.object members) (.object members')
  | array {items items' : List Json} (thinned : ThinnedItems parts keys items items') :
      Thinned keys fixed parts (.array items) (.array items')

/-- An array item by item. -/
inductive AlikeItems (alike : Json → Json → Prop) : Json → Json → Prop
  | same (j : Json) : AlikeItems alike j j
  | array {items items' : List Json} (each : List.Forall₂ alike items items') :
      AlikeItems alike (.array items) (.array items')

/-- The member of a key before and after. -/
inductive ThinnedMember (free : Prop) (alike : Json → Json → Prop) :
    Option Json → Option Json → Prop
  | same (member : Option Json) : ThinnedMember free alike member member
  | leftOut (omissible : free) : ThinnedMember free alike (some .null) none
  | kept {value value' : Json} (given : alike value value') :
      ThinnedMember free alike (some value) (some value')

/-- The member says nothing twice, or there is none. -/
def DistinctMember (member : Option Json) : Prop :=
  ∀ value ∈ member, value.distinct = true

section Members

variable {keys fixed : List String} {parts : List (String × (Json → Json → Prop))}
  {members members' : List (String × Json)} {items items' : List Json} {j j' : Json}

theorem distinct_object_iff : (object members).distinct = true ↔
    (members.map (·.1)).Nodup ∧ ∀ member ∈ members, member.2.distinct = true := by
  simp [distinct, distinctMembers_iff]

theorem distinct_array_iff :
    (array items).distinct = true ↔ ∀ item ∈ items, item.distinct = true := by
  rw [distinct, distinctItems_iff]

theorem distinct_of_record (distinct : j.distinct = true) {least : Nat} {m : Members}
    (read : j.record keys least = some m) (key : String) : DistinctMember (m key) := by
  intro value found
  rcases mem_of_record read found with ⟨members, rfl, member⟩ | ⟨items, rfl, member⟩
  · exact (distinct_object_iff.mp distinct).2 _ member
  · exact distinct_array_iff.mp distinct _ member

theorem ThinnedMembers.keys_sublist (thinned : ThinnedMembers fixed parts members members') :
    (members'.map (·.1)).Sublist (members.map (·.1)) := by
  induction thinned with
  | nil => exact .slnil
  | leftOut _ _ ih => exact .cons _ ih
  | kept _ _ ih => exact .cons_cons _ ih

theorem ThinnedMembers.lookup (thinned : ThinnedMembers fixed parts members members')
    (distinct : (members.map (·.1)).Nodup) (key : String) :
    ThinnedMember (key ∉ fixed) (AlikeAt parts key) (lookup members key)
      (lookup members' key) := by
  simp only [lookup_eq]
  induction thinned with
  | nil => exact .same none
  | @leftOut first members members' free rest ih =>
    obtain ⟨once, later⟩ := List.nodup_cons.mp distinct
    rw [SortedMap.lookup_cons_eq]
    split
    · next same =>
      subst same
      -- Another member of this key would take the place of the one that is gone.
      rw [SortedMap.lookup_eq_none_of_not_mem fun again => once (rest.keys_sublist.subset again)]
      exact .leftOut free
    · exact ih later
  | kept alike _ ih =>
    obtain ⟨-, later⟩ := List.nodup_cons.mp distinct
    rw [SortedMap.lookup_cons_eq, SortedMap.lookup_cons_eq]
    split
    · next same => exact .kept (same ▸ alike)
    · exact ih later

theorem ThinnedItems.length_eq (thinned : ThinnedItems parts keys items items') :
    items'.length = items.length := by
  induction thinned with
  | same => rfl
  | kept _ _ ih => rw [List.length_cons, List.length_cons, ih]

theorem ThinnedItems.lookup (thinned : ThinnedItems parts keys items items') {free : Prop}
    (key : String) : ThinnedMember free (AlikeAt parts key) ((keys.zip items).lookup key)
      ((keys.zip items').lookup key) := by
  induction thinned with
  | same => exact .same _
  | kept alike _ ih =>
    rw [List.zip_cons_cons, List.zip_cons_cons, SortedMap.lookup_cons_eq,
      SortedMap.lookup_cons_eq]
    split
    · next same => exact .kept (same ▸ alike)
    · exact ih

/-- Both are records or neither is, with the same members but for what was left out. -/
theorem Thinned.record (thinned : Thinned keys fixed parts j j') (distinct : j.distinct = true)
    (least : Nat) :
    (j.record keys least = none ∧ j'.record keys least = none) ∨
      ∃ m m', j.record keys least = some m ∧ j'.record keys least = some m' ∧
        ∀ key, ThinnedMember (key ∉ fixed) (AlikeAt parts key) (m key) (m' key) := by
  cases thinned with
  | same =>
    cases read : j.record keys least with
    | none => exact .inl ⟨rfl, rfl⟩
    | some m => exact .inr ⟨m, m, rfl, rfl, fun key => .same _⟩
  | object thinned =>
    obtain ⟨once, -⟩ := distinct_object_iff.mp distinct
    exact .inr ⟨_, _, if_pos (unrepeated_of_nodup once),
      if_pos (unrepeated_of_nodup (once.sublist thinned.keys_sublist)), thinned.lookup once⟩
  | array thinned =>
    rw [Json.record, Json.record, thinned.length_eq]
    split
    · exact .inr ⟨_, _, rfl, rfl, fun key => thinned.lookup key⟩
    · exact .inl ⟨rfl, rfl⟩

theorem Thinned.null_iff (thinned : Thinned keys fixed parts j j') : j = .null ↔ j' = .null := by
  cases thinned <;> simp

end Members

variable {α β : Type} {alike : Json → Json → Prop} {agree : α → α → Prop}
  {agree? : Option α → Option α → Prop} {decode : Json → Option α} {free : Prop}
  {member member' : Option Json}

/-- What the decoder makes of documents that are alike agrees, and it is not asked for one of them
only. -/
structure Blind (alike : Json → Json → Prop) (agree? : Option α → Option α → Prop)
    (decode : Json → Option α) : Prop where
  null_iff : ∀ {j j' : Json}, alike j j' → (j = .null ↔ j' = .null)
  agrees : ∀ {j j' : Json}, alike j j' → j.distinct = true → agree? (decode j) (decode j')

theorem blind_eq (decode : Json → Option α) : Blind Eq Eq decode where
  null_iff same := by rw [same]
  agrees same _ := by rw [same]

/-- A decoder of records is blind where it makes the same of members that are null and of none. -/
theorem Blind.record {keys fixed : List String} {parts : List (String × (Json → Json → Prop))}
    {least : Nat} {make : Members → Option α} (refl : ∀ a?, agree? a? a?)
    (made : ∀ m m' : Members,
      (∀ key, ThinnedMember (key ∉ fixed) (AlikeAt parts key) (m key) (m' key)) →
      (∀ key, DistinctMember (m key)) → agree? (make m) (make m')) :
    Blind (Thinned keys fixed parts) agree? fun j => j.record keys least >>= make where
  null_iff := Thinned.null_iff
  agrees thinned distinct := by
    rcases thinned.record distinct least with ⟨none, none'⟩ | ⟨m, m', read, read', thinned⟩
    · rw [none, none']
      exact refl _
    · rw [read, read']
      exact made m m' thinned (distinct_of_record distinct read)

theorem Blind.listOf (blind : Blind alike Eq decode) :
    Blind (AlikeItems alike) Eq (listOf decode) where
  null_iff alike := by cases alike <;> simp
  agrees alike distinct := by
    cases alike with
    | same => rfl
    | array each =>
      have once := distinct_array_iff.mp distinct
      rw [Json.listOf, Json.listOf]
      clear distinct
      induction each with
      | nil => rfl
      | cons first _ ih =>
        rw [List.forall_mem_cons] at once
        rw [List.mapM_cons, List.mapM_cons, blind.agrees first once.1, ih once.2]

theorem rel_refl (refl : ∀ a, agree a a) : ∀ a? : Option α, Option.Rel agree a? a?
  | none => .none
  | some a => .some (refl a)

theorem rel_bind {same : β → β → Prop} {b? b?' : Option β} {next next' : β → Option α}
    (first : Option.Rel same b? b?')
    (agrees : ∀ b b', same b b' → Option.Rel agree (next b) (next' b')) :
    Option.Rel agree (b? >>= next) (b?' >>= next') := by
  cases first with
  | none => exact .none
  | some alike => exact agrees _ _ alike

theorem rel_bind_same {b? : Option β} {next next' : β → Option α}
    (agrees : ∀ b, Option.Rel agree (next b) (next' b)) :
    Option.Rel agree (b? >>= next) (b? >>= next') :=
  rel_bind (rel_refl Eq.refl b?) fun b _ same => same ▸ agrees b

theorem rel_ite {c : Prop} [Decidable c] {yes yes' no no' : Option α}
    (both : Option.Rel agree yes yes') (neither : Option.Rel agree no no') :
    Option.Rel agree (if c then yes else no) (if c then yes' else no') := by
  split
  · exact both
  · exact neither

theorem optional_of_ne_null {value : Json} (there : value ≠ .null) :
    optional decode (some value) = (decode value).map some := by
  cases value <;> first | rfl | exact absurd rfl there

namespace ThinnedMember

/-- What is decoded of an optional member is the same, or comes from two documents that are
alike. -/
theorem optional_cases (thinned : ThinnedMember free alike member member')
    (blind : Blind alike agree? decode) (distinct : DistinctMember member) :
    optional decode member = optional decode member' ∨
      ∃ a? a?', agree? a? a?' ∧ optional decode member = a?.map some ∧
        optional decode member' = a?'.map some := by
  cases thinned with
  | same | leftOut => exact .inl rfl
  | @kept value value' given =>
    by_cases null : value = .null
    · rw [null, (blind.null_iff given).mp null]
      exact .inl rfl
    · exact .inr ⟨_, _, blind.agrees given (distinct value rfl), optional_of_ne_null null,
        optional_of_ne_null (mt (blind.null_iff given).mpr null)⟩

theorem optional_eq (thinned : ThinnedMember free alike member member')
    (blind : Blind alike Eq decode) (distinct : DistinctMember member) :
    optional decode member = optional decode member' := by
  rcases thinned.optional_cases blind distinct with same | ⟨a?, a?', rfl, given, given'⟩
  · exact same
  · exact given.trans given'.symm

theorem optional_rel (thinned : ThinnedMember free alike member member')
    (blind : Blind alike (Option.Rel agree) decode) (refl : ∀ a, agree a a)
    (distinct : DistinctMember member) :
    Option.Rel (Option.Rel agree) (optional decode member) (optional decode member') := by
  rcases thinned.optional_cases blind distinct with same | ⟨a?, a?', agrees, given, given'⟩
  · rw [same]
    exact rel_refl (rel_refl refl) _
  · rw [given, given']
    cases agrees with
    | none => exact .none
    | some agrees => exact .some (.some agrees)

theorem looseId_eq (thinned : ThinnedMember free Eq member member') :
    looseId member = looseId member' := by
  cases thinned with
  | same | leftOut => rfl
  | kept given => rw [given]

/-- A member that is required can be left out only where null is refused. -/
theorem required_eq (thinned : ThinnedMember free Eq member member')
    (unnull : decode .null = none) : required decode member = required decode member' := by
  cases thinned with
  | same => rfl
  | leftOut => exact unnull
  | kept given => rw [given]

theorem defaulted_eq {default : α} (thinned : ThinnedMember free alike member member')
    (there : ¬ free) (blind : Blind alike Eq decode) (distinct : DistinctMember member) :
    defaulted default decode member = defaulted default decode member' := by
  cases thinned with
  | same => rfl
  | leftOut omissible => exact absurd omissible there
  | @kept value value' given => exact blind.agrees given (distinct value rfl)

end ThinnedMember

end Herald.Json
