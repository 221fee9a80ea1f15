import Herald.Proofs.Json.Thinned

/-!
# Members that are left out

A member that has a default need not be written. A document of a record is compared here with what
remains of it where members that were given their defaults are gone, of the record and of the
records within it (`Abridged`), and a decoder is one that reads alike what is compared in this way
(`ReadsAlike`).

Main statements: the members of the two records, key by key (`Abridged.record`), and from them what
it takes to read alike for a decoder that is made of records (`ReadsAlike.record`) and for one of
their lists (`ReadsAlike.listOf`).
-/

namespace Herald.Json

/-- The values that an object gives for a key. -/
def written (members : List (String × Json)) (key : String) : List Json :=
  (members.filter (·.1 == key)).map (·.2)

/-- What is written for a key before and after: the same, value by value, or the default before and
nothing after. -/
inductive AbridgedValues (default? : Option Json) (alike : Json → Json → Prop) :
    List Json → List Json → Prop
  | kept {values values' : List Json} (each : List.Forall₂ alike values values') :
      AbridgedValues default? alike values values'
  | leftOut {default : Json} (given : default? = some default) :
      AbridgedValues default? alike [default] []

/-- The members before and after, key by key. Their order is free. -/
def AbridgedMembers (defaults : List (String × Json))
    (parts : List (String × (Json → Json → Prop))) (members members' : List (String × Json)) :
    Prop :=
  ∀ key, AbridgedValues (defaults.lookup key) (AlikeAt parts key) (written members key)
    (written members' key)

/-- A record without some of its members that say no more than their defaults. In an array, where a
member is told by its place, only the records within it have members to leave out. -/
inductive Abridged (keys : List String) (defaults : List (String × Json))
    (parts : List (String × (Json → Json → Prop))) : Json → Json → Prop
  | same (j : Json) : Abridged keys defaults parts j j
  | object {members members' : List (String × Json)}
      (each : AbridgedMembers defaults parts members members') :
      Abridged keys defaults parts (.object members) (.object members')
  | array {items items' : List Json} (each : ThinnedItems parts keys items items') :
      Abridged keys defaults parts (.array items) (.array items')

/-- The member of a key before and after. -/
inductive AbridgedMember (default? : Option Json) (alike : Json → Json → Prop) :
    Option Json → Option Json → Prop
  | same (member : Option Json) : AbridgedMember default? alike member member
  | kept {value value' : Json} (given : alike value value') :
      AbridgedMember default? alike (some value) (some value')
  | leftOut {default : Json} (given : default? = some default) :
      AbridgedMember default? alike (some default) none

section Members

variable {keys : List String} {defaults : List (String × Json)}
  {parts : List (String × (Json → Json → Prop))} {default? : Option Json}
  {alike : Json → Json → Prop} {j j' : Json}

theorem AbridgedMember.of_thinned {member member' : Option Json}
    (thinned : ThinnedMember False alike member member') :
    AbridgedMember default? alike member member' := by
  cases thinned with
  | same => exact .same _
  | leftOut omissible => exact omissible.elim
  | kept given => exact .kept given

theorem lookup_eq_head? (members : List (String × Json)) (key : String) :
    lookup members key = (written members key).head? := by
  rw [lookup, written, List.head?_map, List.head?_filter]

theorem unrepeated_iff {members : List (String × Json)} :
    unrepeated keys members = true ↔ ∀ key ∈ keys, (written members key).length ≤ 1 := by
  simp [unrepeated, written]

theorem AbridgedValues.head? {values values' : List Json}
    (abridged : AbridgedValues default? alike values values') :
    AbridgedMember default? alike values.head? values'.head? := by
  cases abridged with
  | kept each =>
    cases each with
    | nil => exact .same none
    | cons first _ => exact .kept first
  | leftOut given => exact .leftOut given

theorem AbridgedValues.once_iff {values values' : List Json}
    (abridged : AbridgedValues default? alike values values') :
    values.length ≤ 1 ↔ values'.length ≤ 1 := by
  cases abridged with
  | kept each => rw [each.length_eq]
  | leftOut => simp

section Written

variable {members members' : List (String × Json)} {key : String}

theorem written_cons (key : String) (value : Json) (members : List (String × Json)) (k : String) :
    written ((key, value) :: members) k =
      if key = k then value :: written members k else written members k := by
  rw [written, List.filter_cons]
  by_cases same : key = k <;> simp [same, written]

theorem written_of_not_mem (absent : key ∉ members.map (·.1)) : written members key = [] := by
  rw [written, List.map_eq_nil_iff, List.filter_eq_nil_iff]
  intro member listed same
  exact absent (eq_of_beq same ▸ List.mem_map_of_mem listed)

theorem AbridgedMembers.nil : AbridgedMembers defaults parts [] [] :=
  fun _ => .kept .nil

/-- Of a key that is not there before there is nothing after. -/
theorem AbridgedMembers.written_eq_nil (abridged : AbridgedMembers defaults parts members members')
    (absent : key ∉ members.map (·.1)) : written members' key = [] := by
  have values := abridged key
  rw [written_of_not_mem absent] at values
  generalize written members' key = after at values
  cases values with
  | kept each => exact List.forall₂_nil_left_iff.mp each

theorem AbridgedMembers.kept (abridged : AbridgedMembers defaults parts members members')
    (once : key ∉ members.map (·.1)) {value value' : Json}
    (alike : AlikeAt parts key value value') :
    AbridgedMembers defaults parts ((key, value) :: members) ((key, value') :: members') := by
  intro k
  rw [written_cons, written_cons]
  split
  · next same =>
    subst same
    rw [written_of_not_mem once, abridged.written_eq_nil once]
    exact .kept (.cons alike .nil)
  · exact abridged k

theorem AbridgedMembers.leftOut (abridged : AbridgedMembers defaults parts members members')
    (once : key ∉ members.map (·.1)) {default : Json} (given : defaults.lookup key = some default) :
    AbridgedMembers defaults parts ((key, default) :: members) members' := by
  intro k
  rw [written_cons]
  split
  · next same =>
    subst same
    rw [written_of_not_mem once, abridged.written_eq_nil once]
    exact .leftOut given
  · exact abridged k

end Written

/-- Both are records or neither is, with the same members but for what was left out. -/
theorem Abridged.record (abridged : Abridged keys defaults parts j j') (least : Nat) :
    (j.record keys least = none ∧ j'.record keys least = none) ∨
      ∃ m m', j.record keys least = some m ∧ j'.record keys least = some m' ∧
        ∀ key, AbridgedMember (defaults.lookup key) (AlikeAt parts key) (m key) (m' key) := by
  cases abridged with
  | same =>
    cases read : j.record keys least with
    | none => exact .inl ⟨rfl, rfl⟩
    | some m => exact .inr ⟨m, m, rfl, rfl, fun key => .same _⟩
  | @object members members' each =>
    have both : unrepeated keys members = true ↔ unrepeated keys members' = true := by
      rw [unrepeated_iff, unrepeated_iff]
      exact forall₂_congr fun key _ => (each key).once_iff
    by_cases once : unrepeated keys members = true
    · refine .inr ⟨_, _, if_pos once, if_pos (both.mp once), fun key => ?_⟩
      rw [lookup_eq_head?, lookup_eq_head?]
      exact (each key).head?
    · exact .inl ⟨if_neg once, if_neg (mt both.mpr once)⟩
  | array each =>
    rw [Json.record, Json.record, each.length_eq]
    split
    · exact .inr ⟨_, _, rfl, rfl, fun key => .of_thinned (each.lookup key)⟩
    · exact .inl ⟨rfl, rfl⟩

end Members

variable {α : Type} {alike : Json → Json → Prop} {decode : Json → Option α}

/-- The decoder makes the same of documents that are alike. -/
def ReadsAlike (alike : Json → Json → Prop) (decode : Json → Option α) : Prop :=
  ∀ j j', alike j j' → decode j' = decode j

theorem readsAlike_eq (decode : Json → Option α) : ReadsAlike Eq decode := by
  rintro j _ rfl
  rfl

/-- A decoder of records reads alike where it makes the same of a default and of nothing. -/
theorem ReadsAlike.record {keys : List String} {defaults : List (String × Json)}
    {parts : List (String × (Json → Json → Prop))} {least : Nat} {make : Members → Option α}
    (made : ∀ m m' : Members,
      (∀ key, AbridgedMember (defaults.lookup key) (AlikeAt parts key) (m key) (m' key)) →
      make m' = make m) :
    ReadsAlike (Abridged keys defaults parts) fun j => j.record keys least >>= make := by
  intro j j' abridged
  dsimp only
  rcases abridged.record least with ⟨none, none'⟩ | ⟨m, m', read, read', each⟩
  · rw [none, none']
  · rw [read, read']
    exact made m m' each

theorem ReadsAlike.listOf (reads : ReadsAlike alike decode) :
    ReadsAlike (AlikeItems alike) (listOf decode) := by
  intro j j' items
  cases items with
  | same => rfl
  | array each =>
    rw [Json.listOf, Json.listOf]
    induction each with
    | nil => rfl
    | cons first _ ih => rw [List.mapM_cons, List.mapM_cons, reads _ _ first, ih]

namespace AbridgedMember

variable {default? : Option Json} {member member' : Option Json}

/-- A member that is required has no default. -/
theorem required_eq (abridged : AbridgedMember default? alike member member')
    (reads : ReadsAlike alike decode) (needed : default? = none) :
    required decode member' = required decode member := by
  cases abridged with
  | same => rfl
  | kept given => exact reads _ _ given
  | leftOut given => cases needed.symm.trans given

/-- What stands for a member that is absent is what its default is decoded to. -/
theorem defaulted_eq {default : Json} {a : α}
    (abridged : AbridgedMember (some default) alike member member')
    (reads : ReadsAlike alike decode) (stands : decode default = some a) :
    defaulted a decode member' = defaulted a decode member := by
  cases abridged with
  | same => rfl
  | kept given => exact reads _ _ given
  | leftOut given =>
    cases given
    exact stands.symm

end AbridgedMember

end Herald.Json
