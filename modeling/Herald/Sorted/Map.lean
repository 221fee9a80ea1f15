/-!
# Sorted maps

A map kept as its entries in increasing order of their keys, so that equal maps
are equal values. Main statements: looking up after an insertion
(`get?_insert`), in the map of a list (`get?_ofList`), in two maps together
(`get?_union`), maps with the same look-ups are equal (`ext_get?`), and the map of a
list has its entries (`entries_ofList_perm`).
-/

namespace Herald

/-- A finite map with ordered keys. -/
structure SortedMap (κ β : Type) [Ord κ] where
  entries : List (κ × β)
  sorted : entries.Pairwise fun a b => compare a.1 b.1 = .lt

namespace SortedMap

variable {κ β : Type} [Ord κ]

/-- Puts an entry into a list with increasing keys, in place of the one with its
key. -/
def insertInto (k : κ) (v : β) : List (κ × β) → List (κ × β)
  | [] => [(k, v)]
  | e :: rest =>
    match compare k e.1 with
    | .lt => (k, v) :: e :: rest
    | .eq => (k, v) :: rest
    | .gt => e :: insertInto k v rest

theorem mem_of_mem_insertInto {k : κ} {v : β} {e : κ × β} {l : List (κ × β)}
    (h : e ∈ insertInto k v l) : e = (k, v) ∨ e ∈ l := by
  induction l with
  | nil => simpa [insertInto] using h
  | cons c rest ih =>
    simp only [insertInto] at h
    split at h
    · simpa using h
    · rcases List.mem_cons.1 h with rfl | h <;> simp [*]
    · rcases List.mem_cons.1 h with rfl | h
      · simp
      · rcases ih h with rfl | h <;> simp [*]

theorem pairwise_insertInto [Std.TransOrd κ] (k : κ) (v : β) {l : List (κ × β)}
    (h : l.Pairwise fun a b => compare a.1 b.1 = .lt) :
    (insertInto k v l).Pairwise fun a b => compare a.1 b.1 = .lt := by
  induction l with
  | nil => simp [insertInto]
  | cons c rest ih =>
    rw [List.pairwise_cons] at h
    simp only [insertInto]
    split
    · rename_i hkc
      refine List.pairwise_cons.2 ⟨fun b hb => ?_, List.pairwise_cons.2 h⟩
      rcases List.mem_cons.1 hb with rfl | hb
      · exact hkc
      · exact Std.TransCmp.lt_trans hkc (h.1 b hb)
    · rename_i hkc
      exact List.pairwise_cons.2
        ⟨fun b hb => Std.TransCmp.lt_of_eq_of_lt hkc (h.1 b hb), h.2⟩
    · rename_i hkc
      refine List.pairwise_cons.2 ⟨fun b hb => ?_, ih h.2⟩
      rcases mem_of_mem_insertInto hb with rfl | hb
      · exact Std.OrientedCmp.lt_of_gt hkc
      · exact h.1 b hb

def empty : SortedMap κ β :=
  ⟨[], .nil⟩

instance : Inhabited (SortedMap κ β) :=
  ⟨empty⟩

instance [DecidableEq κ] [DecidableEq β] : DecidableEq (SortedMap κ β) := fun s t =>
  if h : s.entries = t.entries then
    .isTrue (by cases s; cases t; simp_all)
  else
    .isFalse fun e => h (e ▸ rfl)

instance [Repr κ] [Repr β] : Repr (SortedMap κ β) where
  reprPrec m n := reprPrec m.entries n

/-- Stores a value under a key, in place of the value that was there. -/
def insert [Std.TransOrd κ] (k : κ) (v : β) (m : SortedMap κ β) : SortedMap κ β :=
  ⟨insertInto k v m.entries, pairwise_insertInto k v m.sorted⟩

/-- The map of a list of entries. Of two entries with one key the later counts. -/
def ofList [Std.TransOrd κ] (l : List (κ × β)) : SortedMap κ β :=
  l.foldl (fun m e => m.insert e.1 e.2) empty

def get? [DecidableEq κ] (m : SortedMap κ β) (k : κ) : Option β :=
  m.entries.lookup k

/-- Both maps together; where both have a key, the entry of `m`. -/
def union [Std.TransOrd κ] [DecidableEq κ] (m other : SortedMap κ β) : SortedMap κ β :=
  other.entries.foldl
    (fun m e => match m.get? e.1 with
      | some _ => m
      | none => m.insert e.1 e.2) m

/-- Replaces the values, and drops the entries for which `f` has none. -/
def filterMap {γ : Type} (f : κ → β → Option γ) (m : SortedMap κ β) : SortedMap κ γ :=
  ⟨m.entries.filterMap fun e => (f e.1 e.2).map fun v => (e.1, v),
    List.Pairwise.filterMap _ (fun a a' h b hb b' hb' => by
      obtain ⟨_, _, rfl⟩ := Option.map_eq_some_iff.1 hb
      obtain ⟨_, _, rfl⟩ := Option.map_eq_some_iff.1 hb'
      exact h) m.sorted⟩

@[simp] theorem get?_empty [DecidableEq κ] (k : κ) : (empty : SortedMap κ β).get? k = none :=
  rfl

omit [Ord κ] in
theorem lookup_cons_eq [DecidableEq κ] (k : κ) (e : κ × β) (l : List (κ × β)) :
    (e :: l).lookup k = if k = e.1 then some e.2 else l.lookup k := by
  obtain ⟨k', v⟩ := e
  rw [List.lookup_cons]
  by_cases h : k = k'
  · simp [h]
  · simp [h, beq_false_of_ne h]

/-- A key below every key of a list is not found in it. -/
theorem lookup_eq_none_of_lt [DecidableEq κ] [Std.TransOrd κ] {k : κ} {l : List (κ × β)}
    (h : ∀ e ∈ l, compare k e.1 = .lt) : l.lookup k = none := by
  induction l with
  | nil => rfl
  | cons e rest ih =>
    have hne : k ≠ e.1 := fun he => by
      have := h e (by simp)
      rw [he, Std.ReflOrd.compare_self] at this
      cases this
    rw [lookup_cons_eq, if_neg hne]
    exact ih fun e' he' => h e' (List.mem_cons_of_mem _ he')

theorem lookup_insertInto [DecidableEq κ] [Std.TransOrd κ] [Std.LawfulEqOrd κ] (k k' : κ) (v : β)
    {l : List (κ × β)} (hl : l.Pairwise fun a b => compare a.1 b.1 = .lt) :
    (insertInto k v l).lookup k' = if k' = k then some v else l.lookup k' := by
  induction l with
  | nil => exact lookup_cons_eq k' (k, v) []
  | cons e rest ih =>
    rw [List.pairwise_cons] at hl
    simp only [insertInto]
    split
    · exact lookup_cons_eq k' (k, v) (e :: rest)
    · rename_i hke
      have hk := Std.LawfulEqOrd.eq_of_compare hke
      rw [lookup_cons_eq, lookup_cons_eq, ← hk]
      by_cases h : k' = k <;> simp [h]
    · rename_i hke
      rw [lookup_cons_eq, lookup_cons_eq, ih hl.2]
      by_cases h : k' = e.1
      · have hne : k' ≠ k := fun hk => by
          rw [← hk, h, Std.ReflOrd.compare_self] at hke
          cases hke
        rw [if_pos h, if_neg hne, if_pos h]
      · rw [if_neg h, if_neg h]

theorem get?_insert [DecidableEq κ] [Std.TransOrd κ] [Std.LawfulEqOrd κ] (m : SortedMap κ β)
    (k k' : κ) (v : β) :
    (m.insert k v).get? k' = if k' = k then some v else m.get? k' :=
  lookup_insertInto k k' v m.sorted

/-- Lists with increasing keys and the same look-ups are the same list. -/
theorem eq_of_lookup_eq [DecidableEq κ] [Std.TransOrd κ] [Std.LawfulEqOrd κ]
    {l m : List (κ × β)} (hl : l.Pairwise fun a b => compare a.1 b.1 = .lt)
    (hm : m.Pairwise fun a b => compare a.1 b.1 = .lt)
    (h : ∀ k, l.lookup k = m.lookup k) : l = m := by
  induction l generalizing m with
  | nil =>
    cases m with
    | nil => rfl
    | cons e m =>
      have := h e.1
      rw [lookup_cons_eq, if_pos rfl] at this
      cases this
  | cons d l ih =>
    cases m with
    | nil =>
      have := h d.1
      rw [lookup_cons_eq, if_pos rfl] at this
      cases this
    | cons e m =>
      rw [List.pairwise_cons] at hl hm
      have hkey : d.1 = e.1 := by
        rcases hc : compare d.1 e.1 with _ | _ | _
        · have := h d.1
          rw [lookup_eq_none_of_lt (l := e :: m) (fun x hx => by
            rcases List.mem_cons.1 hx with rfl | hx
            · exact hc
            · exact Std.TransCmp.lt_trans hc (hm.1 x hx)), lookup_cons_eq, if_pos rfl] at this
          cases this
        · exact Std.LawfulEqOrd.eq_of_compare hc
        · have hc' := Std.OrientedCmp.lt_of_gt hc
          have := h e.1
          rw [lookup_eq_none_of_lt (l := d :: l) (fun x hx => by
            rcases List.mem_cons.1 hx with rfl | hx
            · exact hc'
            · exact Std.TransCmp.lt_trans hc' (hl.1 x hx)), lookup_cons_eq, if_pos rfl] at this
          cases this
      have hval : d.2 = e.2 := by
        have := h d.1
        rw [lookup_cons_eq, lookup_cons_eq, if_pos rfl, if_pos hkey] at this
        exact Option.some.inj this
      have hde : d = e := Prod.ext hkey hval
      subst hde
      congr 1
      refine ih hl.2 hm.2 fun k => ?_
      by_cases hk : k = d.1
      · subst hk
        rw [lookup_eq_none_of_lt fun x hx => hl.1 x hx, lookup_eq_none_of_lt fun x hx => hm.1 x hx]
      · have := h k
        rwa [lookup_cons_eq, lookup_cons_eq, if_neg hk, if_neg hk] at this

theorem ext_get? [DecidableEq κ] [Std.TransOrd κ] [Std.LawfulEqOrd κ] {m n : SortedMap κ β}
    (h : ∀ k, m.get? k = n.get? k) : m = n := by
  cases m with | mk l hl => cases n with | mk l' hl' =>
  have := eq_of_lookup_eq hl hl' h
  subst this
  rfl

omit [Ord κ] in
theorem lookup_eq_none_of_not_mem [DecidableEq κ] {l : List (κ × β)} {k : κ}
    (absent : k ∉ l.map (·.1)) : l.lookup k = none := by
  induction l with
  | nil => rfl
  | cons e rest ih =>
    rw [List.map_cons, List.mem_cons, not_or] at absent
    rw [lookup_cons_eq, if_neg absent.1]
    exact ih absent.2

/-- No key repeats among the entries of a map. -/
theorem nodup_keys [Std.ReflOrd κ] (m : SortedMap κ β) : (m.entries.map (·.1)).Nodup := by
  rw [List.Nodup, List.pairwise_map]
  refine m.sorted.imp fun {a b} before same => ?_
  rw [same, Std.ReflOrd.compare_self] at before
  cases before

/-- The map of a list has no entries but those of the list. -/
theorem mem_of_mem_ofList [Std.TransOrd κ] {l : List (κ × β)} {e : κ × β}
    (member : e ∈ (ofList l).entries) : e ∈ l := by
  have folded : ∀ (l : List (κ × β)) (m : SortedMap κ β),
      e ∈ (l.foldl (fun m e => m.insert e.1 e.2) m).entries → e ∈ l ∨ e ∈ m.entries := by
    intro l
    induction l with
    | nil => exact fun m => .inr
    | cons first rest ih =>
      intro m member
      rcases ih (m.insert first.1 first.2) member with later | inserted
      · exact .inl (List.mem_cons_of_mem _ later)
      · rcases mem_of_mem_insertInto inserted with rfl | known
        · exact .inl List.mem_cons_self
        · exact .inr known
  rcases folded l empty member with listed | none
  · exact listed
  · cases none

/-- The map of a list finds the last entry of a key. -/
theorem get?_ofList_reverse [DecidableEq κ] [Std.TransOrd κ] [Std.LawfulEqOrd κ]
    (l : List (κ × β)) (k : κ) : (ofList l).get? k = l.reverse.lookup k := by
  have folded : ∀ m : SortedMap κ β, (l.foldl (fun m e => m.insert e.1 e.2) m).get? k =
      (l.reverse.lookup k).or (m.get? k) := by
    induction l with
    | nil => exact fun m => rfl
    | cons e rest ih =>
      intro m
      rw [List.foldl_cons, ih, get?_insert, List.reverse_cons, List.lookup_append,
        lookup_cons_eq, Option.or_assoc]
      by_cases same : k = e.1 <;> simp [same]
  rw [ofList, folded, get?_empty, Option.or_none]

omit [Ord κ] in
/-- Without repeated keys the last entry of a key is the first. -/
theorem lookup_reverse [DecidableEq κ] {l : List (κ × β)} (distinct : (l.map (·.1)).Nodup)
    (k : κ) : l.reverse.lookup k = l.lookup k := by
  induction l with
  | nil => rfl
  | cons e rest ih =>
    rw [List.map_cons, List.nodup_cons] at distinct
    rw [List.reverse_cons, List.lookup_append, ih distinct.2, lookup_cons_eq, lookup_cons_eq]
    by_cases same : k = e.1
    · subst same
      simp [lookup_eq_none_of_not_mem distinct.1]
    · simp [same]

/-- The map of a list without repeated keys finds what the list does. -/
theorem get?_ofList [DecidableEq κ] [Std.TransOrd κ] [Std.LawfulEqOrd κ] {l : List (κ × β)}
    (distinct : (l.map (·.1)).Nodup) (k : κ) : (ofList l).get? k = l.lookup k := by
  rw [get?_ofList_reverse, lookup_reverse distinct]

omit [Ord κ] in
/-- Without repeated keys the entries of a list are those that are found. -/
theorem mem_iff_lookup [DecidableEq κ] {l : List (κ × β)} (distinct : (l.map (·.1)).Nodup)
    {e : κ × β} : e ∈ l ↔ l.lookup e.1 = some e.2 := by
  induction l with
  | nil => simp
  | cons first rest ih =>
    rw [List.map_cons, List.nodup_cons] at distinct
    rw [List.mem_cons, lookup_cons_eq, ih distinct.2]
    by_cases same : e.1 = first.1
    · have alone : rest.lookup e.1 = none :=
        lookup_eq_none_of_not_mem fun again => distinct.1 (same ▸ again)
      simp [Prod.ext_iff, same, same ▸ alone, eq_comm]
    · simp [Prod.ext_iff, same]

/-- The map of a list without repeated keys has all its entries. -/
theorem entries_ofList_perm [DecidableEq κ] [Std.TransOrd κ] [Std.LawfulEqOrd κ]
    {l : List (κ × β)} (distinct : (l.map (·.1)).Nodup) : (ofList l).entries.Perm l := by
  have once : ∀ {l : List (κ × β)}, (l.map (·.1)).Nodup → l.Nodup := fun {l} distinct =>
    List.Pairwise.of_map (·.1) (fun _ _ other same => other (congrArg Prod.fst same)) distinct
  refine (List.perm_ext_iff_of_nodup (once (nodup_keys _)) (once distinct)).mpr fun e => ?_
  rw [mem_iff_lookup (nodup_keys _), mem_iff_lookup distinct, ← get?, get?_ofList distinct]

/-- Without repeated keys the order of a list makes no difference to its map. -/
theorem ofList_congr [DecidableEq κ] [Std.TransOrd κ] [Std.LawfulEqOrd κ] {l l' : List (κ × β)}
    (same : l.Perm l') (distinct : (l.map (·.1)).Nodup) : ofList l = ofList l' := by
  have distinct' : (l'.map (·.1)).Nodup := (same.map _).nodup_iff.mp distinct
  refine ext_get? fun k => Option.ext fun v => ?_
  rw [get?_ofList distinct, get?_ofList distinct', ← mem_iff_lookup distinct (e := (k, v)),
    ← mem_iff_lookup distinct' (e := (k, v)), same.mem_iff]

@[simp] theorem ofList_entries [DecidableEq κ] [Std.TransOrd κ] [Std.LawfulEqOrd κ]
    (m : SortedMap κ β) : ofList m.entries = m :=
  ext_get? (get?_ofList m.nodup_keys)

theorem get?_filterMap [DecidableEq κ] [Std.ReflOrd κ] {γ : Type} (f : κ → β → Option γ)
    (m : SortedMap κ β) (k : κ) : (m.filterMap f).get? k = (m.get? k).bind (f k) := by
  have listed : ∀ l : List (κ × β), (l.map (·.1)).Nodup →
      (l.filterMap fun e => (f e.1 e.2).map fun v => (e.1, v)).lookup k =
        (l.lookup k).bind (f k) := by
    intro l distinct
    induction l with
    | nil => rfl
    | cons e rest ih =>
      rw [List.map_cons, List.nodup_cons] at distinct
      rw [List.filterMap_cons, lookup_cons_eq]
      by_cases same : k = e.1
      · subst same
        cases made : f e.1 e.2 with
        | none => simp [made, ih distinct.2, lookup_eq_none_of_not_mem distinct.1]
        | some v => simp [made, lookup_cons_eq]
      · cases f e.1 e.2 <;> simp [lookup_cons_eq, same, ih distinct.2]
  exact listed m.entries m.nodup_keys

theorem get?_union [DecidableEq κ] [Std.TransOrd κ] [Std.LawfulEqOrd κ] (m other : SortedMap κ β)
    (k : κ) : (m.union other).get? k = (m.get? k).or (other.get? k) := by
  have folded : ∀ l : List (κ × β), (l.map (·.1)).Nodup → ∀ m : SortedMap κ β,
      (l.foldl (fun m e => match m.get? e.1 with
        | some _ => m
        | none => m.insert e.1 e.2) m).get? k = (m.get? k).or (l.lookup k) := by
    intro l distinct
    induction l with
    | nil => simp
    | cons e rest ih =>
      intro m
      rw [List.map_cons, List.nodup_cons] at distinct
      rw [List.foldl_cons, ih distinct.2, lookup_cons_eq]
      by_cases same : k = e.1
      · subst same
        cases known : m.get? e.1 with
        | none => simp [get?_insert]
        | some v => simp [known]
      · cases m.get? e.1 <;> simp [get?_insert, same]
  exact folded other.entries other.nodup_keys m

section Union

variable [DecidableEq κ] [Std.TransOrd κ] [Std.LawfulEqOrd κ]

theorem empty_union (m : SortedMap κ β) : empty.union m = m :=
  ext_get? fun k => by rw [get?_union, get?_empty, Option.none_or]

theorem union_empty (m : SortedMap κ β) : m.union empty = m :=
  ext_get? fun k => by rw [get?_union, get?_empty, Option.or_none]

theorem union_assoc (m n o : SortedMap κ β) : (m.union n).union o = m.union (n.union o) :=
  ext_get? fun k => by simp only [get?_union, Option.or_assoc]

theorem union_self (m : SortedMap κ β) : m.union m = m :=
  ext_get? fun k => by rw [get?_union, Option.or_self]

/-- The first map has nothing to add to what it had a part in. -/
theorem union_union_self (m n : SortedMap κ β) : (m.union n).union m = m.union n := by
  refine ext_get? fun k => ?_
  rw [get?_union, get?_union]
  cases m.get? k with
  | none => rw [Option.none_or, Option.or_none]
  | some v => rw [Option.some_or, Option.some_or]

end Union

end SortedMap

end Herald
