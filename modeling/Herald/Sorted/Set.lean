/-!
# Sorted sets

A set kept as its elements in increasing order, so that equal sets are equal
values and listing one needs no sorting. Main statements: the elements after an
insertion (`mem_insert`), sets with the same elements are equal (`ext_mem`), and
inserting the elements of a set one by one gives it back (`ofList_toList`).
-/

namespace Herald

/-- A finite set of ordered values. -/
structure SortedSet (α : Type) [Ord α] where
  toList : List α
  sorted : toList.Pairwise fun a b => compare a b = .lt

namespace SortedSet

variable {α : Type} [Ord α]

/-- Inserts an element into an increasing list that may hold it already. -/
def insertInto (a : α) : List α → List α
  | [] => [a]
  | b :: rest =>
    match compare a b with
    | .lt => a :: b :: rest
    | .eq => b :: rest
    | .gt => b :: insertInto a rest

theorem mem_of_mem_insertInto {a b : α} {l : List α} (h : b ∈ insertInto a l) :
    b = a ∨ b ∈ l := by
  induction l with
  | nil => simpa [insertInto] using h
  | cons c rest ih =>
    simp only [insertInto] at h
    split at h
    · simpa using h
    · exact .inr h
    · rcases List.mem_cons.1 h with rfl | h
      · simp
      · rcases ih h with rfl | h <;> simp [*]

theorem pairwise_insertInto [Std.TransOrd α] (a : α) {l : List α}
    (h : l.Pairwise fun a b => compare a b = .lt) :
    (insertInto a l).Pairwise fun a b => compare a b = .lt := by
  induction l with
  | nil => simp [insertInto]
  | cons c rest ih =>
    rw [List.pairwise_cons] at h
    simp only [insertInto]
    split
    · rename_i hac
      refine List.pairwise_cons.2 ⟨fun b hb => ?_, List.pairwise_cons.2 h⟩
      rcases List.mem_cons.1 hb with rfl | hb
      · exact hac
      · exact Std.TransCmp.lt_trans hac (h.1 b hb)
    · exact List.pairwise_cons.2 h
    · rename_i hac
      refine List.pairwise_cons.2 ⟨fun b hb => ?_, ih h.2⟩
      rcases mem_of_mem_insertInto hb with rfl | hb
      · exact Std.OrientedCmp.lt_of_gt hac
      · exact h.1 b hb

instance : Membership α (SortedSet α) where
  mem s a := a ∈ s.toList

def empty : SortedSet α :=
  ⟨[], .nil⟩

instance : Inhabited (SortedSet α) :=
  ⟨empty⟩

instance [DecidableEq α] : DecidableEq (SortedSet α) := fun s t =>
  if h : s.toList = t.toList then
    .isTrue (by cases s; cases t; simp_all)
  else
    .isFalse fun e => h (e ▸ rfl)

instance [DecidableEq α] (a : α) (s : SortedSet α) : Decidable (a ∈ s) :=
  inferInstanceAs (Decidable (a ∈ s.toList))

instance [Repr α] : Repr (SortedSet α) where
  reprPrec s n := reprPrec s.toList n

def insert [Std.TransOrd α] (a : α) (s : SortedSet α) : SortedSet α :=
  ⟨insertInto a s.toList, pairwise_insertInto a s.sorted⟩

/-- The set of the elements of a list, in whatever order and however often the
list holds them. -/
def ofList [Std.TransOrd α] (l : List α) : SortedSet α :=
  l.foldl (fun s a => s.insert a) empty

def isEmpty (s : SortedSet α) : Bool :=
  s.toList.isEmpty

def size (s : SortedSet α) : Nat :=
  s.toList.length

/-- Some element is in both sets. -/
def intersects [DecidableEq α] (s t : SortedSet α) : Bool :=
  s.toList.any (· ∈ t)

theorem mem_toList {a : α} {s : SortedSet α} : a ∈ s.toList ↔ a ∈ s := Iff.rfl

theorem isEmpty_iff {s : SortedSet α} : s.isEmpty = true ↔ s = empty := by
  obtain ⟨elements, sorted⟩ := s
  simp [isEmpty, empty]

@[simp] theorem not_mem_empty (a : α) : a ∉ (empty : SortedSet α) :=
  List.not_mem_nil

theorem mem_insertInto [Std.LawfulEqOrd α] {a b : α} {l : List α} :
    b ∈ insertInto a l ↔ b = a ∨ b ∈ l := by
  refine ⟨mem_of_mem_insertInto, fun h => ?_⟩
  induction l with
  | nil => simpa [insertInto] using h
  | cons c rest ih =>
    simp only [insertInto]
    split
    · simpa using h
    · rename_i hac
      have := Std.LawfulEqOrd.eq_of_compare hac
      subst this
      simpa using h
    · rcases h with rfl | h
      · exact List.mem_cons_of_mem _ (ih (.inl rfl))
      · rcases List.mem_cons.1 h with rfl | h
        · simp
        · exact List.mem_cons_of_mem _ (ih (.inr h))

@[simp] theorem mem_insert [Std.TransOrd α] [Std.LawfulEqOrd α] {a b : α} {s : SortedSet α} :
    b ∈ s.insert a ↔ b = a ∨ b ∈ s :=
  mem_insertInto

theorem mem_foldl_insert [Std.TransOrd α] [Std.LawfulEqOrd α] {b : α} {l : List α}
    {s : SortedSet α} :
    b ∈ l.foldl (fun s a => s.insert a) s ↔ b ∈ l ∨ b ∈ s := by
  induction l generalizing s with
  | nil => simp
  | cons a rest ih =>
    rw [List.foldl_cons, ih, mem_insert, List.mem_cons]
    constructor
    · rintro (h | h | h) <;> simp [h]
    · rintro ((h | h) | h) <;> simp [h]

@[simp] theorem mem_ofList [Std.TransOrd α] [Std.LawfulEqOrd α] {b : α} {l : List α} :
    b ∈ ofList l ↔ b ∈ l := by
  simp [ofList, mem_foldl_insert]

/-- Two increasing lists with the same elements are the same list. -/
theorem eq_of_sorted [Std.TransOrd α] [Std.LawfulEqOrd α] {l m : List α}
    (hl : l.Pairwise fun a b => compare a b = .lt)
    (hm : m.Pairwise fun a b => compare a b = .lt)
    (h : ∀ a, a ∈ l ↔ a ∈ m) : l = m := by
  induction l generalizing m with
  | nil =>
    cases m with
    | nil => rfl
    | cons b m => exact absurd ((h b).2 (by simp)) (by simp)
  | cons a l ih =>
    cases m with
    | nil => exact absurd ((h a).1 (by simp)) (by simp)
    | cons b m =>
      rw [List.pairwise_cons] at hl hm
      have irrefl : ∀ x : α, compare x x ≠ .lt := fun x hx => by
        rw [Std.ReflOrd.compare_self] at hx
        cases hx
      have hab : a = b := by
        rcases List.mem_cons.1 ((h a).1 (by simp)) with e | ha
        · exact e
        · rcases List.mem_cons.1 ((h b).2 (by simp)) with e | hb
          · exact e.symm
          · exact absurd (Std.TransCmp.lt_trans (hl.1 b hb) (hm.1 a ha)) (irrefl a)
      subst hab
      congr 1
      refine ih hl.2 hm.2 fun x => ⟨fun hx => ?_, fun hx => ?_⟩
      · rcases List.mem_cons.1 ((h x).1 (List.mem_cons_of_mem _ hx)) with rfl | hx'
        · exact absurd (hl.1 x hx) (irrefl x)
        · exact hx'
      · rcases List.mem_cons.1 ((h x).2 (List.mem_cons_of_mem _ hx)) with rfl | hx'
        · exact absurd (hm.1 x hx) (irrefl x)
        · exact hx'

theorem ext_mem [Std.TransOrd α] [Std.LawfulEqOrd α] {s t : SortedSet α}
    (h : ∀ a, a ∈ s ↔ a ∈ t) : s = t := by
  cases s with | mk l hl => cases t with | mk m hm =>
  have := eq_of_sorted hl hm h
  subst this
  rfl

@[simp] theorem ofList_toList [Std.TransOrd α] [Std.LawfulEqOrd α] (s : SortedSet α) :
    ofList s.toList = s :=
  ext_mem fun _ => mem_ofList

end SortedSet

end Herald
