import Herald.Proofs.Json.Merged
import Herald.Sorted.Map
import Mathlib.Data.List.Basic

/-!
# What a document gives for the members of a record

A record is read off an object or off an array, and a member that is null counts as one that is
not given. What the decoder of a member finds can be asked of the document itself.

Main statements: a record has the members that its document gives (`record_eq_part?`), and what is
tested of a decoded member, or had from it, is tested of the document or had from it (`any_given?`,
`bind_given?`).
-/

namespace Herald

namespace Json

/-- What a document gives for a member of a record: as the member of an object, or in an
array at the place of its key. -/
def part? (keys : List String) (key : String) : Json → Option Json
  | .object members => (Json.object members).member? key
  | .array items => items[keys.idxOf key]?
  | _ => none

/-- Where a key occurs once the first member is the last one. -/
theorem lookup_eq_member? {keys : List String} {members : List (String × Json)}
    (unrepeated : unrepeated keys members = true) {key : String} (known : key ∈ keys) :
    lookup members key = (Json.object members).member? key := by
  have once : (members.filter (·.1 == key)).length ≤ 1 :=
    of_decide_eq_true (List.all_eq_true.mp unrepeated key known)
  have same : members.find? (·.1 == key) = members.reverse.find? (·.1 == key) := by
    rw [← List.head?_filter, ← List.head?_filter, List.filter_reverse]
    generalize members.filter (·.1 == key) = found at once
    cases found with
    | nil => rfl
    | cons first rest =>
      have alone : rest = [] := by
        rw [List.length_cons] at once
        exact List.length_eq_zero_iff.mp (by omega)
      rw [alone, List.reverse_singleton]
  rw [lookup, member?, same]

/-- The members of an array stand in the order of their keys. -/
theorem lookup_zip (keys : List String) (items : List Json) (key : String) :
    (keys.zip items).lookup key = if key ∈ keys then items[keys.idxOf key]? else none := by
  induction keys generalizing items with
  | nil => rfl
  | cons first rest ih =>
    cases items with
    | nil => simp
    | cons item items =>
      rw [List.zip_cons_cons, SortedMap.lookup_cons_eq, ih]
      by_cases same : key = first
      · simp [same]
      · have later : (first :: rest).idxOf key = rest.idxOf key + 1 :=
          List.idxOf_cons_ne rest (Ne.symm same)
        simp [same, later]

theorem record_eq_part? {keys : List String} {least : Nat} {j : Json} {m : Members}
    (read : j.record keys least = some m) {key : String} (known : key ∈ keys) :
    m key = j.part? keys key := by
  cases j with
  | object members =>
    rw [record] at read
    split at read
    · rename_i unrepeated
      cases read
      exact lookup_eq_member? unrepeated known
    · cases read
  | array items =>
    rw [record] at read
    split at read
    · cases read
      exact (lookup_zip keys items key).trans (if_pos known)
    · cases read
  | _ => cases read

/-- A member of a record that was decoded stands in the document. -/
theorem part?_of_optional {α : Type} {decode : Json → Option α} {keys : List String} {least : Nat}
    {j : Json} {m : Members} (read : j.record keys least = some m) {key : String}
    (known : key ∈ keys) {a : α} (decoded : optional decode (m key) = some (some a)) :
    ∃ part, j.part? keys key = some part ∧ decode part = some a := by
  rw [record_eq_part? read known] at decoded
  cases given : j.part? keys key with
  | none =>
    rw [given] at decoded
    cases decoded
  | some part =>
    rw [given] at decoded
    exact ⟨part, rfl, decode_of_optional decoded⟩

theorem text_eq_some_iff {j : Json} {s : String} : text j = some s ↔ j = .string s := by
  cases j <;> simp [text, string?]

/-- What a document gives for a member of a record. A member that is null is not given. -/
def given? (keys : List String) (key : String) (j : Json) : Option Json :=
  match j.part? keys key with
  | some .null => none
  | part => part

variable {α : Type} {decode : Json → Option α} {keys : List String} {least : Nat} {j : Json}
  {m : Members} {key : String}

theorem optional_eq_elim (member : Option Json) :
    optional decode member =
      (match member with | some .null => none | part => part).elim (some none)
        fun part => (decode part).map some := by
  cases member with
  | none => rfl
  | some part => cases part <;> rfl

/-- A member that may be absent is decoded where it is given. -/
theorem optional_eq_given (read : j.record keys least = some m) (known : key ∈ keys) :
    optional decode (m key) =
      (j.given? keys key).elim (some none) fun part => (decode part).map some := by
  rw [record_eq_part? read known, optional_eq_elim]
  rfl

/-- What is tested of a member can be tested of the document. -/
theorem any_given? (read : j.record keys least = some m) (known : key ∈ keys) {a? : Option α}
    (decoded : optional decode (m key) = some a?) {p : Json → Bool} {q : α → Bool}
    (same : ∀ part a, decode part = some a → p part = q a) :
    (j.given? keys key).any p = a?.any q := by
  rw [optional_eq_given read known] at decoded
  cases given : j.given? keys key with
  | none =>
    rw [given] at decoded
    cases decoded
    rfl
  | some part =>
    rw [given] at decoded
    obtain ⟨a, isPart, rfl⟩ := Option.map_eq_some_iff.mp decoded
    exact same part a isPart

/-- What is had from a member can be had from the document. -/
theorem bind_given? (read : j.record keys least = some m) (known : key ∈ keys) {a? : Option α}
    (decoded : optional decode (m key) = some a?) {β : Type} {f : Json → Option β}
    {g : α → Option β} (same : ∀ part a, decode part = some a → f part = g a) :
    (j.given? keys key).bind f = a?.bind g := by
  rw [optional_eq_given read known] at decoded
  cases given : j.given? keys key with
  | none =>
    rw [given] at decoded
    cases decoded
    rfl
  | some part =>
    rw [given] at decoded
    obtain ⟨a, isPart, rfl⟩ := Option.map_eq_some_iff.mp decoded
    exact same part a isPart

theorem isSome_given? (read : j.record keys least = some m) (known : key ∈ keys) {a? : Option α}
    (decoded : optional decode (m key) = some a?) : (j.given? keys key).isSome = a?.isSome := by
  have tested := any_given? read known decoded (p := fun _ => true) (q := fun _ => true)
    fun _ _ _ => rfl
  rwa [Option.any_true, Option.any_true] at tested

/-- The texts of a record are what its document gives for them. -/
theorem given?_text (read : j.record keys least = some m) (known : key ∈ keys)
    {s? : Option String} (decoded : optional text (m key) = some s?) :
    j.given? keys key = s?.map .string := by
  rw [optional_eq_given read known] at decoded
  cases given : j.given? keys key with
  | none =>
    rw [given] at decoded
    cases decoded
    rfl
  | some part =>
    rw [given] at decoded
    obtain ⟨s, isText, rfl⟩ := Option.map_eq_some_iff.mp decoded
    rw [text_eq_some_iff.mp isText]
    rfl

theorem exists_optional (read : j.record keys least = some m) (known : key ∈ keys)
    (each : ∀ part, j.given? keys key = some part → (decode part).isSome = true) :
    ∃ a?, optional decode (m key) = some a? := by
  rw [optional_eq_given read known]
  cases given : j.given? keys key with
  | none => exact ⟨none, rfl⟩
  | some part =>
    obtain ⟨a, decoded⟩ := Option.isSome_iff_exists.mp (each part given)
    exact ⟨some a, congrArg (Option.map some) decoded⟩

/-- The document is a string or a number. -/
def isId : Json → Bool
  | .string _ | .number _ => true
  | _ => false

theorem any_isId (read : j.record keys least = some m) (known : key ∈ keys) {id : Option String}
    (decoded : looseId (m key) = some id) : (j.given? keys key).any isId = id.isSome := by
  rw [record_eq_part? read known] at decoded
  unfold given?
  cases part : j.part? keys key with
  | none =>
    rw [part] at decoded
    cases decoded
    rfl
  | some part' =>
    rw [part] at decoded
    cases part' with
    | string s => cases decoded; rfl
    | number n => cases decoded; rfl
    | _ =>
      unfold looseId at decoded
      dsimp only at decoded
      split at decoded
      · cases decoded
        rfl
      · cases decoded

end Json

end Herald
