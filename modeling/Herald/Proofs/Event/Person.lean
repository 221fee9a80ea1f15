import Herald.Payload
import Herald.Proofs.Json.Given

/-!
# The identities of a person

A person in a webhook has up to three identities, and is to be known by the first one that is not
empty. Whether an identity is empty is looked at after one was taken, though, so a person who has
an empty one in front of those that could be used is nobody.

Main statement: the decoder knows the people who have an identity that can be used and are not
hidden behind an empty one (`Person.known_of_decode`).
-/

namespace Herald

namespace Payload

def Person.keys : List String :=
  ["accountId", "name", "key", "displayName"]

/-- The identities that the document of a person gives, in the order in which they are taken. -/
def identities (person : Json) : List String :=
  ["accountId", "name", "key"].filterMap fun key =>
    (person.given? Person.keys key).bind Json.string?

/-- The first identity that can be used. -/
def usable? (person : Json) : Option String :=
  (identities person).find? (· ≠ "")

/-- An empty identity is given before all others. -/
def isHidden (person : Json) : Bool :=
  (identities person).head? = some ""

/-- The name to show for a person, empty where none is given. -/
def shownName (person : Json) : String :=
  ((person.given? Person.keys "displayName").bind Json.string?).getD ""

/-- The person under the first identity that can be used. -/
def identified (person : Json) : Option User :=
  (usable? person).map fun account => ⟨⟨account⟩, shownName person⟩

/-- The person under the first identity, where that is not empty. -/
def known (person : Json) : Option User :=
  if isHidden person then none else identified person

theorem isSome_known (person : Json) :
    (known person).isSome = ((usable? person).isSome && !isHidden person) := by
  unfold known identified
  cases isHidden person <;> simp

/-- The decoder knows everybody who is not hidden. -/
theorem Person.known_of_decode {j : Json} {p : Person} (decoded : decode j = some p) :
    known j = p.user? := by
  simp only [decode, Option.bind_eq_bind, Option.bind_eq_some_iff, Option.pure_def,
    Option.some.injEq] at decoded
  obtain ⟨m, read, accountId, hasId, name, hasName, key, hasKey, displayName, hasShown, rfl⟩ :=
    decoded
  have text (s? : Option String) : (s?.map Json.string).bind Json.string? = s? := by
    cases s? <;> rfl
  have given : identities j = [accountId, name, key].filterMap id := by
    unfold identities keys
    simp only [List.filterMap_cons, List.filterMap_nil, Json.given?_text read (by decide) hasId,
      Json.given?_text read (by decide) hasName, Json.given?_text read (by decide) hasKey, text, id]
  have shown : shownName j = displayName.getD "" := by
    rw [shownName, keys, Json.given?_text read (by decide) hasShown, text]
  have first : (accountId.or name).or key = ([accountId, name, key].filterMap id).head? := by
    cases accountId <;> cases name <;> cases key <;> rfl
  unfold known user? isHidden identified usable?
  rw [given, shown]
  dsimp only
  rw [first]
  cases [accountId, name, key].filterMap id with
  | nil => rfl
  | cons account others =>
    by_cases empty : account = ""
    · simp [empty]
    · simp [empty]

end Payload

end Herald
