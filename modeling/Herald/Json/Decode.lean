import Herald.Json.Basic

/-!
# Decoding documents

Decoders for the shapes that records are made of. A record is written as an
object, where keys it does not know are skipped and a key it knows may occur
once, or as an array of its members in order, where only members with a default
may be left off the end.
-/

namespace Herald.Json

/-- The members of a record by name. -/
abbrev Members := String → Option Json

/-- The value of the first member with a key. -/
def lookup (members : List (String × Json)) (key : String) : Option Json :=
  (members.find? (·.1 == key)).map (·.2)

/-- No key of the list occurs twice among the members. -/
def unrepeated (keys : List String) (members : List (String × Json)) : Bool :=
  keys.all fun key => (members.filter (·.1 == key)).length ≤ 1

/-- The members of a record with the given keys, of which an array must give at
least the first `least`. -/
def record (keys : List String) (least : Nat) : Json → Option Members
  | .object members => if unrepeated keys members then some (lookup members) else none
  | .array items =>
    if least ≤ items.length ∧ items.length ≤ keys.length then
      some fun key => (keys.zip items).lookup key
    else none
  | _ => none

def required {α : Type} (decode : Json → Option α) (member : Option Json) : Option α :=
  member.bind decode

/-- A member that may be absent or null. -/
def optional {α : Type} (decode : Json → Option α) : Option Json → Option (Option α)
  | none => some none
  | some .null => some none
  | some j => (decode j).map some

/-- A member that may be absent. -/
def defaulted {α : Type} (default : α) (decode : Json → Option α) : Option Json → Option α
  | none => some default
  | some j => decode j

def text : Json → Option String := string?

def flag : Json → Option Bool
  | .bool value => some value
  | _ => none

/-- A signed integer of 64 bits. -/
def int64 : Json → Option Int
  | .number (.integer i) => if -0x8000000000000000 ≤ i ∧ i < 0x8000000000000000 then some i else none
  | _ => none

def listOf {α : Type} (decode : Json → Option α) : Json → Option (List α)
  | .array items => items.mapM decode
  | _ => none

/-- One of a fixed set of names, as a string or as an object that maps the name
to null. -/
def name {α : Type} (ofName? : String → Option α) : Json → Option α
  | .string s => ofName? s
  | .object [(s, .null)] => ofName? s
  | _ => none

/-- An identifier sent as a string or as a number. Other values count as none. -/
def looseId : Option Json → Option (Option String)
  | none => some none
  | some (.string s) => some (some s)
  | some (.number n) => some (some n.text)
  | some j => if j.readable then some none else none

end Herald.Json
