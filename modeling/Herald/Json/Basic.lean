import Herald.Json.Number
import Herald.Sorted.Map

/-!
# JSON documents

A document keeps the members of an object in the order of its text, repeated keys
included. Parts of a text that follow the grammar and still stand for no value
are `unreadable`: a string that is no Unicode text, a number too large for a
binary floating-point number, an array or object nested too deeply, and an
object with an unreadable key. They can be skipped over and never be decoded.
-/

namespace Herald

inductive Json where
  | null
  | bool (value : Bool)
  | number (value : Json.Number)
  | string (text : String)
  | array (items : List Json)
  | object (members : List (String × Json))
  | unreadable
  deriving BEq, Repr, Inhabited

namespace Json

mutual

/-- No part of the document is unreadable. -/
def readable : Json → Bool
  | .unreadable => false
  | .array items => readableItems items
  | .object members => readableMembers members
  | _ => true
termination_by structural j => j

def readableItems : List Json → Bool
  | [] => true
  | item :: rest => item.readable && readableItems rest
termination_by structural items => items

def readableMembers : List (String × Json) → Bool
  | [] => true
  | (_, value) :: rest => value.readable && readableMembers rest
termination_by structural members => members

end

mutual

/-- The document with the members of every object in the order of their keys. Of
several members with one key only the last remains. -/
def merged : Json → Json
  | .array items => .array (mergedItems items)
  | .object members => .object (SortedMap.ofList (mergedMembers members)).entries
  | j => j
termination_by structural j => j

def mergedItems : List Json → List Json
  | [] => []
  | item :: rest => item.merged :: mergedItems rest
termination_by structural items => items

def mergedMembers : List (String × Json) → List (String × Json)
  | [] => []
  | (key, value) :: rest => (key, value.merged) :: mergedMembers rest
termination_by structural members => members

end

/-- The value of a member of an object: of the last one, where the key repeats. -/
def member? (key : String) : Json → Option Json
  | .object members => (members.reverse.find? (·.1 == key)).map (·.2)
  | _ => none

def string? : Json → Option String
  | .string text => some text
  | _ => none

/-- An array of texts. -/
def ofTexts (texts : List String) : Json :=
  .array (texts.map .string)

/-- The value, or null where there is none. -/
def orNull {α : Type} (toJson : α → Json) (value : Option α) : Json :=
  (value.map toJson).getD .null

end Json

end Herald
