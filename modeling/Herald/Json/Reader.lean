import Herald.Json.Token

/-!
# Reading JSON texts

The reader puts the tokens of a text together with a stack of the arrays and
objects that are open. What lies in more than 127 of them at once is unreadable,
however deep it goes.
-/

namespace Herald.Json

/-- How many arrays and objects may be open where a value is decoded. -/
def maxDepth : Nat := 127

/-- An array or object that is not closed yet. An object has no members once one
of its keys is unreadable. -/
inductive Opened where
  | array (items : List Json)
  | object (members : Option (List (String × Json))) (key : Option String)

/-- What may come next. -/
inductive Expected where
  | value
  | firstItem
  | firstKey
  | key
  | colon
  | more
  | nothing
  deriving DecidableEq

/-- The reader: what is open, innermost first, what may come next, and the
document once it is complete. -/
structure Reader where
  opened : List Opened
  expected : Expected
  result : Option Json

namespace Reader

def start : Reader := ⟨[], .value, none⟩

/-- Puts a complete value in its place. -/
def place (opened : List Opened) (value : Json) : Reader :=
  match opened with
  | [] => ⟨[], .nothing, some value⟩
  | .array items :: outer => ⟨.array (value :: items) :: outer, .more, none⟩
  | .object members key :: outer =>
    let members := do return (← key, value) :: (← members)
    ⟨.object members none :: outer, .more, none⟩

/-- The value of an array or object that closes. -/
def closed : Opened → Json
  | .array items => .array items.reverse
  | .object (some members) _ => .object members.reverse
  | .object none _ => .unreadable

/-- Closes the innermost array or object. -/
def close (inner : Opened) (outer : List Opened) : Reader :=
  place outer (if (outer.drop (maxDepth - 1)).isEmpty then closed inner else .unreadable)

/-- Reads a token that starts a value. -/
def value (opened : List Opened) : Token → Option Reader
  | .openArray => some ⟨.array [] :: opened, .firstItem, none⟩
  | .openObject => some ⟨.object (some []) none :: opened, .firstKey, none⟩
  | .text content =>
    some (place opened (match content with
      | some text => .string text
      | none => .unreadable))
  | .scalar j => some (place opened j)
  | _ => none

/-- Reads a token that starts a member of an object. -/
def key : List Opened → Token → Option Reader
  | .object members _ :: outer, .text (some name) =>
    some ⟨.object members (some name) :: outer, .colon, none⟩
  | .object _ _ :: outer, .text none => some ⟨.object none none :: outer, .colon, none⟩
  | _, _ => none

def read (r : Reader) (t : Token) : Option Reader :=
  match r.expected, t, r.opened with
  | .value, t, opened => value opened t
  | .firstItem, .closeArray, inner :: outer => some (close inner outer)
  | .firstItem, t, opened => value opened t
  | .firstKey, .closeObject, inner :: outer => some (close inner outer)
  | .firstKey, t, opened => key opened t
  | .key, t, opened => key opened t
  | .colon, .colon, opened => some ⟨opened, .value, none⟩
  | .more, .comma, .array items :: outer => some ⟨.array items :: outer, .value, none⟩
  | .more, .comma, .object members k :: outer => some ⟨.object members k :: outer, .key, none⟩
  | .more, .closeArray, .array items :: outer => some (close (.array items) outer)
  | .more, .closeObject, .object members k :: outer => some (close (.object members k) outer)
  | _, _, _ => none

end Reader

/-- The document that a text holds. -/
def read? (text : Bytes) : Option Json := do
  let tokens ← Token.scan? text
  let reader ← tokens.foldlM Reader.read Reader.start
  reader.result

/-- The value that a text stands for: a document of which every part is
readable, with repeated keys merged. -/
def readValue? (text : Bytes) : Option Json := do
  let j ← read? text
  if j.readable then some j.merged else none

end Herald.Json
