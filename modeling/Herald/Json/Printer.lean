import Herald.Json.Basic
import Herald.Text.Hex

/-!
# Printing JSON

Documents are printed without blanks. Only quotes, backslashes and controls below
the space are escaped.
-/

namespace Herald.Json

def escapedChar (c : Char) : List Char :=
  if c = '"' then ['\\', '"']
  else if c = '\\' then ['\\', '\\']
  else if c = '\n' then ['\\', 'n']
  else if c = '\r' then ['\\', 'r']
  else if c = '\t' then ['\\', 't']
  else if c.toNat = 0x8 then ['\\', 'b']
  else if c.toNat = 0xC then ['\\', 'f']
  else if c.toNat < 0x20 then
    ['\\', 'u', '0', '0', Text.Hex.digit (c.toNat / 16), Text.Hex.digit (c.toNat % 16)]
  else [c]

def printString (text : String) : String :=
  "\"" ++ String.ofList (text.toList.flatMap escapedChar) ++ "\""

mutual

/-- The document as text. An unreadable part is shown as null. -/
def print : Json → String
  | .null => "null"
  | .bool true => "true"
  | .bool false => "false"
  | .number n => n.text
  | .string text => printString text
  | .array items => "[" ++ ",".intercalate (printItems items) ++ "]"
  | .object members => "\x7b" ++ ",".intercalate (printMembers members) ++ "\x7d"
  | .unreadable => "null"
termination_by structural j => j

def printItems : List Json → List String
  | [] => []
  | item :: rest => item.print :: printItems rest
termination_by structural items => items

def printMembers : List (String × Json) → List String
  | [] => []
  | (key, value) :: rest => (printString key ++ ":" ++ value.print) :: printMembers rest
termination_by structural members => members

end

end Herald.Json
