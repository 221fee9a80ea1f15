import Herald.Text.Glyphless
import Herald.Text.Hex

/-!
# Quoted text in diagnostics

A text in a diagnostic stands between double quotes. Backslashes and the quote
itself are escaped, the usual controls have a letter, and every other character
without a glyph is spelled by its number.
-/

namespace Herald.Text

/-- How a quoted text shows one character. -/
def escaped (c : Char) : List Char :=
  if c = Char.ofNat 0 then ['\\', '0']
  else if c = '\t' then ['\\', 't']
  else if c = '\r' then ['\\', 'r']
  else if c = '\n' then ['\\', 'n']
  else if c = '\\' ∨ c = '"' then ['\\', c]
  else if isGlyphless c then
    ['\\', 'u', '\x7b'] ++ (Hex.ofNat c.toNat).toList ++ ['\x7d']
  else [c]

/-- A text as diagnostics show it. -/
def quoted (text : String) : String :=
  "\"" ++ String.ofList (text.toList.flatMap escaped) ++ "\""

end Herald.Text
