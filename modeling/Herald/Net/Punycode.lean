import Herald.Text.Affix

/-!
# Punycode

Host names spell characters above ASCII by ASCII ones: the ASCII characters of
the text come first, and numbers follow that tell which other characters stand
where, in the order of their code points.
-/

namespace Herald.Net.Punycode

/-- What a letter or a digit counts as, in either case. -/
def digit? (c : Char) : Option Nat :=
  let c := c.toLower
  if 'a' ≤ c ∧ c ≤ 'z' then some (c.toNat - 'a'.toNat)
  else if c.isDigit then some (26 + (c.toNat - '0'.toNat))
  else none

/-- The digits below this one end a number at the given position. -/
def threshold (bias position : Nat) : Nat :=
  min 26 (max 1 (position - bias))

/-- A number brought down by divisions to at most 455, and how far the positions
move meanwhile. -/
def settle (delta moved : Nat) : Nat × Nat :=
  if 455 < delta then settle (delta / 35) (moved + 36) else (delta, moved)
termination_by delta

/-- The bias after a number, when `size` characters have been placed. -/
def adapt (isFirst : Bool) (size delta : Nat) : Nat :=
  let delta := if isFirst then delta / 700 else delta / 2
  let (delta, moved) := settle (delta + delta / size) 0
  moved + 36 * delta / (delta + 38)

/-- How far a text has been read. -/
structure Progress where
  placed : List Char
  /-- The last code point that was placed, and 0x80 before the first one. -/
  code : Nat
  /-- Where the current number starts to count. -/
  start : Nat
  bias : Nat
  /-- `start` and what the digits of the current number come to so far. -/
  sum : Nat
  /-- What a digit at the current position is worth. -/
  weight : Nat
  position : Nat

/-- The progress when the first number is due. -/
def Progress.initial (placed : List Char) : Progress :=
  ⟨placed, 0x80, 0, 72, 0, 1, 36⟩

/-- Reads a digit. The last digit of a number tells which character stands where:
the code point grows by one whenever the count passes the end of the text. -/
def Progress.read (p : Progress) (c : Char) : Option Progress := do
  let d ← digit? c
  let sum := p.sum + d * p.weight
  let t := threshold p.bias p.position
  if t ≤ d then
    return { p with sum, weight := p.weight * (36 - t), position := p.position + 36 }
  let size := p.placed.length + 1
  let code := p.code + sum / size
  let place := sum % size
  guard code.isValidChar
  return {
    placed := p.placed.insertIdx place (Char.ofNat code)
    code
    start := place + 1
    bias := adapt (p.start == 0) size (sum - p.start)
    sum := place + 1
    weight := 1
    position := 36 }

/-- No number has been begun. -/
def Progress.isBetween (p : Progress) : Bool :=
  p.position == 36

/-- The text that another one spells. The last hyphen that has something in front
of it separates the ASCII characters from the numbers. -/
def decode? (text : List Char) : Option (List Char) := do
  let literal := (Text.beforeLast? '-' text).getD []
  let numbers := if literal.isEmpty then text else text.drop (literal.length + 1)
  let p ← numbers.foldlM Progress.read (.initial literal)
  guard p.isBetween
  return p.placed

end Herald.Net.Punycode
