import Herald.Json.Basic
import Herald.Text.Hex
import Herald.Text.Utf8

/-!
# The tokens of a JSON text

The scanner reads a text byte by byte. A string keeps what its bytes and escapes
spell, or nothing when that is no Unicode text; a number too large to stand for a
value counts as unreadable.
-/

namespace Herald.Json

inductive Token where
  | openArray
  | closeArray
  | openObject
  | closeObject
  | comma
  | colon
  | text (content : Option String)
  | scalar (value : Json)
  deriving BEq, Repr

namespace Token

/-- The inside of a string, read so far: its bytes, latest first; the first half of a
surrogate pair that waits for its second; and whether a lone half was met. -/
structure Inside where
  bytes : List UInt8
  half : Option Nat
  broken : Bool

/-- A half that no second half follows is a lone one. -/
def Inside.settled (s : Inside) : Inside :=
  { s with half := none, broken := s.broken || s.half.isSome }

def Inside.byte (s : Inside) (b : UInt8) : Inside :=
  let s := s.settled
  { s with bytes := b :: s.bytes }

def Inside.code (s : Inside) (n : Nat) : Inside :=
  { s with bytes := (Text.Utf8.encode (String.singleton (Char.ofNat n))).reverse ++ s.bytes }

/-- Adds a UTF-16 unit that was spelled in hexadecimal digits. -/
def Inside.unit (s : Inside) (n : Nat) : Inside :=
  if 0xDC00 ≤ n ∧ n ≤ 0xDFFF then
    match s.half with
    | some high =>
      { s with half := none }.code (0x10000 + 0x400 * (high - 0xD800) + (n - 0xDC00))
    | none => { s with broken := true }
  else if 0xD800 ≤ n ∧ n ≤ 0xDBFF then { s.settled with half := some n }
  else s.settled.code n

def Inside.content (s : Inside) : Option String :=
  let s := s.settled
  if s.broken then none else Text.Utf8.decode? s.bytes.reverse

/-- Where the scanner stands. -/
inductive Mode where
  | between
  | word (letters : List Char)
  | inside (s : Inside)
  | escape (s : Inside)
  | hex (s : Inside) (digits : List Nat)

/-- The scanner: where it stands and the tokens it has read, latest first. -/
structure Scanner where
  mode : Mode
  tokens : List Token

def isWordByte (b : UInt8) : Bool :=
  let c := Char.ofNat b.toNat
  c.isAlphanum || c == '+' || c == '-' || c == '.'

/-- The value of a word: a literal name or a number. -/
def ofWord? (letters : List Char) : Option Token :=
  if letters = ['n', 'u', 'l', 'l'] then some (.scalar .null)
  else if letters = ['t', 'r', 'u', 'e'] then some (.scalar (.bool true))
  else if letters = ['f', 'a', 'l', 's', 'e'] then some (.scalar (.bool false))
  else (Number.Literal.ofChars? letters).map fun literal =>
    match literal.number? with
    | some n => .scalar (.number n)
    | none => .scalar .unreadable

/-- Reads a byte outside of strings and words. -/
def Scanner.start (tokens : List Token) (b : UInt8) : Option Scanner :=
  let c := Char.ofNat b.toNat
  if c = ' ' ∨ c = '\t' ∨ c = '\n' ∨ c = '\r' then some ⟨.between, tokens⟩
  else if c = '[' then some ⟨.between, .openArray :: tokens⟩
  else if c = ']' then some ⟨.between, .closeArray :: tokens⟩
  else if c = '\x7b' then some ⟨.between, .openObject :: tokens⟩
  else if c = '\x7d' then some ⟨.between, .closeObject :: tokens⟩
  else if c = ',' then some ⟨.between, .comma :: tokens⟩
  else if c = ':' then some ⟨.between, .colon :: tokens⟩
  else if c = '"' then some ⟨.inside ⟨[], none, false⟩, tokens⟩
  else if isWordByte b then some ⟨.word [c], tokens⟩
  else none

/-- The byte that a one-letter escape stands for. -/
def escapedByte? (c : Char) : Option UInt8 :=
  if c = '"' ∨ c = '\\' ∨ c = '/' then some (UInt8.ofNat c.toNat)
  else if c = 'b' then some 0x8
  else if c = 'f' then some 0xC
  else if c = 'n' then some 0xA
  else if c = 'r' then some 0xD
  else if c = 't' then some 0x9
  else none

def Scanner.read (s : Scanner) (b : UInt8) : Option Scanner :=
  let c := Char.ofNat b.toNat
  match s.mode with
  | .between => Scanner.start s.tokens b
  | .word letters =>
    if isWordByte b then some { s with mode := .word (c :: letters) }
    else do Scanner.start ((← ofWord? letters.reverse) :: s.tokens) b
  | .inside t =>
    if c = '"' then some ⟨.between, .text t.content :: s.tokens⟩
    else if c = '\\' then some { s with mode := .escape t }
    else if b < 0x20 then none
    else some { s with mode := .inside (t.byte b) }
  | .escape t =>
    if c = 'u' then some { s with mode := .hex t [] }
    else do some { s with mode := .inside (t.byte (← escapedByte? c)) }
  | .hex t digits => do
    let d ← Text.Hex.value? c
    match digits with
    | [x, y, z] => some { s with mode := .inside (t.unit (0x1000 * z + 0x100 * y + 0x10 * x + d)) }
    | _ => some { s with mode := .hex t (d :: digits) }

def Scanner.finish (s : Scanner) : Option (List Token) :=
  match s.mode with
  | .between => some s.tokens.reverse
  | .word letters => do return (← ofWord? letters.reverse) :: s.tokens |>.reverse
  | _ => none

/-- The tokens of a text, if it consists of tokens. -/
def scan? (text : Bytes) : Option (List Token) :=
  text.foldlM Scanner.read ⟨.between, []⟩ >>= Scanner.finish

end Token

end Herald.Json
