import Herald.Text.Hex

/-!
# Digits inside addresses

Reading numbers off the front of a text. Each reader answers with the number and
what follows it.
-/

namespace Herald.Net

/-- A reader of the front of a text. -/
abbrev Front (α : Type) := List Char → Option (α × List Char)

/-- Reads one given character. -/
def exactly (c : Char) : Front Unit
  | d :: rest => if d = c then some ((), rest) else none
  | [] => none

def digit? (radix : Nat) (c : Char) : Option Nat :=
  (Text.Hex.value? c).filter (· < radix)

/-- The digits at the front of a text, and what follows them. -/
def takeDigits (radix : Nat) : List Char → List Nat × List Char
  | [] => ([], [])
  | c :: rest =>
    match digit? radix c with
    | some d =>
      let (digits, rest) := takeDigits radix rest
      (d :: digits, rest)
    | none => ([], c :: rest)

def ofDigits (radix : Nat) (digits : List Nat) : Nat :=
  digits.foldl (fun n d => radix * n + d) 0

/-- A number below `bound`, in any number of digits. -/
def number (radix bound : Nat) : Front Nat := fun text =>
  match takeDigits radix text with
  | ([], _) => none
  | (digits, rest) =>
    let n := ofDigits radix digits
    if n < bound then some (n, rest) else none

/-- A number of at most `width` digits, of which the first may only be a zero if
it is the only one. -/
def plainNumber (radix width bound : Nat) : Front Nat := fun text =>
  match takeDigits radix text with
  | (0 :: _ :: _, _) => none
  | (digits, _) => if width < digits.length then none else number radix bound text

/-- A number of at most `width` digits. -/
def shortNumber (radix width bound : Nat) : Front Nat := fun text =>
  if width < (takeDigits radix text).1.length then none else number radix bound text

end Herald.Net
