import Herald.Decimal.Shortest

/-!
# Numbers in JSON

A number written as a whole number that fits 64 bits, signed or unsigned, is that
integer. Every other one, and minus zero, is a binary floating-point number.
-/

namespace Herald.Json

open Herald.Decimal

inductive Number where
  | integer (value : Int)
  | real (negative : Bool) (magnitude : Binary64)
  deriving DecidableEq, Repr

namespace Number

/-- The text of a real: the fewest digits that read back. The point is written
out for magnitudes from 0.00001 up to below 10 ^ 16, always with a digit after
it; all others have a power of ten with its sign. -/
def realText (x : Binary64) : String :=
  if x.mantissa = 0 then "0.0"
  else
    let d := x.shortest
    let digits := Nat.toDigits 10 d.digits
    let point : Int := digits.length + d.exponent
    if -5 < point ∧ point ≤ 0 then
      String.ofList (['0', '.'] ++ List.replicate (-point).toNat '0' ++ digits)
    else if 0 < point ∧ point ≤ 16 then
      let whole := digits.take point.toNat
      let part := digits.drop point.toNat
      String.ofList (whole ++ List.replicate (point.toNat - digits.length) '0' ++ ['.'] ++
        (if part.isEmpty then ['0'] else part))
    else
      let power := point - 1
      let part := digits.drop 1
      String.ofList (digits.take 1 ++ (if part.isEmpty then [] else '.' :: part) ++ ['e'] ++
        (if power < 0 then ['-'] else ['+']) ++ Nat.toDigits 10 power.natAbs)

/-- The number as it is printed. -/
def text : Number → String
  | .integer i => toString i
  | .real negative x => (if negative then "-" else "") ++ realText x

def digitValue? (c : Char) : Option Nat :=
  if c.isDigit then some (c.toNat - 0x30) else none

/-- The digits at the start of a literal and what follows them. -/
def takeDigits (cs : List Char) : List Nat × List Char :=
  ((cs.takeWhile Char.isDigit).filterMap digitValue?, cs.dropWhile Char.isDigit)

/-- The largest significand that is kept exactly. -/
def maxSignificand : Nat := Nat.pow 2 64 - 1

/-- Appends digits to a significand while it stays within bounds: the significand
and how many digits it took. -/
def absorb : Nat → List Nat → Nat × Nat
  | significand, [] => (significand, 0)
  | significand, d :: rest =>
    let grown := 10 * significand + d
    if grown ≤ maxSignificand then
      let (result, taken) := absorb grown rest
      (result, taken + 1)
    else (significand, 0)

/-- The parts of a number literal: sign, digits before and after the point, and
the power of ten. -/
structure Literal where
  negative : Bool
  whole : List Nat
  fraction : Option (List Nat)
  power : Option Int

/-- Reads the digits after a point. At least one is required. -/
def takeFraction? : List Char → Option (Option (List Nat) × List Char)
  | '.' :: rest =>
    match takeDigits rest with
    | ([], _) => none
    | (digits, rest) => some (some digits, rest)
  | rest => some (none, rest)

def ofDigits (digits : List Nat) : Nat :=
  digits.foldl (fun n d => 10 * n + d) 0

/-- Reads the digits of a power of ten, which reach to the end of the literal. -/
def powerDigits? (negative : Bool) (cs : List Char) : Option Int :=
  match takeDigits cs with
  | (d :: digits, []) =>
    let n : Int := ofDigits (d :: digits)
    some (if negative then -n else n)
  | _ => none

/-- Reads the power of ten, if there is one, up to the end of the literal. -/
def takePower? : List Char → Option (Option Int)
  | [] => some none
  | e :: rest =>
    if e = 'e' ∨ e = 'E' then
      match rest with
      | '+' :: digits => (powerDigits? false digits).map some
      | '-' :: digits => (powerDigits? true digits).map some
      | digits => (powerDigits? false digits).map some
    else none

/-- Takes a literal apart. A leading zero stands alone. -/
def Literal.ofChars? (cs : List Char) : Option Literal := do
  let (negative, cs) := match cs with
    | '-' :: rest => (true, rest)
    | cs => (false, cs)
  let (whole, cs) := takeDigits cs
  if whole.isEmpty ∨ (whole.head? = some 0 ∧ whole.length ≠ 1) then none
  else
    let (fraction, cs) ← takeFraction? cs
    let power ← takePower? cs
    return ⟨negative, whole, fraction, power⟩

/-- The number that a literal stands for; none when it is a real that is too
large. Digits that do not fit the significand count for their place only. -/
def Literal.number? (l : Literal) : Option Number :=
  let (significand, taken) := absorb 0 l.whole
  let dropped := l.whole.length - taken
  match l.fraction, l.power with
  | none, none =>
    if dropped = 0 ∧ ¬l.negative then some (.integer significand)
    else if dropped = 0 ∧ 0 < significand ∧ significand ≤ Nat.pow 2 63 then
      some (.integer (-significand))
    else (Binary64.scaled? significand dropped).map (.real l.negative)
  | fraction, power =>
    let (significand, places) := absorb significand (fraction.getD [])
    (Binary64.scaled? significand (dropped - places + power.getD 0)).map (.real l.negative)

end Number

end Herald.Json
