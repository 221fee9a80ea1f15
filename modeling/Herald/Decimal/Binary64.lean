/-!
# Binary floating-point numbers

Magnitudes with 53 significant bits and exponents from -1074 to 971, by exact
integer arithmetic. Every operation rounds its exact result to the nearest
magnitude, and a result halfway between two goes to the even one.
-/

namespace Herald.Decimal

/-- The magnitude `mantissa * 2 ^ exponent`. -/
structure Binary64 where
  mantissa : Nat
  exponent : Int
  deriving DecidableEq, Repr

namespace Binary64

def zero : Binary64 := ⟨0, -1074⟩

/-- Numerator and denominator of a magnitude. -/
def ratio (x : Binary64) : Nat × Nat :=
  (x.mantissa * Nat.pow 2 x.exponent.toNat, Nat.pow 2 (-x.exponent).toNat)

/-- A quotient to the nearest whole number, halves to the even one. -/
def roundedQuotient (num den : Nat) : Nat :=
  let q := num / den
  let r := num % den
  if 2 * r > den ∨ (2 * r = den ∧ q % 2 = 1) then q + 1 else q

/-- `num / den` over `2 ^ exponent`, rounded to a whole number. -/
def mantissaAt (num den : Nat) (exponent : Int) : Nat :=
  roundedQuotient (num * Nat.pow 2 (-exponent).toNat) (den * Nat.pow 2 exponent.toNat)

/-- The exponent at which `num / den` has 53 bits before the point, or the least
exponent where that is larger. -/
def exponentFor (num den : Nat) : Int :=
  let guess : Int := (Nat.log2 num : Int) - (Nat.log2 den : Int) - 52
  let whole := num * Nat.pow 2 (-guess).toNat / (den * Nat.pow 2 guess.toNat)
  max (-1074) (if whole < Nat.pow 2 52 then guess - 1 else guess)

/-- The magnitude nearest to `num / den`, unless that lies beyond the largest. -/
def nearest? (num den : Nat) : Option Binary64 :=
  if num = 0 then some zero
  else
    let e := exponentFor num den
    let m := mantissaAt num den e
    let x : Binary64 := if m = Nat.pow 2 53 then ⟨Nat.pow 2 52, e + 1⟩ else ⟨m, e⟩
    if x.exponent > 971 then none else some x

def ofNat? (n : Nat) : Option Binary64 :=
  nearest? n 1

def times? (x y : Binary64) : Option Binary64 :=
  nearest? (x.ratio.1 * y.ratio.1) (x.ratio.2 * y.ratio.2)

def over? (x y : Binary64) : Option Binary64 :=
  nearest? (x.ratio.1 * y.ratio.2) (x.ratio.2 * y.ratio.1)

/-- Divides by `10 ^ 308` so many times and then by a smaller power of ten. A
magnitude that has come down to zero stays there. -/
def shrunk? (rest : Nat) : Nat → Binary64 → Option Binary64
  | 0, x => do x.over? (← ofNat? (Nat.pow 10 rest))
  | times + 1, x =>
    if x.mantissa = 0 then some x
    else do shrunk? rest times (← x.over? (← ofNat? (Nat.pow 10 308)))

/-- The magnitude that stands for `significand * 10 ^ power`: the significand is
rounded first, then each scaling step of at most 308 decimal places is. None
when the magnitude is too large. -/
def scaled? (significand : Nat) (power : Int) : Option Binary64 := do
  let x ← ofNat? significand
  if x.mantissa = 0 then return x
  else if power < 0 then
    let places := (-power).toNat
    let steps := (places - 1) / 308
    shrunk? (places - 308 * steps) steps x
  else if power ≤ 308 then x.times? (← ofNat? (Nat.pow 10 power.toNat))
  else none

end Binary64

end Herald.Decimal
