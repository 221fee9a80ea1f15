import Herald.Decimal.Binary64

/-!
# Shortest decimals

The decimal for a binary magnitude is the one with the fewest digits among those
that are read back as the same magnitude, and of these the nearest to it; of two
equally near the one with the even last digit.
-/

namespace Herald.Decimal

/-- The number `digits * 10 ^ exponent`. -/
structure Numeral where
  digits : Nat
  exponent : Int
  deriving DecidableEq, Repr

namespace Binary64

/-- The magnitude times four over its unit in the last place, with the
neighbouring midpoints below and above in the same unit. Below a power of two
the magnitudes lie twice as close. -/
def quarters (x : Binary64) : Nat × Nat × Nat :=
  let below := if x.mantissa = Nat.pow 2 52 ∧ x.exponent > -1074 then 1 else 2
  (4 * x.mantissa - below, 4 * x.mantissa, 4 * x.mantissa + 2)

/-- A decimal is read back as `x`: it lies between the midpoints to the
neighbouring magnitudes, or on one of them where ties go to `x`. -/
def readsBack (x : Binary64) (d : Numeral) : Bool :=
  let (low, _, high) := x.quarters
  let unit := x.exponent - 2
  let value := d.digits * Nat.pow 10 d.exponent.toNat * Nat.pow 2 (-unit).toNat
  let scale := Nat.pow 10 (-d.exponent).toNat * Nat.pow 2 unit.toNat
  if x.mantissa % 2 = 0 then low * scale ≤ value && value ≤ high * scale
  else low * scale < value && value < high * scale

/-- The distance between `x` and a decimal, over a denominator that depends on
the decimal's exponent only. -/
def distance (x : Binary64) (d : Numeral) : Nat :=
  let value := d.digits * Nat.pow 10 d.exponent.toNat * Nat.pow 2 (-x.exponent).toNat
  let own := x.mantissa * Nat.pow 10 (-d.exponent).toNat * Nat.pow 2 x.exponent.toNat
  (value - own) + (own - value)

/-- The greatest multiple of `10 ^ exponent` that is no larger than `x`. -/
def floorAt (x : Binary64) (exponent : Int) : Numeral :=
  ⟨x.ratio.1 * Nat.pow 10 (-exponent).toNat / (x.ratio.2 * Nat.pow 10 exponent.toNat), exponent⟩

/-- The decimal on one grid that stands for `x`, if there is one. -/
def onGrid? (x : Binary64) (exponent : Int) : Option Numeral :=
  let down := x.floorAt exponent
  let up : Numeral := ⟨down.digits + 1, exponent⟩
  match x.readsBack down, x.readsBack up with
  | true, true =>
    if x.distance down < x.distance up then some down
    else if x.distance up < x.distance down then some up
    else if down.digits % 2 = 0 then some down
    else some up
  | true, false => some down
  | false, true => some up
  | false, false => none

/-- The number of digits before the point of `x`, counted negative for the zeros
after the point of a smaller one. -/
def leading (x : Binary64) : Int :=
  let (num, den) := x.ratio
  if den ≤ num then (Nat.toDigits 10 (num / den)).length
  else 1 - (Nat.toDigits 10 (den / num)).length

/-- Tries the grids from coarse to fine. -/
def firstOnGrids? (x : Binary64) : Nat → Int → Option Numeral
  | 0, _ => none
  | tries + 1, exponent =>
    match x.onGrid? exponent with
    | some d => some d
    | none => firstOnGrids? x tries (exponent - 1)

end Binary64

/-- Moves the zeros at the end of the digits into the exponent. -/
def Numeral.stripped : Nat → Numeral → Numeral
  | 0, d => d
  | steps + 1, d =>
    if d.digits ≠ 0 ∧ d.digits % 10 = 0 then
      Numeral.stripped steps ⟨d.digits / 10, d.exponent + 1⟩
    else d

/-- The shortest decimal for a magnitude other than zero. Seventeen digits always
suffice; the grids start two places above the first digit. -/
def Binary64.shortest (x : Binary64) : Numeral :=
  match x.firstOnGrids? 20 (x.leading + 1) with
  | some d => d.stripped 20
  | none => ⟨0, 0⟩

end Herald.Decimal
