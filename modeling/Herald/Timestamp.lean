/-!
# Timestamps

Points in time with a precision of one millisecond, counted from the start of
1970 in UTC, over the years in which calendar dates are supported.
-/

namespace Herald

structure Timestamp where
  millis : Int
  deriving DecidableEq, Repr

namespace Timestamp

def earliest : Int := -8334601228800000

def latest : Int := 8210266876799999

/-- The point in time, unless its date is out of range. -/
def ofMillis? (millis : Int) : Option Timestamp :=
  if earliest ≤ millis ∧ millis ≤ latest then some ⟨millis⟩ else none

/-- Year, month and day of a day counted from the first of January 1970. Years
are counted from March, so that a leap day ends its year. -/
def civil (day : Int) : Int × Nat × Nat :=
  let shifted := day + 719468
  let era := shifted.fdiv 146097
  let dayOfEra := (shifted.fmod 146097).toNat
  let yearOfEra := (dayOfEra - dayOfEra / 1460 + dayOfEra / 36524 - dayOfEra / 146096) / 365
  let dayOfYear := dayOfEra - (365 * yearOfEra + yearOfEra / 4 - yearOfEra / 100)
  let month := (5 * dayOfYear + 2) / 153
  let dayOfMonth := dayOfYear - (153 * month + 2) / 5 + 1
  let civilMonth := if month < 10 then month + 3 else month - 9
  let year : Int := yearOfEra + 400 * era
  (if civilMonth ≤ 2 then year + 1 else year, civilMonth, dayOfMonth)

/-- A number with zeros in front up to a width. -/
def padded (width n : Nat) : String :=
  let digits := Nat.toDigits 10 n
  String.ofList (List.replicate (width - digits.length) '0' ++ digits)

/-- Four digits, and a sign where four digits do not do. -/
def yearText (year : Int) : String :=
  if 0 ≤ year ∧ year ≤ 9999 then padded 4 year.toNat
  else (if year < 0 then "-" else "+") ++ padded 4 year.natAbs

/-- The RFC 3339 form in UTC. Milliseconds are shown unless they are zero. -/
def rfc3339 (t : Timestamp) : String :=
  let day := t.millis.fdiv 86400000
  let rest := (t.millis.fmod 86400000).toNat
  let (year, month, dayOfMonth) := civil day
  let fraction := if rest % 1000 = 0 then "" else "." ++ padded 3 (rest % 1000)
  yearText year ++ "-" ++ padded 2 month ++ "-" ++ padded 2 dayOfMonth ++ "T" ++
    padded 2 (rest / 3600000) ++ ":" ++ padded 2 (rest / 60000 % 60) ++ ":" ++
    padded 2 (rest / 1000 % 60) ++ fraction ++ "Z"

end Timestamp

end Herald
