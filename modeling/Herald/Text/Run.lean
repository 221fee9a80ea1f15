/-!
# Runs of characters

A property of characters is kept as the runs of code points that have it.
-/

namespace Herald.Text

/-- First and last code points of runs of characters. -/
abbrev Runs := List (Nat × Nat)

/-- The character lies in one of the runs. -/
def Runs.has (runs : Runs) (c : Char) : Bool :=
  runs.any fun (first, last) => first ≤ c.toNat && c.toNat ≤ last

end Herald.Text
