import Herald.Net.HostChar
import Herald.Net.Punycode
import Herald.Text.Affix
import Herald.Text.Direction
import Herald.Text.Split

/-!
# Host names

The labels of a host name stand between dots. A label can be spelled in ASCII,
and is then judged by what it shows.
-/

namespace Herald.Net.HostName

/-- The most characters of a label that has some above ASCII. -/
def maxLabel : Nat := 1000

/-- The most characters of the spelling of a label. -/
def maxSpelling : Nat := 2000

def isAscii (text : List Char) : Bool :=
  text.all (·.toNat < 0x80)

/-- A label that an ASCII one may spell: it needs a spelling, and is folded. -/
def isSpelled (label : List Char) : Bool :=
  !isAscii label && label.all HostChar.isFolded

/-- What a label of a folded name shows. -/
def shown? (label : List Char) : Option (List Char) :=
  match Text.after? "xn--".toList label with
  | some spelling =>
    if spelling.length ≤ maxSpelling then (Punycode.decode? spelling).filter isSpelled else none
  | none => some label

/-- A label does not start with a mark, its joiners have an effect, and its length
is bounded. -/
def isLabel (label : List Char) : Bool :=
  (label.head?).all (!HostChar.startsWithMark ·) && Text.joinersMatter [] label &&
    (isAscii label || label.length ≤ maxLabel)

/-- The labels can stand in one name: if one is written from right to left, each
one keeps to a direction. -/
def areLabels (labels : List (List Char)) : Bool :=
  labels.all isLabel && (!labels.any Text.hasRightToLeft || labels.all Text.isOneDirection)

/-- The folded name, if it is one that a host can have. -/
def fold? (text : List Char) : Option (List Char) := do
  let name := HostChar.strikeOut (← text.mapM HostChar.fold?).flatten
  guard (!name.isEmpty && name.all fun c => HostChar.isPlain c || 0x80 ≤ c.toNat)
  guard (areLabels (← (Text.splitOn '.' name).mapM shown?))
  return name

end Herald.Net.HostName
