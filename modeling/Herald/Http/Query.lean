import Herald.Text.Percent
import Herald.Text.Split

/-!
# Query strings

The form encoding of names and values: pairs stand between ampersands, a plus
sign is a space, and a percent sign with two digits is a byte. Nothing is an
error; what is no UTF-8 is shown as U+FFFD.
-/

namespace Herald.Query

/-- The text that an encoded name or value stands for. -/
def decodePart (part : Bytes) : String :=
  Text.Utf8.decodeLenient (Text.Percent.unescape (part.map fun b => if b = 0x2B then 0x20 else b))

/-- The name and the value of a pair. Without an equals sign the value is
empty. -/
def decodePair (pair : Bytes) : String × String :=
  (decodePart (pair.takeWhile (· != 0x3D)), decodePart ((pair.dropWhile (· != 0x3D)).drop 1))

/-- The names and values of a query. -/
def decode (query : Bytes) : List (String × String) :=
  ((Text.splitOn 0x26 query).filter (!·.isEmpty)).map decodePair

/-- The values that a query gives for a name. -/
def valuesOf (name : String) (pairs : List (String × String)) : List String :=
  (pairs.filter (·.1 == name)).map (·.2)

/-- The form encoding of a byte. -/
def encodeByte (b : UInt8) : List Char :=
  let c := Char.ofNat b.toNat
  if b = 0x20 then ['+']
  else if b < 0x80 ∧ (c.isAlphanum ∨ c ∈ ['*', '-', '.', '_']) then [c]
  else '%' :: (Text.Hex.encode [b]).map Char.toUpper

def encodePart (text : String) : String :=
  String.ofList ((Text.Utf8.encode text).flatMap encodeByte)

/-- The form encoding of names and values. -/
def encode (pairs : List (String × String)) : String :=
  "&".intercalate (pairs.map fun (name, value) => encodePart name ++ "=" ++ encodePart value)

end Herald.Query
