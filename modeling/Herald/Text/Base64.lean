/-!
# Base64

Bytes in the alphabet of RFC 4648, three to a group of four digits. Equals signs
fill up the last group.
-/

namespace Herald.Text.Base64

def alphabet : List Char :=
  "ABCDEFGHIJKLMNOPQRSTUVWXYZabcdefghijklmnopqrstuvwxyz0123456789+/".toList

/-- The digit of a number below 64. -/
def digit (n : Nat) : Char :=
  alphabet.getD n '='

def encode : List UInt8 → List Char
  | [] => []
  | [a] =>
    let n := 16 * a.toNat
    [digit (n / 64), digit (n % 64), '=', '=']
  | [a, b] =>
    let n := 4 * (256 * a.toNat + b.toNat)
    [digit (n / 4096), digit (n / 64 % 64), digit (n % 64), '=']
  | a :: b :: c :: rest =>
    let n := 65536 * a.toNat + 256 * b.toNat + c.toNat
    digit (n / 262144) :: digit (n / 4096 % 64) :: digit (n / 64 % 64) :: digit (n % 64) ::
      encode rest

end Herald.Text.Base64
