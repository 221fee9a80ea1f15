import Herald.Text.Hex
import Herald.Text.Utf8

/-!
# Percent escapes

A percent sign with two hexadecimal digits stands for a byte.
-/

namespace Herald.Text.Percent

def sign : UInt8 := 0x25

def digit? (b : UInt8) : Option Nat :=
  Hex.value? (Char.ofNat b.toNat)

/-- The bytes that a text with escapes stands for. A percent sign without two
digits after it stands for itself. -/
def unescape : Bytes → Bytes
  | [] => []
  | [b] => [b]
  | [b, c] => [b, c]
  | b :: high :: low :: rest =>
    match digit? high, digit? low with
    | some h, some l =>
      if b = sign then UInt8.ofNat (16 * h + l) :: unescape rest
      else b :: unescape (high :: low :: rest)
    | _, _ => b :: unescape (high :: low :: rest)

end Herald.Text.Percent
