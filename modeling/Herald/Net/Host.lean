import Herald.Net.HostName
import Herald.Net.Ip
import Herald.Text.Percent

/-!
# Hosts

The host of a URL is an IPv6 address in brackets, an IPv4 address, or a name. A
name of which the last label is a number has to be an IPv4 address, which may
have fewer than four numbers, and numbers in octal or hexadecimal.
-/

namespace Herald.Net

/-- A number in all of the digits of a text. -/
def wholeNumber? (radix : Nat) (text : List Char) : Option Nat :=
  (text.mapM (digit? radix)).map (ofDigits radix)

/-- A number of an IPv4 address: hexadecimal after `0x`, octal after another zero,
and decimal otherwise. -/
def addressNumber? : List Char → Option Nat
  | [] => none
  | '0' :: 'x' :: digits => wholeNumber? 16 digits
  | '0' :: digits => wholeNumber? 8 digits
  | digits => wholeNumber? 10 digits

/-- The IPv4 address of at most four numbers. The last one stands for all of the
bytes that the others leave. -/
def Ipv4.ofNumbers? (leading : List Nat) (last : Nat) : Option Ipv4 := do
  guard (leading.length ≤ 3 ∧ last < Nat.pow 256 (4 - leading.length) ∧ ∀ n ∈ leading, n < 256)
  let n := ofDigits 256 leading * Nat.pow 256 (4 - leading.length) + last
  return ⟨.ofNat (n / Nat.pow 256 3), .ofNat (n / Nat.pow 256 2), .ofNat (n / 256), .ofNat n⟩

inductive Host where
  | v4 (ip : Ipv4)
  | v6 (ip : Ipv6)
  | named (name : String)
  deriving DecidableEq, Repr

namespace Host

/-- The labels of a name, last one first. A dot at the end has no label after
it. -/
def labelsFromLast (name : List Char) : List (List Char) :=
  match (Text.splitOn '.' name).reverse with
  | [] :: labels => labels
  | labels => labels

/-- The label is a number, or would be one if its digits fitted. -/
def isNumeric (label : List Char) : Bool :=
  (!label.isEmpty && label.all Char.isDigit) || (addressNumber? label).isSome

/-- The host of a folded name. -/
def ofName? (name : List Char) : Option Host :=
  match labelsFromLast name with
  | [] => some (.named (String.ofList name))
  | last :: leading =>
    if isNumeric last then do
      let ip ← Ipv4.ofNumbers? (← leading.reverse.mapM addressNumber?) (← addressNumber? last)
      return .v4 ip
    else some (.named (String.ofList name))

/-- The host that a part of a URL names. -/
def ofText? : List Char → Option Host
  | '[' :: text =>
    match Ipv6.read text with
    | some (ip, [']']) => some (.v6 ip)
    | _ => none
  | text => do
    let bytes := Text.Percent.unescape (Text.Utf8.encode (String.ofList text))
    let text ← Text.Utf8.decode? bytes
    ofName? (← HostName.fold? text.toList)

end Host

end Herald.Net
