import Herald.Net.Ip

/-!
# Socket addresses

An IP address and a port number. An IPv6 address stands in brackets and may name
a scope.
-/

namespace Herald.Net

inductive SocketAddress where
  | v4 (ip : Ipv4) (portNumber : UInt16)
  | v6 (ip : Ipv6) (scope : UInt32) (portNumber : UInt16)
  deriving DecidableEq, Repr

namespace SocketAddress

def portNumber : Front UInt16 := fun text => do
  let (_, text) ← exactly ':' text
  let (n, text) ← number 10 65536 text
  return (UInt16.ofNat n, text)

/-- The scope of an IPv6 address. -/
def scope : Front UInt32 := fun text => do
  let (_, text) ← exactly '%' text
  let (n, text) ← number 10 (Nat.pow 2 32) text
  return (UInt32.ofNat n, text)

def readV4 : Front SocketAddress := fun text => do
  let (ip, text) ← Ipv4.read text
  let (portNumber, text) ← portNumber text
  return (.v4 ip portNumber, text)

/-- The scope is zero where none is named. -/
def readV6 : Front SocketAddress := fun text => do
  let (_, text) ← exactly '[' text
  let (ip, text) ← Ipv6.read text
  let (scope, text) := (scope text).getD (0, text)
  let (_, text) ← exactly ']' text
  let (portNumber, text) ← portNumber text
  return (.v6 ip scope portNumber, text)

/-- The address that a whole text stands for. -/
def ofText? (text : String) : Option SocketAddress :=
  match (readV4 text.toList).or (readV6 text.toList) with
  | some (address, []) => some address
  | _ => none

def text : SocketAddress → String
  | .v4 ip portNumber => ip.text ++ ":" ++ toString portNumber.toNat
  | .v6 ip scope portNumber =>
    let zone := if scope = 0 then "" else "%" ++ toString scope.toNat
    "[" ++ ip.text ++ zone ++ "]:" ++ toString portNumber.toNat

end SocketAddress

end Herald.Net
