import Herald.Net.Digits

/-!
# IP addresses

The texts of IPv4 and IPv6 addresses. IPv6 addresses are written in their shortest
form: the first of the longest runs of two or more zero groups is left out, and an
address that stands for an IPv4 address ends with that address.
-/

namespace Herald.Net

structure Ipv4 where
  a : UInt8
  b : UInt8
  c : UInt8
  d : UInt8
  deriving DecidableEq, Repr

namespace Ipv4

/-- One of the four numbers of an address. -/
def part : Front UInt8 := fun text => do
  let (n, rest) ← plainNumber 10 3 256 text
  return (UInt8.ofNat n, rest)

/-- A further one of the four numbers. -/
def nextPart : Front UInt8 := fun text => do
  let (_, rest) ← exactly '.' text
  part rest

def read : Front Ipv4 := fun text => do
  let (a, text) ← part text
  let (b, text) ← nextPart text
  let (c, text) ← nextPart text
  let (d, text) ← nextPart text
  return (⟨a, b, c, d⟩, text)

def text (ip : Ipv4) : String :=
  ".".intercalate ([ip.a, ip.b, ip.c, ip.d].map fun part => toString part.toNat)

/-- The two groups that an IPv4 address makes up in an IPv6 address. -/
def groups (ip : Ipv4) : List UInt16 :=
  [(ip.a.toUInt16 <<< 8) ||| ip.b.toUInt16, (ip.c.toUInt16 <<< 8) ||| ip.d.toUInt16]

def ofGroups (high low : UInt16) : Ipv4 :=
  ⟨(high >>> 8).toUInt8, high.toUInt8, (low >>> 8).toUInt8, low.toUInt8⟩

end Ipv4

structure Ipv6 where
  groups : List UInt16
  length_groups : groups.length = 8
  deriving DecidableEq, Repr

namespace Ipv6

/-- Reads what follows a colon, which only the first group goes without. -/
def separated {α : Type} (first : Bool) (read : Front α) : Front α := fun text =>
  if first then read text
  else do
    let (_, rest) ← exactly ':' text
    read rest

/-- What is read of the groups on one side of an address. -/
structure Side where
  groups : List UInt16
  /-- The last two groups were written as an IPv4 address. -/
  endsInIpv4 : Bool
  rest : List Char

/-- Reads groups as long as there are any and there is room for them. -/
def side : (room : Nat) → (first : Bool) → List Char → Side
  | 0, _, text => ⟨[], false, text⟩
  | room + 1, first, text =>
    match (if room = 0 then none else separated first Ipv4.read text) with
    | some (ip, rest) => ⟨ip.groups, true, rest⟩
    | none =>
      match separated first (shortNumber 16 4 65536) text with
      | some (group, rest) =>
        let later := side room false rest
        { later with groups := UInt16.ofNat group :: later.groups }
      | none => ⟨[], false, text⟩

def ofGroups? (groups : List UInt16) : Option Ipv6 :=
  if h : groups.length = 8 then some ⟨groups, h⟩ else none

/-- Either all eight groups are there, or two colons stand for one or more groups
that are zero. -/
def read : Front Ipv6 := fun text => do
  let head := side 8 true text
  if head.groups.length = 8 then return (← ofGroups? head.groups, head.rest)
  else if head.endsInIpv4 then none
  else
    let (_, rest) ← exactly ':' head.rest
    let (_, rest) ← exactly ':' rest
    let tail := side (7 - head.groups.length) true rest
    let zeros := List.replicate (8 - head.groups.length - tail.groups.length) 0
    return (← ofGroups? (head.groups ++ zeros ++ tail.groups), tail.rest)

/-- A stretch of groups. -/
structure Span where
  start : Nat
  length : Nat

/-- The first of the longest runs of zeros. `current` is the run that the groups
before position `i` end with. -/
def longestZeros : (i : Nat) → (current longest : Span) → List UInt16 → Span
  | _, _, longest, [] => longest
  | i, current, longest, group :: rest =>
    if group = 0 then
      let current := if current.length = 0 then ⟨i, 1⟩ else ⟨current.start, current.length + 1⟩
      let longest := if longest.length < current.length then current else longest
      longestZeros (i + 1) current longest rest
    else longestZeros (i + 1) ⟨0, 0⟩ longest rest

def groupsText (groups : List UInt16) : String :=
  ":".intercalate (groups.map fun group => Text.Hex.ofNat group.toNat)

/-- The IPv4 address that an address stands for. -/
def mapped? (ip : Ipv6) : Option Ipv4 :=
  match ip.groups with
  | [0, 0, 0, 0, 0, 0xFFFF, high, low] => some (.ofGroups high low)
  | _ => none

def text (ip : Ipv6) : String :=
  match ip.mapped? with
  | some v4 => "::ffff:" ++ v4.text
  | none =>
    let zeros := longestZeros 0 ⟨0, 0⟩ ⟨0, 0⟩ ip.groups
    if 1 < zeros.length then
      groupsText (ip.groups.take zeros.start) ++ "::" ++
        groupsText (ip.groups.drop (zeros.start + zeros.length))
    else groupsText ip.groups

end Ipv6

end Herald.Net
