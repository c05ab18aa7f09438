import Mathlib.Algebra.Ring.Nat
import SocAnalyst.Builtins

/-!
# Addresses and networks

The `ipaddress` module: textual IPv4 and IPv6 addresses, and blocks of them written with
a prefix length or, for IPv4, a mask.
-/
namespace SocAnalyst.IpAddresses
open SocAnalyst.Builtins

def isDecimal (c : Nat) : Bool := 48 ≤ c && c ≤ 57

/-- The value of a hexadecimal digit. -/
def hexDigit (c : Nat) : Option Nat :=
  if 48 ≤ c ∧ c ≤ 57 then some (c - 48)
  else if 97 ≤ c ∧ c ≤ 102 then some (c - 87)
  else if 65 ≤ c ∧ c ≤ 70 then some (c - 55)
  else none

/-- The number that ASCII digits spell. -/
def decimalValue (digits : Text) : Nat := digits.foldl (fun n c => 10 * n + (c - 48)) 0

/-! ### Addresses -/

inductive IpAddress where
  | v4 (value : Nat)
  | v6 (value : Nat)
  deriving DecidableEq, Repr

/-- One decimal number of an IPv4 address; leading zeros are refused. -/
def parseOctet (octet : Text) : Option Nat :=
  if octet = [] ∨ ¬ octet.all isDecimal ∨ 3 < octet.length then none
  else if octet ≠ [48] ∧ octet.head? = some 48 then none
  else if 255 < decimalValue octet then none
  else some (decimalValue octet)

def parseV4 (text : Text) : Option Nat :=
  match text.splitOn 46 with
  | [a,b,c,d] => do return ((((← parseOctet a) * 256 + (← parseOctet b)) * 256 + (← parseOctet c)) * 256 + (← parseOctet d))
  | _ => none

/-- One group of an IPv6 address. -/
def parseHextet (group : Text) : Option Nat :=
  if group = [] ∨ 4 < group.length then none
  else group.foldlM (fun n c => (hexDigit c).map (16 * n + ·)) 0

/-- The groups of an IPv6 address, an IPv4 suffix made into two. -/
def groupsOf (text : Text) : Option (List Text) :=
  let parts := text.splitOn 58
  if parts.length < 3 then none
  else if (parts.getLastD []).contains 46 then
    (parseV4 (parts.getLastD [])).map fun value =>
      parts.dropLast ++ [(Nat.toDigits 16 (value / 65536)).map Char.toNat,(Nat.toDigits 16 (value % 65536)).map Char.toNat]
  else some parts

/-- The number that groups spell after the given one. -/
def groupsValue (start : Nat) (groups : List Text) : Option Nat :=
  groups.foldlM (fun n group => (parseHextet group).map (65536 * n + ·)) start

/-- The number of an IPv6 address, in which one run of zero groups may be left out. -/
def parseGroups (parts : List Text) : Option Nat :=
  if 9 < parts.length then none
  else match (List.range parts.length).filter fun i => 0 < i ∧ i + 1 < parts.length ∧ parts[i]? = some [] with
    | [] => if parts.length ≠ 8 then none else groupsValue 0 parts
    | [skip] =>
      let before := if parts.head? = some [] then skip - 1 else skip
      let after := if parts.getLast? = some [] then parts.length - skip - 2 else parts.length - skip - 1
      if parts.head? = some [] ∧ before ≠ 0 then none
      else if parts.getLast? = some [] ∧ after ≠ 0 then none
      else if 8 ≤ before + after then none
      else do
        let high ← groupsValue 0 (parts.take before)
        groupsValue (high * 65536 ^ (8 - (before + after))) (parts.drop (parts.length - after))
    | _ => none

def parseV6 (text : Text) : Option Nat :=
  if text.contains 47 then none
  else match text.splitOn 37 with
    | [address] => (groupsOf address).bind parseGroups
    | [address,scope] => if scope = [] then none else (groupsOf address).bind parseGroups
    | _ => none

/-- `ipaddress.ip_address`, where it returns. -/
def ipAddress (text : Text) : Option IpAddress := ((parseV4 text).map .v4).or ((parseV6 text).map .v6)

/-! ### Networks -/

/-- A block of addresses: those that agree with its address on the leading bits. -/
structure IpNetwork where
  address : IpAddress
  prefixLength : Nat

/-- `_contains`: membership, false across versions. -/
def IpNetwork.contains (network : IpNetwork) : IpAddress → Bool
  | .v4 value =>
    match network.address with
    | .v4 base => value / 2 ^ (32 - network.prefixLength) == base / 2 ^ (32 - network.prefixLength)
    | .v6 _ => false
  | .v6 value =>
    match network.address with
    | .v4 _ => false
    | .v6 base => value / 2 ^ (128 - network.prefixLength) == base / 2 ^ (128 - network.prefixLength)

/-- A prefix length written as a number. -/
def parsePrefix (width : Nat) (mask : Text) : Option Nat :=
  if mask = [] ∨ ¬ mask.all isDecimal ∨ maxStrDigits < mask.length ∨ width < decimalValue mask then none
  else some (decimalValue mask)

/-- The prefix length of a netmask. -/
def prefixOf (mask : Nat) : Option Nat := (List.range 33).find? fun length => mask = 2 ^ 32 - 2 ^ (32 - length)

/-- A prefix length written as an IPv4 netmask, or else as a hostmask. -/
def parseMask (mask : Text) : Option Nat :=
  (parseV4 mask).bind fun value => (prefixOf value).or (prefixOf (2 ^ 32 - 1 - value))

def v4Network (address : Text) (mask : Option Text) : Option IpNetwork := do
  let base ← parseV4 address
  let length ← match mask with
    | none => some 32
    | some mask => (parsePrefix 32 mask).or (parseMask mask)
  return ⟨.v4 base,length⟩

def v6Network (address : Text) (mask : Option Text) : Option IpNetwork := do
  let base ← parseV6 address
  let length ← match mask with
    | none => some 128
    | some mask => parsePrefix 128 mask
  return ⟨.v6 base,length⟩

/-- `ipaddress.ip_network(text, strict=False)`, where it returns. -/
def ipNetwork (text : Text) : Option IpNetwork :=
  match text.splitOn 47 with
  | [address] => (v4Network address none).or (v6Network address none)
  | [address,mask] => (v4Network address (some mask)).or (v6Network address (some mask))
  | _ => none

/-! ### Special purposes -/

def isLoopback : IpAddress → Bool
  | .v4 value => value / 2 ^ 24 == 127
  | .v6 value => value == 1

def isLinkLocal : IpAddress → Bool
  | .v4 value => value / 2 ^ 16 == 169 * 256 + 254
  | .v6 value => value / 2 ^ 118 == 0x3fa

example : ipAddress (lit "::ffff:10.0.0.1") = some (.v6 0xffff0a000001) := by decide
example : ipAddress (lit "fe80::1%eth0") = some (.v6 (0xfe80 * 2 ^ 112 + 1)) := by decide
example : (ipNetwork (lit "172.16.0.0/255.240.0.0")).map (·.contains (.v4 0xac1f0001)) = some true := by decide

end SocAnalyst.IpAddresses
