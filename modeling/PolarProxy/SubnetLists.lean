import Mathlib.Algebra.GroupWithZero.Nat
import PolarProxy.Text
import PolarProxy.Library.Loops
import PolarProxy.Library.PrefixBits

/-!
# Lists of trusted subnets

A list of subnets is text: entries of an address, a slash and a number of bits, with commas between
them.  `isValidSubnetList` checks the list when it is configured, and `isClientInAnySubnet` looks for
a client in it.  Both read an entry with `sscanf` into a buffer of `INET6_ADDRSTRLEN` characters and
a number of 8 bits.

A text ends before its NUL.  Accesses outside of an array and shifts by an amount that is out of
range are faults.  `inet_pton` is a parameter.

**Results.** `scanSubnet`, `isInNetwork`, `isClientInAnySubnet`, `isValidSubnet`,
`isValidSubnetList`.
-/

namespace PolarProxy

namespace Subnets

open Loops PrefixBits

/-- What has no defined result -/
inductive Fault
  | outsideArray
  | shiftAmount
  deriving DecidableEq

/-- A computation whose accesses and shifts are checked -/
abbrev Checked (α : Type) :=
  Except Fault α

inductive ClientAddr
  | inet (addr : BitVec 32)
  | inet6 (addr : BitVec 128)
  deriving DecidableEq

/-- `inet_pton` for the two families: the address in network order, if the text is one -/
structure InetPton where
  inet : List Char → Option (BitVec 32)
  inet6 : List Char → Option (BitVec 128)

/-- What the manual of `inet_pton` says of the texts: the fields of an IPv6 address are separated by
colons, an IPv4 address has dots and digits only, and both fit the buffer with their NUL. -/
structure InetPton.Documented (pton : InetPton) : Prop where
  inet_noColon : ∀ text addr, pton.inet text = some addr → ':' ∉ text
  inet6_colon : ∀ text addr, pton.inet6 text = some addr → ':' ∈ text
  inet_fits : ∀ text addr, pton.inet text = some addr → text.length < 46
  inet6_fits : ∀ text addr, pton.inet6 text = some addr → text.length < 46

def inet6Addrstrlen : Nat := 46

/-! ## Reading an entry -/

/-- The sign and the digits at the start of a text, after its blanks -/
def numberText (text : List Char) : Bool × List Char :=
  let text := text.dropWhile isSpace
  let negative := text.head? = some '-'
  let text := if negative ∨ text.head? = some '+' then text.tail else text
  (negative, text.takeWhile Char.isDigit)

/-- The number that digits stand for -/
def decimal (digits : List Char) : Nat :=
  digits.foldl (fun n c => n * 10 + (c.toNat - 48)) 0

/-- `strtoul` of decimal digits with a sign -/
def strtoul (negative : Bool) (digits : List Char) : Nat :=
  if 2 ^ 64 ≤ decimal digits then 2 ^ 64 - 1
  else if negative then (2 ^ 64 - decimal digits) % 2 ^ 64
  else decimal digits

/-- The number that `%u` reads at the start of a text, before it is stored -/
def scanNumber (text : List Char) : Option Nat :=
  if (numberText text).2 = [] then none
  else some (strtoul (numberText text).1 (numberText text).2)

/-- `sscanf(subnet, "%[^/]/%hhu", addr_str, &mask)`: both fields, if both are assigned -/
def scanSubnet (subnet : List Char) : Checked (Option (List Char × Nat)) :=
  let addrStr := subnet.takeWhile fun c => c ≠ '/'
  if addrStr = [] then .ok none
  else if addrStr.length ≥ inet6Addrstrlen then .error .outsideArray
  else
    match subnet.dropWhile fun c => c ≠ '/' with
    | [] => .ok none
    | _ :: rest =>
        match scanNumber rest with
        | none => .ok none
        | some n => .ok (some (addrStr, n % 2 ^ 8))

/-- `strtok` with commas -/
def tokens (subnetList : List Char) : List (List Char) :=
  (subnetList.splitOn ',').filter fun token => token ≠ []

/-! ## A client in a subnet -/

/-- A shift to the left, by an amount of type `int` -/
def shiftLeft {w : Nat} (x : BitVec w) (amount : Int) : Checked (BitVec w) :=
  if 0 ≤ amount ∧ amount < w then .ok (x <<< amount.toNat) else .error .shiftAmount

def maskBytes (bitsLeft : Nat) : List (BitVec 8) → List (BitVec 8)
  | [] => []
  | b :: addr =>
      if bitsLeft ≥ 8 then b :: maskBytes (bitsLeft - 8) addr
      else if bitsLeft > 0 then (b &&& (0xFF#8 <<< (8 - bitsLeft))) :: maskBytes 0 addr
      else 0 :: maskBytes 0 addr

/-- `memcmp(xs, ys, n) == 0` -/
def memcmpEq (xs ys : List (BitVec 8)) (n : Nat) : Checked Bool :=
  if n ≤ xs.length ∧ n ≤ ys.length then .ok (xs.take n == ys.take n) else .error .outsideArray

def readByte (xs : List (BitVec 8)) (i : Nat) : Checked (BitVec 8) :=
  match xs[i]? with
  | some b => .ok b
  | none => .error .outsideArray

/-- The comparison of the bits that the mask covers -/
def compareMasked (networkAddr clientAddr : List (BitVec 8)) (mask : Nat) : Checked Bool := do
  if !(← memcmpEq networkAddr clientAddr (mask / 8)) then return false
  else if mask % 8 > 0 then
    let maskByte := 0xFF#8 <<< (8 - mask % 8)
    let network ← readByte networkAddr (mask / 8)
    let client ← readByte clientAddr (mask / 8)
    return network &&& maskByte == client &&& maskByte
  else return true

variable (pton : InetPton)

/-- `is_in_network` -/
def isInNetwork (client : ClientAddr) (subnetMask : List Char) : Checked Bool := do
  match ← scanSubnet subnetMask with
  | none => return false
  | some (addrStr, mask) =>
      match client with
      | .inet addr =>
          match pton.inet addrStr with
          | none => return false
          | some subnet =>
              let bits ← shiftLeft 0xFFFFFFFF#32 (32 - mask)
              compareMasked (bytes (subnet &&& bits) ++ List.replicate 12 0)
                (bytes addr ++ List.replicate 12 0) mask
      | .inet6 addr =>
          match pton.inet6 addrStr with
          | none => return false
          | some subnet => compareMasked (maskBytes mask (bytes subnet)) (bytes addr) mask

/-- The loop of `is_client_in_any_subnet` -/
def anyToken (client : ClientAddr) : List (List Char) → Checked Bool
  | [] => return false
  | token :: rest => do
      if ← isInNetwork pton client token then return true else anyToken client rest

/-- `is_client_in_any_subnet` -/
def isClientInAnySubnet (client : ClientAddr) (subnetList : List Char) : Checked Bool :=
  anyToken pton client (tokens subnetList)

/-! ## Accepted lists -/

/-- `is_valid_subnet` -/
def isValidSubnet (subnet : List Char) : Checked Bool := do
  if subnet = [] then return false
  else if '/' ∉ subnet then return false
  else
    match ← scanSubnet subnet with
    | none => return false
    | some (addrStr, mask) =>
        if mask > 128 then return false
        else if ':' ∈ subnet then return (pton.inet6 addrStr).isSome
        else return (pton.inet addrStr).isSome

/-- The loop of `is_valid_subnet_list` -/
def allTokens : List (List Char) → Checked Bool
  | [] => return true
  | token :: rest => do
      if !(← isValidSubnet pton token) then return false else allTokens rest

/-- `is_valid_subnet_list` -/
def isValidSubnetList (subnetList : List Char) : Checked Bool :=
  if subnetList = [] then return false
  else allTokens pton (tokens subnetList)

end Subnets

end PolarProxy
