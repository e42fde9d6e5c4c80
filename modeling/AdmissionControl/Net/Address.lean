namespace AdmissionControl.Net

-- An IPv4 and an IPv6 address are never equal, not even when the second
-- embeds the first.
inductive Address where
  | v4 (bits : BitVec 32)
  | v6 (bits : BitVec 128)
deriving DecidableEq

namespace Address

-- The last `count` digits of a number in a base, the highest first.
def partsOf (base : Nat) : Nat → Nat → List Nat
  | 0, _ => []
  | count + 1, n => partsOf base count (n / base) ++ [n % base]

def ofParts (base : Nat) (parts : List Nat) : Nat :=
  parts.foldl (fun total part => total * base + part) 0

-- The four octets of an IPv4 address.
def octets (bits : BitVec 32) : List Nat := partsOf 256 4 bits.toNat

-- The eight groups of an IPv6 address.
def groups (bits : BitVec 128) : List Nat := partsOf 65536 8 bits.toNat

def ofOctets (octets : List Nat) : BitVec 32 := BitVec.ofNat 32 (ofParts 256 octets)

def ofGroups (groups : List Nat) : BitVec 128 := BitVec.ofNat 128 (ofParts 65536 groups)

-- The address after this one in its family. The first follows the last.
def next : Address → Address
  | .v4 bits => .v4 (bits + 1)
  | .v6 bits => .v6 (bits + 1)

end Address

end AdmissionControl.Net
