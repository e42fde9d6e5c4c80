import AdmissionControl.Net.Address
import AdmissionControl.Text.Split
import AdmissionControl.Text.Digits

namespace AdmissionControl.Net

open Text

-- Two notations for addresses differ in what they tolerate: whether an octet
-- may have leading zeros, and whether `::` may stand for no group at all.
structure Style where
  leadingZeros : Bool
  emptyGap : Bool

namespace Literal

def octet? (leadingZeros : Bool) (cs : List Char) : Option Nat := do
  let n ← natOfDigits? 10 cs
  if cs.length ≤ 3 ∧ n < 256 ∧ (leadingZeros ∨ cs.length = 1 ∨ cs.head? ≠ some '0') then
    some n
  else none

-- Four octets with points between them.
def quad? (leadingZeros : Bool) (cs : List Char) : Option (List Nat) := do
  let octets ← (splitOnChar '.' cs).mapM (octet? leadingZeros)
  if octets.length = 4 then some octets else none

def group? (cs : List Char) : Option Nat := do
  let n ← natOfDigits? 16 cs
  if cs.length ≤ 4 then some n else none

-- Octets two by two.
def pair : List Nat → List Nat
  | high :: low :: rest => (high * 256 + low) :: pair rest
  | _ => []

-- Groups with colons between them. Only the last piece may be a quad, which
-- stands for two groups.
def groupRun? (leadingZeros quadAllowed : Bool) : List (List Char) → Option (List Nat)
  | [] => some []
  | [piece] =>
    match group? piece with
    | some group => some [group]
    | none => if quadAllowed then (quad? leadingZeros piece).map pair else none
  | piece :: pieces => do
    let group ← group? piece
    let groups ← groupRun? leadingZeros quadAllowed pieces
    return group :: groups

def groupsOf? (leadingZeros quadAllowed : Bool) (cs : List Char) : Option (List Nat) :=
  if cs.isEmpty then some [] else groupRun? leadingZeros quadAllowed (splitOnChar ':' cs)

-- A `::` stands for as many zero groups as are missing.
def v6? (style : Style) (cs : List Char) : Option (List Nat) :=
  match cutAtPair? ':' ':' cs with
  | none => do
    let groups ← groupsOf? style.leadingZeros true cs
    if groups.length = 8 then some groups else none
  | some (before, after) => do
    let head ← groupsOf? style.leadingZeros false before
    let tail ← groupsOf? style.leadingZeros true after
    let room := if style.emptyGap then 8 else 7
    if head.length < 8 ∧ head.length + tail.length ≤ room then
      some (head ++ List.replicate (8 - (head.length + tail.length)) 0 ++ tail)
    else none

end Literal

-- Octets have no leading zeros, and `::` stands for at least one group.
def strict : Style := ⟨false, false⟩

namespace Address

def ofChars? (style : Style) (cs : List Char) : Option Address :=
  match Literal.quad? style.leadingZeros cs with
  | some octets => some (.v4 (ofOctets octets))
  | none => (Literal.v6? style cs).map fun groups => .v6 (ofGroups groups)

def parse? (text : String) : Option Address :=
  ofChars? strict text.toList

end Address

end AdmissionControl.Net
