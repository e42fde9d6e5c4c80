import AdmissionControl.Net.Literal

namespace AdmissionControl.Net

open Text

-- The addresses of one family whose first `length` bits are those of the base.
-- The other bits of the base have no meaning.
inductive Network where
  | v4 (base : BitVec 32) (length : Nat)
  | v6 (base : BitVec 128) (length : Nat)

namespace Network

def contains : Network → Address → Bool
  | .v4 base length, .v4 bits => base >>> (32 - length) == bits >>> (32 - length)
  | .v6 base length, .v6 bits => base >>> (128 - length) == bits >>> (128 - length)
  | _, _ => false

-- The network that holds one address.
def single : Address → Network
  | .v4 bits => .v4 bits 32
  | .v6 bits => .v6 bits 128

-- Network blocks are written more freely than addresses on their own.
def blockStyle : Style := ⟨true, true⟩

def lengthOf? (places limit : Nat) (cs : List Char) : Option Nat := do
  let n ← natOfDigits? 10 cs
  if cs.length ≤ places ∧ n ≤ limit then some n else none

-- An address, a slash and a number of bits.
def block? (cs : List Char) : Option Network := do
  let (base, length) ← cutAt? '/' cs
  match ← Address.ofChars? blockStyle base with
  | .v4 bits => return .v4 bits (← lengthOf? 2 32 length)
  | .v6 bits => return .v6 bits (← lengthOf? 3 128 length)

def parse? (text : String) : Option Network :=
  match block? text.toList with
  | some network => some network
  | none => (Address.parse? text).map single

end Network

end AdmissionControl.Net
