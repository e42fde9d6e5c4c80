import AdmissionControl.Net.Literal

namespace AdmissionControl.Net

open Text

-- An address with a port. An IPv6 address is bracketed and may name a scope.
structure Endpoint where
  address : Address
  scope : Nat
  port : Nat

namespace Endpoint

def below? (limit : Nat) (cs : List Char) : Option Nat :=
  (natOfDigits? 10 cs).filter (· < limit)

def bracketed? (cs : List Char) : Option Endpoint := do
  let (inside, after) ← cutAt? ']' cs
  let (groups, scope) :=
    match cutAt? '%' inside with
    | some (groups, scope) => (groups, some scope)
    | none => (inside, none)
  let groups ← Literal.v6? strict groups
  let scope ← match scope with
    | some scope => below? UInt32.size scope
    | none => some 0
  match after with
  | ':' :: port => return ⟨.v6 (Address.ofGroups groups), scope, ← below? UInt16.size port⟩
  | _ => none

def parse? (text : String) : Option Endpoint :=
  match text.toList with
  | '[' :: cs => bracketed? cs
  | cs => do
    let (quad, port) ← cutAt? ':' cs
    let octets ← Literal.quad? false quad
    return ⟨.v4 (Address.ofOctets octets), 0, ← below? UInt16.size port⟩

end Endpoint

end AdmissionControl.Net
