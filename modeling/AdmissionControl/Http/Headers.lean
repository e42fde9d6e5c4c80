import AdmissionControl.Http.Token

namespace AdmissionControl.Http

abbrev Octets := List UInt8

-- A header field. The name is in lower case.
structure Field where
  name : String
  value : Octets

abbrev Headers := List Field

inductive FieldError where
  | invalidName
  | invalidValue

namespace Field

-- Tabs, and all octets from the space on but DEL.
def isValueOctet (b : UInt8) : Bool := b == 9 || (32 ≤ b && b != 127)

-- Tabs and printable ASCII.
def isTextOctet (b : UInt8) : Bool := b == 9 || (32 ≤ b && b ≤ 126)

def longestName : Nat := 65535

def make (name value : Octets) : Except FieldError Field :=
  let chars := name.map fun b => Char.ofNat b.toNat
  if !isToken chars || longestName < chars.length then .error .invalidName
  else if value.all isValueOctet then .ok ⟨String.ofList (chars.map Char.toLower), value⟩
  else .error .invalidValue

-- The value as text, if it is made of tabs and printable ASCII only.
def text? (value : Octets) : Option (List Char) :=
  if value.all isTextOctet then some (value.map fun b => Char.ofNat b.toNat) else none

end Field

namespace Headers

-- Repeated fields are kept, but only the first of a name is ever looked at.
def first? (name : String) (headers : Headers) : Option Octets :=
  (headers.find? (·.name == name)).map Field.value

-- The first value of a name, if it is readable as text.
def text? (name : String) (headers : Headers) : Option (List Char) :=
  (headers.first? name).bind Field.text?

end Headers

end AdmissionControl.Http
