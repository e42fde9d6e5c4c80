import AdmissionControl.Text.Digits

namespace AdmissionControl.Text

def utf8Octets (c : Char) : List UInt8 :=
  (String.singleton c).toUTF8.toList

-- The octets of a text in which `%` and two hexadecimal digits stand for an
-- octet. A percent sign that is not followed by two digits stands for itself.
def percentOctets : List Char → List UInt8
  | [] => []
  | '%' :: high :: low :: rest =>
    match digitValue? 16 high, digitValue? 16 low with
    | some h, some l => UInt8.ofNat (h * 16 + l) :: percentOctets rest
    | _, _ => 0x25 :: percentOctets (high :: low :: rest)
  | c :: rest => utf8Octets c ++ percentOctets rest
termination_by cs => cs.length

def textOfOctets? (octets : List UInt8) : Option String :=
  String.fromUTF8? ⟨octets.toArray⟩

-- The text that is left after decoding, if its octets are a text at all.
def percentDecoded? (cs : List Char) : Option String :=
  textOfOctets? (percentOctets cs)

end AdmissionControl.Text
