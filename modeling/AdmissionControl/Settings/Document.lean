import AdmissionControl.Json.Value

namespace AdmissionControl.Settings

-- Settings as they are written down, whatever the notation. The values of reals
-- and of moments are not kept, since no setting takes one.
inductive Document where
  | null
  | boolean (value : Bool)
  | integer (value : Int)
  | real
  | moment
  | text (value : String)
  | sequence (items : List Document)
  | record (fields : List (String × Document))

namespace Document

mutual

def ofJson : Json → Document
  | .null => .null
  | .bool value => .boolean value
  | .integer value => .integer value
  | .decimal _ => .real
  | .string value => .text value
  | .array items => .sequence (ofItems items)
  | .object members => .record (ofMembers members)

def ofItems : List Json → List Document
  | [] => []
  | item :: items => ofJson item :: ofItems items

def ofMembers : List (String × Json) → List (String × Document)
  | [] => []
  | (name, value) :: members => (name, ofJson value) :: ofMembers members

end

mutual

-- Reals and moments are never shown.
def toJson : Document → Json
  | .null => .null
  | .boolean value => .bool value
  | .integer value => .integer value
  | .real => .null
  | .moment => .null
  | .text value => .string value
  | .sequence items => .array (itemsToJson items)
  | .record fields => Json.ofMembers (fieldsToJson fields)

def itemsToJson : List Document → List Json
  | [] => []
  | item :: items => toJson item :: itemsToJson items

def fieldsToJson : List (String × Document) → List (String × Json)
  | [] => []
  | (name, value) :: fields => (name, toJson value) :: fieldsToJson fields

end

end Document

end AdmissionControl.Settings
