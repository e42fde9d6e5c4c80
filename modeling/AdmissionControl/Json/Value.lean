namespace AdmissionControl

-- A number with a fraction or an exponent is kept as it is spelled.
inductive Json where
  | null
  | bool (value : Bool)
  | integer (value : Int)
  | decimal (literal : String)
  | string (text : String)
  | array (items : List Json)
  | object (members : List (String × Json))

namespace Json

abbrev Members := List (String × Json)

-- Members are kept in the order of their names, each name once. A name that
-- is given again takes the later value.
def Members.put (name : String) (value : Json) : Members → Members
  | [] => [(name, value)]
  | (other, held) :: rest =>
    if name < other then (name, value) :: (other, held) :: rest
    else if name = other then (name, value) :: rest
    else (other, held) :: Members.put name value rest

def Members.get? (name : String) (members : Members) : Option Json :=
  members.lookup name

def ofMembers (members : List (String × Json)) : Json :=
  .object (members.foldl (fun held (name, value) => Members.put name value held) [])

def ofNat (n : Nat) : Json := .integer n

def ofOption (encode : α → Json) : Option α → Json
  | none => .null
  | some value => encode value

def text? : Json → Option String
  | .string text => some text
  | _ => none

end Json

end AdmissionControl
