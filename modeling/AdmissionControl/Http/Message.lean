import AdmissionControl.Http.Headers
import AdmissionControl.Http.Method
import AdmissionControl.Http.Target
import AdmissionControl.Net.Address

namespace AdmissionControl.Http

-- A body arrives piece by piece. A failure does not end it.
inductive BodyItem where
  | chunk (bytes : ByteArray)
  | failure (text : String)

abbrev Body := List BodyItem

-- The peer is the other end of the connection, if it is known.
structure Request where
  method : Method
  target : Target
  headers : Headers
  body : Body
  peer : Option Net.Address

structure Response where
  status : Nat
  headers : List (String × String)
  body : ByteArray

namespace Response

def empty (status : Nat) : Response := ⟨status, [], ByteArray.empty⟩

def header? (name : String) (response : Response) : Option String :=
  response.headers.lookup name

-- The field is set once, whatever was there before.
def setHeader (name value : String) (response : Response) : Response :=
  { response with headers := response.headers.filter (·.1 != name) ++ [(name, value)] }

def setHeaderIfAbsent (name value : String) (response : Response) : Response :=
  if (response.header? name).isSome then response else response.setHeader name value

def text (status : Nat) (content : String) : Response :=
  ⟨status, [("content-type", "text/plain; charset=utf-8")], content.toUTF8⟩

def json (status : Nat) (content : String) : Response :=
  ⟨status, [("content-type", "application/json")], content.toUTF8⟩

end Response

end AdmissionControl.Http
