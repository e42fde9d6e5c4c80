import AdmissionControl.Http.Token

namespace AdmissionControl.Http

structure Method where
  name : String
deriving DecidableEq

namespace Method

def get : Method := ⟨"GET"⟩
def head : Method := ⟨"HEAD"⟩
def post : Method := ⟨"POST"⟩
def put : Method := ⟨"PUT"⟩
def patch : Method := ⟨"PATCH"⟩
def delete : Method := ⟨"DELETE"⟩
def connect : Method := ⟨"CONNECT"⟩

-- Any token names a method. Case matters.
def parse? (text : String) : Option Method :=
  if isToken text.toList then some ⟨text⟩ else none

end Method

end AdmissionControl.Http
