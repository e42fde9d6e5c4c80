namespace AdmissionControl.Http

-- The characters that names of methods and header fields are made of.
def isTokenChar (c : Char) : Bool :=
  c.isAlphanum || "!#$%&*+-.^_|~\x27\x60".toList.contains c

def isToken (cs : List Char) : Bool :=
  !cs.isEmpty && cs.all isTokenChar

end AdmissionControl.Http
