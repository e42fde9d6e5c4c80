namespace AdmissionControl.Http

-- What a request asks for. Only the path is kept: it is `*` for a request about
-- the server itself and empty for one that names an authority alone.
structure Target where
  path : String

namespace Target

def longest : Nat := 65534
def longestScheme : Nat := 64

-- Some octets that should be escaped in a path are tolerated there, and so is
-- everything outside ASCII.
def isPathChar (c : Char) : Bool :=
  let n := c.toNat
  n == 0x21 || n == 0x22 || (0x24 ≤ n && n ≤ 0x3B) || n == 0x3D || (0x40 ≤ n && n ≤ 0x5F) ||
    (0x61 ≤ n && n ≤ 0x7E) || 0x7F ≤ n

def isQueryChar (c : Char) : Bool :=
  let n := c.toNat
  n == 0x21 || (0x24 ≤ n && n ≤ 0x3B) || n == 0x3D || 0x3F ≤ n

-- A fragment is dropped unseen.
def queryIsSound (query : List Char) : Bool :=
  (query.takeWhile (· != '#')).all isQueryChar

-- The path of a path with an optional query and fragment.
def path? (cs : List Char) : Option (List Char) :=
  let path := cs.takeWhile fun c => c != '?' && c != '#'
  let rest := cs.dropWhile fun c => c != '?' && c != '#'
  let sound :=
    match rest with
    | '?' :: query => queryIsSound query
    | _ => true
  if path.all isPathChar && sound then some path else none

def isAuthorityChar (c : Char) : Bool :=
  c.isAlphanum || "!$&()*+,-.;=_~\x27".toList.contains c

-- What has been seen of an authority: colons since the last `@` or `]`,
-- brackets, a percent sign since the last `@` or `]`, and whether the last
-- character was an `@`.
structure AuthorityScan where
  colons : Nat := 0
  opened : Bool := false
  closed : Bool := false
  percent : Bool := false
  endsInAt : Bool := false

namespace AuthorityScan

def mostColons : Nat := 8

def step (scan : AuthorityScan) (c : Char) : Option AuthorityScan :=
  let scan := { scan with endsInAt := false }
  match c with
  | ':' => if mostColons ≤ scan.colons then none else some { scan with colons := scan.colons + 1 }
  | '[' => if scan.percent || scan.opened then none else some { scan with opened := true }
  | ']' =>
    if !scan.opened || scan.closed then none
    else some { scan with closed := true, colons := 0, percent := false }
  | '@' => some { scan with colons := 0, percent := false, endsInAt := true }
  | '%' => some { scan with percent := true }
  | c => if isAuthorityChar c then some scan else none

def isSound (scan : AuthorityScan) : Bool :=
  scan.opened == scan.closed && scan.colons ≤ 1 && !scan.endsInAt && !scan.percent

end AuthorityScan

def endsAuthority (c : Char) : Bool := c == '/' || c == '?' || c == '#'

def authorityIsSound (cs : List Char) : Bool :=
  match cs.foldlM AuthorityScan.step {} with
  | some scan => scan.isSound
  | none => false

-- The authority at the head and what follows it.
def authority? (cs : List Char) : Option (List Char × List Char) :=
  let authority := cs.takeWhile (!endsAuthority ·)
  if authorityIsSound authority then some (authority, cs.dropWhile (!endsAuthority ·)) else none

def isSchemeChar (c : Char) : Bool :=
  c.isAlphanum || c == '+' || c == '-' || c == '.'

-- What follows the scheme, if there is one. A scheme that is too long is none.
inductive SchemeScan where
  | absent
  | present (rest : List Char)
  | tooLong

def scheme (cs : List Char) : SchemeScan :=
  match cs.dropWhile isSchemeChar with
  | ':' :: '/' :: '/' :: rest =>
    if longestScheme < (cs.takeWhile isSchemeChar).length then .tooLong else .present rest
  | _ => .absent

-- An absolute target has an authority. One without a path asks for the root.
def absolute? (cs : List Char) : Option (List Char) :=
  match scheme cs with
  | .tooLong => none
  | .absent => do
    let (_, rest) ← authority? cs
    if rest.isEmpty then some [] else none
  | .present rest => do
    let (authority, rest) ← authority? rest
    if authority.isEmpty then none
    else
      let path ← path? rest
      return if path.isEmpty then ['/'] else path

def parse? (text : String) : Option Target :=
  let cs := text.toList
  if cs.isEmpty || longest < text.utf8ByteSize then none
  else
    let path? :=
      match cs with
      | ['*'] => some ['*']
      | '/' :: _ => path? cs
      | _ => absolute? cs
    path?.map fun path => ⟨String.ofList path⟩

end Target

end AdmissionControl.Http
