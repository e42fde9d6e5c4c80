import AdmissionControl.Net.Literal
import AdmissionControl.RateLimit.StoreError
import AdmissionControl.Text.Percent

namespace AdmissionControl.RateLimit

open Text

-- The address of a counter store. A path is either a list of segments or, where
-- nothing else follows the scheme, a text without structure.
structure StoreUrl where
  scheme : String
  username : List Char
  password : Option (List Char)
  host : List Char
  segments : Option (List (List Char))
  query : List Char

namespace StoreUrl

-- Blanks and controls around an address do not count, nor do tabs and line
-- ends anywhere in it.
def cleaned (cs : List Char) : List Char :=
  let isEdge (c : Char) := c.toNat ≤ 0x20
  let inner := ((cs.dropWhile isEdge).reverse.dropWhile isEdge).reverse
  inner.filter fun c => c != '\t' && c != '\n' && c != '\r'

def isSchemeChar (c : Char) : Bool :=
  c.isAlphanum || c == '+' || c == '-' || c == '.'

def scheme? (cs : List Char) : Option (String × List Char) := do
  let (name, rest) ← cutAt? ':' cs
  let first ← name.head?
  if first.isAlpha ∧ name.all isSchemeChar then
    some (String.ofList (name.map Char.toLower), rest)
  else none

def endsAuthority (c : Char) : Bool := c == '/' || c == '?' || c == '#'

-- The host ends at the first colon outside brackets.
def hostSpan : Bool → List Char → List Char × List Char
  | _, [] => ([], [])
  | bracketed, c :: cs =>
    if c = ':' ∧ ¬ bracketed then ([], c :: cs)
    else
      let bracketed := if c = '[' then true else if c = ']' then false else bracketed
      let (host, rest) := hostSpan bracketed cs
      (c :: host, rest)

def isForbiddenHostChar (c : Char) : Bool :=
  " #/:<>?@[\\]^|\x00".toList.contains c

def hostIsSound (host : List Char) : Bool :=
  match host with
  | '[' :: inside =>
    inside.getLast? == some ']' && (Net.Literal.v6? Net.strict inside.dropLast).isSome
  | host => host.all (!isForbiddenHostChar ·)

-- Digits up to the largest port, or none at all. A backslash ends them too and
-- belongs to the path.
def port? (cs : List Char) : Option (List Char) :=
  let digits := cs.takeWhile (isDigit 10)
  let rest := cs.dropWhile (isDigit 10)
  let inRange := digits.isEmpty || (natOfDigits? 10 digits).any (· < UInt16.size)
  let ends :=
    match rest with
    | [] => true
    | c :: _ => c == '\\'
  if inRange && ends then some rest else none

def isDot (segment : List Char) : Bool :=
  segment == ['.'] || String.ofList (segment.map Char.toLower) == "%2e"

def isDoubleDot (segment : List Char) : Bool :=
  let lower := String.ofList (segment.map Char.toLower)
  lower == ".." || lower == ".%2e" || lower == "%2e." || lower == "%2e%2e"

-- A dot stands for the place itself and two dots for the place above. At the
-- end either leaves an empty segment.
def resolveDots (above : List (List Char)) : List (List Char) → List (List Char)
  | [] => above.reverse
  | segment :: rest =>
    if isDoubleDot segment then
      resolveDots (if rest.isEmpty then [] :: above.tail else above.tail) rest
    else if isDot segment then
      resolveDots (if rest.isEmpty then [] :: above else above) rest
    else resolveDots (segment :: above) rest

def segmentsOf (path : List Char) : List (List Char) :=
  match path with
  | '/' :: rest => resolveDots [] (splitOnChar '/' rest)
  | rest => resolveDots [] (splitOnChar '/' rest)

def pathAndQuery (cs : List Char) : List Char × List Char :=
  let cs := cs.takeWhile (· != '#')
  (cs.takeWhile (· != '?'), (cs.dropWhile (· != '?')).drop 1)

def credentials (cs : List Char) : List Char × Option (List Char) :=
  match cutAt? ':' cs with
  | some (username, password) => (username, if password.isEmpty then none else some password)
  | none => (cs, none)

-- What follows the two slashes. A port or credentials need a host, though a
-- lone `@` with nothing after it is let pass.
def withAuthority? (scheme : String) (cs : List Char) : Option StoreUrl := do
  let authority := cs.takeWhile (!endsAuthority ·)
  let tail := cs.dropWhile (!endsAuthority ·)
  let (userinfo, hostPort) :=
    match cutAtLast? '@' authority with
    | some (userinfo, hostPort) => (some userinfo, hostPort)
    | none => (none, authority)
  if userinfo == some [] && hostPort.isEmpty && !tail.isEmpty then none
  else
    let (username, password) := credentials (userinfo.getD [])
    let (host, portPart) := hostSpan false hostPort
    let rest ←
      match portPart with
      | ':' :: digits => if host.isEmpty then none else port? digits
      | _ => some []
    if !hostIsSound host then none
    else if host.isEmpty && (!username.isEmpty || password.isSome) then none
    else
      let (path, query) := pathAndQuery (rest ++ tail)
      return ⟨scheme, username, password, host,
        if path.isEmpty then none else some (segmentsOf path), query⟩

def parse? (text : String) : Option StoreUrl := do
  let (scheme, rest) ← scheme? (cleaned text.toList)
  match rest with
  | '/' :: '/' :: rest => withAuthority? scheme rest
  | '/' :: _ =>
    let (path, query) := pathAndQuery rest
    return ⟨scheme, [], none, [], some (segmentsOf path), query⟩
  | _ => return ⟨scheme, [], none, [], none, (pathAndQuery rest).2⟩

-- The value that a query gives to a name. The last one counts.
def queryValue? (name : String) (query : List Char) : Option String :=
  let decoded (cs : List Char) :=
    percentDecoded? (cs.map fun c => if c == '+' then ' ' else c) |>.getD "\uFFFD"
  let pairs := ((splitOnChar '&' query).filter (!·.isEmpty)).map fun pair =>
    match cutAt? '=' pair with
    | some (name, value) => (decoded name, decoded value)
    | none => (decoded pair, "")
  (pairs.reverse.find? (·.1 == name)).map Prod.snd

-- Why an address cannot be used, in the words of the store's client.
inductive Fault where
  | unparsable
  | missingHost
  | missingPath
  | encryptionUnavailable
  | invalidDatabase
  | usernameNotText
  | passwordNotText
  | invalidProtocol (version : String)

namespace Fault

def text : Fault → String
  | .unparsable => "Redis URL did not parse"
  | .missingHost => "Missing hostname"
  | .missingPath => "Missing path"
  | .encryptionUnavailable => "can't connect with TLS, the feature is not enabled"
  | .invalidDatabase => "Invalid database number"
  | .usernameNotText => "Username is not valid UTF-8 string"
  | .passwordNotText => "Password is not valid UTF-8 string"
  | .invalidProtocol _ => "Invalid protocol version"

def detail : Fault → String
  | .invalidProtocol version => ": " ++ version
  | _ => ""

def error (fault : Fault) : StoreError :=
  .backend (fault.text ++ "- InvalidClientConfig" ++ fault.detail)

end Fault

def trimSlashes (cs : List Char) : List Char :=
  ((cs.dropWhile (· == '/')).reverse.dropWhile (· == '/')).reverse

def isDatabase (cs : List Char) : Bool :=
  match intOfSigned? cs with
  | some n => Int64.minValue.toInt ≤ n && n ≤ Int64.maxValue.toInt
  | none => false

def checkProtocol (url : StoreUrl) : Except Fault Unit :=
  match queryValue? "protocol" url.query with
  | none => .ok ()
  | some version =>
    if ["2", "resp2", "3", "resp3"].contains version then .ok ()
    else .error (.invalidProtocol version)

-- A store that is reached over the network. The path names the database.
def checkNetwork (url : StoreUrl) : Except Fault Unit := do
  if url.host.isEmpty then throw .missingHost
  if url.scheme == "rediss" then throw .encryptionUnavailable
  let path := trimSlashes (['/'].intercalate (url.segments.getD []))
  if !path.isEmpty && !isDatabase path then throw .invalidDatabase
  if (percentDecoded? url.username).isNone then throw .usernameNotText
  if (url.password.map percentDecoded?) == some none then throw .passwordNotText
  checkProtocol url

-- A store behind a socket in the file system. The query names the database.
def checkSocket (url : StoreUrl) : Except Fault Unit := do
  if url.segments.isNone || !(url.host.isEmpty || String.ofList url.host == "localhost") then
    throw .missingPath
  match queryValue? "db" url.query with
  | some database => if !isDatabase database.toList then throw .invalidDatabase
  | none => pure ()
  checkProtocol url

def check (text : String) : Except Fault Unit :=
  match parse? text with
  | none => .error .unparsable
  | some url =>
    if url.scheme == "redis" || url.scheme == "rediss" then checkNetwork url
    else if url.scheme == "redis+unix" || url.scheme == "unix" then checkSocket url
    else .error .unparsable

end StoreUrl

end AdmissionControl.RateLimit
