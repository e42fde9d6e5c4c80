import AdmissionControl.Server.Handler
import AdmissionControl.Text.Split

namespace AdmissionControl.Server

open Http Text

inductive Segment where
  | literal (text : String)
  | parameter

-- A path with its slashes in between. The root has one empty segment.
abbrev Pattern := List Segment

namespace Pattern

-- A parameter stands for one segment that is not empty.
def matchSegments : Pattern → List (List Char) → Option (List String)
  | [], [] => some []
  | .literal text :: pattern, segment :: segments =>
    if text.toList = segment then matchSegments pattern segments else none
  | .parameter :: pattern, segment :: segments =>
    if segment.isEmpty then none
    else (matchSegments pattern segments).map (String.ofList segment :: ·)
  | _, _ => none

def match? (pattern : Pattern) (path : String) : Option (List String) :=
  match path.toList with
  | '/' :: rest => matchSegments pattern (splitOnChar '/' rest)
  | _ => none

def ofPath (path : String) : Pattern :=
  ((splitOnChar '/' path.toList).drop 1).map fun segment =>
    let inner := segment.drop 1
    if segment.head? = some '\x7b' ∧ inner.getLast? = some '\x7d' then .parameter
    else .literal (String.ofList segment)

end Pattern

-- Who may call a route: everyone, or only those that pass access control and
-- the rate limit.
inductive Exposure where
  | anyone
  | checked
deriving DecidableEq

inductive Endpoint where
  | live
  | ready
  | handler (handle : Handler)

-- The endpoints of a path, by method. A path may also take every method alike.
inductive MethodTable where
  | any (endpoint : Endpoint)
  | byMethod (entries : List (Method × Endpoint))

namespace MethodTable

-- A request for the head of something is served as one for the whole.
def serves (registered asked : Method) : Bool :=
  registered = asked || (registered = .get && asked = .head)

def find? (table : MethodTable) (method : Method) : Option Endpoint :=
  match table with
  | .any endpoint => some endpoint
  | .byMethod entries =>
    (entries.find? fun (registered, _) => serves registered method).map Prod.snd

-- The methods that a path takes, if it does not take all.
def allowed? : MethodTable → Option String
  | .any _ => none
  | .byMethod entries =>
    some (",".intercalate (entries.map fun (registered, _) =>
      if registered = .get then "GET,HEAD" else registered.name))

end MethodTable

structure Route where
  pattern : Pattern
  exposure : Exposure
  methods : MethodTable

abbrev Routes := List Route

-- The first route whose pattern fits the path.
def Routes.find? (routes : Routes) (path : String) : Option (Route × List String) :=
  routes.findSome? fun route =>
    (route.pattern.match? path).map fun parameters => (route, parameters)

def getOnly (endpoint : Endpoint) : MethodTable := .byMethod [(.get, endpoint)]

-- Health can be asked for by anyone.
def healthRoutes : Routes := [
  ⟨.ofPath "/health", .anyone, getOnly .live⟩,
  ⟨.ofPath "/health/live", .anyone, getOnly .live⟩,
  ⟨.ofPath "/health/ready", .anyone, getOnly .ready⟩]

def openRoute (path : String) (methods : MethodTable) : Route :=
  ⟨.ofPath path, .anyone, methods⟩

def checkedRoute (path : String) (methods : MethodTable) : Route :=
  ⟨.ofPath path, .checked, methods⟩

end AdmissionControl.Server
