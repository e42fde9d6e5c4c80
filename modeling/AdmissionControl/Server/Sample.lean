import AdmissionControl.Json.Printer
import AdmissionControl.Server.Router

namespace AdmissionControl.Server

open Http

-- A small archive to try the service on.
namespace Sample

def respondWith (response : Response) : Endpoint := .handler fun _ => .respond response

-- Answers with the length of the body.
def lengthOfBody (status : Nat) : Endpoint :=
  .handler fun _ => withBody fun bytes => .respond (.text status (toString bytes.size))

def slow : Endpoint :=
  .handler fun _ => .wait (Span.ofSeconds 10) (.respond (.text 200 "late"))

def items : Endpoint := respondWith (.json 200 (Json.ofMembers [("items", .array [])]).print)

-- Answers with the claims of the caller.
def item : Endpoint :=
  .handler fun visit =>
    .respond (.json 200
      (Json.ofMembers [("claims", Json.ofOption Json.ofMembers visit.claims)]).print)

-- Panics after it has read the body, in one of three ways.
def panicking : Endpoint :=
  .handler fun _ => withBody fun bytes =>
    if bytes.size % 3 = 0 then .panic (some "static text")
    else if bytes.size % 3 = 1 then .panic (some ("formatted " ++ toString bytes.size))
    else .panic none

def routes : Routes := [
  openRoute "/" (.byMethod [
    (.get, respondWith (.text 200 "API Server Available")),
    (.post, lengthOfBody 200)]),
  openRoute "/slow" (getOnly slow),
  checkedRoute "/api/items" (.byMethod [(.get, items), (.post, lengthOfBody 201)]),
  checkedRoute "/api/items/\x7bid\x7d" (.any item),
  checkedRoute "/api/panic" (.byMethod [(.post, panicking)]),
  checkedRoute "/api/ignore" (.byMethod [(.post, respondWith (.empty 202))])]

end Sample

end AdmissionControl.Server
