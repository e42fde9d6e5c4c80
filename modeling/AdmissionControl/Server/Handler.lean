import AdmissionControl.Access.Control
import AdmissionControl.BodyGuard.Stream
import AdmissionControl.Time.Span

namespace AdmissionControl.Server

open BodyGuard Http

-- What a handler does, step by step. It may take the next item of the body, or
-- all of the body at once, or let time pass, before it answers or panics. A
-- panic may come with a text.
inductive Activity where
  | respond (response : Response)
  | panic (detail : Option String)
  | take (next : Option BodyItem → Activity)
  | collect (next : Except String ByteArray → Activity)
  | wait (span : Span) (next : Activity)

-- How a handler ends. It is interrupted when its time runs out.
inductive Conclusion where
  | responded (response : Response)
  | panicked (detail : Option String)
  | interrupted

namespace Activity

-- Runs a handler on a body. Of the handler and the end of its time, the end of
-- its time comes first.
def run (left : Span) : Activity → Source → Conclusion × Source × Journal
  | .respond response, source => (.responded response, source, [])
  | .panic detail, source => (.panicked detail, source, [])
  | .take next, source =>
    let (item, source, journal) := source.read
    let (conclusion, source, later) := run left (next item) source
    (conclusion, source, journal ++ later)
  | .collect next, source =>
    let (result, source, journal) := source.collect ByteArray.empty
    let (conclusion, source, later) := run left (next result) source
    (conclusion, source, journal ++ later)
  | .wait span next, source =>
    if left.nanos ≤ span.nanos then (.interrupted, source, [])
    else run ⟨left.nanos - span.nanos⟩ next source

end Activity

-- What a handler is told about the request.
structure Visit where
  method : Method
  headers : Headers
  peer : Option Net.Address
  parameters : List String
  claims : Option Access.Claims
  requestId : String

abbrev Handler := Visit → Activity

-- Answers a body that cannot be read, and hands any other on.
def withBody (next : ByteArray → Activity) : Activity :=
  .collect fun
    | .ok bytes => next bytes
    | .error text => .respond (.text 400 ("Failed to buffer the request body: " ++ text))

end AdmissionControl.Server
