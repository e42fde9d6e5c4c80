import AdmissionControl.Time.Span

namespace AdmissionControl

-- The deadline passed before the work was done.
structure Elapsed where
  limit : Span

def Elapsed.message (elapsed : Elapsed) : String :=
  "operation timed out after " ++ elapsed.limit.text

-- How long a piece of work takes. It may never end.
inductive Effort where
  | lasting (span : Span)
  | endless

-- Timers fire on whole milliseconds, so both times are rounded up to one
-- before they are compared. A tie goes to the work.
def Effort.meets (effort : Effort) (limit : Span) : Bool :=
  match effort with
  | .lasting span => span.millisUp ≤ limit.millisUp
  | .endless => false

def withDeadline (limit : Span) (effort : Effort) (value : α) : Except Elapsed α :=
  if effort.meets limit then .ok value else .error ⟨limit⟩

end AdmissionControl
