import AdmissionControl.Time.Span

namespace AdmissionControl.RateLimit

-- Why a call to the counter store failed.
inductive StoreError where
  | timeout (limit : Span)
  | unknownScript
  | backend (text : String)
deriving DecidableEq

def StoreError.message : StoreError → String
  | .timeout limit => "store call timed out after " ++ limit.text
  | .unknownScript => "script handle is not loaded on the store"
  | .backend text => "store error: " ++ text

end AdmissionControl.RateLimit
