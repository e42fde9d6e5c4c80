import AdmissionControl.Settings.Basic
import AdmissionControl.Text.Blank

namespace AdmissionControl.RateLimitSettings

-- The number of requests per minute that is let through. Zero means that
-- nothing is counted.
def budget (s : RateLimitSettings) : Nat := s.requestsPerMinute.toInt.toNat

def isEnabled (s : RateLimitSettings) : Bool := 0 < s.budget

-- The address of the store without surrounding blanks, if anything is left.
def address? (s : RateLimitSettings) : Option String :=
  s.storeUrl.bind Text.nonBlank?

end AdmissionControl.RateLimitSettings
