import AdmissionControl.Identity.Client
import AdmissionControl.Time.Clock
import Std.Data.HashMap

namespace AdmissionControl.RateLimit

open Identity

-- How many requests a client has made in one minute.
structure Window where
  bucket : UInt64
  count : Nat
deriving DecidableEq

-- Counters in memory, one window for each client. A limit of zero counts nothing.
structure LocalLimiter where
  limit : Nat
  windows : Std.HashMap String Window

namespace LocalLimiter

-- From this many clients on, old windows are dropped at every count.
def pruneThreshold : Nat := 4096

def withLimit (limit : Nat) : LocalLimiter := ⟨limit, ∅⟩

def isEnabled (limiter : LocalLimiter) : Bool := 0 < limiter.limit

def tracked (limiter : LocalLimiter) : Nat := limiter.windows.size

-- The window of the last count goes on if it is still the same minute.
def advanced (window : Option Window) (bucket : UInt64) : Window :=
  match window with
  | some window =>
    if window.bucket = bucket then ⟨bucket, window.count + 1⟩ else ⟨bucket, 1⟩
  | none => ⟨bucket, 1⟩

-- The oldest bucket that pruning keeps is the one before the current one.
def oldestKept (bucket : UInt64) : UInt64 := if bucket = 0 then 0 else bucket - 1

def pruned (windows : Std.HashMap String Window) (bucket : UInt64) : Std.HashMap String Window :=
  if pruneThreshold ≤ windows.size then
    windows.filter fun _ window => oldestKept bucket ≤ window.bucket
  else windows

-- Counts a request that has read the clock before. Between the two steps other
-- requests may be counted, with other readings.
def count (limiter : LocalLimiter) (bucket : UInt64) (client : Client) : Bool × LocalLimiter :=
  let window := advanced limiter.windows[client.name]? bucket
  let windows := limiter.windows.insert client.name window
  (window.count ≤ limiter.limit, { limiter with windows := pruned windows bucket })

def allow (limiter : LocalLimiter) (clock : Clock) (client : Client) : Bool × LocalLimiter :=
  if limiter.isEnabled then limiter.count clock.bucket client else (true, limiter)

end LocalLimiter

end AdmissionControl.RateLimit
