import AdmissionControl.Time.Span

namespace AdmissionControl.RateLimit

-- What the breaker says at one moment.
inductive BreakerState where
  | normal
  | degraded (deadline : Span)
deriving DecidableEq

-- The end of degraded mode on the monotonic clock, in nanoseconds. Zero stands
-- for normal operation.
structure Breaker where
  untilNanos : UInt64
deriving DecidableEq

namespace Breaker

def closed : Breaker := ⟨0⟩

-- A time too long for 64 bits counts as the longest that fits.
def clampNanos (span : Span) : UInt64 :=
  if span.nanos < UInt64.size then span.nanos.toUInt64 else 0xffffffffffffffff

def saturatingAdd (a b : UInt64) : UInt64 :=
  if a.toNat + b.toNat < UInt64.size then a + b else 0xffffffffffffffff

-- At least 1, so that a trip at time zero is told apart from normal operation.
def deadline (now cooldown : Span) : UInt64 :=
  max 1 (saturatingAdd (clampNanos now) (clampNanos cooldown))

def trip (_ : Breaker) (now cooldown : Span) : Breaker := ⟨deadline now cooldown⟩

def reset (_ : Breaker) : Breaker := closed

def state (breaker : Breaker) (now : Span) : BreakerState :=
  if breaker.untilNanos ≠ 0 ∧ clampNanos now < breaker.untilNanos then
    .degraded ⟨breaker.untilNanos.toNat⟩
  else .normal

def isDegraded (breaker : Breaker) (now : Span) : Bool :=
  match breaker.state now with
  | .degraded _ => true
  | .normal => false

end Breaker

end AdmissionControl.RateLimit
