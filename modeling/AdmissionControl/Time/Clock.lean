import AdmissionControl.Time.Span

namespace AdmissionControl

-- Windows are aligned to minutes of the wall clock. Cooldowns are measured on
-- the second reading, which a change of the wall clock does not touch.
structure Clock where
  unixSeconds : UInt64
  elapsedNanos : UInt64
deriving DecidableEq

namespace Clock

-- Length of one window in seconds.
def windowSeconds : UInt64 := 60

def startingAt (unixSeconds : UInt64) : Clock := ⟨unixSeconds, 0⟩

-- The number of the window that the wall clock stands in.
def bucket (clock : Clock) : UInt64 := clock.unixSeconds / windowSeconds

def monotonic (clock : Clock) : Span := ⟨clock.elapsedNanos.toNat⟩

-- Both readings wrap at 64 bits. The wall clock takes whole seconds only.
def advance (clock : Clock) (step : Span) : Clock where
  unixSeconds := clock.unixSeconds + step.wholeSeconds.toUInt64
  elapsedNanos := clock.elapsedNanos + step.nanos.toUInt64

def setUnixSeconds (clock : Clock) (unixSeconds : UInt64) : Clock :=
  { clock with unixSeconds }

end Clock

end AdmissionControl
