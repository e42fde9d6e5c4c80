namespace AdmissionControl

-- A length of time in nanoseconds.
structure Span where
  nanos : Nat
deriving DecidableEq

namespace Span

def nanosPerSecond : Nat := 1000000000
def nanosPerMilli : Nat := 1000000
def nanosPerMicro : Nat := 1000

def zero : Span := ⟨0⟩
def ofSeconds (n : Nat) : Span := ⟨n * nanosPerSecond⟩
def ofMillis (n : Nat) : Span := ⟨n * nanosPerMilli⟩

def wholeSeconds (span : Span) : Nat := span.nanos / nanosPerSecond

-- The least number of milliseconds that covers the span.
def millisUp (span : Span) : Nat := (span.nanos + (nanosPerMilli - 1)) / nanosPerMilli

-- A quantity in `unit`s, with as many decimals as the rest needs and no more.
-- `places` decimals write any rest exactly.
private def inUnit (nanos unit places : Nat) (symbol : String) : String :=
  let digits := (Nat.toDigits 10 (nanos % unit))
  let padded := List.replicate (places - digits.length) '0' ++ digits
  let kept := (padded.reverse.dropWhile (· == '0')).reverse
  let fraction := if kept.isEmpty then "" else "." ++ String.ofList kept
  toString (nanos / unit) ++ fraction ++ symbol

-- Written in the largest unit of which the span holds at least one.
def text (span : Span) : String :=
  if nanosPerSecond ≤ span.nanos then inUnit span.nanos nanosPerSecond 9 "s"
  else if nanosPerMilli ≤ span.nanos then inUnit span.nanos nanosPerMilli 6 "ms"
  else if nanosPerMicro ≤ span.nanos then inUnit span.nanos nanosPerMicro 3 "µs"
  else toString span.nanos ++ "ns"

end Span

end AdmissionControl
