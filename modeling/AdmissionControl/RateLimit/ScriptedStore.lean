import AdmissionControl.RateLimit.Shared
import Std.Data.HashMap

namespace AdmissionControl.RateLimit

open Identity

-- A call as the store sees it.
inductive StoreCall where
  | load (script : String)
  | evaluate (handle key : String) (secondsKept : UInt64)
  | ping

structure Tally where
  count : Int
  secondsKept : UInt64

-- How one call is to end. A count is returned without anything being counted.
inductive Outcome where
  | normal
  | failure (error : StoreError)
  | count (n : Int)

-- A store to try a limiter on. It counts as a real one does, but it can be told
-- to be down, to forget its script, and how its next calls are to end.
structure ScriptedStore where
  tallies : Std.HashMap String Tally := ∅
  loads : Nat := 0
  evicted : Bool := false
  down : Bool := false
  loadOutcomes : List Outcome := []
  evaluateOutcomes : List Outcome := []
  pingOutcomes : List Outcome := []
  calls : List StoreCall := []

namespace ScriptedStore

def refused : StoreError := .backend "connection refused"

def record (call : StoreCall) (s : ScriptedStore) : ScriptedStore :=
  { s with calls := s.calls ++ [call] }

-- The handle that the store knows its script by. Each load makes a new one.
def handle (s : ScriptedStore) : String := "sha-" ++ toString s.loads

def evict (s : ScriptedStore) : ScriptedStore := { s with evicted := true }

def script (load evaluate ping : List Outcome) (s : ScriptedStore) : ScriptedStore :=
  { s with
    loadOutcomes := s.loadOutcomes ++ load
    evaluateOutcomes := s.evaluateOutcomes ++ evaluate
    pingOutcomes := s.pingOutcomes ++ ping }

-- The calls since the last time, and a store that has forgotten them.
def takeCalls (s : ScriptedStore) : List StoreCall × ScriptedStore :=
  (s.calls, { s with calls := [] })

def load (text : String) (s : ScriptedStore) : Except StoreError String × ScriptedStore :=
  let s := s.record (.load text)
  if s.down then (.error refused, s)
  else
    match s.loadOutcomes with
    | .failure error :: rest => (.error error, { s with loadOutcomes := rest })
    | outcomes =>
      let s := { s with loadOutcomes := outcomes.tail, loads := s.loads + 1, evicted := false }
      (.ok s.handle, s)

-- The part of an evaluation that comes before the count: it may already have
-- its result.
def request (handle key : String) (secondsKept : UInt64) (s : ScriptedStore) :
    Option (Except StoreError Int) × ScriptedStore :=
  let s := s.record (.evaluate handle key secondsKept)
  if s.down then (some (.error refused), s)
  else
    match s.evaluateOutcomes with
    | .failure error :: rest => (some (.error error), { s with evaluateOutcomes := rest })
    | .count n :: rest => (some (.ok n), { s with evaluateOutcomes := rest })
    | outcomes =>
      let s := { s with evaluateOutcomes := outcomes.tail }
      if s.evicted ∨ handle ≠ s.handle then (some (.error .unknownScript), s) else (none, s)

def increment (key : String) (secondsKept : UInt64) (s : ScriptedStore) : Int × ScriptedStore :=
  let tally :=
    match s.tallies[key]? with
    | some tally => { tally with count := tally.count + 1 }
    | none => ⟨1, secondsKept⟩
  (tally.count, { s with tallies := s.tallies.insert key tally })

def evaluate (handle key : String) (secondsKept : UInt64) (s : ScriptedStore) :
    Except StoreError Int × ScriptedStore :=
  match s.request handle key secondsKept with
  | (some result, s) => (result, s)
  | (none, s) =>
    let (count, s) := s.increment key secondsKept
    (.ok count, s)

def ping (s : ScriptedStore) : Except StoreError Unit × ScriptedStore :=
  let s := s.record .ping
  if s.down then (.error refused, s)
  else
    match s.pingOutcomes with
    | .failure error :: rest => (.error error, { s with pingOutcomes := rest })
    | outcomes => (.ok (), { s with pingOutcomes := outcomes.tail })

def store : CounterStore ScriptedStore where
  load := load
  evaluate := evaluate
  ping := ping

end ScriptedStore

namespace SharedLimiter

-- Runs a call until it is answered or the store has taken up its evaluation.
-- A call has at most four steps before that.
def untilTakenUp (fuel : Nat) (limiter : SharedLimiter) (s : ScriptedStore) (call : Call) :
    Progress × SharedLimiter × ScriptedStore × Journal :=
  match fuel with
  | 0 => (.asking call, limiter, s, [])
  | fuel + 1 =>
    let follow (step : Step) (s : ScriptedStore) :=
      match step.progress with
      | .answered allowed => (.answered allowed, step.limiter, s, step.journal)
      | .asking next =>
        let (progress, limiter, s, later) := untilTakenUp fuel step.limiter s next
        (progress, limiter, s, step.journal ++ later)
    match call.phase with
    | .loading again =>
      let (result, s) := s.load windowScript
      follow (limiter.loaded call again result) s
    | .evaluating handle again =>
      match s.request handle call.key limiter.settings.secondsKept with
      | (some result, s) => follow (limiter.evaluated call again result) s
      | (none, s) => (.asking call, limiter, s, [])

-- Starts all the calls, one after the other. Each goes on until the store has
-- taken up its evaluation.
def startTogether (limiter : SharedLimiter) (s : ScriptedStore) (clock : Clock) (client : Client) :
    Nat → List Progress × SharedLimiter × ScriptedStore × Journal
  | 0 => ([], limiter, s, [])
  | count + 1 =>
    let (progress, limiter, s, journal) :=
      match limiter.start clock client with
      | .answered allowed => (.answered allowed, limiter, s, [])
      | .asking call => untilTakenUp 5 limiter s call
    let (others, limiter, s, later) := startTogether limiter s clock client count
    (progress :: others, limiter, s, journal ++ later)

-- Lets the store count what it has taken up, in the order of the calls.
def finishTogether (limiter : SharedLimiter) (s : ScriptedStore) :
    List Progress → List Bool × SharedLimiter × ScriptedStore
  | [] => ([], limiter, s)
  | .answered allowed :: rest =>
    let (others, limiter, s) := finishTogether limiter s rest
    (allowed :: others, limiter, s)
  | .asking call :: rest =>
    let (count, s) := s.increment call.key limiter.settings.secondsKept
    let allowed : Bool := count ≤ limiter.settings.limit
    let (others, limiter, s) := finishTogether (limiter.succeed count).limiter s rest
    (allowed :: others, limiter, s)

end SharedLimiter

end AdmissionControl.RateLimit
