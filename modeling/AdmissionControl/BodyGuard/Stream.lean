import AdmissionControl.BodyGuard.Policy
import AdmissionControl.Journal

namespace AdmissionControl.BodyGuard

open Http

-- A guarded body: what is still to come, and what has been seen of it so far.
-- The count of bytes has 64 bits and wraps.
structure Stream where
  limit : UInt64
  declared : Option UInt64
  rest : Body
  observed : UInt64
  overflowed : Bool
  finished : Bool

namespace Stream

def start (limit : UInt64) (declared : Option UInt64) (body : Body) : Stream :=
  ⟨limit, declared, body, 0, false, false⟩

-- The next item. The chunk that passes the limit is dropped and ends the body;
-- nothing after it is ever taken. A failure counts nothing and ends nothing.
def read (stream : Stream) : Option BodyItem × Stream × Journal :=
  if stream.finished then (none, stream, [])
  else
    match stream.rest with
    | [] => (none, { stream with finished := true }, [])
    | .failure text :: rest => (some (.failure text), { stream with rest }, [])
    | .chunk bytes :: rest =>
      let observed := stream.observed + bytes.size.toUInt64
      if stream.limit < observed then
        (none, { stream with rest, observed, overflowed := true, finished := true },
          [.event (.bodyOverflowed stream.limit observed)])
      else (some (.chunk bytes), { stream with rest, observed }, [])

-- What to answer once the body has overflowed, whatever was answered before.
def rejection? (stream : Stream) : Option Rejection :=
  if stream.overflowed then
    some (.payloadTooLarge stream.limit stream.declared (some stream.observed))
  else none

end Stream

-- The body of a request on its way to a handler.
inductive Source where
  | unguarded (rest : Body)
  | guarded (stream : Stream)

namespace Source

def read : Source → Option BodyItem × Source × Journal
  | .unguarded [] => (none, .unguarded [], [])
  | .unguarded (item :: rest) => (some item, .unguarded rest, [])
  | .guarded stream =>
    let (item, stream, journal) := stream.read
    (item, .guarded stream, journal)

def isGuarded : Source → Bool
  | .unguarded _ => false
  | .guarded _ => true

def rejection? : Source → Option Rejection
  | .unguarded _ => none
  | .guarded stream => stream.rejection?

-- How many items are still to come.
def pending : Source → Nat
  | .unguarded rest => rest.length
  | .guarded stream => stream.rest.length

theorem pending_read_lt {source : Source} {item : BodyItem}
    (h : source.read.1 = some item) : source.read.2.1.pending < source.pending := by
  match source with
  | .unguarded [] => simp [read] at h
  | .unguarded (_ :: rest) => simp [read, pending]
  | .guarded stream =>
    simp only [read, Stream.read] at h ⊢
    split at h
    · simp at h
    · rename_i hfinished
      simp only [hfinished, Bool.false_eq_true, if_false]
      split at h
      · simp at h
      · rename_i hrest
        simp [pending, hrest]
      · rename_i hrest
        split at h
        · simp at h
        · rename_i hlimit
          simp [pending, hrest, hlimit]

-- All the bytes up to the end, or the first failure.
def collect (source : Source) (held : ByteArray) : Except String ByteArray × Source × Journal :=
  match h : source.read with
  | (none, source, journal) => (.ok held, source, journal)
  | (some (.failure text), source, journal) => (.error text, source, journal)
  | (some (.chunk bytes), next, journal) =>
    have : next.pending < source.pending := by
      simpa only [h] using pending_read_lt (congrArg Prod.fst h)
    let (result, source, later) := collect next (held ++ bytes)
    (result, source, journal ++ later)
termination_by source.pending

-- Takes at most `count` items and tells whether the end was met.
def readUpTo : Nat → Source → (List BodyItem × Bool) × Source × Journal
  | 0, source => (([], false), source, [])
  | count + 1, source =>
    match source.read with
    | (none, source, journal) => (([], true), source, journal)
    | (some item, source, journal) =>
      let ((items, ended), source, later) := readUpTo count source
      ((item :: items, ended), source, journal ++ later)

end Source

-- The body of a request that passes the guard, or the refusal of one whose
-- declared length already fails it.
def Policy.enter (policy : Policy) (request : Request) : Except Rejection Source :=
  if policy.appliesTo request.method request.target.path then
    (policy.declaredLength request.headers).map fun declared =>
      .guarded (Stream.start policy.limit declared request.body)
  else .ok (.unguarded request.body)

end AdmissionControl.BodyGuard
