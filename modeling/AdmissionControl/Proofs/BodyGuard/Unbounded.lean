import AdmissionControl.Proofs.BodyGuard.Reads
import AdmissionControl.Proofs.Toml.Range

namespace AdmissionControl

open Http

namespace BodyGuard

-- The numbers that speak for the refusal of a body that has overflowed.
structure Excess where
  limit : Nat
  declared : Option Nat
  observed : Nat

-- A guarded body whose numbers have no bound. It is read as one with words of 64 bits.
structure Unbounded where
  limit : Nat
  declared : Option Nat
  rest : Body
  observed : Nat
  overflowed : Bool
  finished : Bool

namespace Unbounded

def start (limit : Nat) (declared : Option Nat) (body : Body) : Unbounded :=
  ⟨limit, declared, body, 0, false, false⟩

def read (stream : Unbounded) : Option BodyItem × Unbounded :=
  if stream.finished then (none, stream)
  else
    match stream.rest with
    | [] => (none, { stream with finished := true })
    | .failure text :: rest => (some (.failure text), { stream with rest })
    | .chunk bytes :: rest =>
      let observed := stream.observed + bytes.size
      if stream.limit < observed then
        (none, { stream with rest, observed, overflowed := true, finished := true })
      else (some (.chunk bytes), { stream with rest, observed })

def readTimes (stream : Unbounded) : Nat → List (Option BodyItem) × Unbounded
  | 0 => ([], stream)
  | reads + 1 =>
    let (answers, stream) := stream.readTimes reads
    let (answer, stream) := stream.read
    (answers ++ [answer], stream)

def excess? (stream : Unbounded) : Option Excess :=
  if stream.overflowed then some ⟨stream.limit, stream.declared, stream.observed⟩ else none

end Unbounded

namespace Stream

-- The same body with its numbers as they are, but free to grow.
def unbounded (stream : Stream) : Unbounded where
  limit := stream.limit.toNat
  declared := stream.declared.map UInt64.toNat
  rest := stream.rest
  observed := stream.observed.toNat
  overflowed := stream.overflowed
  finished := stream.finished

-- As long as a body goes on its count is within the limit, and neither the limit nor a chunk
-- has more than 63 bits.
structure Roomy (stream : Stream) : Prop where
  limit : stream.limit.toNat < 2 ^ 63
  chunks : ∀ bytes, .chunk bytes ∈ stream.rest → bytes.size < 2 ^ 63
  within : stream.finished = false → stream.observed.toNat ≤ stream.limit.toNat

variable {stream : Stream} {rest : Body} {bytes : ByteArray}

theorem roomy_start {limit : UInt64} {body : Body} (declared : Option UInt64)
    (hlimit : limit.toNat < 2 ^ 63) (hchunks : ∀ bytes, .chunk bytes ∈ body → bytes.size < 2 ^ 63) :
    (start limit declared body).Roomy :=
  ⟨hlimit, hchunks, fun _ => Nat.zero_le _⟩

-- The next chunk is the only one that can be counted beyond the limit, and it still fits.
theorem Roomy.toNat_add_size (h : stream.Roomy) (hopen : stream.finished = false)
    (hrest : stream.rest = .chunk bytes :: rest) :
    (stream.observed + bytes.size.toUInt64).toNat = stream.observed.toNat + bytes.size := by
  have hlimit := h.limit
  have hwithin := h.within hopen
  have hchunk := h.chunks bytes (by simp [hrest])
  apply BodyGuard.toNat_add_size
  rw [UInt64.size]
  omega

theorem Roomy.read (h : stream.Roomy) :
    stream.unbounded.read = (stream.read.1, stream.read.2.1.unbounded) ∧
      stream.read.2.1.Roomy := by
  by_cases hfinished : stream.finished = true
  · simp only [Stream.read, Unbounded.read, unbounded, hfinished, if_true]
    exact ⟨trivial, h⟩
  have hopen : stream.finished = false := by simpa using hfinished
  cases hrest : stream.rest with
  | nil =>
      simp only [Stream.read, Unbounded.read, unbounded, hopen, hrest, Bool.false_eq_true, if_false]
      exact ⟨trivial, h.limit, by simp, by simp⟩
  | cons item rest =>
      have hrest' : ∀ bytes, .chunk bytes ∈ rest → bytes.size < 2 ^ 63 := fun bytes hmem =>
        h.chunks bytes (by simp [hrest, hmem])
      cases item with
      | failure text =>
          simp only [Stream.read, Unbounded.read, unbounded, hopen, hrest, Bool.false_eq_true,
            if_false]
          exact ⟨trivial, h.limit, hrest', fun _ => h.within hopen⟩
      | chunk bytes =>
          have htotal := h.toNat_add_size hopen hrest
          by_cases hover : stream.limit.toNat < stream.observed.toNat + bytes.size
          · have hover' : stream.limit < stream.observed + bytes.size.toUInt64 := by
              rwa [UInt64.lt_iff_toNat_lt, htotal]
            simp only [Stream.read, Unbounded.read, unbounded, hopen, hrest, hover, hover', htotal,
              Bool.false_eq_true, if_false, if_true]
            exact ⟨trivial, h.limit, hrest', by simp⟩
          · have hover' : ¬stream.limit < stream.observed + bytes.size.toUInt64 := by
              rwa [UInt64.lt_iff_toNat_lt, htotal]
            simp only [Stream.read, Unbounded.read, unbounded, hopen, hrest, hover, hover', htotal,
              Bool.false_eq_true, if_false]
            refine ⟨trivial, h.limit, hrest', fun _ => ?_⟩
            rw [htotal]
            exact Nat.le_of_not_lt hover

theorem Roomy.readTimes (h : stream.Roomy) (reads : Nat) :
    stream.unbounded.readTimes reads =
      ((stream.readTimes reads).1, (stream.readTimes reads).2.1.unbounded) ∧
      (stream.readTimes reads).2.1.Roomy := by
  induction reads with
  | zero => exact ⟨rfl, h⟩
  | succ reads ih =>
      obtain ⟨hsame, hroomy⟩ := ih
      obtain ⟨hread, hnext⟩ := hroomy.read
      refine ⟨?_, hnext⟩
      simp only [Unbounded.readTimes, Stream.readTimes, hsame, hread]

end Stream

-- The numbers of a rejection for the size of what has been observed.
def Excess.ofRejection? : Rejection → Option Excess
  | .payloadTooLarge limit declared (some observed) =>
    some ⟨limit.toNat, declared.map UInt64.toNat, observed.toNat⟩
  | _ => none

theorem Stream.ofRejection?_rejection? (stream : Stream) :
    stream.rejection?.map Excess.ofRejection? = stream.unbounded.excess?.map some := by
  cases hover : stream.overflowed <;>
    simp [rejection?, Unbounded.excess?, unbounded, Excess.ofRejection?, hover]

namespace Stream

-- No limit that a text of settings can have lets the count of a body wrap: read as often as
-- one likes, it is the guard that counts without a bound, in all that it hands on, counts and
-- refuses. The chunks may sum up to more than 64 bits.
theorem wrapping_count_is_unbounded :
    (∀ text settings, Settings.parse text = .ok settings →
      settings.security.maxBodyBytes.toNat < 2 ^ 63) ∧
    ∀ (limit : UInt64) (declared : Option UInt64) (body : Body), limit.toNat < 2 ^ 63 →
      (∀ bytes, .chunk bytes ∈ body → bytes.size < 2 ^ 63) → ∀ reads,
      let bounded := (start limit declared body).readTimes reads
      let unbounded :=
        (Unbounded.start limit.toNat (declared.map UInt64.toNat) body).readTimes reads
      bounded.1 = unbounded.1 ∧
      bounded.2.1.observed.toNat = unbounded.2.observed ∧
      bounded.2.1.overflowed = unbounded.2.overflowed ∧
      bounded.2.1.rejection?.map Excess.ofRejection? = unbounded.2.excess?.map some := by
  refine ⟨fun text settings => Settings.maxBodyBytes_lt_of_parse, ?_⟩
  intro limit declared body hlimit hchunks reads bounded unbounded
  have hsame : unbounded = (bounded.1, bounded.2.1.unbounded) :=
    ((roomy_start declared hlimit hchunks).readTimes reads).1
  rw [hsame]
  exact ⟨rfl, rfl, rfl, bounded.2.1.ofRejection?_rejection?⟩

def widest : String := "[security]\nmax_request_body_bytes = 9223372036854775807\n"

theorem exists_parse_widest : ∃ settings, Settings.parse widest = .ok settings ∧
    settings.security.maxBodyBytes = 0x7fffffffffffffff := by
  have hread : (Settings.parse widest).toOption.map (fun settings =>
      settings.security.maxBodyBytes) = some 0x7fffffffffffffff := by decide +kernel
  cases hparsed : Settings.parse widest with
  | ok settings =>
      rw [hparsed] at hread
      exact ⟨settings, rfl, Option.some.inj hread⟩
  | error fault =>
      rw [hparsed] at hread
      cases hread

-- The largest limit that can be written, and three chunks as large as it. The second ends the
-- body just below 64 bits. With the third the count would have wrapped.
theorem wrapping_count_is_unbounded_of_large_chunks :
    (∃ settings, Settings.parse widest = .ok settings ∧
      settings.security.maxBodyBytes = 0x7fffffffffffffff ∧
      settings.security.maxBodyBytes.toNat < 2 ^ 63) ∧
    ∃ large : ByteArray, large.size = 2 ^ 63 - 1 ∧
      let bounded := (start 0x7fffffffffffffff none
        [.chunk large, .failure "reset", .chunk large, .chunk large]).readTimes 5
      bounded.1 = [some (.chunk large), some (.failure "reset"), none, none, none] ∧
      bounded.2.1.observed.toNat = 2 ^ 64 - 2 ∧ bounded.2.1.overflowed = true := by
  obtain ⟨hwritten, hsame⟩ := wrapping_count_is_unbounded
  obtain ⟨settings, hparsed, hlimit⟩ := exists_parse_widest
  refine ⟨⟨settings, hparsed, hlimit, hwritten widest settings hparsed⟩, ?_⟩
  obtain ⟨large, hlarge⟩ : ∃ large : ByteArray, large.size = 2 ^ 63 - 1 :=
    ⟨⟨Array.replicate (2 ^ 63 - 1) 0⟩, Array.size_replicate⟩
  refine ⟨large, hlarge, ?_⟩
  intro bounded
  obtain ⟨hanswers, hobserved, hover, -⟩ := hsame 0x7fffffffffffffff none
    [.chunk large, .failure "reset", .chunk large, .chunk large] (by decide) (by simp [hlarge]) 5
  rw [show bounded = _ from rfl, hanswers, hobserved, hover]
  simp [Unbounded.readTimes, Unbounded.read, Unbounded.start, hlarge]

end Stream

end BodyGuard

end AdmissionControl
