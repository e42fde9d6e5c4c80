import AdmissionControl.Proofs.Breaker.Deadline
import Mathlib.Data.List.Induction

namespace AdmissionControl.RateLimit.Breaker

-- What can be done to a breaker.
inductive Move where
  | trip (now cooldown : Span)
  | reset

def moved (breaker : Breaker) : Move → Breaker
  | .trip now cooldown => breaker.trip now cooldown
  | .reset => breaker.reset

-- A new breaker when these moves have been made one after the other.
def after (moves : List Move) : Breaker := moves.foldl moved closed

-- A time in nanoseconds, as far as 64 bits can tell it.
def told (span : Span) : Nat := min span.nanos horizon

theorem after_concat (moves : List Move) (move : Move) :
    after (moves ++ [move]) = (after moves).moved move := by
  rw [after, List.foldl_append]
  rfl

-- Only the last move leaves a trace.
theorem toNat_untilNanos_after (moves : List Move) :
    (after moves).untilNanos.toNat =
      match moves.getLast? with
      | some (.trip now cooldown) => max 1 (min horizon (told now + told cooldown))
      | _ => 0 := by
  induction moves using List.reverseRecOn with
  | nil => rfl
  | append_singleton moves move _ =>
      rw [after_concat, List.getLast?_concat]
      cases move with
      | reset => rfl
      | trip now cooldown =>
          simp only [moved, trip, deadline_toNat, told]
          omega

theorem toNat_untilNanos_after_trip (moves : List Move) (now cooldown : Span) :
    (after (moves ++ [.trip now cooldown])).untilNanos.toNat =
      max 1 (min horizon (told now + told cooldown)) := by
  rw [toNat_untilNanos_after, List.getLast?_concat]

theorem state_after_eq_degraded_iff (moves : List Move) (time deadline : Span) :
    (after moves).state time = .degraded deadline ↔
      ∃ earlier now cooldown, moves = earlier ++ [.trip now cooldown] ∧
        deadline.nanos = max 1 (min horizon (told now + told cooldown)) ∧
        told time < deadline.nanos := by
  rw [state_eq_degraded_iff]
  constructor
  · rintro ⟨hdeadline, hlt⟩
    rw [toNat_untilNanos_after] at hdeadline
    split at hdeadline
    · rename_i now cooldown hlast
      obtain ⟨earlier, hmoves⟩ := List.getLast?_eq_some_iff.mp hlast
      exact ⟨earlier, now, cooldown, hmoves, hdeadline, hlt⟩
    · omega
  · rintro ⟨earlier, now, cooldown, rfl, hdeadline, hlt⟩
    exact ⟨hdeadline.trans (toNat_untilNanos_after_trip earlier now cooldown).symm, hlt⟩

theorem state_eq_normal_iff (breaker : Breaker) (time : Span) :
    breaker.state time = .normal ↔ breaker.isDegraded time = false := by
  rw [isDegraded]
  cases breaker.state time <;> simp

-- With a deadline that stays, a later time is only nearer to normal operation.
theorem state_eq_normal_of_le {breaker : Breaker} {time later : Span}
    (hle : time.nanos ≤ later.nanos) (h : breaker.state time = .normal) :
    breaker.state later = .normal := by
  rw [state_eq_normal_iff, Bool.eq_false_iff, ne_eq, isDegraded_iff] at h ⊢
  omega

-- A breaker tells the end of the last trip, unless it has been reset since, and is degraded
-- before that. The end is the sum of the two times as far as 64 bits can tell it: it does not
-- wrap around, a trip at time zero has one too, and once it has passed it stays so.
theorem degraded_until_last_trip_ends (moves : List Move) :
    (∀ time deadline, (after moves).state time = .degraded deadline ↔
      ∃ earlier now cooldown, moves = earlier ++ [.trip now cooldown] ∧
        deadline.nanos = max 1 (min horizon (told now + told cooldown)) ∧
        told time < deadline.nanos) ∧
    (∀ earlier now cooldown, moves = earlier ++ [.trip now cooldown] →
      (0 < now.nanos + cooldown.nanos → now.nanos + cooldown.nanos < horizon → ∀ time,
        (after moves).isDegraded time = true ↔ time.nanos < now.nanos + cooldown.nanos) ∧
      (∀ time, time.nanos < horizon → time.nanos < now.nanos + cooldown.nanos →
        (after moves).isDegraded time = true) ∧
      (now = .zero → (after moves).isDegraded .zero = true)) ∧
    ∀ time later, time.nanos ≤ later.nanos → (after moves).state time = .normal →
      (after moves).state later = .normal := by
  refine ⟨state_after_eq_degraded_iff moves, ?_, fun time later => state_eq_normal_of_le⟩
  rintro earlier now cooldown rfl
  simp only [isDegraded_iff, toNat_untilNanos_after_trip, told]
  refine ⟨fun hpositive hfits time => ?_, fun time hearly hbefore => ?_, ?_⟩
  · omega
  · omega
  · rintro rfl
    simp only [Span.zero]
    omega

-- Trips at time zero and at the longest time that can be said in seconds.
theorem degraded_until_last_trip_ends_of_extremes :
    let longest : Span := .ofSeconds (UInt64.size - 1)
    (after [.reset, .trip .zero .zero]).state .zero = .degraded ⟨1⟩ ∧
    (after [.trip longest longest]).state ⟨horizon - 1⟩ = .degraded ⟨horizon⟩ ∧
    (∀ later : Span, horizon ≤ later.nanos →
      (after [.trip longest longest]).state later = .normal) ∧
    ∀ time deadline, (after [.trip longest longest, .reset]).state time ≠ .degraded deadline := by
  intro longest
  obtain ⟨hzero, -, -⟩ := degraded_until_last_trip_ends [.reset, .trip .zero .zero]
  obtain ⟨hlong, -, hstays⟩ := degraded_until_last_trip_ends [.trip longest longest]
  obtain ⟨hreset, -, -⟩ := degraded_until_last_trip_ends [.trip longest longest, .reset]
  refine ⟨(hzero _ _).mpr ⟨[.reset], .zero, .zero, rfl, by decide, by decide⟩,
    (hlong _ _).mpr ⟨[], longest, longest, rfl, by decide, by decide⟩,
    fun later hlater => hstays ⟨horizon⟩ later hlater (by decide), fun time deadline h => ?_⟩
  obtain ⟨earlier, now, cooldown, hmoves, -⟩ := (hreset time deadline).mp h
  have hlast := congrArg List.getLast? hmoves
  simp at hlast

end AdmissionControl.RateLimit.Breaker
