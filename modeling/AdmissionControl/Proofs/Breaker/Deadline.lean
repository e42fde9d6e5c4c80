import AdmissionControl.RateLimit.Breaker

namespace AdmissionControl.RateLimit.Breaker

-- The longest time that the breaker can tell.
def horizon : Nat := UInt64.size - 1

theorem clampNanos_toNat (span : Span) :
    (clampNanos span).toNat = min span.nanos horizon := by
  unfold clampNanos
  split
  · rename_i hfits
    have hmod : span.nanos % 2 ^ 64 = span.nanos := Nat.mod_eq_of_lt hfits
    simp only [Nat.toUInt64_eq, UInt64.toNat_ofNat', hmod, horizon]
    omega
  · rename_i hlong
    simp only [horizon, UInt64.size] at hlong ⊢
    rw [show (0xffffffffffffffff : UInt64).toNat = 2 ^ 64 - 1 from rfl]
    omega

theorem saturatingAdd_toNat (a b : UInt64) :
    (saturatingAdd a b).toNat = min (a.toNat + b.toNat) horizon := by
  unfold saturatingAdd
  split
  · rename_i hfits
    rw [UInt64.toNat_add, Nat.mod_eq_of_lt hfits]
    simp only [horizon]
    omega
  · rename_i hlong
    simp only [horizon, UInt64.size] at hlong ⊢
    rw [show (0xffffffffffffffff : UInt64).toNat = 2 ^ 64 - 1 from rfl]
    omega

-- Clamping each time first makes no difference to the sum.
theorem deadline_toNat (now cooldown : Span) :
    (deadline now cooldown).toNat = max 1 (min (now.nanos + cooldown.nanos) horizon) := by
  have hsum : (saturatingAdd (clampNanos now) (clampNanos cooldown)).toNat =
      min (now.nanos + cooldown.nanos) horizon := by
    rw [saturatingAdd_toNat, clampNanos_toNat, clampNanos_toNat]
    omega
  change (if (1 : UInt64) ≤ saturatingAdd (clampNanos now) (clampNanos cooldown)
    then saturatingAdd (clampNanos now) (clampNanos cooldown) else 1).toNat = _
  have hone : (1 : UInt64).toNat = 1 := rfl
  simp only [UInt64.le_iff_toNat_le, hone, hsum]
  split
  · omega
  · rw [hone]
    omega

-- Degraded mode lasts as long as the time is before the deadline. A deadline of
-- zero needs no case of its own.
theorem state_eq_degraded_iff (breaker : Breaker) (now deadline : Span) :
    breaker.state now = .degraded deadline ↔
      deadline.nanos = breaker.untilNanos.toNat ∧ min now.nanos horizon < deadline.nanos := by
  have hbefore : (breaker.untilNanos ≠ 0 ∧ clampNanos now < breaker.untilNanos) ↔
      min now.nanos horizon < breaker.untilNanos.toNat := by
    rw [UInt64.lt_iff_toNat_lt, clampNanos_toNat, ne_eq, ← UInt64.toNat_inj, UInt64.toNat_zero]
    omega
  obtain ⟨nanos⟩ := deadline
  rw [state]
  split
  · rename_i h
    have hlt := hbefore.mp h
    simp only [BreakerState.degraded.injEq, Span.mk.injEq]
    omega
  · rename_i h
    have hle := mt hbefore.mpr h
    simp only [reduceCtorEq, false_iff]
    omega

theorem isDegraded_eq_true_iff_exists (breaker : Breaker) (now : Span) :
    breaker.isDegraded now = true ↔ ∃ deadline, breaker.state now = .degraded deadline := by
  rw [isDegraded]
  cases breaker.state now <;> simp

theorem isDegraded_iff (breaker : Breaker) (now : Span) :
    breaker.isDegraded now = true ↔ min now.nanos horizon < breaker.untilNanos.toNat := by
  simp only [isDegraded_eq_true_iff_exists, state_eq_degraded_iff]
  constructor
  · rintro ⟨deadline, heq, hlt⟩
    rwa [← heq]
  · intro hlt
    exact ⟨⟨breaker.untilNanos.toNat⟩, rfl, hlt⟩

-- A trip whose end can be told lasts for exactly the cooldown.
theorem isDegraded_trip_iff (breaker : Breaker) {now cooldown : Span}
    (hpositive : 0 < cooldown.nanos) (hfits : now.nanos + cooldown.nanos ≤ horizon) (later : Span) :
    (breaker.trip now cooldown).isDegraded later = true ↔
      later.nanos < now.nanos + cooldown.nanos := by
  rw [isDegraded_iff]
  simp only [trip, deadline_toNat]
  omega

end AdmissionControl.RateLimit.Breaker
