import AdmissionControl.Proofs.Window.Standing
import AdmissionControl.RateLimit.Shared

namespace AdmissionControl.RateLimit

open Identity

namespace SharedLimiter

variable (settings : SharedSettings) {b other : UInt64} {c d : Client}

theorem colon_notMem_digits (n : Nat) : ':' ∉ Nat.toDigits 10 n := fun hm =>
  absurd (Nat.isDigit_of_mem_toDigits (by decide) (by decide) hm) (by decide)

theorem takeWhile_digits (n : Nat) (rest : List Char) :
    (Nat.toDigits 10 n ++ ':' :: rest).takeWhile (· != ':') = Nat.toDigits 10 n := by
  rw [List.takeWhile_append_of_pos]
  · simp
  · intro a ha
    have hne : a ≠ ':' := fun he => colon_notMem_digits n (he ▸ ha)
    simpa using hne

theorem toDigits_inj {n m : Nat} (h : Nat.toDigits 10 n = Nat.toDigits 10 m) : n = m := by
  simpa using congrArg (fun digits => Nat.ofDigitChars 10 digits 0) h

-- The digits of the bucket end at the first colon after the root, and whatever the
-- name holds comes after it. So no two counters share a key.
theorem key_eq_iff : key settings b c = key settings other d ↔ b = other ∧ c = d := by
  constructor
  · intro h
    have hlists : Nat.toDigits 10 b.toNat ++ ':' :: c.name.toList =
        Nat.toDigits 10 other.toNat ++ ':' :: d.name.toList := by
      simpa [key, Nat.toString_eq_repr] using congrArg String.toList h
    have hdigits : Nat.toDigits 10 b.toNat = Nat.toDigits 10 other.toNat := by
      simpa only [takeWhile_digits] using
        congrArg (List.takeWhile (· != ':')) hlists
    have hname : c.name.toList = d.name.toList := by simpa [hdigits] using hlists
    exact ⟨UInt64.toNat_inj.mp (toDigits_inj hdigits),
      (LocalLimiter.name_eq_iff c d).mp (String.toList_inj.mp hname)⟩
  · rintro ⟨rfl, rfl⟩
    rfl

end SharedLimiter

namespace Arrival

-- The counter of an arrival.
def key (settings : SharedSettings) (arrival : Arrival) : String :=
  SharedLimiter.key settings arrival.bucket arrival.client

theorem key_inj (settings : SharedSettings) {arrival other : Arrival} :
    arrival.key settings = other.key settings ↔ arrival = other := by
  cases arrival
  cases other
  rw [mk.injEq]
  exact SharedLimiter.key_eq_iff settings

end Arrival

end AdmissionControl.RateLimit
