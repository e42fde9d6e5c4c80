import AdmissionControl.Pipeline
import AdmissionControl.Proofs.Shared.Endings

namespace AdmissionControl

open Http Identity RateLimit

variable {σ : Type}

namespace RateLimit.Limiter

variable (store : CounterStore σ) (s : σ) (limiter : Limiter) (clock : Clock) (client : Client)

def endsInError : Bool :=
  match limiter with
  | .inMemory _ => false
  | .shared limiter => limiter.endsInError store s clock client

theorem backend_allow : (limiter.allow store s clock client).limiter.backend = limiter.backend := by
  cases limiter <;> rfl

theorem limit_allow : (limiter.allow store s clock client).limiter.limit = limiter.limit := by
  cases limiter with
  | inMemory limiter =>
      simp only [allow, limit, LocalLimiter.allow]
      split <;> rfl
  | shared limiter =>
      exact congrArg SharedSettings.limit (limiter.settings_allow store s clock client)

theorem exists_counters_allow :
    ∃ failOpen, (limiter.allow store s clock client).journal.counters =
      if limiter.endsInError store s clock client then [.degradedEntry failOpen] else [] := by
  cases limiter with
  | inMemory limiter => exact ⟨false, rfl⟩
  | shared limiter => exact ⟨_, limiter.counters_allow store s clock client⟩

end RateLimit.Limiter

namespace Pipeline

variable {pipeline : Pipeline} {store : CounterStore σ} {counting : Counting σ} {clock : Clock}
variable {peer : Option Net.Address} {headers : Headers}

theorem counters_resolve : (pipeline.resolve peer headers).2.counters = [] := by
  simp only [resolve, Client.resolve]
  split
  · rfl
  · split
    · split <;> rfl
    · rfl

theorem checkRate_of_disabled (h : counting.limiter.isEnabled = false) :
    pipeline.checkRate store counting clock peer headers = (.ok (), counting, []) := by
  simp [checkRate, h]

-- All that a limiter in use has to say goes into the answer, the counters and the journal.
theorem checkRate_of_enabled (h : counting.limiter.isEnabled = true) :
    let resolution := pipeline.resolve peer headers
    let ruling := counting.limiter.allow store counting.store clock resolution.1
    pipeline.checkRate store counting clock peer headers =
      (if ruling.allowed then .ok ()
        else .error (.rateLimited counting.limiter.limit counting.limiter.backend),
        ⟨ruling.limiter, ruling.store⟩,
        resolution.2 ++ ruling.journal ++
          [.count (.decision counting.limiter.backend ruling.allowed)] ++
          if ruling.allowed then []
          else [.event (.budgetExceeded resolution.1.name counting.limiter.backend)]) := by
  intro resolution ruling
  rw [← counting.limiter.limit_allow store counting.store clock resolution.1,
    ← counting.limiter.backend_allow store counting.store clock resolution.1]
  simp only [checkRate, h, not_true_eq_false, if_false]
  change (if ruling.allowed = true then _ else _) = _
  cases ruling.allowed <;> simp [resolution, ruling]

end Pipeline

end AdmissionControl
