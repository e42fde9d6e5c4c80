import AdmissionControl.Proofs.Breaker.Deadline
import AdmissionControl.Proofs.Shared.Turn
import AdmissionControl.RateLimit.ScriptedStore

namespace AdmissionControl.RateLimit

open Identity

-- How a call came to its end: when it had been started, when its last exchange with
-- the store came back, and whether that one failed.
structure Report where
  startedAt : Span
  endedAt : Span
  failed : Bool

-- One limiter whose calls take time and overlap.
structure Traffic (σ : Type) where
  limiter : SharedLimiter
  store : σ
  clock : Clock
  flights : List Call
  reports : List Report

namespace Traffic

variable {σ : Type} (store : CounterStore σ)

def now (s : Traffic σ) : Nat := s.clock.monotonic.nanos

def reportOf (s : Traffic σ) (call : Call) : Report where
  startedAt := call.startedAt
  endedAt := s.clock.monotonic
  failed := (SharedLimiter.exchange store s.store s.limiter call).failed

-- At any time a call may be started, or one that is on its way may have its next
-- exchange with the store. In between the store may turn into any other and time may
-- pass, while the wall clock shows what it likes. A call that is answered at once
-- leaves everything as it is.
inductive Step : Traffic σ → Traffic σ → Prop where
  | passed (s : Traffic σ) (clock : Clock) (hforward : s.now ≤ clock.monotonic.nanos) :
      Step s { s with clock }
  | storeChanged (s : Traffic σ) (after : σ) : Step s { s with store := after }
  | begun (s : Traffic σ) (client : Client) (call : Call)
      (hstart : s.limiter.start s.clock client = .asking call) :
      Step s { s with flights := s.flights ++ [call] }
  | asked (s : Traffic σ) (front back : List Call) (call next : Call) (limiter : SharedLimiter)
      (journal : Journal) (after : σ) (hflights : s.flights = front ++ call :: back)
      (hstep : SharedLimiter.step store s.store s.limiter call =
        (⟨.asking next, limiter, journal⟩, after)) :
      Step s { s with
        limiter
        store := after
        flights := front ++ next :: back }
  | ended (s : Traffic σ) (front back : List Call) (call : Call) (allowed : Bool)
      (limiter : SharedLimiter) (journal : Journal) (after : σ)
      (hflights : s.flights = front ++ call :: back)
      (hstep : SharedLimiter.step store s.store s.limiter call =
        (⟨.answered allowed, limiter, journal⟩, after)) :
      Step s { s with
        limiter
        store := after
        flights := front ++ back
        reports := s.reports ++ [reportOf store s call] }

inductive Reachable (settings : SharedSettings) : Traffic σ → Prop where
  | start (s : σ) (clock : Clock) : Reachable settings ⟨.fresh settings, s, clock, [], []⟩
  | step {s t : Traffic σ} (hs : Reachable settings s) (h : Step store s t) : Reachable settings t

-- The breaker after some calls have come to their ends. Only the last one counts.
def breakerAfter (cooldown : Span) (reports : List Report) : Breaker :=
  match reports.getLast? with
  | some report => if report.failed then ⟨Breaker.deadline report.startedAt cooldown⟩ else .closed
  | none => .closed

-- No call was started, and none came to its end, later than now.
structure Timed (s : Traffic σ) : Prop where
  started : ∀ call ∈ s.flights, call.startedAt.nanos ≤ s.now
  ended : ∀ report ∈ s.reports,
    report.startedAt.nanos ≤ report.endedAt.nanos ∧ report.endedAt.nanos ≤ s.now

variable {store} {settings : SharedSettings} {s t : Traffic σ}

theorem breakerAfter_concat (cooldown : Span) (reports : List Report) (report : Report) :
    breakerAfter cooldown (reports ++ [report]) =
      if report.failed then ⟨Breaker.deadline report.startedAt cooldown⟩ else .closed := by
  simp [breakerAfter]

-- The breaker tells no more than how the last call to end has ended.
theorem Reachable.breaker (hs : Reachable store settings s) :
    s.limiter.settings = settings ∧
    s.limiter.breaker = breakerAfter settings.cooldown s.reports := by
  induction hs with
  | start s clock => exact ⟨rfl, rfl⟩
  | step hs h ih =>
      cases h with
      | passed clock hforward => exact ih
      | storeChanged after => exact ih
      | begun client call hstart => exact ih
      | asked front back call next limiter journal after hflights hstep =>
          have hturn := SharedLimiter.turn_of_step hstep
          exact ⟨hturn.settings.trans ih.1, (hturn.breaker_of_asking rfl).trans ih.2⟩
      | ended front back call allowed limiter journal after hflights hstep =>
          have hturn := SharedLimiter.turn_of_step hstep
          refine ⟨hturn.settings.trans ih.1, ?_⟩
          rw [breakerAfter_concat, ← ih.1]
          exact hturn.breaker_of_answered rfl

theorem Reachable.timed (hs : Reachable store settings s) : Timed s := by
  induction hs with
  | start s clock => exact ⟨by simp, by simp⟩
  | step hs h ih =>
      cases h with
      | passed clock hforward =>
          exact ⟨fun call hc => Nat.le_trans (ih.started call hc) hforward,
            fun report hr => ⟨(ih.ended report hr).1, Nat.le_trans (ih.ended report hr).2 hforward⟩⟩
      | storeChanged after => exact ⟨ih.started, ih.ended⟩
      | begun client call hstart =>
          refine ⟨fun other ho => ?_, ih.ended⟩
          rcases List.mem_append.mp ho with ho | ho
          · exact ih.started other ho
          · rw [List.mem_singleton.mp ho, SharedLimiter.startedAt_of_start hstart]
            exact Nat.le_refl _
      | asked front back call next limiter journal after hflights hstep =>
          have hnext : next.startedAt = call.startedAt :=
            (SharedLimiter.turn_of_step hstep).startedAt_of_asking rfl
          refine ⟨fun other ho => ?_, ih.ended⟩
          have hstarted := ih.started
          simp only [hflights, List.mem_append, List.mem_cons] at hstarted ho
          rcases ho with ho | rfl | ho
          · exact hstarted other (Or.inl ho)
          · rw [hnext]
            exact hstarted call (Or.inr (Or.inl rfl))
          · exact hstarted other (Or.inr (Or.inr ho))
      | ended front back call allowed limiter journal after hflights hstep =>
          have hstarted := ih.started
          simp only [hflights, List.mem_append, List.mem_cons] at hstarted
          refine ⟨fun other ho => ?_, fun report hr => ?_⟩
          · rcases List.mem_append.mp ho with ho | ho
            · exact hstarted other (Or.inl ho)
            · exact hstarted other (Or.inr (Or.inr ho))
          · rcases List.mem_append.mp hr with hr | hr
            · exact ih.ended report hr
            · rw [List.mem_singleton.mp hr]
              exact ⟨hstarted call (Or.inr (Or.inl rfl)), Nat.le_refl _⟩

-- In use, a limiter asks the store or takes it to be down.
theorem start_of_enabled {limiter : SharedLimiter} (hlimit : 0 < limiter.settings.limit)
    (clock : Clock) (client : Client) :
    (limiter.start clock client = .answered limiter.settings.failOpen ↔
      limiter.breaker.isDegraded clock.monotonic = true) ∧
    ((∃ call, limiter.start clock client = .asking call) ↔
      limiter.breaker.isDegraded clock.monotonic = false) := by
  cases hdegraded : limiter.breaker.isDegraded clock.monotonic <;>
    simp [SharedLimiter.start, SharedLimiter.isEnabled, hlimit, hdegraded]

-- Once a call has failed, and as long as none succeeds, the store is left alone until a
-- cooldown after the start of the call that has failed last, however long that call was
-- on its way.
theorem asks_iff_cooldown_since_start (hs : Reachable store settings s)
    (hlimit : 0 < settings.limit) (hcooldown : 0 < settings.cooldown.nanos)
    {earlier later : List Report} {report last : Report}
    (hreports : s.reports = earlier ++ report :: later)
    (hfailed : ∀ other ∈ report :: later, other.failed = true)
    (hlast : (report :: later).getLast? = some last) (client : Client) :
    report.endedAt.nanos ≤ s.now ∧ last.startedAt.nanos ≤ last.endedAt.nanos ∧
    (s.limiter.start s.clock client = .answered settings.failOpen ↔
      s.now < min (last.startedAt.nanos + settings.cooldown.nanos) Breaker.horizon) ∧
    ((∃ call, s.limiter.start s.clock client = .asking call) ↔
      min (last.startedAt.nanos + settings.cooldown.nanos) Breaker.horizon ≤ s.now) := by
  obtain ⟨hsettings, hbreaker⟩ := hs.breaker
  have hmem : last ∈ report :: later := List.mem_of_getLast? hlast
  have hended := hs.timed.ended
  have hdegraded : s.limiter.breaker.isDegraded s.clock.monotonic = true ↔
      s.now < min (last.startedAt.nanos + settings.cooldown.nanos) Breaker.horizon := by
    have hafter : breakerAfter settings.cooldown s.reports =
        ⟨Breaker.deadline last.startedAt settings.cooldown⟩ := by
      simp [breakerAfter, hreports, hlast, hfailed last hmem]
    rw [hbreaker, hafter, Breaker.isDegraded_iff]
    have hhorizon : 0 < Breaker.horizon := by decide
    simp only [Breaker.deadline_toNat, now]
    omega
  obtain ⟨hanswered, hasking⟩ := start_of_enabled (hsettings ▸ hlimit) s.clock client
  rw [hsettings] at hanswered
  refine ⟨(hended report (by simp [hreports])).2, (hended last ?_).1, hanswered.trans hdegraded, ?_⟩
  · rw [hreports]
    exact List.mem_append_right _ hmem
  · rw [hasking, ← Bool.not_eq_true, hdegraded, Nat.not_lt]

def fiveSecondCooldown : SharedSettings := ⟨5, "budget", 120, .ofSeconds 5, true⟩

-- Of two calls to a store that is down, the second fails at four seconds, as soon as it
-- has been started. The first was started at zero and fails at five.
def overlapped : Traffic ScriptedStore where
  limiter := { SharedLimiter.fresh fiveSecondCooldown with
    breaker := ⟨Breaker.deadline (Clock.monotonic ⟨0, 0⟩) (.ofSeconds 5)⟩ }
  store := { down := true, calls := [.load windowScript, .load windowScript] }
  clock := ⟨6, 6000000000⟩
  flights := []
  reports := [
    ⟨Clock.monotonic ⟨4, 4000000000⟩, Clock.monotonic ⟨4, 4000000000⟩, true⟩,
    ⟨Clock.monotonic ⟨0, 0⟩, Clock.monotonic ⟨5, 5000000000⟩, true⟩]

theorem reachable_overlapped :
    Reachable ScriptedStore.store fiveSecondCooldown overlapped := by
  let limiter := SharedLimiter.fresh fiveSecondCooldown
  have hstart (clock : Clock) (client : Client) :=
    SharedLimiter.start_of_closed (show 0 < limiter.settings.limit by decide) rfl rfl clock client
  have h₀ : Reachable ScriptedStore.store fiveSecondCooldown
      ⟨limiter, { down := true }, ⟨0, 0⟩, [], []⟩ := .start _ _
  have h₁ := h₀.step (.begun _ ⟨"203.0.113.5"⟩ _ (hstart _ _))
  have h₂ := h₁.step (.passed _ ⟨4, 4000000000⟩ (by decide))
  have h₃ := h₂.step (.begun _ ⟨"203.0.113.6"⟩ _ (hstart _ _))
  have h₄ := h₃.step (.ended _ [_] [] _ true _ _ _ rfl rfl)
  have h₅ := h₄.step (.passed _ ⟨5, 5000000000⟩ (by decide))
  have h₆ := h₅.step (.ended _ [] [] _ true _ _ _ rfl rfl)
  exact h₆.step (.passed _ ⟨6, 6000000000⟩ (by decide))

-- At six seconds the store is asked again, though both failures are less than five
-- seconds old.
theorem overlapped_asks_again :
    overlapped.now < 4000000000 + fiveSecondCooldown.cooldown.nanos ∧
    ∃ call, overlapped.limiter.start overlapped.clock ⟨"203.0.113.7"⟩ = .asking call := by
  have hreports : overlapped.reports = [] ++ overlapped.reports := rfl
  obtain ⟨-, -, -, hasks⟩ := asks_iff_cooldown_since_start reachable_overlapped
    (by decide) (by decide) hreports (by decide) rfl ⟨"203.0.113.7"⟩
  exact ⟨by decide, hasks.mpr (by decide)⟩

-- So a failure does not keep the store from being asked for a cooldown from when it
-- has come back, and one that comes back later may even put an earlier end to it.
theorem cooldown_since_end_not_kept :
    ¬∀ (σ : Type) (store : CounterStore σ) (settings : SharedSettings) (s : Traffic σ),
      Reachable store settings s → 0 < settings.limit → 0 < settings.cooldown.nanos →
      ∀ report ∈ s.reports, report.failed = true →
        (∀ other ∈ s.reports, other.failed = false →
          other.endedAt.nanos < report.endedAt.nanos) →
        s.now < report.endedAt.nanos + settings.cooldown.nanos →
        ∀ client, s.limiter.start s.clock client = .answered settings.failOpen := by
  intro hkept
  have hanswered := hkept ScriptedStore ScriptedStore.store fiveSecondCooldown overlapped
    reachable_overlapped (by decide) (by decide) _ (List.mem_cons_self ..) rfl
    (by simp [overlapped]) (by decide) ⟨"203.0.113.7"⟩
  have hdegraded := (start_of_enabled (by decide) _ _).1.mp hanswered
  exact absurd hdegraded (by decide)

end Traffic

end AdmissionControl.RateLimit
