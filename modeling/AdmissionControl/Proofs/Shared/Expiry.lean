import AdmissionControl.Proofs.Settings.Sound
import AdmissionControl.Proofs.Shared.Expiring
import AdmissionControl.Proofs.Shared.Keys
import AdmissionControl.Proofs.Shared.Occasions

namespace AdmissionControl

-- The settings that are accepted keep a key for a second or more.
theorem Settings.windowSeconds_ne_zero {settings : Settings} (hchecked : settings.check = .ok ()) :
    settings.rateLimit.windowSeconds ≠ 0 :=
  (check_eq_ok_iff.mp hchecked).windowSeconds

namespace RateLimit

open Identity

theorem secondsKept_sharedOfSettings {s : RateLimitSettings} (hkept : s.windowSeconds ≠ 0) :
    (Limiter.sharedOfSettings s).settings.secondsKept = s.windowSeconds := by
  change (if s.windowSeconds ≤ 1 then 1 else s.windowSeconds) = s.windowSeconds
  split
  · rename_i hle
    rw [UInt64.le_iff_toNat_le] at hle
    have hpos : s.windowSeconds.toNat ≠ 0 := fun hzero => hkept (UInt64.toNat_inj.mp hzero)
    exact UInt64.toNat_inj.mp (Nat.le_antisymm (Nat.pos_of_ne_zero hpos) hle)
  · rfl

-- A request with the part of its second that has passed. The wall clock shows whole
-- seconds only, but the store drops its keys within them.
structure TimedVisit where
  visit : Visit
  fraction : Nat
  fraction_lt : fraction < Span.nanosPerSecond

namespace TimedVisit

def time (timed : TimedVisit) : Nat :=
  timed.visit.clock.unixSeconds.toNat * Span.nanosPerSecond + timed.fraction

def InOrder (visits : List TimedVisit) : Prop := visits.Pairwise fun a b => a.time ≤ b.time

-- When the bucket of an arrival begins.
def opening (arrival : Arrival) : Nat := arrival.bucket.toNat * 60 * Span.nanosPerSecond

theorem time_in_bucket (timed : TimedVisit) :
    opening timed.visit.arrival ≤ timed.time ∧
    timed.time < opening timed.visit.arrival + 60 * Span.nanosPerSecond := by
  have hbucket : timed.visit.arrival.bucket.toNat = timed.visit.clock.unixSeconds.toNat / 60 :=
    UInt64.toNat_div _ _
  have hfraction := timed.fraction_lt
  simp only [opening, time, hbucket, Span.nanosPerSecond] at *
  omega

end TimedVisit

-- A counter that has let `admitted` requests in, and whose key has been new `lives` times.
-- Each life lets in up to the limit, the last one what is left of it yet. The lives follow
-- each other by the seconds that a key is kept, and each begins in the minute from `opening`.
structure Lives (limit secondsKept opening admitted lives count now drops : Nat) : Prop where
  budget : admitted + (if count = 0 then 0 else limit - count) ≤ limit * lives
  spaced : lives ≠ 0 → opening + lives * secondsKept * Span.nanosPerSecond ≤
    if count = 0 then now else drops
  started : lives * secondsKept ≤ 59 + secondsKept

namespace Lives

variable {limit secondsKept opening admitted lives count now drops : Nat}

theorem none_yet : Lives limit secondsKept opening 0 0 0 now drops :=
  ⟨by simp, fun h => absurd rfl h, by simp⟩

theorem passed {time count' drops' : Nat}
    (h : Lives limit secondsKept opening admitted lives count now drops) (htime : now ≤ time)
    (hcount : count' = if drops ≤ time then 0 else count)
    (hdrops : count' ≠ 0 → drops' = drops) :
    Lives limit secondsKept opening admitted lives count' time drops' := by
  obtain ⟨hbudget, hspaced, hstarted⟩ := h
  refine ⟨?_, fun hlives => ?_, hstarted⟩
  · split at hcount <;> subst hcount
    · simp only [ite_true]
      omega
    · exact hbudget
  · have hbefore := hspaced hlives
    by_cases hheld : count' = 0
    · rw [if_pos hheld]
      split at hcount <;> split at hbefore <;> omega
    · rw [if_neg hheld, hdrops hheld]
      split at hcount <;> split at hbefore <;> omega

theorem begun (h : Lives limit secondsKept opening admitted lives 0 now drops)
    (hlimit : 0 < limit) (hopening : opening ≤ now)
    (hnow : now < opening + 60 * Span.nanosPerSecond) :
    Lives limit secondsKept opening (admitted + 1) (lives + 1) 1 now
      (now + secondsKept * Span.nanosPerSecond) := by
  obtain ⟨hbudget, hspaced, -⟩ := h
  simp only [if_true, Nat.add_zero] at hbudget hspaced
  have hlast : opening + lives * secondsKept * Span.nanosPerSecond ≤ now := by
    rcases Nat.eq_zero_or_pos lives with rfl | hpos
    · simpa using hopening
    · exact hspaced (Nat.ne_of_gt hpos)
  refine ⟨?_, fun _ => ?_, ?_⟩
  · simp only [Nat.one_ne_zero, if_false, Nat.mul_succ]
    omega
  · simp only [Nat.one_ne_zero, if_false, Nat.succ_mul, Nat.add_mul]
    omega
  · simp only [Span.nanosPerSecond] at hlast hnow
    simp only [Nat.succ_mul]
    omega

theorem counted (h : Lives limit secondsKept opening admitted lives count now drops)
    (hcount : count ≠ 0) :
    Lives limit secondsKept opening (admitted + if count + 1 ≤ limit then 1 else 0) lives
      (count + 1) now drops := by
  obtain ⟨hbudget, hspaced, hstarted⟩ := h
  simp only [hcount, if_false] at hbudget hspaced
  refine ⟨?_, by simpa using hspaced, hstarted⟩
  simp only [Nat.succ_ne_zero, if_false]
  split <;> omega

theorem admitted_le (h : Lives limit secondsKept opening admitted lives count now drops)
    (hkept : 0 < secondsKept) : admitted ≤ limit * (59 / secondsKept + 1) := by
  have hlives : lives - 1 ≤ 59 / secondsKept := by
    rw [Nat.le_div_iff_mul_le hkept, Nat.sub_mul, Nat.one_mul]
    have hstarted := h.started
    omega
  calc
    admitted ≤ limit * lives := Nat.le_trans (Nat.le_add_right _ _) h.budget
    _ ≤ limit * (59 / secondsKept + 1) := Nat.mul_le_mul_left _ (by omega)

end Lives

section

variable {σ : Type} {store : CounterStore σ} {counting : Counting store}

-- The time of the store goes on with that of the visits.
def Expiring.occasions (expiring : Expiring counting) (visits : List TimedVisit) :
    List (Occasion σ) :=
  visits.flatMap fun timed => [.storeChanged (expiring.pass timed.time), .visited timed.visit]

theorem Expiring.occasions_append (expiring : Expiring counting) (front back : List TimedVisit) :
    expiring.occasions (front ++ back) = expiring.occasions front ++ expiring.occasions back :=
  List.flatMap_append

namespace Scene

open TimedVisit

variable {expiring : Expiring counting} {settings : SharedSettings} {arrival : Arrival}
variable {admitted lives count opened : Nat} {scene : Scene σ}

-- Time goes on for the store.
def passed (scene : Scene σ) (expiring : Expiring counting) (time : Nat) : Scene σ :=
  { scene with store := expiring.pass time scene.store }

-- A call gives its key time only when it finds the key new.
theorem drops_visited (serving : Serving counting) (expiring : Expiring counting)
    (h : Calm counting settings scene) (hlimit : 0 < settings.limit) (visit : Visit) :
    let used := visit.arrival.key settings
    let after := (scene.next store (.visited visit)).store
    expiring.now after = expiring.now scene.store ∧
    expiring.drops after = if counting.counters scene.store used = 0 then
      Function.update (expiring.drops scene.store) used
        (expiring.now scene.store + settings.secondsKept.toNat * Span.nanosPerSecond)
    else expiring.drops scene.store := by
  obtain ⟨limiter, hlimiter, rfl, hbreaker⟩ := h.limiter
  obtain ⟨-, -, before, handle, number, hprepared, hcounted, -⟩ :=
    SharedLimiter.allow_counted_once serving h.sound
      (by simpa [SharedLimiter.isEnabled] using hlimit) visit.clock
      (isDegraded_of_closed hbreaker _) visit.client
  obtain ⟨hbefore, hcounters⟩ := hprepared.keeps h.sound
  obtain ⟨hnow, hdrops⟩ := expiring.prepared hprepared h.sound
  have hafter := expiring.counted hbefore hcounted
  rw [hnow, hdrops, hcounters] at hafter
  simp only [next, ruling_of_shared hlimiter]
  exact hafter

-- A scene without failures, and what the counter of an arrival has let in so far.
structure Lived (expiring : Expiring counting) (settings : SharedSettings) (arrival : Arrival)
    (admitted lives : Nat) (scene : Scene σ) : Prop where
  calm : Calm counting settings scene
  lives : Lives settings.limit settings.secondsKept.toNat (opening arrival) admitted
    lives (counting.counters scene.store (arrival.key settings)) (expiring.now scene.store)
    (expiring.drops scene.store (arrival.key settings))

theorem lived_passed (h : Lived expiring settings arrival admitted lives scene) {time : Nat}
    (htime : expiring.now scene.store ≤ time) :
    Lived expiring settings arrival admitted lives (scene.passed expiring time) := by
  refine ⟨⟨h.calm.limiter, expiring.sound_pass h.calm.sound time⟩, ?_⟩
  simp only [Scene.passed, expiring.now_pass]
  exact h.lives.passed htime (expiring.counters_pass h.calm.sound time _)
    (expiring.drops_pass h.calm.sound)

-- Only a call for the very arrival counts its key.
theorem lived_visited (serving : Serving counting)
    (h : Lived expiring settings arrival admitted lives scene) (hlimit : 0 < settings.limit)
    (timed : TimedVisit) (hnow : expiring.now scene.store = timed.time) :
    ∃ later, Lived expiring settings arrival
      (admitted + (scene.answer? store (.visited timed.visit)).toList.count (arrival, true)) later
      (scene.next store (.visited timed.visit)) := by
  obtain ⟨hanswer, hcalm, hcounters⟩ := visited_of_calm serving h.calm hlimit timed.visit
  obtain ⟨htime, hdrops⟩ := drops_visited serving expiring h.calm hlimit timed.visit
  have hlives := h.lives
  simp only [hanswer, Option.toList_some, List.count_singleton, beq_iff_eq, Prod.mk.injEq,
    decide_eq_true_eq]
  by_cases he : timed.visit.arrival = arrival
  · subst he
    obtain ⟨hopening, hclosing⟩ := timed.time_in_bucket
    rw [← hnow] at hopening hclosing
    by_cases hnew : counting.counters scene.store (timed.visit.arrival.key settings) = 0
    · rw [hnew] at hlives
      refine ⟨lives + 1, hcalm, ?_⟩
      simpa [hcounters, htime, hdrops, hnew, Nat.succ_le_of_lt hlimit] using
        hlives.begun hlimit hopening hclosing
    · have hcounted := hlives.counted hnew
      refine ⟨lives, hcalm, ?_⟩
      by_cases hroom : counting.counters scene.store (timed.visit.arrival.key settings) + 1 ≤
          settings.limit <;>
        simpa [hcounters, htime, hdrops, hnew, hroom] using hcounted
  · have hkey : arrival.key settings ≠ timed.visit.arrival.key settings := fun hkey =>
      he ((Arrival.key_inj settings).mp hkey).symm
    have hkept : expiring.drops (scene.next store (.visited timed.visit)).store
        (arrival.key settings) = expiring.drops scene.store (arrival.key settings) := by
      rw [hdrops]
      split
      · exact Function.update_of_ne hkey _ _
      · rfl
    refine ⟨lives, hcalm, ?_⟩
    simpa [he, hcounters, bumped_of_ne _ hkey, htime, hkept] using hlives

theorem lived_after (serving : Serving counting) (hlimit : 0 < settings.limit)
    (visits : List TimedVisit) (h : Lived expiring settings arrival admitted lives scene)
    (horder : InOrder visits)
    (hnow : ∀ timed ∈ visits, expiring.now scene.store ≤ timed.time) :
    ∃ later, Lived expiring settings arrival
      (admitted + (scene.answers store (expiring.occasions visits)).count (arrival, true)) later
      (scene.after store (expiring.occasions visits)) := by
  induction visits generalizing admitted lives scene with
  | nil => exact ⟨lives, h⟩
  | cons timed rest ih =>
      obtain ⟨hnext, hrest⟩ := List.pairwise_cons.mp horder
      have hpassed := lived_passed h (hnow timed (by simp))
      have htime : expiring.now (scene.passed expiring timed.time).store = timed.time :=
        expiring.now_pass _ _
      obtain ⟨later, hvisited⟩ := lived_visited serving hpassed hlimit timed htime
      have hsame := (drops_visited serving expiring hpassed.calm hlimit timed.visit).1
      rw [htime] at hsame
      obtain ⟨last, hlast⟩ := ih hvisited hrest fun other ho =>
        Nat.le_trans (Nat.le_of_eq hsame) (hnext other ho)
      refine ⟨last, ?_⟩
      rw [Nat.add_assoc, ← List.count_append] at hlast
      exact hlast

-- A visit at `opened` would find the counter of the arrival at `count`, all of it counted at
-- that very time.
structure Filled (expiring : Expiring counting) (settings : SharedSettings) (arrival : Arrival)
    (opened count : Nat) (scene : Scene σ) : Prop where
  calm : Calm counting settings scene
  counter : (if expiring.drops scene.store (arrival.key settings) ≤ opened then 0
    else counting.counters scene.store (arrival.key settings)) = count
  drops : count ≠ 0 → expiring.drops scene.store (arrival.key settings) =
    opened + settings.secondsKept.toNat * Span.nanosPerSecond

theorem Filled.passed (h : Filled expiring settings arrival opened count scene) :
    Calm counting settings (scene.passed expiring opened) ∧
    counting.counters (scene.passed expiring opened).store (arrival.key settings) = count :=
  ⟨⟨h.calm.limiter, expiring.sound_pass h.calm.sound _⟩,
    (expiring.counters_pass h.calm.sound _ _).trans h.counter⟩

theorem filled_next (serving : Serving counting)
    (h : Filled expiring settings arrival opened count scene) (hroom : count < settings.limit)
    (hkept : 0 < settings.secondsKept.toNat) {timed : TimedVisit}
    (harrival : timed.visit.arrival = arrival) (htime : timed.time = opened) :
    scene.answers store (expiring.occasions [timed]) = [(arrival, true)] ∧
    Filled expiring settings arrival opened (count + 1)
      (scene.after store (expiring.occasions [timed])) := by
  have hlimit : 0 < settings.limit := Nat.zero_lt_of_lt hroom
  subst htime
  obtain ⟨hcalm, hpassed⟩ := h.passed
  have hnow : expiring.now (scene.passed expiring timed.time).store = timed.time :=
    expiring.now_pass _ _
  obtain ⟨hanswer, hafter, hcounters⟩ := visited_of_calm serving hcalm hlimit timed.visit
  obtain ⟨-, hdrops⟩ := drops_visited serving expiring hcalm hlimit timed.visit
  rw [harrival, hpassed, decide_eq_true (Nat.succ_le_of_lt hroom)] at hanswer
  rw [harrival] at hcounters
  rw [harrival, hpassed, hnow] at hdrops
  have hdue : expiring.drops (scene.after store (expiring.occasions [timed])).store
      (arrival.key settings) =
      timed.time + settings.secondsKept.toNat * Span.nanosPerSecond := by
    refine (congrFun hdrops _).trans ?_
    by_cases hzero : count = 0
    · simp [hzero]
    · rw [if_neg hzero]
      refine (expiring.drops_pass h.calm.sound ?_).trans (h.drops hzero)
      exact fun hdropped => hzero (hpassed.symm.trans hdropped)
  refine ⟨congrArg (fun answer => answer.toList ++ []) hanswer, hafter, ?_, fun _ => hdue⟩
  rw [hdue, if_neg (by simp only [Span.nanosPerSecond]; omega)]
  refine (congrFun hcounters _).trans ?_
  rw [bumped_self, hpassed]

theorem filled_after (serving : Serving counting)
    (h : Filled expiring settings arrival opened 0 scene)
    (hkept : 0 < settings.secondsKept.toNat) {timed : TimedVisit}
    (harrival : timed.visit.arrival = arrival) (htime : timed.time = opened)
    (hcount : count ≤ settings.limit) :
    scene.answers store (expiring.occasions (List.replicate count timed)) =
      List.replicate count (arrival, true) ∧
    Filled expiring settings arrival opened count
      (scene.after store (expiring.occasions (List.replicate count timed))) := by
  induction count with
  | zero => exact ⟨rfl, h⟩
  | succ count ih =>
      obtain ⟨hanswers, hfilled⟩ := ih (Nat.le_of_succ_le hcount)
      obtain ⟨hanswer, hnext⟩ := filled_next serving hfilled hcount hkept harrival htime
      rw [List.replicate_succ', Expiring.occasions_append, answers_append, after_append, hanswers,
        hanswer, List.replicate_succ']
      exact ⟨rfl, hnext⟩

-- When its key has been dropped, an arrival's counter starts anew.
theorem Filled.renewed {later : Nat} (h : Filled expiring settings arrival opened count scene)
    (hlater : opened + settings.secondsKept.toNat * Span.nanosPerSecond ≤ later) :
    Filled expiring settings arrival later 0 scene := by
  refine ⟨h.calm, ?_, fun hzero => absurd rfl hzero⟩
  by_cases hzero : count = 0
  · have hcounter := h.counter
    split <;> rename_i hdue
    · rfl
    · rw [if_neg (by omega)] at hcounter
      rw [hcounter, hzero]
  · rw [if_pos (h.drops hzero ▸ hlater)]

end Scene

namespace TimedVisit

-- A request on the second in the first minute.
def onSecond (second : Nat) : TimedVisit :=
  ⟨⟨⟨second.toUInt64, 0⟩, ⟨"203.0.113.5"⟩⟩, 0, by decide⟩

theorem toNat_second {second : Nat} (h : second < 60) : second.toUInt64.toNat = second :=
  UInt64.toNat_ofNat_of_lt (Nat.lt_trans h (by decide))

theorem time_onSecond {second : Nat} (h : second < 60) :
    (onSecond second).time = second * Span.nanosPerSecond := by
  simp [time, onSecond, toNat_second h]

theorem arrival_onSecond {second : Nat} (h : second < 60) :
    (onSecond second).visit.arrival = ⟨0, ⟨"203.0.113.5"⟩⟩ := by
  have hbucket : second.toUInt64 / Clock.windowSeconds = 0 := by
    apply UInt64.toNat_inj.mp
    rw [UInt64.toNat_div, toNat_second h]
    exact Nat.div_eq_of_lt h
  simp [onSecond, Visit.arrival, Clock.bucket, hbucket]

-- As many requests as the limit has, all at once, each time that the key has been dropped.
def rounds (secondsKept limit n : Nat) : List TimedVisit :=
  (List.range n).flatMap fun i => List.replicate limit (onSecond (i * secondsKept))

theorem rounds_succ (secondsKept limit n : Nat) :
    rounds secondsKept limit (n + 1) =
      rounds secondsKept limit n ++ List.replicate limit (onSecond (n * secondsKept)) := by
  simp [rounds, List.range_succ]

theorem second_lt {secondsKept i n : Nat} (hn : n ≤ 59 / secondsKept + 1) (hi : i < n) :
    i * secondsKept < 60 := by
  have hle : i * secondsKept ≤ 59 := calc
    i * secondsKept ≤ 59 / secondsKept * secondsKept := Nat.mul_le_mul_right _ (by omega)
    _ ≤ 59 := Nat.div_mul_le_self _ _
  omega

theorem inOrder_rounds {secondsKept n : Nat} (limit : Nat) (hn : n ≤ 59 / secondsKept + 1) :
    InOrder (rounds secondsKept limit n) := by
  have htime : ∀ i < n, ∀ timed ∈ List.replicate limit (onSecond (i * secondsKept)),
      timed.time = i * secondsKept * Span.nanosPerSecond := by
    intro i hi timed ht
    rw [List.eq_of_mem_replicate ht]
    exact time_onSecond (second_lt hn hi)
  refine List.pairwise_flatMap.mpr ⟨fun i _ => List.pairwise_replicate.mpr (Or.inr (Nat.le_refl _)),
    List.pairwise_lt_range.imp_of_mem ?_⟩
  intro i j hi hj hij earlier he later hl
  rw [htime i (List.mem_range.mp hi) earlier he, htime j (List.mem_range.mp hj) later hl]
  exact Nat.mul_le_mul_right _ (Nat.mul_le_mul_right _ (Nat.le_of_lt hij))

end TimedVisit

namespace Scene

open TimedVisit

variable {expiring : Expiring counting} {settings : SharedSettings} {scene : Scene σ}

theorem answers_rounds (serving : Serving counting) (expiring : Expiring counting)
    (h : Calm counting settings scene) (hfresh : ∀ key, counting.counters scene.store key = 0)
    (hkept : 0 < settings.secondsKept.toNat) {n : Nat}
    (hn : n ≤ 59 / settings.secondsKept.toNat + 1) :
    let visits := expiring.occasions (rounds settings.secondsKept.toNat settings.limit n)
    scene.answers store visits =
      List.replicate (settings.limit * n) (⟨0, ⟨"203.0.113.5"⟩⟩, true) ∧
    ∀ opened, n * settings.secondsKept.toNat * Span.nanosPerSecond ≤ opened →
      Filled expiring settings ⟨0, ⟨"203.0.113.5"⟩⟩ opened 0 (scene.after store visits) := by
  induction n with
  | zero =>
      exact ⟨rfl, fun opened _ => ⟨h, by simp [hfresh, rounds, Expiring.occasions, after],
        fun hzero => absurd rfl hzero⟩⟩
  | succ n ih =>
      obtain ⟨hanswers, hready⟩ := ih (Nat.le_of_succ_le hn)
      have hsecond := second_lt hn (Nat.lt_succ_self n)
      obtain ⟨hround, hfilled⟩ := filled_after serving (hready _ (Nat.le_refl _)) hkept
        (arrival_onSecond hsecond) (time_onSecond hsecond) (Nat.le_refl settings.limit)
      simp only [rounds_succ, Expiring.occasions_append, answers_append, after_append]
      refine ⟨?_, fun opened hopened => hfilled.renewed ?_⟩
      · rw [hanswers, hround, Nat.mul_succ, List.replicate_append_replicate]
      · rwa [← Nat.add_mul, ← Nat.succ_mul]

-- How many requests of an arrival are let in when visits come in time.
def admitted (scene : Scene σ) (expiring : Expiring counting) (visits : List TimedVisit)
    (arrival : Arrival) : Nat :=
  (scene.answers store (expiring.occasions visits)).count (arrival, true)

-- What may be let in within a minute is the limit for each time that a key can be dropped
-- and come anew in it.
theorem admitted_le (serving : Serving counting) (h : Calm counting settings scene)
    (hfresh : ∀ key, counting.counters scene.store key = 0) (hnow : expiring.now scene.store = 0)
    (hlimit : 0 < settings.limit) (hkept : 0 < settings.secondsKept.toNat)
    {visits : List TimedVisit} (horder : InOrder visits) (arrival : Arrival) :
    scene.admitted expiring visits arrival ≤
      settings.limit * (59 / settings.secondsKept.toNat + 1) := by
  have hlives : Lived expiring settings arrival 0 0 scene := by
    refine ⟨h, ?_⟩
    rw [hfresh]
    exact Lives.none_yet
  obtain ⟨later, hlived⟩ := lived_after serving hlimit visits hlives horder fun timed _ =>
    hnow ▸ Nat.zero_le _
  rw [Nat.zero_add] at hlived
  exact hlived.lives.admitted_le hkept

theorem exists_admitted_eq (serving : Serving counting) (expiring : Expiring counting)
    (h : Calm counting settings scene) (hfresh : ∀ key, counting.counters scene.store key = 0)
    (hkept : 0 < settings.secondsKept.toNat) :
    ∃ visits arrival, InOrder visits ∧ scene.admitted expiring visits arrival =
      settings.limit * (59 / settings.secondsKept.toNat + 1) := by
  refine ⟨rounds settings.secondsKept.toNat settings.limit (59 / settings.secondsKept.toNat + 1),
    ⟨0, ⟨"203.0.113.5"⟩⟩, inOrder_rounds settings.limit (Nat.le_refl _), ?_⟩
  rw [admitted, (answers_rounds serving expiring h hfresh hkept (Nat.le_refl _)).1]
  exact List.count_replicate_self

theorem calm_of_settings {s : RateLimitSettings} (hbackend : s.backend = .sharedStore) {state : σ}
    (hsound : counting.sound state) :
    Calm counting (Limiter.sharedOfSettings s).settings ⟨.ofSettings s, state⟩ := by
  refine ⟨⟨_, ?_, rfl, rfl⟩, hsound⟩
  simp only [Limiter.ofSettings, hbackend]

-- With settings that are accepted, the most that is let in of one client within a minute is
-- the budget for each time that a key may come anew in it. So the budget is kept by those
-- settings alone that keep a key for a minute.
theorem budget_kept_iff_key_outlasts_minute (serving : Serving counting)
    (expiring : Expiring counting) (settings : Settings) (s : σ)
    (hchecked : settings.check = .ok ()) (hbackend : settings.rateLimit.backend = .sharedStore)
    (hbudget : 0 < settings.rateLimit.budget) (hsound : counting.sound s)
    (hfresh : ∀ key, counting.counters s key = 0) (hnow : expiring.now s = 0) :
    let scene : Scene σ := ⟨.ofSettings settings.rateLimit, s⟩
    let budget := settings.rateLimit.budget
    let secondsKept := settings.rateLimit.windowSeconds.toNat
    (∀ visits arrival, InOrder visits →
      scene.admitted expiring visits arrival ≤ budget * (59 / secondsKept + 1)) ∧
    (∃ visits arrival, InOrder visits ∧
      scene.admitted expiring visits arrival = budget * (59 / secondsKept + 1)) ∧
    ((∀ visits arrival, InOrder visits → scene.admitted expiring visits arrival ≤ budget) ↔
      60 ≤ secondsKept) := by
  intro scene budget secondsKept
  have hwindow := Settings.windowSeconds_ne_zero hchecked
  have hkept : 0 < secondsKept :=
    Nat.pos_of_ne_zero fun hzero => hwindow (UInt64.toNat_inj.mp hzero)
  have hseconds : (Limiter.sharedOfSettings settings.rateLimit).settings.secondsKept.toNat =
      secondsKept := congrArg UInt64.toNat (secondsKept_sharedOfSettings hwindow)
  have hcalm : Calm counting (Limiter.sharedOfSettings settings.rateLimit).settings scene :=
    calm_of_settings hbackend hsound
  have hmost : ∀ visits arrival, InOrder visits →
      scene.admitted expiring visits arrival ≤ budget * (59 / secondsKept + 1) := by
    intro visits arrival horder
    have hle := admitted_le serving hcalm hfresh hnow hbudget (hseconds ▸ hkept) horder arrival
    rwa [hseconds] at hle
  have hleast := exists_admitted_eq serving expiring hcalm hfresh (hseconds ▸ hkept)
  rw [hseconds] at hleast
  refine ⟨hmost, hleast, fun hall => ?_, fun hlong visits arrival horder => ?_⟩
  · obtain ⟨visits, arrival, horder, hadmitted⟩ := hleast
    have hle := hadmitted ▸ hall visits arrival horder
    by_contra hshort
    have htwice : 1 ≤ 59 / secondsKept := (Nat.le_div_iff_mul_le hkept).mpr (by omega)
    have hmore : budget * 2 ≤ budget * (59 / secondsKept + 1) :=
      Nat.mul_le_mul_left _ (by omega)
    have hbudget' : 0 < budget := hbudget
    change budget * (59 / secondsKept + 1) ≤ budget at hle
    omega
  · have hle := hmost visits arrival horder
    rwa [Nat.div_eq_of_lt (by omega), Nat.zero_add, Nat.mul_one] at hle

-- One request a minute, counted in a store that keeps a key for some seconds.
def onePerMinute (secondsKept : UInt64) : Settings where
  rateLimit := {
    requestsPerMinute := 1
    backend := .sharedStore
    storeUrl := some "redis://127.0.0.1/"
    windowSeconds := secondsKept }

-- Kept for a minute, its key lets in one request a minute. Kept for a second, sixty.
theorem budget_of_one_kept_by_long_key :
    (∀ visits arrival, InOrder visits →
      admitted ⟨.ofSettings (onePerMinute 60).rateLimit, {}⟩ KeyStore.expiring visits arrival ≤ 1) ∧
    ∃ visits arrival, InOrder visits ∧
      admitted ⟨.ofSettings (onePerMinute 1).rateLimit, {}⟩ KeyStore.expiring visits arrival = 60 :=
  ⟨(budget_kept_iff_key_outlasts_minute KeyStore.serving KeyStore.expiring (onePerMinute 60) {}
      (by decide) rfl (by decide) KeyStore.sound_empty KeyStore.counters_empty rfl).2.2.mpr
      (by decide),
    (budget_kept_iff_key_outlasts_minute KeyStore.serving KeyStore.expiring (onePerMinute 1) {}
      (by decide) rfl (by decide) KeyStore.sound_empty KeyStore.counters_empty rfl).2.1⟩

-- So the settings that are accepted do not all keep the budget.
theorem budget_not_kept_by_short_key :
    ¬∀ (σ : Type) (store : CounterStore σ) (counting : Counting store) (_ : Serving counting)
      (expiring : Expiring counting) (settings : Settings) (s : σ),
      settings.check = .ok () → settings.rateLimit.backend = .sharedStore →
      0 < settings.rateLimit.budget → counting.sound s →
      (∀ key, counting.counters s key = 0) → expiring.now s = 0 →
      ∀ visits arrival, InOrder visits →
        admitted ⟨.ofSettings settings.rateLimit, s⟩ expiring visits arrival ≤
          settings.rateLimit.budget := by
  intro hkept
  have hcalm : Calm KeyStore.counting (Limiter.sharedOfSettings (onePerMinute 1).rateLimit).settings
      ⟨.ofSettings (onePerMinute 1).rateLimit, {}⟩ := calm_of_settings rfl KeyStore.sound_empty
  obtain ⟨visits, arrival, horder, hadmitted⟩ := exists_admitted_eq KeyStore.serving
    KeyStore.expiring hcalm KeyStore.counters_empty (by decide)
  have hle := hkept KeyStore KeyStore.store KeyStore.counting KeyStore.serving KeyStore.expiring
    (onePerMinute 1) {} (by decide) rfl (by decide) KeyStore.sound_empty KeyStore.counters_empty rfl
    visits arrival horder
  rw [hadmitted] at hle
  exact absurd hle (by decide)

end Scene

end

end RateLimit

end AdmissionControl
