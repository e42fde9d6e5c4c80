import AdmissionControl.Proofs.Breaker.Deadline
import AdmissionControl.Proofs.Shared.Expiring
import AdmissionControl.Proofs.Shared.Instances
import AdmissionControl.Proofs.Shared.Keys

namespace AdmissionControl.RateLimit

open Identity

-- A handle stays good whatever is asked of the store, a load of the same script included.
structure Lasting {σ : Type} {store : CounterStore σ} {counting : Counting store}
    (serving : Serving counting) : Prop where
  known_load {s after : σ} {handle : String} {result : Except StoreError String}
    (hs : counting.sound s) (h : store.load windowScript s = (result, after))
    (hknown : serving.known s handle) : serving.known after handle
  known_evaluate {s after : σ} {handle other key : String} {secondsKept : UInt64}
    {result : Except StoreError Int} (hs : counting.sound s)
    (h : store.evaluate other key secondsKept s = (result, after))
    (hknown : serving.known s handle) : serving.known after handle

theorem KeyStore.lasting : Lasting KeyStore.serving where
  known_load {s after handle result} hs h hknown := by
    obtain rfl := load_eq h
    exact ⟨by simp [hknown.1], hknown.2⟩
  known_evaluate {s after handle other key secondsKept result} hs h hknown := by
    obtain ⟨-, -, rfl⟩ | ⟨-, -, rfl⟩ := evaluate_eq h <;> exact hknown

namespace SharedLimiter

variable {σ : Type} {store : CounterStore σ} {counting : Counting store}
variable {serving : Serving counting} {s after : σ} {limiter later : SharedLimiter}
variable {call next : Call} {exchange : Exchange} {turn : Step} {journal : Journal}

theorem Served.known (hserved : Served serving s limiter call exchange turn after)
    (lasting : Lasting serving) (hs : counting.sound s) {handle : String}
    (hknown : serving.known s handle) : serving.known after handle := by
  cases hserved with
  | loaded again other after hphase hstore _ => exact lasting.known_load hs hstore hknown
  | scriptLost other after hphase hstore => exact lasting.known_evaluate hs hstore hknown
  | counted other again count after hphase hstore => exact lasting.known_evaluate hs hstore hknown

-- A call that goes on has neither been counted nor touched the breaker.
theorem Served.of_asking
    (hserved : Served serving s limiter call exchange ⟨.asking next, later, journal⟩ after)
    (hs : counting.sound s) :
    next.key = call.key ∧ Ready serving after next ∧ later.breaker = limiter.breaker ∧
    counting.counters after = counting.counters s ∧
    ∀ handle key secondsKept count, exchange ≠ .evaluate handle key secondsKept (.ok count) := by
  cases hserved with
  | loaded again handle after hphase hstore hknown =>
      refine ⟨rfl, fun other he => ?_, rfl, counting.counters_load hs hstore, by simp⟩
      cases he
      exact hknown
  | scriptLost handle after hphase hstore =>
      refine ⟨rfl, fun other he => ?_, rfl, counting.counters_unknownScript hs hstore, by simp⟩
      cases he

theorem Served.of_answered {allowed : Bool}
    (hserved : Served serving s limiter call exchange ⟨.answered allowed, later, journal⟩ after)
    (hs : counting.sound s) :
    let count : Int := counting.counters s call.key + 1
    (∃ handle, exchange = .evaluate handle call.key limiter.settings.secondsKept (.ok count)) ∧
    allowed = decide (count ≤ limiter.settings.limit) ∧ later.breaker = .closed ∧
    counting.counters after = bumped (counting.counters s) call.key := by
  cases hserved with
  | counted handle again count after hphase hstore =>
      obtain ⟨rfl, hcounters⟩ := counting.counters_ok hs hstore
      exact ⟨⟨handle, rfl⟩, rfl, rfl, hcounters⟩

end SharedLimiter

namespace Mark

-- The count that a call has had back from the store.
def count? : Mark → Option Int
  | .exchanged _ (.evaluate _ _ _ (.ok count)) _ => some count
  | _ => none

def answer? : Mark → Option (Nat × Bool)
  | .answered number _ allowed => some (number, allowed)
  | _ => none

end Mark

namespace Instances

variable {ι σ : Type} {store : CounterStore σ} (counting : Counting store)

def counts (s : Instances ι σ) : List Int := s.log.filterMap Mark.count?

-- The answers, each with the number of its call.
def answers (s : Instances ι σ) : List (Nat × Bool) := s.log.filterMap Mark.answer?

-- How many exchanges of the calls on their way may still follow at most.
def outstanding : List (Flight ι) → Nat
  | [] => 0
  | flight :: rest => flight.call.phase.rank + 1 + outstanding rest

theorem outstanding_append (front back : List (Flight ι)) :
    outstanding (front ++ back) = outstanding front + outstanding back := by
  induction front with
  | nil => simp [outstanding]
  | cons flight front ih =>
      simp only [List.cons_append, outstanding, ih]
      omega

-- An instance starts a call.
def begun (s : Instances ι σ) (owner : ι) (clock : Clock) (client : Client) : Instances ι σ :=
  match (s.limiters owner).start clock client with
  | .asking call => { s with
      started := s.started + 1
      flights := s.flights ++ [⟨s.started, owner, call⟩] }
  | .answered allowed => { s with
      started := s.started + 1
      log := s.log ++ [.answered s.started none allowed] }

variable [DecidableEq ι]

-- A call between `front` and `back` has its next exchange with the store.
def exchanged (s : Instances ι σ) (front : List (Flight ι)) (flight : Flight ι)
    (back : List (Flight ι)) : Instances ι σ :=
  let limiter := s.limiters flight.owner
  match SharedLimiter.step store s.store limiter flight.call with
  | (⟨.asking next, limiter, _⟩, after) => { s with
      limiters := Function.update s.limiters flight.owner limiter
      store := after
      flights := front ++ { flight with call := next } :: back
      log := s.log ++ [markOf counting s flight after] }
  | (⟨.answered allowed, limiter, _⟩, after) => { s with
      limiters := Function.update s.limiters flight.owner limiter
      store := after
      flights := front ++ back
      log := s.log ++ [markOf counting s flight after] ++
        [.answered flight.number (some flight.call.key) allowed] }

-- All that can come of calls for one client within one bucket, started and served in any
-- order. `opened` is when the instances have last been seen not to be in degraded mode.
inductive Rush (settings : SharedSettings) (arrival : Arrival) (opened : ι → Span) (base : Nat) :
    Instances ι σ → Prop where
  | start (limiters : ι → SharedLimiter) (s : σ)
      (hsettings : ∀ owner, (limiters owner).settings = settings)
      (hnormal : ∀ owner, (limiters owner).breaker.state (opened owner) = .normal)
      (hsound : counting.sound s)
      (hbase : counting.counters s (arrival.key settings) = base) :
      Rush settings arrival opened base ⟨limiters, s, 0, [], []⟩
  | begun {s : Instances ι σ} (hs : Rush settings arrival opened base s) (owner : ι) (clock : Clock)
      (hbucket : clock.bucket = arrival.bucket)
      (hclock : (opened owner).nanos ≤ clock.monotonic.nanos) :
      Rush settings arrival opened base (s.begun owner clock arrival.client)
  | exchanged {s : Instances ι σ} (hs : Rush settings arrival opened base s)
      (front : List (Flight ι)) (flight : Flight ι) (back : List (Flight ι))
      (hflights : s.flights = front ++ flight :: back) :
      Rush settings arrival opened base (s.exchanged counting front flight back)

variable {counting} {serving : Serving counting} {settings : SharedSettings} {arrival : Arrival}
variable {opened : ι → Span} {base : Nat} {s : Instances ι σ}

theorem step_begun (s : Instances ι σ) (owner : ι) (clock : Clock) (client : Client) :
    Step counting s (s.begun owner clock client) := by
  unfold begun
  split
  · rename_i call hstart
    exact .begun s owner clock client call hstart
  · rename_i allowed hstart
    exact .passed s owner clock client allowed hstart

theorem step_exchanged {front back : List (Flight ι)} {flight : Flight ι}
    (hflights : s.flights = front ++ flight :: back) :
    Step counting s (s.exchanged counting front flight back) := by
  simp only [exchanged]
  split
  · rename_i next limiter journal after hstep
    exact .asked s front back flight next limiter journal after hflights hstep
  · rename_i allowed limiter journal after hstep
    exact .ended s front back flight allowed limiter journal after hflights hstep

-- A rush is one of the runs that instances may have.
theorem Rush.reachable (hs : Rush counting settings arrival opened base s) :
    ∃ counters, Reachable counting settings counters s := by
  induction hs with
  | start limiters s hsettings hnormal hsound hbase =>
      exact ⟨_, .start limiters s hsettings hsound rfl⟩
  | begun hs owner clock hbucket hclock ih =>
      obtain ⟨counters, hreachable⟩ := ih
      exact ⟨counters, hreachable.step (step_begun _ owner clock arrival.client)⟩
  | exchanged hs front flight back hflights ih =>
      obtain ⟨counters, hreachable⟩ := ih
      exact ⟨counters, hreachable.step (step_exchanged hflights)⟩

theorem Rush.tracked (hs : Rush counting settings arrival opened base s) :
    counting.sound s.store ∧ ∀ owner, (s.limiters owner).settings = settings := by
  obtain ⟨counters, hreachable⟩ := hs.reachable
  exact ⟨hreachable.tracked.sound, hreachable.tracked.settings⟩

-- While a crowd is served, each call has its own count, one after the other, and all calls
-- on their way are for the same key.
structure Orderly (serving : Serving counting) (settings : SharedSettings) (arrival : Arrival)
    (opened : ι → Span) (base : Nat) (s : Instances ι σ) : Prop where
  calm : ∀ (owner : ι) (now : Span), (opened owner).nanos ≤ now.nanos →
    (s.limiters owner).breaker.isDegraded now = false
  keyed : ∀ flight ∈ s.flights, flight.call.key = arrival.key settings
  ready : ∀ flight ∈ s.flights, SharedLimiter.Ready serving s.store flight.call
  counter : counting.counters s.store (arrival.key settings) = base + s.answers.length
  counts : s.counts = (List.range' (base + 1) s.answers.length).map Int.ofNat
  decided : s.answers.map Prod.snd =
    s.counts.map fun count => decide (count ≤ (settings.limit : Int))
  once : (s.answers.map Prod.fst ++ s.numbers).Perm (List.range s.started)

theorem isDegraded_of_normal {breaker : Breaker} {opened now : Span}
    (hnormal : breaker.state opened = .normal) (hle : opened.nanos ≤ now.nanos) :
    breaker.isDegraded now = false := by
  have hopened : ¬breaker.isDegraded opened = true := by simp [Breaker.isDegraded, hnormal]
  rw [Breaker.isDegraded_iff] at hopened
  rw [← Bool.not_eq_true, Breaker.isDegraded_iff]
  omega

omit [DecidableEq ι] in
theorem orderly_begun (serving : Serving counting)
    (h : Orderly serving settings arrival opened base s) (hlimit : 0 < settings.limit)
    (hsettings : ∀ owner, (s.limiters owner).settings = settings) (owner : ι) {clock : Clock}
    (hbucket : clock.bucket = arrival.bucket)
    (hclock : (opened owner).nanos ≤ clock.monotonic.nanos) :
    Orderly serving settings arrival opened base (s.begun owner clock arrival.client) := by
  have henabled : (s.limiters owner).isEnabled = true := by
    simpa [SharedLimiter.isEnabled, hsettings owner] using hlimit
  obtain ⟨phase, hstart, hphase⟩ := SharedLimiter.start_of_calm henabled
    (h.calm owner clock.monotonic hclock) arrival.client
  have hflights : ∀ flight ∈ s.flights ++ [⟨s.started, owner, ⟨clock.monotonic,
      SharedLimiter.key (s.limiters owner).settings clock.bucket arrival.client, phase⟩⟩],
      flight ∈ s.flights ∨ flight.call.key = arrival.key settings ∧
        ∀ handle, flight.call.phase ≠ .evaluating handle true := by
    intro flight hm
    rcases List.mem_append.mp hm with hm | hm
    · exact Or.inl hm
    · rw [List.mem_singleton.mp hm, hsettings owner, hbucket]
      exact Or.inr ⟨rfl, hphase⟩
  simp only [begun, hstart]
  refine ⟨h.calm, fun flight hm => ?_, fun flight hm => ?_, h.counter, h.counts, h.decided, ?_⟩
  · rcases hflights flight hm with hm | ⟨hkey, -⟩
    · exact h.keyed flight hm
    · exact hkey
  · rcases hflights flight hm with hm | ⟨-, hphase⟩
    · exact h.ready flight hm
    · exact fun handle he => absurd he (hphase handle)
  · simp only [numbers, List.map_append, ← List.append_assoc, List.range_succ]
    exact h.once.append_right _

section Exchanged

variable {front back : List (Flight ι)} {flight : Flight ι} {limiter : SharedLimiter}
variable {journal : Journal} {after : σ}

theorem calm_update (h : Orderly serving settings arrival opened base s)
    (hlimiter : limiter.breaker = (s.limiters flight.owner).breaker ∨ limiter.breaker = .closed)
    (owner : ι) (now : Span) (hnow : (opened owner).nanos ≤ now.nanos) :
    (Function.update s.limiters flight.owner limiter owner).breaker.isDegraded now = false := by
  by_cases he : owner = flight.owner
  · subst he
    rw [Function.update_self]
    rcases hlimiter with hsame | hclosed
    · exact hsame ▸ h.calm _ now hnow
    · rw [hclosed]
      rfl
  · rw [Function.update_of_ne he]
    exact h.calm owner now hnow

theorem orderly_asked (lasting : Lasting serving)
    (h : Orderly serving settings arrival opened base s) (hsound : counting.sound s.store)
    (hflights : s.flights = front ++ flight :: back) {next : Call}
    (hserved : (s.limiters flight.owner).Served serving s.store flight.call
      (SharedLimiter.exchange store s.store (s.limiters flight.owner) flight.call)
      ⟨.asking next, limiter, journal⟩ after) :
    Orderly serving settings arrival opened base { s with
      limiters := Function.update s.limiters flight.owner limiter
      store := after
      flights := front ++ { flight with call := next } :: back
      log := s.log ++ [markOf counting s flight after] } := by
  obtain ⟨hkey, hready, hbreaker, hcounters, huncounted⟩ := hserved.of_asking hsound
  have hmark : (markOf counting s flight after).count? = none := by
    rw [markOf]
    cases hexchange :
        SharedLimiter.exchange store s.store (s.limiters flight.owner) flight.call with
    | load script result => rfl
    | ping result => rfl
    | evaluate handle key secondsKept result =>
        cases result with
        | ok count => exact absurd hexchange (huncounted handle key secondsKept count)
        | error error => rfl
  have hothers : ∀ other ∈ front ++ { flight with call := next } :: back,
      other ∈ s.flights ∨ other = { flight with call := next } := by
    intro other hm
    simp only [hflights, List.mem_append, List.mem_cons] at hm ⊢
    tauto
  have hanswers : (s.log ++ [markOf counting s flight after]).filterMap Mark.answer? =
      s.answers := by
    simp [answers, Mark.answer?, markOf]
  have hcounts : (s.log ++ [markOf counting s flight after]).filterMap Mark.count? = s.counts := by
    simp [counts, hmark]
  refine ⟨calm_update h (Or.inl hbreaker), fun other hm => ?_, fun other hm => ?_, ?_, ?_, ?_, ?_⟩
  · rcases hothers other hm with hm | rfl
    · exact h.keyed other hm
    · exact hkey.trans (h.keyed flight (by simp [hflights]))
  · rcases hothers other hm with hm | rfl
    · exact fun handle he => hserved.known lasting hsound (h.ready other hm handle he)
    · exact hready
  · simpa only [answers, hanswers, hcounters] using h.counter
  · simpa only [answers, counts, hanswers, hcounts] using h.counts
  · simpa only [answers, counts, hanswers, hcounts] using h.decided
  · have honce := h.once
    simpa only [answers, hanswers, numbers, hflights, List.map_append, List.map_cons] using honce

theorem orderly_ended (lasting : Lasting serving)
    (h : Orderly serving settings arrival opened base s) (hsound : counting.sound s.store)
    (hsettings : ∀ owner, (s.limiters owner).settings = settings)
    (hflights : s.flights = front ++ flight :: back) {allowed : Bool}
    (hserved : (s.limiters flight.owner).Served serving s.store flight.call
      (SharedLimiter.exchange store s.store (s.limiters flight.owner) flight.call)
      ⟨.answered allowed, limiter, journal⟩ after) :
    Orderly serving settings arrival opened base { s with
      limiters := Function.update s.limiters flight.owner limiter
      store := after
      flights := front ++ back
      log := s.log ++ [markOf counting s flight after] ++
        [.answered flight.number (some flight.call.key) allowed] } := by
  obtain ⟨⟨handle, hexchange⟩, hallowed, hclosed, hcounters⟩ := hserved.of_answered hsound
  have hkey : flight.call.key = arrival.key settings := h.keyed flight (by simp [hflights])
  have hmem : ∀ other ∈ front ++ back, other ∈ s.flights := by
    intro other hm
    simp only [hflights, List.mem_append, List.mem_cons] at hm ⊢
    tauto
  have hcount : (counting.counters s.store flight.call.key + 1 : Int) =
      Int.ofNat (base + 1 + s.answers.length) := by
    rw [hkey, h.counter]
    simp only [Int.ofNat_eq_natCast]
    omega
  rw [hcount] at hexchange hallowed
  have hanswers : (s.log ++ [markOf counting s flight after] ++
      [Mark.answered flight.number (some flight.call.key) allowed]).filterMap Mark.answer? =
      s.answers ++ [(flight.number, allowed)] := by
    rw [List.append_assoc, List.filterMap_append]
    rfl
  have hcounts : (s.log ++ [markOf counting s flight after] ++
      [Mark.answered flight.number (some flight.call.key) allowed]).filterMap Mark.count? =
      s.counts ++ [Int.ofNat (base + 1 + s.answers.length)] := by
    simp [counts, Mark.count?, markOf, hexchange]
  refine ⟨calm_update h (Or.inr hclosed), fun other hm => h.keyed other (hmem other hm),
    fun other hm handle he =>
      hserved.known lasting hsound (h.ready other (hmem other hm) handle he),
    ?_, ?_, ?_, ?_⟩
  · rw [answers, hanswers, hcounters, hkey, bumped_self, h.counter, List.length_append]
    rfl
  · rw [counts, answers, hanswers, hcounts, List.length_append, List.length_singleton,
      List.range'_1_concat, List.map_append, ← h.counts]
    rfl
  · rw [counts, answers, hanswers, hcounts, List.map_append, List.map_append, h.decided, hallowed,
      hsettings]
    rfl
  · refine List.Perm.trans ?_ h.once
    rw [answers, hanswers]
    simp only [numbers, hflights, List.map_append, List.map_cons, List.map_nil, List.append_assoc,
      List.singleton_append]
    exact List.perm_middle.symm.append_left _

theorem orderly_exchanged (lasting : Lasting serving)
    (h : Orderly serving settings arrival opened base s) (hsound : counting.sound s.store)
    (hsettings : ∀ owner, (s.limiters owner).settings = settings)
    (hflights : s.flights = front ++ flight :: back) :
    Orderly serving settings arrival opened base (s.exchanged counting front flight back) := by
  have hready := h.ready flight (by simp [hflights])
  simp only [exchanged]
  split
  · rename_i next limiter journal after hstep
    exact orderly_asked lasting h hsound hflights
      ((SharedLimiter.turn_of_step hstep).served serving hsound hready)
  · rename_i allowed limiter journal after hstep
    exact orderly_ended lasting h hsound hsettings hflights
      ((SharedLimiter.turn_of_step hstep).served serving hsound hready)

theorem outstanding_exchanged_lt (hflights : s.flights = front ++ flight :: back) :
    outstanding (s.exchanged counting front flight back).flights < outstanding s.flights := by
  have hbefore : outstanding s.flights =
      outstanding front + (flight.call.phase.rank + 1 + outstanding back) := by
    rw [hflights, outstanding_append, outstanding]
  simp only [exchanged]
  split
  · rename_i next limiter journal after hstep
    have hrank : next.phase.rank < flight.call.phase.rank :=
      SharedLimiter.rank_step_lt (by rw [hstep])
    simp only [outstanding_append, outstanding]
    omega
  · simp only [outstanding_append]
    omega

end Exchanged

theorem Rush.orderly (hs : Rush counting settings arrival opened base s)
    (lasting : Lasting serving) (hlimit : 0 < settings.limit) :
    Orderly serving settings arrival opened base s := by
  induction hs with
  | start limiters s hsettings hnormal hsound hbase =>
      exact ⟨fun owner now hnow => isDegraded_of_normal (hnormal owner) hnow, by simp, by simp,
        hbase, rfl, rfl, .refl _⟩
  | begun hs owner clock hbucket hclock ih =>
      exact orderly_begun serving ih hlimit hs.tracked.2 owner hbucket hclock
  | exchanged hs front flight back hflights ih =>
      exact orderly_exchanged lasting ih hs.tracked.1 hs.tracked.2 hflights

-- All the calls that have been started can be brought to their ends.
theorem Rush.exists_ended (hs : Rush counting settings arrival opened base s) :
    ∃ t, Rush counting settings arrival opened base t ∧ t.started = s.started ∧ t.flights = [] := by
  induction hn : outstanding s.flights using Nat.strongRecOn generalizing s with
  | ind n ih =>
      subst hn
      cases hflights : s.flights with
      | nil => exact ⟨s, hs, rfl, hflights⟩
      | cons flight back =>
          have hlt : outstanding (s.exchanged counting [] flight back).flights <
              outstanding s.flights := outstanding_exchanged_lt hflights
          obtain ⟨t, ht, hstarted, hended⟩ :=
            ih _ hlt (hs.exchanged [] flight back hflights) rfl
          refine ⟨t, ht, hstarted.trans ?_, hended⟩
          simp only [Instances.exchanged]
          split <;> rfl

theorem countP_within_limit (limit base n : Nat) :
    ((List.range' (base + 1) n).map Int.ofNat).countP
        (fun count => decide (count ≤ (limit : Int))) = min n (limit - base) := by
  induction n with
  | zero => simp
  | succ n ih =>
      rw [List.range'_1_concat, List.map_append, List.countP_append, ih]
      by_cases hroom : base + 1 + n ≤ limit
      · have hroom' : (Int.ofNat (base + 1 + n)) ≤ (limit : Int) := by
          simpa using Int.ofNat_le.mpr hroom
        simp only [List.map_cons, List.map_nil, List.countP_singleton, hroom', decide_true, if_true]
        omega
      · have hroom' : ¬(Int.ofNat (base + 1 + n)) ≤ (limit : Int) := by
          simpa using fun hle => hroom (Int.ofNat_le.mp hle)
        simp only [List.map_cons, List.map_nil, List.countP_singleton, hroom', decide_false]
        simp
        omega

-- However many instances take part, and in whatever order their calls come to the store,
-- the calls are counted one after the other, each once. So the limit is used up exactly,
-- nobody is in degraded mode at any time, and no order of exchanges goes on for ever.
theorem crowd_counted_exactly (lasting : Lasting serving) (hlimit : 0 < settings.limit)
    (hs : Rush counting settings arrival opened base s) :
    (s.flights = [] →
      s.counts = (List.range' (base + 1) s.started).map Int.ofNat ∧
      (s.answers.map Prod.fst).Perm (List.range s.started) ∧
      s.answers.countP Prod.snd = min s.started (settings.limit - base)) ∧
    (∀ (owner : ι) (now : Span), (opened owner).nanos ≤ now.nanos →
      (s.limiters owner).breaker.state now = .normal) ∧
    ∀ front flight back, s.flights = front ++ flight :: back →
      outstanding (s.exchanged counting front flight back).flights < outstanding s.flights := by
  have horderly := hs.orderly lasting hlimit
  refine ⟨fun hended => ?_, fun owner now hnow => ?_, fun front flight back hflights =>
    outstanding_exchanged_lt hflights⟩
  · have honce := horderly.once
    rw [numbers, hended, List.map_nil, List.append_nil] at honce
    have hlength : s.answers.length = s.started := by simpa using honce.length_eq
    have hcounts := horderly.counts
    rw [hlength] at hcounts
    refine ⟨hcounts, honce, ?_⟩
    calc
      s.answers.countP Prod.snd = (s.answers.map Prod.snd).countP id := by
        rw [List.countP_map]
        rfl
      _ = s.counts.countP fun count => decide (count ≤ (settings.limit : Int)) := by
        rw [horderly.decided, List.countP_map]
        rfl
      _ = min s.started (settings.limit - base) := by rw [hcounts, countP_within_limit]
  · have hcalm := horderly.calm owner now hnow
    cases hstate : (s.limiters owner).breaker.state now with
    | normal => rfl
    | degraded deadline => simp [Breaker.isDegraded, hstate] at hcalm

-- Two instances, one of them with a handle that the store does not know, and a limit of one.
theorem two_instances_counted_exactly :
    ∃ s : Instances Bool KeyStore,
      s.counts = [1, 2] ∧ s.answers.countP Prod.snd = 1 ∧
      (∀ owner, (s.limiters owner).breaker.state .zero = .normal) := by
  let settings : SharedSettings := ⟨1, "budget", 120, .ofSeconds 30, false⟩
  let limiters : Bool → SharedLimiter := fun owner =>
    { SharedLimiter.fresh settings with handle := if owner then some "lost" else none }
  have hfresh : Rush KeyStore.counting settings ⟨1, ⟨"203.0.113.5"⟩⟩ (fun _ => .zero) 0
      ⟨limiters, {}, 0, [], []⟩ :=
    .start limiters ({} : KeyStore) (fun _ => rfl) (fun _ => rfl) KeyStore.sound_empty
      (KeyStore.counters_empty _)
  have hbegun := (hfresh.begun true ⟨60, 0⟩ (by decide) (Nat.zero_le _)).begun false ⟨119, 0⟩
    (by decide) (Nat.zero_le _)
  obtain ⟨s, hs, hstarted, hended⟩ := hbegun.exists_ended
  obtain ⟨hcounted, hnormal, -⟩ := crowd_counted_exactly KeyStore.lasting (by decide) hs
  obtain ⟨hcounts, -, hadmitted⟩ := hcounted hended
  have htwo : s.started = 2 := hstarted.trans rfl
  rw [htwo] at hcounts hadmitted
  exact ⟨s, hcounts, hadmitted, fun owner => hnormal owner .zero (Nat.le_refl _)⟩

end Instances

end AdmissionControl.RateLimit
