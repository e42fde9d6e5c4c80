import AdmissionControl.Proofs.Shared.Instances
import AdmissionControl.Proofs.Shared.Serving

namespace AdmissionControl.RateLimit

open Identity

namespace Instances

variable {ι σ : Type} [DecidableEq ι] {store : CounterStore σ} {counting : Counting store}
variable {settings : SharedSettings} {base : String → Nat} {s t : Instances ι σ}

-- A denial is explained by a count over the limit that was returned to the very
-- call, so that others have counted the key up to the limit before.
def Explained (limit : Nat) (base : String → Nat) (log : List Mark) : Prop :=
  ∀ earlier number used, earlier ++ [.answered number used false] <+: log →
    ∃ (before : List Mark) (handle key : String) (secondsKept : UInt64) (count : Int),
      used = some key ∧
      earlier = before ++ [.exchanged number
        (.evaluate handle key secondsKept (.ok count)) (some key)] ∧
      limit < count ∧
      limit ≤ base key +
        before.countP fun mark => mark.grows key && mark.number != number

-- While failures deny, whoever is let in has been counted within the limit. So
-- there are no more of them than the counter says.
theorem admitted_step (h : Step counting s t) (hs : Tracked counting settings base s)
    (hclosed : settings.failOpen = false) (key : String)
    (hadmitted : s.log.countP (Mark.admits key) ≤
      min (counting.counters s.store key) settings.limit) :
    t.log.countP (Mark.admits key) ≤ min (counting.counters t.store key) settings.limit := by
  cases h with
  | begun owner clock client call hstart => exact hadmitted
  | passed owner clock client allowed hstart => simpa [Mark.admits] using hadmitted
  | asked front back flight next limiter journal after hflights hstep =>
      have hcounters := counters_turn hs.sound (SharedLimiter.turn_of_step hstep) key
      simp only [List.countP_append, List.countP_cons, List.countP_nil, markOf, Mark.admits,
        Bool.false_eq_true, ite_false]
      omega
  | ended front back flight allowed limiter journal after hflights hstep =>
      have hturn := SharedLimiter.turn_of_step hstep
      have hcounters := counters_turn hs.sound hturn key
      have hsettings := hs.settings flight.owner
      simp only [List.countP_append, List.countP_cons, List.countP_nil, markOf, Mark.admits,
        Bool.false_eq_true, ite_false, Nat.zero_add, Nat.add_zero, beq_iff_eq, Option.some.injEq,
        Bool.and_eq_true]
      rcases answer_of_turn hs.sound hturn rfl with
        hpolicy | ⟨handle, count, -, hallowed, hcount, hgrown⟩
      · rw [hsettings, hclosed] at hpolicy
        simp only [hpolicy, Bool.false_eq_true, and_false, ite_false]
        omega
      · rw [hsettings] at hallowed
        by_cases hk : flight.call.key = key
        · rw [← hk] at hcounters hadmitted ⊢
          rw [if_pos hgrown] at hcounters
          by_cases hroom : count ≤ settings.limit
          · rw [if_pos ⟨rfl, by simpa [hallowed] using hroom⟩]
            omega
          · rw [if_neg (by simp [hallowed, hroom])]
            omega
        · rw [if_neg fun h => hk h.1]
          omega
  | disturbed after hsound hcounters => simpa only [hcounters] using hadmitted

-- While failures deny, a call that has asked the store nothing is turned away.
theorem keyless_step (h : Step counting s t) (hs : Tracked counting settings base s)
    (hclosed : settings.failOpen = false) (hlimit : 0 < settings.limit)
    (hkeyless : ∀ number, .answered number none true ∉ s.log) :
    ∀ number, .answered number none true ∉ t.log := by
  intro number
  cases h with
  | begun owner clock client call hstart => exact hkeyless number
  | passed owner clock client allowed hstart =>
      have hdenied : allowed = false := by
        simp only [SharedLimiter.start, SharedLimiter.isEnabled, hs.settings owner, hclosed,
          hlimit] at hstart
        split_ifs at hstart <;> simp_all
      simp [hkeyless number, hdenied]
  | asked front back flight next limiter journal after hflights hstep =>
      simp [hkeyless number, markOf]
  | ended front back flight allowed limiter journal after hflights hstep =>
      simp [hkeyless number, markOf]
  | disturbed after hsound hcounters => exact hkeyless number

theorem explained_concat {limit : Nat} {log : List Mark} {mark : Mark}
    (h : Explained limit base log) (hmark : ∀ number used, mark ≠ .answered number used false) :
    Explained limit base (log ++ [mark]) := by
  intro earlier number used hprefix
  rcases List.prefix_concat_iff.mp hprefix with he | hprefix
  · have hlast := List.cons.inj (List.append_inj' he rfl).2
    exact absurd hlast.1.symm (hmark number used)
  · exact h earlier number used hprefix

-- While failures allow and the limiter is in use, only a count denies.
theorem explained_step (h : Step counting s t) (hs : Tracked counting settings base s)
    (hnumbered : Numbered s) (hopen : settings.failOpen = true)
    (hexplained : Explained settings.limit base s.log) :
    Explained settings.limit base t.log := by
  cases h with
  | begun owner clock client call hstart => exact hexplained
  | passed owner clock client allowed hstart =>
      have hallowed : allowed = true := by
        simp only [SharedLimiter.start, hs.settings owner, hopen] at hstart
        split_ifs at hstart <;> simp_all
      exact explained_concat hexplained (by simp [hallowed])
  | asked front back flight next limiter journal after hflights hstep =>
      exact explained_concat hexplained (by simp [markOf])
  | ended front back flight allowed limiter journal after hflights hstep =>
      have hturn := SharedLimiter.turn_of_step hstep
      have hsettings := hs.settings flight.owner
      have hexchanged : Explained settings.limit base
          (s.log ++ [markOf counting s flight after]) :=
        explained_concat hexplained (by simp [markOf])
      rcases answer_of_turn hs.sound hturn rfl with
        hpolicy | ⟨handle, count, hexchange, hallowed, hcount, hgrown⟩
      · rw [hsettings, hopen] at hpolicy
        exact explained_concat hexchanged (by simp [hpolicy])
      · rw [hsettings] at hallowed
        intro earlier number used hprefix
        rcases List.prefix_concat_iff.mp hprefix with he | hprefix
        · obtain ⟨rfl, hlast⟩ := List.append_inj' he rfl
          obtain ⟨rfl, rfl, hdenied⟩ : number = flight.number ∧ used = some flight.call.key ∧
              allowed = false := by simpa using hlast
          have hover : settings.limit < count := by
            rw [hdenied] at hallowed
            simpa using hallowed
          -- the call itself has not made the counter grow before
          have hothers : s.log.countP (Mark.grows flight.call.key) =
              s.log.countP fun mark => mark.grows flight.call.key &&
                mark.number != flight.number := by
            apply List.countP_congr
            intro mark hm
            have hpending := hnumbered.pending mark hm
            by_cases hn : mark.number = flight.number
            · simp [hpending (by simp [hn, numbers, hflights]), hn]
            · simp [hn]
          refine ⟨s.log, handle, flight.call.key, (s.limiters flight.owner).settings.secondsKept,
            count, rfl, ?_, hover, ?_⟩
          · rw [markOf, hexchange, hgrown]
          · have hbase := hs.counters flight.call.key
            omega
        · exact hexchanged earlier number used hprefix
  | disturbed after hsound hcounters => exact hexplained

-- A call that has the store to itself is answered, and nothing else has come of it.
structure Answered (s : Instances ι σ) (number : Nat) (owner : ι) (used : String)
    (result : Bool × SharedLimiter × σ × Journal) (t : Instances ι σ) : Prop where
  flights : t.flights = []
  limiters : t.limiters = Function.update s.limiters owner result.2.1
  store : t.store = result.2.2.1
  answered : .answered number (some used) result.1 ∈ t.log
  admitted : ∀ key, t.log.countP (Mark.admits key) =
    s.log.countP (Mark.admits key) + if used = key ∧ result.1 = true then 1 else 0

-- The only call on its way can have all its exchanges, one after the other.
theorem Reachable.exists_finished (hs : Reachable counting settings base s) {flight : Flight ι}
    (hflights : s.flights = [flight]) :
    ∃ t, Reachable counting settings base t ∧
      Answered s flight.number flight.owner flight.call.key
        (SharedLimiter.finish store s.store (s.limiters flight.owner) flight.call) t := by
  -- the rank of the phase falls with each exchange
  induction hrank : flight.call.phase.rank using Nat.strongRecOn generalizing s flight with
  | ind rank ih =>
      rcases hstep : SharedLimiter.step store s.store (s.limiters flight.owner) flight.call with
        ⟨⟨progress, limiter, journal⟩, after⟩
      cases progress with
      | answered allowed =>
          have hended :=
            hs.step (.ended s [] [] flight allowed limiter journal after hflights hstep)
          rw [SharedLimiter.finish_of_answered hstep]
          refine ⟨_, hended, rfl, rfl, rfl, by simp, fun key => ?_⟩
          simp [markOf, Mark.admits, List.countP_append, List.countP_cons]
      | asking next =>
          have hasked := hs.step (.asked s [] [] flight next limiter journal after hflights hstep)
          have hlt : next.phase.rank < rank := by
            rw [← hrank]
            exact SharedLimiter.rank_step_lt (by rw [hstep])
          have hkey := (SharedLimiter.turn_of_step hstep).key_of_asking rfl
          obtain ⟨t, ht, hanswered⟩ := ih _ hlt hasked rfl rfl
          simp only [Function.update_self, hkey] at hanswered
          rw [SharedLimiter.finish_of_asking hstep]
          refine ⟨t, ht, hanswered.flights, ?_, hanswered.store, hanswered.answered, fun key => ?_⟩
          · rw [hanswered.limiters, Function.update_idem]
          · rw [hanswered.admitted key]
            simp [markOf, Mark.admits, List.countP_append]

-- So what a limiter does with one request after the other is a run of the instances.
theorem Reachable.exists_answered (hs : Reachable counting settings base s)
    (hidle : s.flights = []) {owner : ι} {clock : Clock} {client : Client} {call : Call}
    (hstart : (s.limiters owner).start clock client = .asking call) :
    ∃ t, Reachable counting settings base t ∧
      Answered s s.started owner call.key
        ((s.limiters owner).allow store s.store clock client) t := by
  have hbegun := hs.step (.begun s owner clock client call hstart)
  obtain ⟨t, ht, hanswered⟩ := hbegun.exists_finished (by rw [hidle, List.nil_append])
  refine ⟨t, ht, ?_⟩
  simp only [SharedLimiter.allow, hstart]
  exact ⟨hanswered.flights, hanswered.limiters, hanswered.store, hanswered.answered,
    hanswered.admitted⟩

-- Over a store without faults the count of the very request decides.
theorem Reachable.exists_counted (serving : Serving counting)
    (hs : Reachable counting settings base s) (hidle : s.flights = []) (hlimit : 0 < settings.limit)
    (owner : ι) (clock : Clock)
    (hcalm : (s.limiters owner).breaker.isDegraded clock.monotonic = false) (client : Client) :
    let used := SharedLimiter.key settings clock.bucket client
    ∃ t result, Reachable counting settings base t ∧
      Answered s s.started owner used result t ∧
      result.1 = decide (counting.counters s.store used + 1 ≤ settings.limit) ∧
      counting.counters t.store = bumped (counting.counters s.store) used := by
  intro used
  have hsettings := hs.tracked.settings owner
  have henabled : (s.limiters owner).isEnabled = true := by
    rw [SharedLimiter.isEnabled, hsettings]
    exact decide_eq_true hlimit
  obtain ⟨phase, hstart, -⟩ := SharedLimiter.start_of_calm henabled hcalm client
  rw [hsettings] at hstart
  obtain ⟨hallowed, -, -, -, hcounters⟩ :=
    SharedLimiter.allow_of_serving serving hs.tracked.sound henabled clock hcalm client
  rw [hsettings] at hallowed hcounters
  obtain ⟨t, ht, hanswered⟩ := hs.exists_answered hidle hstart
  exact ⟨t, _, ht, hanswered, hallowed, hanswered.store ▸ hcounters⟩

-- Two limiters over a store without faults, and a limit of one. The first call of one is let
-- in, and then the first call of the other is not.
theorem exists_reachable_denied (settings : SharedSettings) (hlimit : settings.limit = 1)
    (clock : Clock) (client : Client) :
    let key := SharedLimiter.key settings clock.bucket client
    ∃ s : Instances Bool ScriptedStore,
      Reachable ScriptedStore.faultless settings (fun _ => 0) s ∧
      s.log.countP (Mark.admits key) = 1 ∧ ∃ number, .answered number (some key) false ∈ s.log := by
  intro key
  have hpositive : 0 < settings.limit := by omega
  have hempty (used : String) : ScriptedStore.faultless.counters {} used = 0 := by
    simp [ScriptedStore.faultless, ScriptedStore.counters]
  have hfresh : Reachable ScriptedStore.faultless settings (fun _ => 0)
      ⟨fun _ : Bool => .fresh settings, {}, 0, [], []⟩ :=
    .start _ _ (fun _ => rfl) ⟨⟨by simp, by simp⟩, rfl, rfl, rfl, rfl⟩ (funext hempty)
  have hcalm : (SharedLimiter.fresh settings).breaker.isDegraded clock.monotonic = false := rfl
  obtain ⟨s, first, hs, hfirst, hallowed, hcounters⟩ :=
    hfresh.exists_counted ScriptedStore.serving rfl hpositive false clock hcalm client
  have hother : s.limiters true = .fresh settings := by rw [hfirst.limiters]; rfl
  obtain ⟨t, second, ht, hsecond, hdenied, -⟩ :=
    hs.exists_counted ScriptedStore.serving hfirst.flights hpositive true clock
      (by rw [hother]; exact hcalm) client
  rw [hempty, hlimit] at hallowed
  rw [hcounters, bumped_self, hempty, hlimit] at hdenied
  have hin : first.1 = true := hallowed
  have hout : second.1 = false := hdenied
  refine ⟨t, ht, ?_, s.started, hout ▸ hsecond.answered⟩
  rw [hsecond.admitted, hfirst.admitted, hin, hout]
  simp [key]

-- Whatever goes wrong, failures that deny let no more calls of one key in than the
-- limit and none without a key, and failures that allow deny nobody but by a count
-- over the limit.
theorem budget_kept (hs : Reachable counting settings base s) (hlimit : 0 < settings.limit) :
    (settings.failOpen = false →
      (∀ key, s.log.countP (Mark.admits key) ≤ settings.limit) ∧
      ∀ number, .answered number none true ∉ s.log) ∧
    (settings.failOpen = true → Explained settings.limit base s.log) := by
  refine ⟨fun hclosed => ⟨fun key => ?_, ?_⟩, fun hopen => ?_⟩
  · have hadmitted : s.log.countP (Mark.admits key) ≤
        min (counting.counters s.store key) settings.limit := by
      induction hs with
      | start limiters s hsettings hsound hbase => simp
      | step hs h ih => exact admitted_step h hs.tracked hclosed key ih
    omega
  · induction hs with
    | start limiters s hsettings hsound hbase => simp
    | step hs h ih => exact keyless_step h hs.tracked hclosed hlimit ih
  · induction hs with
    | start limiters s hsettings hsound hbase =>
        intro earlier number used hprefix
        simp at hprefix
    | step hs h ih => exact explained_step h hs.tracked hs.numbered hopen ih

-- Of two requests of one client the second is denied, whatever becomes of failures.
theorem budget_of_one_kept :
    (∃ s : Instances Bool ScriptedStore,
      s.log.countP (Mark.admits "budget:1:203.0.113.5") = 1 ∧
      ∀ key, s.log.countP (Mark.admits key) ≤ 1) ∧
    ∃ s : Instances Bool ScriptedStore,
      s.log.countP (Mark.admits "budget:1:203.0.113.5") = 1 ∧
      (∃ number, .answered number (some "budget:1:203.0.113.5") false ∈ s.log) ∧
      Explained 1 (fun _ => 0) s.log := by
  obtain ⟨closed, hclosed, hone, -⟩ := exists_reachable_denied
    ⟨1, "budget", 120, .ofSeconds 30, false⟩ rfl (.startingAt 60) ⟨"203.0.113.5"⟩
  obtain ⟨opened, hopened, hother, hdenied⟩ := exists_reachable_denied
    ⟨1, "budget", 120, .ofSeconds 30, true⟩ rfl (.startingAt 60) ⟨"203.0.113.5"⟩
  exact ⟨⟨closed, hone, ((budget_kept hclosed (by decide)).1 rfl).1⟩,
    opened, hother, hdenied, (budget_kept hopened (by decide)).2 rfl⟩

end Instances

end AdmissionControl.RateLimit
