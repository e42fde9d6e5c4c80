import AdmissionControl.Proofs.Shared.Counting
import AdmissionControl.Proofs.Shared.Turn
import Mathlib.Data.List.Nodup

namespace AdmissionControl.RateLimit

open Identity

-- A call that one of several instances has on its way.
structure Flight (ι : Type) where
  number : Nat
  owner : ι
  call : Call

-- What is seen of a run, in order: each exchange of a call with the store, with
-- the key whose counter it has made grow, and each answer, with the key that the
-- call has used.
inductive Mark where
  | exchanged (number : Nat) (exchange : Exchange) (grown : Option String)
  | answered (number : Nat) (used : Option String) (allowed : Bool)

namespace Mark

def number : Mark → Nat
  | .exchanged number _ _ | .answered number _ _ => number

def grows (key : String) : Mark → Bool
  | .exchanged _ _ grown => grown == some key
  | .answered .. => false

def admits (key : String) : Mark → Bool
  | .exchanged .. => false
  | .answered _ used allowed => used == some key && allowed

end Mark

-- Limiters that share one store. `started` numbers their calls.
structure Instances (ι σ : Type) where
  limiters : ι → SharedLimiter
  store : σ
  started : Nat
  flights : List (Flight ι)
  log : List Mark

namespace Instances

variable {ι σ : Type} {store : CounterStore σ} (counting : Counting store)

def grown (before after : σ) (key : String) : Option String :=
  if counting.counters after key = counting.counters before key then none else some key

def markOf (s : Instances ι σ) (flight : Flight ι) (after : σ) : Mark :=
  .exchanged flight.number
    (SharedLimiter.exchange store s.store (s.limiters flight.owner) flight.call)
    (grown counting s.store after flight.call.key)

-- Any instance may start a call at any time, with whatever its clock shows then.
-- Any call on its way may have its next exchange with the store. In between the
-- store may change in any way that leaves its counters alone.
inductive Step [DecidableEq ι] : Instances ι σ → Instances ι σ → Prop where
  | begun (s : Instances ι σ) (owner : ι) (clock : Clock) (client : Client) (call : Call)
      (hstart : (s.limiters owner).start clock client = .asking call) :
      Step s { s with
        started := s.started + 1
        flights := s.flights ++ [⟨s.started, owner, call⟩] }
  | passed (s : Instances ι σ) (owner : ι) (clock : Clock) (client : Client) (allowed : Bool)
      (hstart : (s.limiters owner).start clock client = .answered allowed) :
      Step s { s with
        started := s.started + 1
        log := s.log ++ [.answered s.started none allowed] }
  | asked (s : Instances ι σ) (front back : List (Flight ι)) (flight : Flight ι) (next : Call)
      (limiter : SharedLimiter) (journal : Journal) (after : σ)
      (hflights : s.flights = front ++ flight :: back)
      (hstep : SharedLimiter.step store s.store (s.limiters flight.owner) flight.call =
        (⟨.asking next, limiter, journal⟩, after)) :
      Step s { s with
        limiters := Function.update s.limiters flight.owner limiter
        store := after
        flights := front ++ { flight with call := next } :: back
        log := s.log ++ [markOf counting s flight after] }
  | ended (s : Instances ι σ) (front back : List (Flight ι)) (flight : Flight ι) (allowed : Bool)
      (limiter : SharedLimiter) (journal : Journal) (after : σ)
      (hflights : s.flights = front ++ flight :: back)
      (hstep : SharedLimiter.step store s.store (s.limiters flight.owner) flight.call =
        (⟨.answered allowed, limiter, journal⟩, after)) :
      Step s { s with
        limiters := Function.update s.limiters flight.owner limiter
        store := after
        flights := front ++ back
        log := s.log ++ [markOf counting s flight after] ++
          [.answered flight.number (some flight.call.key) allowed] }
  | disturbed (s : Instances ι σ) (after : σ) (hsound : counting.sound after)
      (hcounters : counting.counters after = counting.counters s.store) :
      Step s { s with store := after }

-- All that can come of instances with the same settings over one store whose
-- counters start at `base`.
inductive Reachable [DecidableEq ι] (settings : SharedSettings) (base : String → Nat) :
    Instances ι σ → Prop where
  | start (limiters : ι → SharedLimiter) (s : σ)
      (hsettings : ∀ owner, (limiters owner).settings = settings)
      (hsound : counting.sound s) (hbase : counting.counters s = base) :
      Reachable settings base ⟨limiters, s, 0, [], []⟩
  | step {s t : Instances ι σ} (hs : Reachable settings base s) (h : Step counting s t) :
      Reachable settings base t

def numbers (s : Instances ι σ) : List Nat := s.flights.map Flight.number

-- The counters are where the log has brought them.
structure Tracked (settings : SharedSettings) (base : String → Nat) (s : Instances ι σ) : Prop where
  settings : ∀ owner, (s.limiters owner).settings = settings
  sound : counting.sound s.store
  counters : ∀ key, counting.counters s.store key = base key + s.log.countP (Mark.grows key)

-- Calls are told apart by their numbers, and a call that is still on its way has
-- not made a counter grow.
structure Numbered (s : Instances ι σ) : Prop where
  numbers_lt : ∀ number ∈ s.numbers, number < s.started
  log_lt : ∀ mark ∈ s.log, mark.number < s.started
  nodup : s.numbers.Nodup
  pending : ∀ mark ∈ s.log, mark.number ∈ s.numbers → ∀ key, mark.grows key = false

section Turn

variable {counting} {s after : σ} {limiter : SharedLimiter} {call : Call} {exchange : Exchange}
variable {turn : RateLimit.Step}

theorem grown_eq_none (key : String) (h : counting.counters after = counting.counters s) :
    grown counting s after key = none := by
  simp [grown, h]

theorem grown_eq_some {key : String}
    (h : counting.counters after = bumped (counting.counters s) key) :
    grown counting s after key = some key := by
  simp [grown, h]

theorem kept_or_bumped (hsound : counting.sound s)
    (hturn : limiter.Turn store s call exchange turn after) :
    counting.counters after = counting.counters s ∨
    counting.counters after = bumped (counting.counters s) call.key := by
  cases hturn with
  | loaded again handle after hphase hstore =>
      exact Or.inl (counting.counters_load hsound hstore)
  | notLoaded again error after hphase hstore =>
      exact Or.inl (counting.counters_load hsound hstore)
  | counted handle again count after hphase hstore =>
      exact Or.inr (counting.counters_ok hsound hstore).2
  | scriptLost handle after hphase hstore =>
      exact Or.inl (counting.counters_unknownScript hsound hstore)
  | notCounted handle again error after hphase hstore hfinal =>
      exact counting.counters_error hsound hstore

-- No step makes another counter grow than that of its key, and this one by one.
theorem counters_turn (hsound : counting.sound s)
    (hturn : limiter.Turn store s call exchange turn after) (key : String) :
    counting.counters after key = counting.counters s key +
      if grown counting s after call.key = some key then 1 else 0 := by
  rcases kept_or_bumped hsound hturn with he | he
  · simp [grown_eq_none _ he, he]
  · by_cases hk : key = call.key
    · subst hk
      simp [grown_eq_some he, he]
    · simp [grown_eq_some he, he, bumped_of_ne _ hk, Ne.symm hk]

theorem sound_turn (hsound : counting.sound s)
    (hturn : limiter.Turn store s call exchange turn after) : counting.sound after := by
  cases hturn with
  | loaded again handle after hphase hstore => exact counting.sound_load hsound hstore
  | notLoaded again error after hphase hstore => exact counting.sound_load hsound hstore
  | counted handle again count after hphase hstore => exact counting.sound_evaluate hsound hstore
  | scriptLost handle after hphase hstore => exact counting.sound_evaluate hsound hstore
  | notCounted handle again error after hphase hstore hfinal =>
      exact counting.sound_evaluate hsound hstore

-- A call that goes on has not been counted.
theorem grown_of_asking {next : Call} (hsound : counting.sound s)
    (hturn : limiter.Turn store s call exchange turn after)
    (hprogress : turn.progress = .asking next) : grown counting s after call.key = none := by
  cases hturn with
  | loaded again handle after hphase hstore =>
      exact grown_eq_none _ (counting.counters_load hsound hstore)
  | scriptLost handle after hphase hstore =>
      exact grown_eq_none _ (counting.counters_unknownScript hsound hstore)
  | notLoaded again error after hphase hstore => cases hprogress
  | counted handle again count after hphase hstore => cases hprogress
  | notCounted handle again error after hphase hstore hfinal => cases hprogress

-- A call ends with the policy for failures or with its own count.
theorem answer_of_turn {allowed : Bool} (hsound : counting.sound s)
    (hturn : limiter.Turn store s call exchange turn after)
    (hprogress : turn.progress = .answered allowed) :
    allowed = limiter.settings.failOpen ∨
    ∃ (handle : String) (count : Int),
      exchange = .evaluate handle call.key limiter.settings.secondsKept (.ok count) ∧
      allowed = decide (count ≤ limiter.settings.limit) ∧
      count = counting.counters s call.key + 1 ∧
      grown counting s after call.key = some call.key := by
  cases hturn with
  | loaded again handle after hphase hstore => cases hprogress
  | scriptLost handle after hphase hstore => cases hprogress
  | notLoaded again error after hphase hstore =>
      cases hprogress
      exact Or.inl rfl
  | notCounted handle again error after hphase hstore hfinal =>
      cases hprogress
      exact Or.inl rfl
  | counted handle again count after hphase hstore =>
      cases hprogress
      obtain ⟨hcount, hcounters⟩ := counting.counters_ok hsound hstore
      exact Or.inr ⟨handle, count, rfl, rfl, hcount, grown_eq_some hcounters⟩

end Turn

variable {counting} {settings : SharedSettings} {base : String → Nat} {s t : Instances ι σ}

-- It is enough that no call comes on its way, and that what is new in the log is of
-- a call that has been numbered and has not made a counter grow if it goes on.
theorem Numbered.of_log (hs : Numbered s) (hstarted : s.started ≤ t.started)
    (hnumbers : t.numbers.Sublist s.numbers)
    (hlog : ∀ mark ∈ t.log, mark ∈ s.log ∨
      mark.number < t.started ∧ (mark.number ∈ t.numbers → ∀ key, mark.grows key = false)) :
    Numbered t := by
  refine ⟨fun number hn => ?_, fun mark hm => ?_, hs.nodup.sublist hnumbers, fun mark hm hn => ?_⟩
  · exact Nat.lt_of_lt_of_le (hs.numbers_lt number (hnumbers.subset hn)) hstarted
  · rcases hlog mark hm with hm | ⟨hlt, -⟩
    · exact Nat.lt_of_lt_of_le (hs.log_lt mark hm) hstarted
    · exact hlt
  · rcases hlog mark hm with hm | ⟨-, hgrows⟩
    · exact hs.pending mark hm (hnumbers.subset hn)
    · exact hgrows hn

theorem numbered_begun (hs : Numbered s) (owner : ι) (call : Call) :
    Numbered { s with
      started := s.started + 1
      flights := s.flights ++ [⟨s.started, owner, call⟩] } := by
  have hnumbers : numbers { s with
      started := s.started + 1
      flights := s.flights ++ [⟨s.started, owner, call⟩] } = s.numbers ++ [s.started] := by
    simp [numbers]
  refine ⟨?_, fun mark hm => Nat.lt_succ_of_lt (hs.log_lt mark hm), ?_, ?_⟩
  · rw [hnumbers]
    intro number hn
    rcases List.mem_append.mp hn with hn | hn
    · exact Nat.lt_succ_of_lt (hs.numbers_lt number hn)
    · simp_all
  · rw [hnumbers]
    refine List.nodup_append.mpr ⟨hs.nodup, by simp, ?_⟩
    intro number hn other ho he
    have := hs.numbers_lt number hn
    simp_all
  · rw [hnumbers]
    intro mark hm hn
    have hlt := hs.log_lt mark hm
    rcases List.mem_append.mp hn with hn | hn
    · exact hs.pending mark hm hn
    · simp_all

variable [DecidableEq ι]

theorem settings_update {limiters : ι → SharedLimiter} {limiter : SharedLimiter} (owner : ι)
    (hsettings : ∀ owner, (limiters owner).settings = settings)
    (hlimiter : limiter.settings = settings) :
    ∀ other, (Function.update limiters owner limiter other).settings = settings := by
  intro other
  by_cases he : other = owner
  · subst he
    simpa using hlimiter
  · simpa [he] using hsettings other

theorem tracked_turn {flight : Flight ι} {limiter : SharedLimiter} {progress : Progress}
    {journal : Journal} {after : σ} (hs : Tracked counting settings base s)
    (hstep : SharedLimiter.step store s.store (s.limiters flight.owner) flight.call =
      (⟨progress, limiter, journal⟩, after)) (flights : List (Flight ι)) :
    Tracked counting settings base { s with
      limiters := Function.update s.limiters flight.owner limiter
      store := after
      flights := flights
      log := s.log ++ [markOf counting s flight after] } := by
  have hturn := SharedLimiter.turn_of_step hstep
  refine ⟨?_, sound_turn hs.sound hturn, fun key => ?_⟩
  · exact settings_update _ hs.settings (hturn.settings.trans (hs.settings _))
  · rw [counters_turn hs.sound hturn key, hs.counters key]
    simp [Mark.grows, markOf, List.countP_append, List.countP_cons, Nat.add_assoc]

theorem tracked_step (h : Step counting s t) (hs : Tracked counting settings base s) :
    Tracked counting settings base t := by
  cases h with
  | begun owner clock client call hstart => exact ⟨hs.settings, hs.sound, hs.counters⟩
  | passed owner clock client allowed hstart =>
      refine ⟨hs.settings, hs.sound, fun key => ?_⟩
      simp [hs.counters key, Mark.grows]
  | asked front back flight next limiter journal after hflights hstep =>
      exact tracked_turn hs hstep _
  | ended front back flight allowed limiter journal after hflights hstep =>
      have hturned := tracked_turn hs hstep (front ++ back)
      refine ⟨hturned.settings, hturned.sound, fun key => ?_⟩
      rw [List.countP_append]
      simpa [Mark.grows] using hturned.counters key
  | disturbed after hsound hcounters =>
      exact ⟨hs.settings, hsound, fun key => by rw [hcounters]; exact hs.counters key⟩

theorem numbered_step (h : Step counting s t) (hsound : counting.sound s.store)
    (hs : Numbered s) : Numbered t := by
  cases h with
  | begun owner clock client call hstart => exact numbered_begun hs owner call
  | passed owner clock client allowed hstart =>
      refine hs.of_log (Nat.le_succ _) (List.Sublist.refl _) fun mark hm => ?_
      rcases List.mem_append.mp hm with hm | hm
      · exact Or.inl hm
      · rw [List.mem_singleton.mp hm]
        exact Or.inr ⟨Nat.lt_succ_self _, fun _ _ => rfl⟩
  | asked front back flight next limiter journal after hflights hstep =>
      have hgrown := grown_of_asking hsound (SharedLimiter.turn_of_step hstep) rfl
      have hnumber : flight.number ∈ s.numbers := by simp [numbers, hflights]
      have hnumbers : (front ++ { flight with call := next } :: back).map Flight.number =
          s.numbers := by simp [numbers, hflights]
      refine hs.of_log (Nat.le_refl _) (by simp only [numbers, hnumbers, List.Sublist.refl])
        fun mark hm => ?_
      rcases List.mem_append.mp hm with hm | hm
      · exact Or.inl hm
      · rw [List.mem_singleton.mp hm]
        exact Or.inr ⟨hs.numbers_lt _ hnumber, fun _ key => by simp [Mark.grows, markOf, hgrown]⟩
  | ended front back flight allowed limiter journal after hflights hstep =>
      have hnumbers : s.numbers = front.map Flight.number ++ flight.number ::
          back.map Flight.number := by simp [numbers, hflights]
      have hsub : ((front ++ back).map Flight.number).Sublist s.numbers := by
        rw [hnumbers, List.map_append]
        exact List.Sublist.append_left (List.sublist_cons_self _ _) _
      -- both new marks are of the call that is no longer on its way
      have hgone : flight.number ∉ (front ++ back).map Flight.number := by
        have hnodup := hs.nodup
        rw [hnumbers] at hnodup
        rw [List.map_append]
        exact (List.nodup_middle.mp hnodup).notMem
      have hended : ∀ mark : Mark, mark.number = flight.number → mark.number < s.started ∧
          (mark.number ∈ (front ++ back).map Flight.number → ∀ key, mark.grows key = false) := by
        intro mark he
        rw [he]
        exact ⟨hs.numbers_lt _ (by simp [hnumbers]), fun hn => absurd hn hgone⟩
      refine hs.of_log (Nat.le_refl _) hsub fun mark hm => ?_
      simp only [List.append_assoc, List.mem_append, List.mem_singleton] at hm
      rcases hm with hm | rfl | rfl
      · exact Or.inl hm
      · exact Or.inr (hended _ rfl)
      · exact Or.inr (hended _ rfl)
  | disturbed after hsound hcounters =>
      exact ⟨hs.numbers_lt, hs.log_lt, hs.nodup, hs.pending⟩

theorem Reachable.tracked (hs : Reachable counting settings base s) :
    Tracked counting settings base s := by
  induction hs with
  | start limiters s hsettings hsound hbase => exact ⟨hsettings, hsound, by simp [hbase]⟩
  | step hs h ih => exact tracked_step h ih

theorem Reachable.numbered (hs : Reachable counting settings base s) : Numbered s := by
  induction hs with
  | start limiters s hsettings hsound hbase =>
      exact ⟨by simp [numbers], by simp, by simp [numbers], by simp⟩
  | step hs h ih => exact numbered_step h hs.tracked.sound ih

end Instances

end AdmissionControl.RateLimit
