import AdmissionControl.Proofs.Window.Standing

namespace AdmissionControl.RateLimit

open Identity

namespace LocalLimiter

-- The window of an arrival that has been counted was taken away by a later one.
def Lost (limiter : LocalLimiter) (arrivals : List Arrival) (arrival : Arrival) : Prop :=
  ∃ earlier next, earlier ++ [next] <+: arrivals ∧ arrival ∈ earlier ∧
    (limiter.after earlier).Displaces next arrival

-- A client is counted from one again in a bucket in which it has been counted.
def CountedAnew (limiter : LocalLimiter) (arrivals : List Arrival) (arrival : Arrival) : Prop :=
  ∃ earlier, earlier ++ [arrival] <+: arrivals ∧ limiter.Lost earlier arrival

theorem lost_concat (limiter : LocalLimiter) (arrivals : List Arrival) (next arrival : Arrival) :
    limiter.Lost (arrivals ++ [next]) arrival ↔ limiter.Lost arrivals arrival ∨
      (arrival ∈ arrivals ∧ (limiter.after arrivals).Displaces next arrival) := by
  constructor
  · rintro ⟨earlier, last, hprefix, hmem, hd⟩
    rcases List.prefix_concat_iff.mp hprefix with he | hprefix
    · obtain ⟨rfl, rfl⟩ : earlier = arrivals ∧ last = next := by simpa using he
      exact Or.inr ⟨hmem, hd⟩
    · exact Or.inl ⟨earlier, last, hprefix, hmem, hd⟩
  · rintro (⟨earlier, last, hprefix, hmem, hd⟩ | ⟨hmem, hd⟩)
    · exact ⟨earlier, last, hprefix.trans (List.prefix_append _ _), hmem, hd⟩
    · exact ⟨arrivals, next, List.prefix_refl _, hmem, hd⟩

theorem countedAnew_concat (limiter : LocalLimiter) (arrivals : List Arrival)
    (next arrival : Arrival) :
    limiter.CountedAnew (arrivals ++ [next]) arrival ↔ limiter.CountedAnew arrivals arrival ∨
      (next = arrival ∧ limiter.Lost arrivals arrival) := by
  constructor
  · rintro ⟨earlier, hprefix, hlost⟩
    rcases List.prefix_concat_iff.mp hprefix with he | hprefix
    · obtain ⟨rfl, rfl⟩ : earlier = arrivals ∧ arrival = next := by simpa using he
      exact Or.inr ⟨rfl, hlost⟩
    · exact Or.inl ⟨earlier, hprefix, hlost⟩
  · rintro (⟨earlier, hprefix, hlost⟩ | ⟨rfl, hlost⟩)
    · exact ⟨earlier, hprefix.trans (List.prefix_append _ _), hlost⟩
    · exact ⟨arrivals, List.prefix_refl _, hlost⟩

section Overrun

variable {limit : Nat} {arrivals : List Arrival} {arrival : Arrival}

theorem not_displaces_self (limiter : LocalLimiter) (next : Arrival) :
    ¬limiter.Displaces next next := by simp [Displaces]

-- As long as no client is counted anew, a window either has all the requests of
-- its bucket or is gone, and then no request of the bucket has come since.
theorem whole_of_not_countedAnew
    (hwhole : ¬(withLimit limit).CountedAnew arrivals arrival) :
    ((withLimit limit).answers arrivals).count (arrival, true) =
      min (arrivals.count arrival) limit ∧
    ((withLimit limit).Lost arrivals arrival →
      ((withLimit limit).after arrivals).standing arrival = 0 ∧ 0 < arrivals.count arrival) ∧
    (¬(withLimit limit).Lost arrivals arrival →
      ((withLimit limit).after arrivals).standing arrival = arrivals.count arrival) := by
  induction arrivals using List.reverseRecOn with
  | nil => simp [answers, after, Lost]
  | append_singleton arrivals next ih =>
      rw [countedAnew_concat, not_or, not_and] at hwhole
      obtain ⟨hadmitted, hgone, hfull⟩ := ih hwhole.1
      rw [admitted_concat, after_concat, standing_count, count_concat, lost_concat, hadmitted]
      by_cases he : next = arrival
      · subst he
        have hkept := hwhole.2 rfl
        have hd := not_displaces_self ((withLimit limit).after arrivals) next
        have hstanding := hfull hkept
        simp only [hkept, hd, hstanding, and_false, or_false, false_implies, true_and, ite_true,
          ite_false, not_false_eq_true, forall_const, and_true]
        have hlimit : (withLimit limit).limit = limit := rfl
        split <;> omega
      · simp only [he, false_and, ite_false, Nat.add_zero, true_and]
        by_cases hd : ((withLimit limit).after arrivals).Displaces next arrival
        · simp only [hd, ite_true, and_true, true_and]
          refine ⟨fun hor => ?_, fun hnor => ?_⟩
          · rcases hor with hlost | hmem
            · exact (hgone hlost).2
            · exact List.count_pos_iff.mpr hmem
          · exact (List.count_eq_zero.mpr fun hmem => hnor (Or.inr hmem)).symm
        · simp only [hd, ite_false, and_false, or_false]
          exact ⟨hgone, hfull⟩

-- Once a client has been counted anew, its window has less than all of its
-- requests, so that it is let in once more when the limit is reached.
theorem short_of_countedAnew (hlimit : 0 < limit)
    (hanew : (withLimit limit).CountedAnew arrivals arrival) :
    ((withLimit limit).after arrivals).standing arrival < arrivals.count arrival ∧
    (arrivals.count arrival ≤ limit →
      ((withLimit limit).answers arrivals).count (arrival, true) = arrivals.count arrival) ∧
    (limit < arrivals.count arrival →
      limit < ((withLimit limit).answers arrivals).count (arrival, true)) := by
  induction arrivals using List.reverseRecOn with
  | nil =>
      obtain ⟨earlier, hprefix, -⟩ := hanew
      simp at hprefix
  | append_singleton arrivals next ih =>
      have hbound : (withLimit limit).limit = limit := rfl
      rw [admitted_concat, after_concat, standing_count, count_concat, hbound]
      by_cases hbefore : (withLimit limit).CountedAnew arrivals arrival
      · obtain ⟨hshort, hall, hover⟩ := ih hbefore
        by_cases he : next = arrival
        · subst he
          have hd := not_displaces_self ((withLimit limit).after arrivals) next
          simp only [hd, ite_false, ite_true, true_and]
          refine ⟨by omega, ?_, ?_⟩ <;> split <;> omega
        · simp only [he, false_and, ite_false, Nat.add_zero]
          refine ⟨?_, hall, hover⟩
          split <;> omega
      · -- this arrival is the first to be counted anew, and its window is gone
        rw [countedAnew_concat, or_iff_right hbefore] at hanew
        obtain ⟨rfl, hlost⟩ := hanew
        obtain ⟨hadmitted, hgone, -⟩ := whole_of_not_countedAnew hbefore
        obtain ⟨hzero, hpos⟩ := hgone hlost
        have hd := not_displaces_self ((withLimit limit).after arrivals) next
        simp only [hd, ite_false, ite_true, true_and, hadmitted, hzero]
        refine ⟨by omega, ?_, ?_⟩ <;> split <;> omega

theorem admitted_exceeds_iff (hlimit : 0 < limit) :
    limit < ((withLimit limit).answers arrivals).count (arrival, true) ↔
      limit < arrivals.count arrival ∧ (withLimit limit).CountedAnew arrivals arrival := by
  by_cases hanew : (withLimit limit).CountedAnew arrivals arrival
  · obtain ⟨-, hall, hover⟩ := short_of_countedAnew hlimit hanew
    simp only [hanew, and_true]
    refine ⟨fun hlt => ?_, hover⟩
    by_contra hle
    have := hall (by omega)
    omega
  · obtain ⟨hadmitted, -, -⟩ := whole_of_not_countedAnew hanew
    simp only [hanew, and_false, iff_false, hadmitted]
    omega

end Overrun

end LocalLimiter

-- Callers of one limiter. A call first reads the wall clock and then waits until
-- it is counted. In between the clock may go on and others may be counted.
structure Callers where
  clock : Clock
  limiter : LocalLimiter
  waiting : List Arrival
  answered : List (Arrival × Bool)

namespace Callers

def start (limit : Nat) (clock : Clock) : Callers := ⟨clock, .withLimit limit, [], []⟩

-- The two steps of a call, for any caller at any time, and the clock, which does
-- not go backwards.
inductive Step : Callers → Callers → Prop where
  | passed (s : Callers) (clock : Clock) (hforward : s.clock.unixSeconds ≤ clock.unixSeconds) :
      Step s { s with clock }
  | read (s : Callers) (client : Client) :
      Step s { s with waiting := ⟨s.clock.bucket, client⟩ :: s.waiting }
  | counted (s : Callers) (front back : List Arrival) (next : Arrival)
      (hwaiting : s.waiting = front ++ next :: back) :
      Step s { s with
        limiter := (s.limiter.count next.bucket next.client).2
        waiting := front ++ back
        answered := s.answered ++ [(next, (s.limiter.count next.bucket next.client).1)] }

inductive Reachable (limit : Nat) : Callers → Prop where
  | start (clock : Clock) : Reachable limit (start limit clock)
  | step {s t : Callers} (hs : Reachable limit s) (h : Step s t) : Reachable limit t

def arrivals (s : Callers) : List Arrival := s.answered.map Prod.fst

-- The counters and the answers are those of the calls in the order in which they
-- were counted, whenever they have read the clock.
def Replayed (limit : Nat) (s : Callers) : Prop :=
  s.limiter = (LocalLimiter.withLimit limit).after s.arrivals ∧
  s.answered = (LocalLimiter.withLimit limit).answers s.arrivals

theorem Step.replayed {limit : Nat} {s t : Callers} (h : Step s t) (hs : s.Replayed limit) :
    t.Replayed limit := by
  cases h with
  | passed clock hforward => exact hs
  | read client => exact hs
  | counted front back next hwaiting =>
      obtain ⟨hlimiter, hanswered⟩ := hs
      simp only [Replayed, arrivals, List.map_append, List.map_cons, List.map_nil] at *
      rw [LocalLimiter.after_concat, LocalLimiter.answers_concat, ← hlimiter, ← hanswered,
        LocalLimiter.count_fst]
      exact ⟨rfl, by rw [hlimiter, LocalLimiter.after_limit]⟩

theorem Reachable.replay {limit : Nat} {s : Callers} (hs : Reachable limit s) :
    s.limiter = (LocalLimiter.withLimit limit).after s.arrivals ∧
    s.answered = (LocalLimiter.withLimit limit).answers s.arrivals := by
  induction hs with
  | start clock => exact ⟨rfl, rfl⟩
  | step hs h ih => exact h.replayed ih

-- More than `limit` requests of a client are let in with one bucket exactly if
-- more than that have read it and the client was counted anew: between two of
-- them its window was taken away by a call that read another bucket.
theorem admitted_exceeds_limit_iff (limit : Nat) (s : Callers) (hlimit : 0 < limit)
    (hs : Reachable limit s) (client : Client) (bucket : UInt64) :
    limit < s.answered.count (⟨bucket, client⟩, true) ↔
      limit < s.arrivals.count ⟨bucket, client⟩ ∧
      (LocalLimiter.withLimit limit).CountedAnew s.arrivals ⟨bucket, client⟩ := by
  rw [hs.replay.2]
  exact LocalLimiter.admitted_exceeds_iff hlimit

-- Two calls read the first minute. One of them is counted only after a call of
-- the next minute.
def overtaken : Callers :=
  let early : Arrival := ⟨1, ⟨"203.0.113.5"⟩⟩
  let late : Arrival := ⟨2, ⟨"203.0.113.5"⟩⟩
  ⟨⟨120, 0⟩, (LocalLimiter.withLimit 1).after [early, late, early], [],
    (LocalLimiter.withLimit 1).answers [early, late, early]⟩

theorem reachable_overtaken : Reachable 1 overtaken := by
  have h₀ : Reachable 1 (start 1 ⟨60, 0⟩) := .start _
  have h₁ := (h₀.step (.read _ ⟨"203.0.113.5"⟩)).step (.read _ ⟨"203.0.113.5"⟩)
  have h₂ := h₁.step (.counted _ [] [⟨1, ⟨"203.0.113.5"⟩⟩] ⟨1, ⟨"203.0.113.5"⟩⟩ rfl)
  have h₃ := (h₂.step (.passed _ ⟨120, 0⟩ (by decide))).step (.read _ ⟨"203.0.113.5"⟩)
  have h₄ := h₃.step (.counted _ [] [⟨1, ⟨"203.0.113.5"⟩⟩] ⟨2, ⟨"203.0.113.5"⟩⟩ rfl)
  exact h₄.step (.counted _ [] [] ⟨1, ⟨"203.0.113.5"⟩⟩ rfl)

theorem arrivals_overtaken :
    overtaken.arrivals = [⟨1, ⟨"203.0.113.5"⟩⟩, ⟨2, ⟨"203.0.113.5"⟩⟩, ⟨1, ⟨"203.0.113.5"⟩⟩] :=
  LocalLimiter.map_fst_answers _ _

theorem countedAnew_overtaken :
    (LocalLimiter.withLimit 1).CountedAnew overtaken.arrivals ⟨1, ⟨"203.0.113.5"⟩⟩ := by
  rw [arrivals_overtaken]
  refine ⟨[⟨1, ⟨"203.0.113.5"⟩⟩, ⟨2, ⟨"203.0.113.5"⟩⟩], List.prefix_refl _, ?_⟩
  refine ⟨[⟨1, ⟨"203.0.113.5"⟩⟩], ⟨2, ⟨"203.0.113.5"⟩⟩, List.prefix_refl _, by simp, ?_⟩
  exact Or.inl ⟨rfl, by decide⟩

theorem overtaken_exceeds_limit :
    0 < 1 ∧ Reachable 1 overtaken ∧
    1 < overtaken.answered.count (⟨1, ⟨"203.0.113.5"⟩⟩, true) := by
  refine ⟨by decide, reachable_overtaken, ?_⟩
  exact (admitted_exceeds_limit_iff 1 overtaken (by decide) reachable_overtaken _ _).mpr
    ⟨by rw [arrivals_overtaken]; decide, countedAnew_overtaken⟩

-- So a clock that never goes back does not keep a bucket to its limit.
theorem limit_not_kept_across_minutes :
    ¬∀ (limit : Nat) (s : Callers), 0 < limit → Reachable limit s →
      ∀ (client : Client) (bucket : UInt64),
        s.answered.count (⟨bucket, client⟩, true) ≤ limit := by
  intro hkept
  have hle := hkept 1 overtaken (by decide) reachable_overtaken ⟨"203.0.113.5"⟩ 1
  have hlt := (LocalLimiter.admitted_exceeds_iff (by decide)).mpr
    ⟨by rw [arrivals_overtaken]; decide, countedAnew_overtaken⟩
  rw [← reachable_overtaken.replay.2] at hlt
  omega

end Callers

end AdmissionControl.RateLimit
