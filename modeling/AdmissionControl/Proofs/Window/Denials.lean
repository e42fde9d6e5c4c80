import AdmissionControl.Proofs.Window.Callers
import AdmissionControl.Proofs.Window.Minutes

namespace AdmissionControl.RateLimit

open Identity

namespace LocalLimiter

-- While these are counted, the window that `arrival` would go on with is not taken away.
def Keeps (limiter : LocalLimiter) (kept : List Arrival) (arrival : Arrival) : Prop :=
  ∀ front next, front ++ [next] <+: kept → ¬(limiter.after front).Displaces next arrival

section Stretch

variable {limiter : LocalLimiter} {kept : List Arrival} {next arrival : Arrival}

theorem keeps_nil (limiter : LocalLimiter) (arrival : Arrival) : limiter.Keeps [] arrival := by
  intro front next hbefore
  simp at hbefore

theorem keeps_concat_iff :
    limiter.Keeps (kept ++ [next]) arrival ↔
      limiter.Keeps kept arrival ∧ ¬(limiter.after kept).Displaces next arrival := by
  constructor
  · intro h
    refine ⟨fun front last hbefore => ?_, h kept next (List.prefix_refl _)⟩
    exact h front last (hbefore.trans (List.prefix_append _ _))
  · rintro ⟨hkept, hnext⟩ front last hbefore
    rcases List.prefix_concat_iff.mp hbefore with he | hbefore
    · obtain ⟨rfl, rfl⟩ : front = kept ∧ last = next := by simpa using he
      exact hnext
    · exact hkept front last hbefore

-- Counting a client in one bucket over and over takes nothing away from it.
theorem keeps_replicate (limiter : LocalLimiter) (n : Nat) (arrival : Arrival) :
    limiter.Keeps (List.replicate n arrival) arrival := by
  induction n with
  | zero => exact keeps_nil limiter arrival
  | succ n ih =>
      rw [List.replicate_succ']
      exact keeps_concat_iff.mpr ⟨ih, not_displaces_self _ _⟩

theorem standing_after_of_keeps (h : limiter.Keeps kept arrival) :
    (limiter.after kept).standing arrival = limiter.standing arrival + kept.count arrival := by
  induction kept using List.reverseRecOn with
  | nil => rfl
  | append_singleton kept next ih =>
      obtain ⟨hkept, hnext⟩ := keeps_concat_iff.mp h
      rw [after_concat, standing_count, if_neg hnext, ih hkept, count_concat]
      omega

theorem after_append (limiter : LocalLimiter) (earlier later : List Arrival) :
    limiter.after (earlier ++ later) = (limiter.after earlier).after later := by
  unfold after
  rw [List.foldl_append]

theorem answers_append (limiter : LocalLimiter) (earlier later : List Arrival) :
    limiter.answers (earlier ++ later) =
      limiter.answers earlier ++ (limiter.after earlier).answers later := by
  induction earlier generalizing limiter with
  | nil => rfl
  | cons first rest ih => exact congrArg (_ :: ·) (ih _)

end Stretch

section Denial

variable {limit : Nat} {arrivals : List Arrival} {arrival : Arrival}

-- The arrivals that stand in a window are those since it was last taken away.
theorem exists_keeps (limit : Nat) (arrivals : List Arrival) (arrival : Arrival) :
    ∃ dropped kept, arrivals = dropped ++ kept ∧
      ((withLimit limit).after dropped).Keeps kept arrival ∧
      ((withLimit limit).after arrivals).standing arrival = kept.count arrival := by
  induction arrivals using List.reverseRecOn with
  | nil => exact ⟨[], [], rfl, keeps_nil _ _, standing_withLimit limit arrival⟩
  | append_singleton arrivals next ih =>
      rw [after_concat, standing_count]
      by_cases hd : ((withLimit limit).after arrivals).Displaces next arrival
      · refine ⟨arrivals ++ [next], [], (List.append_nil _).symm, keeps_nil _ _, ?_⟩
        rw [if_pos hd]
        rfl
      · obtain ⟨dropped, kept, rfl, hkeeps, hstanding⟩ := ih
        refine ⟨dropped, kept ++ [next], List.append_assoc _ _ _, ?_, ?_⟩
        · rw [after_append] at hd
          exact keeps_concat_iff.mpr ⟨hkeeps, hd⟩
        · rw [if_neg hd, hstanding, count_concat]

theorem limit_lt_standing_iff :
    limit < ((withLimit limit).after arrivals).standing arrival ↔
      ∃ dropped kept, arrivals = dropped ++ kept ∧
        ((withLimit limit).after dropped).Keeps kept arrival ∧ limit < kept.count arrival := by
  constructor
  · intro hlt
    obtain ⟨dropped, kept, harrivals, hkeeps, hstanding⟩ := exists_keeps limit arrivals arrival
    exact ⟨dropped, kept, harrivals, hkeeps, by omega⟩
  · rintro ⟨dropped, kept, rfl, hkeeps, hlt⟩
    rw [after_append, standing_after_of_keeps hkeeps]
    omega

theorem answer_eq {earlier later : List (Arrival × Bool)} {allowed : Bool}
    (h : (withLimit limit).answers arrivals = earlier ++ (arrival, allowed) :: later) :
    allowed = decide
      (((withLimit limit).after (earlier.map Prod.fst ++ [arrival])).standing arrival ≤ limit) := by
  have harrivals : arrivals = earlier.map Prod.fst ++ arrival :: later.map Prod.fst := by
    have hmap := congrArg (List.map Prod.fst) h
    rwa [map_fst_answers, List.map_append, List.map_cons] at hmap
  have hlength : ((withLimit limit).answers (earlier.map Prod.fst)).length = earlier.length := by
    have hmap := congrArg List.length (map_fst_answers (withLimit limit) (earlier.map Prod.fst))
    rwa [List.length_map, List.length_map] at hmap
  rw [harrivals, answers_append] at h
  obtain ⟨-, htail⟩ := List.append_inj h hlength
  obtain ⟨-, hallowed⟩ := Prod.mk.inj (List.cons.inj htail).1
  rw [count_fst, after_limit] at hallowed
  rw [after_concat, standing_count, if_neg (not_displaces_self _ _), if_pos rfl, ← hallowed]
  rfl

-- An answer is a refusal exactly if the window is overdrawn with it.
theorem denied_iff {earlier later : List (Arrival × Bool)} {allowed : Bool}
    (h : (withLimit limit).answers arrivals = earlier ++ (arrival, allowed) :: later) :
    allowed = false ↔
      limit < ((withLimit limit).after (earlier.map Prod.fst ++ [arrival])).standing arrival := by
  rw [answer_eq h, decide_eq_false_iff_not, Nat.not_le]

end Denial

end LocalLimiter

namespace Callers

-- Before any step the clock may be set to any time, later or earlier.
inductive Drift : Callers → Callers → Prop where
  | set (s : Callers) (clock : Clock) : Drift s { s with clock }
  | step {s t : Callers} (h : Step s t) : Drift s t

inductive Drifted (limit : Nat) : Callers → Prop where
  | start (clock : Clock) : Drifted limit (start limit clock)
  | drift {s t : Callers} (hs : Drifted limit s) (h : Drift s t) : Drifted limit t

variable {limit : Nat} {s t : Callers}

theorem Drift.replayed (h : Drift s t) (hs : s.Replayed limit) : t.Replayed limit := by
  cases h with
  | set clock => exact hs
  | step h => exact h.replayed hs

theorem Drifted.replayed (hs : Drifted limit s) : s.Replayed limit := by
  induction hs with
  | start clock => exact ⟨rfl, rfl⟩
  | drift hs h ih => exact h.replayed ih

-- However the clock jumps between and within calls, one is denied only when more than `limit`
-- calls of its client, itself included, have been counted in the bucket that it has read. It is
-- denied exactly when that many have been counted since its window was last taken away. So a
-- counter never runs ahead of the calls.
theorem denied_only_beyond_limit (limit : Nat) (s : Callers) (hlimit : 0 < limit)
    (hs : Drifted limit s) :
    (∀ client, s.limiter.allow s.clock client = s.limiter.count s.clock.bucket client) ∧
    (∀ earlier later arrival, s.answered = earlier ++ (arrival, false) :: later →
      limit < (earlier.map Prod.fst ++ [arrival]).count arrival) ∧
    (∀ earlier later arrival allowed, s.answered = earlier ++ (arrival, allowed) :: later →
      (allowed = false ↔
        ∃ dropped kept, earlier.map Prod.fst ++ [arrival] = dropped ++ kept ∧
          ((LocalLimiter.withLimit limit).after dropped).Keeps kept arrival ∧
          limit < kept.count arrival)) ∧
    (∀ client window, s.limiter.windows[client.name]? = some window →
      window.count ≤ s.arrivals.count ⟨window.bucket, client⟩) := by
  obtain ⟨hlimiter, hanswered⟩ := hs.replayed
  refine ⟨fun client => ?_, fun earlier later arrival hdenied => ?_,
    fun earlier later arrival allowed hallowed => ?_, fun client window hwindow => ?_⟩
  · have henabled : 0 < s.limiter.limit := by
      rw [hlimiter, LocalLimiter.after_limit]
      exact hlimit
    exact LocalLimiter.allow_eq_count s.limiter ⟨s.clock, client⟩ henabled
  · rw [hanswered] at hdenied
    have hlt := (LocalLimiter.denied_iff hdenied).mp rfl
    have hle := LocalLimiter.standing_after_le_count limit (earlier.map Prod.fst ++ [arrival])
      arrival
    omega
  · rw [hanswered] at hallowed
    rw [LocalLimiter.denied_iff hallowed, LocalLimiter.limit_lt_standing_iff]
  · have hle := LocalLimiter.standing_after_le_count limit s.arrivals ⟨window.bucket, client⟩
    rw [← hlimiter] at hle
    simpa [LocalLimiter.standing, LocalLimiter.shown, hwindow] using hle

-- Two calls read the first minute. Then the clock is put back, and a call of the minute before
-- is counted ahead of them.
def putBack : Callers :=
  let early : Arrival := ⟨0, ⟨"203.0.113.5"⟩⟩
  let late : Arrival := ⟨1, ⟨"203.0.113.5"⟩⟩
  ⟨⟨0, 0⟩, (LocalLimiter.withLimit 1).after [early, late, late], [],
    (LocalLimiter.withLimit 1).answers [early, late, late]⟩

theorem drifted_putBack : Drifted 1 putBack := by
  have h₀ : Drifted 1 (start 1 ⟨60, 0⟩) := .start _
  have h₁ := (h₀.drift (.step (.read _ ⟨"203.0.113.5"⟩))).drift (.step (.read _ ⟨"203.0.113.5"⟩))
  have h₂ := (h₁.drift (.set _ ⟨0, 0⟩)).drift (.step (.read _ ⟨"203.0.113.5"⟩))
  have h₃ := h₂.drift (.step (.counted _ [] [⟨1, ⟨"203.0.113.5"⟩⟩, ⟨1, ⟨"203.0.113.5"⟩⟩]
    ⟨0, ⟨"203.0.113.5"⟩⟩ rfl))
  have h₄ := h₃.drift (.step (.counted _ [] [⟨1, ⟨"203.0.113.5"⟩⟩] ⟨1, ⟨"203.0.113.5"⟩⟩ rfl))
  exact h₄.drift (.step (.counted _ [] [] ⟨1, ⟨"203.0.113.5"⟩⟩ rfl))

-- The second of the two is over the limit of one.
theorem denied_only_beyond_limit_of_put_back :
    0 < 1 ∧ Drifted 1 putBack ∧
    ∃ earlier, putBack.answered = earlier ++ [(⟨1, ⟨"203.0.113.5"⟩⟩, false)] ∧
      1 < (earlier.map Prod.fst ++ [⟨1, ⟨"203.0.113.5"⟩⟩]).count ⟨1, ⟨"203.0.113.5"⟩⟩ := by
  obtain ⟨-, hdenied, hexact, -⟩ := denied_only_beyond_limit 1 putBack (by decide) drifted_putBack
  have hlast := LocalLimiter.answers_concat (LocalLimiter.withLimit 1)
    [⟨0, ⟨"203.0.113.5"⟩⟩, ⟨1, ⟨"203.0.113.5"⟩⟩] ⟨1, ⟨"203.0.113.5"⟩⟩
  have hfalse := (hexact _ [] _ _ hlast).mpr
    ⟨[⟨0, ⟨"203.0.113.5"⟩⟩], _, by rw [LocalLimiter.map_fst_answers]; rfl,
      LocalLimiter.keeps_replicate _ 2 _, by decide⟩
  rw [hfalse] at hlast
  exact ⟨by decide, drifted_putBack, _, hlast, hdenied _ [] _ hlast⟩

end Callers

end AdmissionControl.RateLimit
