import AdmissionControl.Proofs.Window.Standing

namespace AdmissionControl.RateLimit

open Identity

-- A request as the limiter meets it: the clock as it stands and who asks.
structure Visit where
  clock : Clock
  client : Client

def Visit.arrival (visit : Visit) : Arrival := ⟨visit.clock.bucket, visit.client⟩

namespace LocalLimiter

-- The limiter when visits have been answered one after the other.
def visited (limiter : LocalLimiter) (visits : List Visit) : LocalLimiter :=
  visits.foldl (fun limiter visit => (limiter.allow visit.clock visit.client).2) limiter

def answered (limiter : LocalLimiter) : List Visit → List (Arrival × Bool)
  | [] => []
  | visit :: rest =>
    (visit.arrival, (limiter.allow visit.clock visit.client).1) ::
      answered (limiter.allow visit.clock visit.client).2 rest

-- A counter that forgets nothing: an arrival is let in if, with itself, no more
-- than `limit` requests of its client have come in its bucket so far.
def judged (limit : Nat) (earlier : List Arrival) : List Arrival → List (Arrival × Bool)
  | [] => []
  | next :: rest =>
    (next, decide (earlier.count next + 1 ≤ limit)) :: judged limit (earlier ++ [next]) rest

theorem allow_eq_count (limiter : LocalLimiter) (visit : Visit) (hlimit : 0 < limiter.limit) :
    limiter.allow visit.clock visit.client =
      limiter.count visit.arrival.bucket visit.arrival.client := by
  simp [allow, isEnabled, hlimit, Visit.arrival]

theorem visited_eq_after (limiter : LocalLimiter) (visits : List Visit)
    (hlimit : 0 < limiter.limit) :
    limiter.visited visits = limiter.after (visits.map Visit.arrival) := by
  induction visits generalizing limiter with
  | nil => rfl
  | cons visit rest ih =>
      simp only [visited, after, List.foldl_cons, List.map_cons,
        allow_eq_count limiter visit hlimit]
      exact ih _ hlimit

theorem answered_eq_answers (limiter : LocalLimiter) (visits : List Visit)
    (hlimit : 0 < limiter.limit) :
    limiter.answered visits = limiter.answers (visits.map Visit.arrival) := by
  induction visits generalizing limiter with
  | nil => rfl
  | cons visit rest ih =>
      simp only [answered, answers, List.map_cons, allow_eq_count limiter visit hlimit]
      exact congrArg (_ :: ·) (ih _ hlimit)

theorem judged_concat (limit : Nat) (earlier arrivals : List Arrival) (next : Arrival) :
    judged limit earlier (arrivals ++ [next]) = judged limit earlier arrivals ++
      [(next, decide ((earlier ++ arrivals).count next + 1 ≤ limit))] := by
  induction arrivals generalizing earlier with
  | nil => simp [judged]
  | cons first rest ih => simp [judged, ih]

-- While buckets do not decrease, the window of the latest bucket has all the
-- requests of its client. What has been dropped or started anew is older.
theorem standing_eq_count (limit : Nat) (arrivals : List Arrival) (arrival : Arrival)
    (horder : arrivals.Pairwise fun a b => a.bucket ≤ b.bucket)
    (hlatest : ∀ earlier ∈ arrivals, earlier.bucket ≤ arrival.bucket) :
    ((withLimit limit).after arrivals).standing arrival = arrivals.count arrival := by
  induction arrivals using List.reverseRecOn with
  | nil => simp [after]
  | append_singleton arrivals next ih =>
      obtain ⟨hbefore, -, hnext⟩ := List.pairwise_append.mp horder
      have hle : next.bucket ≤ arrival.bucket := hlatest next (by simp)
      have hstanding := ih hbefore fun earlier he => hlatest earlier (by simp [he])
      rw [after_concat, standing_count, count_concat]
      split
      · rename_i hd
        rcases hd with ⟨hclient, hbucket⟩ | ⟨-, -, hold⟩
        · have hlt : next.bucket < arrival.bucket :=
            UInt64.lt_of_le_of_ne hle hbucket
          have hnone : arrivals.count arrival = 0 := by
            refine List.count_eq_zero.mpr fun hm => ?_
            exact UInt64.not_le.mpr hlt (hnext arrival hm next (by simp))
          have hne : next ≠ arrival := fun he => hbucket (congrArg Arrival.bucket he)
          simp [hnone, hne]
        · exact absurd (UInt64.le_trans (oldestKept_le _) hle) (UInt64.not_le.mpr hold)
      · simp [hstanding]

theorem answers_eq_judged (limit : Nat) (arrivals : List Arrival)
    (horder : arrivals.Pairwise fun a b => a.bucket ≤ b.bucket) :
    (withLimit limit).answers arrivals = judged limit [] arrivals := by
  induction arrivals using List.reverseRecOn with
  | nil => rfl
  | append_singleton arrivals next ih =>
      obtain ⟨hbefore, -, hnext⟩ := List.pairwise_append.mp horder
      have hstanding := standing_eq_count limit arrivals next hbefore
        fun earlier he => hnext earlier he next (by simp)
      rw [answers_concat, judged_concat, ih hbefore, hstanding]
      rfl

theorem count_judged (limit : Nat) (arrivals : List Arrival) (arrival : Arrival) :
    (judged limit [] arrivals).count (arrival, true) = min (arrivals.count arrival) limit := by
  induction arrivals using List.reverseRecOn with
  | nil => simp [judged]
  | append_singleton arrivals next ih =>
      rw [judged_concat, List.count_append, count_concat, ih]
      by_cases he : next = arrival
      · subst he
        by_cases hroom : arrivals.count next + 1 ≤ limit <;> simp [hroom] <;> omega
      · simp [he]

theorem filter_judged (limit : Nat) (arrivals : List Arrival) (client : Client) :
    (judged limit [] arrivals).filter (fun answer => answer.1.client = client) =
      judged limit [] (arrivals.filter fun arrival => arrival.client = client) := by
  induction arrivals using List.reverseRecOn with
  | nil => rfl
  | append_singleton arrivals next ih =>
      rw [judged_concat, List.filter_append, List.filter_append, ih]
      by_cases hc : next.client = client
      · have hcount : (arrivals.filter fun arrival => arrival.client = client).count next =
            arrivals.count next := List.count_filter (by simp [hc])
        simp [hc, judged_concat, hcount]
      · simp [hc]

-- The limiter counts per minute as if it forgot nothing. Of the requests that a
-- client makes in a minute the first `limit` are let in, other clients make no
-- difference, and no counter grows past the number of these requests.
theorem allow_counts_minutes (limit : Nat) (visits : List Visit) (hlimit : 0 < limit)
    (horder : visits.Pairwise fun a b => a.clock.bucket ≤ b.clock.bucket) :
    (withLimit limit).answered visits = judged limit [] (visits.map Visit.arrival) ∧
    (∀ arrival, ((withLimit limit).answered visits).count (arrival, true) =
      min ((visits.map Visit.arrival).count arrival) limit) ∧
    (∀ client, ((withLimit limit).answered visits).filter (fun answer => answer.1.client = client) =
      (withLimit limit).answered (visits.filter fun visit => visit.client = client)) ∧
    (∀ client window, ((withLimit limit).visited visits).windows[client.name]? = some window →
      window.count ≤ (visits.map Visit.arrival).count ⟨window.bucket, client⟩) := by
  have hjudged : ∀ some : List Visit, some.Pairwise (fun a b => a.clock.bucket ≤ b.clock.bucket) →
      (withLimit limit).answered some = judged limit [] (some.map Visit.arrival) := by
    intro some hsome
    rw [answered_eq_answers _ _ hlimit]
    exact answers_eq_judged limit _ (List.pairwise_map.mpr hsome)
  refine ⟨hjudged visits horder, ?_, ?_, ?_⟩
  · intro arrival
    rw [hjudged visits horder, count_judged]
  · intro client
    rw [hjudged visits horder, hjudged _ (horder.filter _), filter_judged, List.filter_map]
    rfl
  · intro client window hw
    have hle := standing_after_le_count limit (visits.map Visit.arrival) ⟨window.bucket, client⟩
    rw [visited_eq_after _ _ hlimit] at hw
    simpa [standing, hw, shown] using hle

-- Two requests a minute, with a third one in the first minute and a client that
-- comes between them.
theorem allow_counts_two_minutes :
    let visits : List Visit := [
      ⟨⟨60, 0⟩, ⟨"203.0.113.5"⟩⟩, ⟨⟨61, 0⟩, ⟨"10.0.0.1"⟩⟩, ⟨⟨90, 0⟩, ⟨"203.0.113.5"⟩⟩,
      ⟨⟨119, 0⟩, ⟨"203.0.113.5"⟩⟩, ⟨⟨120, 0⟩, ⟨"203.0.113.5"⟩⟩]
    0 < 2 ∧ (visits.Pairwise fun a b => a.clock.bucket ≤ b.clock.bucket) ∧
    ((withLimit 2).answered visits).map Prod.snd = [true, true, true, false, true] := by
  refine ⟨by decide, by decide, ?_⟩
  rw [(allow_counts_minutes 2 _ (by decide) (by decide)).1]
  decide

end LocalLimiter

end AdmissionControl.RateLimit
