import AdmissionControl.RateLimit.Local
import Mathlib.Data.List.Induction

namespace AdmissionControl.RateLimit

open Identity

-- A request that has read its bucket and comes to be counted.
structure Arrival where
  bucket : UInt64
  client : Client
deriving DecidableEq

namespace LocalLimiter

-- What a window says of a bucket. It says nothing of a bucket that is not its own.
def shown (window : Option Window) (bucket : UInt64) : Nat :=
  match window with
  | some window => if window.bucket = bucket then window.count else 0
  | none => 0

-- How many requests are counted in the window that an arrival would go on with.
def standing (limiter : LocalLimiter) (arrival : Arrival) : Nat :=
  shown limiter.windows[arrival.client.name]? arrival.bucket

-- Whether counting an arrival finds so many clients that old windows are dropped.
def Prunes (limiter : LocalLimiter) (next : Arrival) : Prop :=
  pruneThreshold ≤ (limiter.windows.insert next.client.name
    (advanced limiter.windows[next.client.name]? next.bucket)).size

-- Counting `next` takes away the window that `arrival` would go on with: its
-- client starts a window of another bucket, or the window is too old to be kept.
def Displaces (limiter : LocalLimiter) (next arrival : Arrival) : Prop :=
  (next.client = arrival.client ∧ next.bucket ≠ arrival.bucket) ∨
  (next.client ≠ arrival.client ∧ limiter.Prunes next ∧ arrival.bucket < oldestKept next.bucket)

instance (limiter : LocalLimiter) (next : Arrival) : Decidable (limiter.Prunes next) :=
  inferInstanceAs (Decidable (_ ≤ _))

instance (limiter : LocalLimiter) (next arrival : Arrival) :
    Decidable (limiter.Displaces next arrival) :=
  inferInstanceAs (Decidable (_ ∨ _))

theorem name_eq_iff (a b : Client) : a.name = b.name ↔ a = b := by
  cases a; cases b; simp

theorem oldestKept_toNat (bucket : UInt64) : (oldestKept bucket).toNat = bucket.toNat - 1 := by
  unfold oldestKept
  split
  · rename_i h
    rw [h]
    rfl
  · rename_i h
    have hpos : 0 < bucket.toNat := Nat.pos_of_ne_zero fun h0 => h (UInt64.toNat_inj.mp h0)
    have hone : (1 : UInt64) ≤ bucket := UInt64.le_iff_toNat_le.mpr hpos
    rw [UInt64.toNat_sub_of_le _ _ hone]
    rfl

theorem oldestKept_le (bucket : UInt64) : oldestKept bucket ≤ bucket := by
  rw [UInt64.le_iff_toNat_le, oldestKept_toNat]
  exact Nat.sub_le _ _

theorem advanced_eq (window : Option Window) (bucket : UInt64) :
    advanced window bucket = ⟨bucket, shown window bucket + 1⟩ := by
  cases window with
  | none => rfl
  | some window =>
      by_cases h : window.bucket = bucket <;> simp [advanced, shown, h]

theorem shown_filter (window : Option Window) (kept bucket : UInt64) :
    shown (window.filter fun window => kept ≤ window.bucket) bucket =
      if bucket < kept then 0 else shown window bucket := by
  cases window with
  | none => simp [shown]
  | some window =>
      by_cases hb : window.bucket = bucket
      · subst hb
        by_cases hk : kept ≤ window.bucket
        · have hn : ¬window.bucket < kept := UInt64.not_lt.mpr hk
          simp [shown, Option.filter, hk, hn]
        · have hn : window.bucket < kept := UInt64.not_le.mp hk
          simp [shown, Option.filter, hk, hn]
      · by_cases hk : kept ≤ window.bucket <;> simp [Option.filter, hk, shown, hb]

theorem count_fst (limiter : LocalLimiter) (next : Arrival) :
    (limiter.count next.bucket next.client).1 =
      decide (limiter.standing next + 1 ≤ limiter.limit) := by
  simp only [count, advanced_eq]
  rfl

@[simp] theorem count_limit (limiter : LocalLimiter) (next : Arrival) :
    (limiter.count next.bucket next.client).2.limit = limiter.limit := rfl

theorem windows_count (limiter : LocalLimiter) (next : Arrival) :
    (limiter.count next.bucket next.client).2.windows =
      let windows := limiter.windows.insert next.client.name
        ⟨next.bucket, limiter.standing next + 1⟩
      if limiter.Prunes next then
        windows.filter fun _ window => oldestKept next.bucket ≤ window.bucket
      else windows := by
  simp only [standing, ← advanced_eq]
  rfl

-- The window of the client that is counted is of the current bucket, which
-- pruning keeps.
theorem window_count_self (limiter : LocalLimiter) (next : Arrival) :
    (limiter.count next.bucket next.client).2.windows[next.client.name]? =
      some ⟨next.bucket, limiter.standing next + 1⟩ := by
  rw [windows_count]
  by_cases hprunes : limiter.Prunes next <;> simp [hprunes, oldestKept_le]

theorem window_count_of_ne (limiter : LocalLimiter) (next : Arrival) (client : Client)
    (hne : next.client ≠ client) :
    (limiter.count next.bucket next.client).2.windows[client.name]? =
      if limiter.Prunes next then
        limiter.windows[client.name]?.filter fun window => oldestKept next.bucket ≤ window.bucket
      else limiter.windows[client.name]? := by
  have hname : (next.client.name == client.name) = false := by
    simpa [name_eq_iff] using hne
  rw [windows_count]
  by_cases hprunes : limiter.Prunes next <;>
    simp [hprunes, Std.HashMap.getElem?_insert, hname]

-- All that one count does to the number standing for an arrival.
theorem standing_count (limiter : LocalLimiter) (next arrival : Arrival) :
    (limiter.count next.bucket next.client).2.standing arrival =
      if limiter.Displaces next arrival then 0
      else limiter.standing arrival + if next = arrival then 1 else 0 := by
  by_cases hclient : next.client = arrival.client
  · have hself := window_count_self limiter next
    rw [hclient] at hself
    simp only [standing, hclient, hself]
    by_cases hbucket : next.bucket = arrival.bucket
    · have he : next = arrival := by cases next; cases arrival; simp_all
      subst he
      simp [shown, Displaces]
    · have hd : limiter.Displaces next arrival := Or.inl ⟨hclient, hbucket⟩
      simp [shown, hbucket, hd]
  · have hne : next ≠ arrival := fun he => hclient (congrArg Arrival.client he)
    simp only [standing, window_count_of_ne limiter next arrival.client hclient, hne, ite_false,
      Nat.add_zero, Displaces, hclient, false_and, false_or, ne_eq, not_false_eq_true, true_and]
    by_cases hprunes : limiter.Prunes next <;> simp [hprunes, shown_filter]

-- The limiter when arrivals have been counted one after the other.
def after (limiter : LocalLimiter) (arrivals : List Arrival) : LocalLimiter :=
  arrivals.foldl (fun limiter next => (limiter.count next.bucket next.client).2) limiter

-- The answers to arrivals that are counted one after the other.
def answers (limiter : LocalLimiter) : List Arrival → List (Arrival × Bool)
  | [] => []
  | next :: rest =>
    (next, (limiter.count next.bucket next.client).1) ::
      answers (limiter.count next.bucket next.client).2 rest

theorem after_concat (limiter : LocalLimiter) (arrivals : List Arrival) (next : Arrival) :
    limiter.after (arrivals ++ [next]) =
      ((limiter.after arrivals).count next.bucket next.client).2 := by
  simp [after]

@[simp] theorem after_limit (limiter : LocalLimiter) (arrivals : List Arrival) :
    (limiter.after arrivals).limit = limiter.limit := by
  induction arrivals using List.reverseRecOn with
  | nil => rfl
  | append_singleton arrivals next ih => rw [after_concat, count_limit, ih]

theorem answers_concat (limiter : LocalLimiter) (arrivals : List Arrival) (next : Arrival) :
    limiter.answers (arrivals ++ [next]) = limiter.answers arrivals ++
      [(next, decide ((limiter.after arrivals).standing next + 1 ≤ limiter.limit))] := by
  induction arrivals generalizing limiter with
  | nil => exact congrArg (fun allowed => [(next, allowed)]) (count_fst limiter next)
  | cons first rest ih => exact congrArg (_ :: ·) (ih _)

theorem count_concat (arrivals : List Arrival) (next arrival : Arrival) :
    (arrivals ++ [next]).count arrival =
      arrivals.count arrival + if next = arrival then 1 else 0 := by
  simp [List.count_append, List.count_singleton]

theorem admitted_concat (limiter : LocalLimiter) (arrivals : List Arrival)
    (next arrival : Arrival) :
    (limiter.answers (arrivals ++ [next])).count (arrival, true) =
      (limiter.answers arrivals).count (arrival, true) +
        if next = arrival ∧ (limiter.after arrivals).standing arrival + 1 ≤ limiter.limit then 1
        else 0 := by
  rw [answers_concat, List.count_append, List.count_singleton]
  by_cases he : next = arrival
  · subst he
    simp
  · simp [he]

theorem map_fst_answers (limiter : LocalLimiter) (arrivals : List Arrival) :
    (limiter.answers arrivals).map Prod.fst = arrivals := by
  induction arrivals generalizing limiter with
  | nil => rfl
  | cons first rest ih => simp [answers, ih]

@[simp] theorem standing_withLimit (limit : Nat) (arrival : Arrival) :
    (withLimit limit).standing arrival = 0 := by
  simp [withLimit, standing, shown]

-- In whatever order the arrivals come, no more of them stand in a window than
-- have read its bucket. So a counter stays as small as the number of requests.
theorem standing_after_le_count (limit : Nat) (arrivals : List Arrival) (arrival : Arrival) :
    ((withLimit limit).after arrivals).standing arrival ≤ arrivals.count arrival := by
  induction arrivals using List.reverseRecOn with
  | nil => simp [after]
  | append_singleton arrivals next ih =>
      rw [after_concat, standing_count, count_concat]
      split
      · exact Nat.zero_le _
      · omega

end LocalLimiter

end AdmissionControl.RateLimit
