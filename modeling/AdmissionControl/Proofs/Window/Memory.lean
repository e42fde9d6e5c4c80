import AdmissionControl.Proofs.Window.Denials
import Mathlib.Data.List.Dedup
import Mathlib.Data.List.Perm.Subperm

namespace AdmissionControl.RateLimit

open Identity

namespace LocalLimiter

-- The windows that are held, each with its client.
def entries (limiter : LocalLimiter) : List (Client × Window) :=
  limiter.windows.toList.map fun (name, window) => (⟨name⟩, window)

-- The bucket that a client has read for the last of these arrivals.
def latest? (arrivals : List Arrival) (client : Client) : Option UInt64 :=
  (arrivals.filter fun arrival => arrival.client = client).getLast?.map Arrival.bucket

-- The clients whose last arrival is no further back than one bucket before this one. The
-- difference stops at zero.
def recent (arrivals : List Arrival) (bucket : UInt64) : List Client :=
  (arrivals.map Arrival.client).dedup.filter fun client =>
    (latest? arrivals client).any fun latest => bucket.toNat - 1 ≤ latest.toNat

-- Every window is of the bucket that its client has read last, and counts something.
def UpToDate (limiter : LocalLimiter) (arrivals : List Arrival) : Prop :=
  ∀ entry ∈ limiter.entries,
    latest? arrivals entry.1 = some entry.2.bucket ∧ 0 < entry.2.count

section Entries

variable {limiter : LocalLimiter} {client : Client} {window : Window}

theorem mem_entries_iff :
    (client, window) ∈ limiter.entries ↔ limiter.windows[client.name]? = some window := by
  rw [← Std.HashMap.mem_toList_iff_getElem?_eq_some, entries, List.mem_map]
  constructor
  · rintro ⟨⟨name, held⟩, hheld, heq⟩
    obtain ⟨rfl, rfl⟩ := Prod.mk.inj heq
    exact hheld
  · intro h
    exact ⟨_, h, rfl⟩

theorem length_entries (limiter : LocalLimiter) : limiter.entries.length = limiter.tracked := by
  rw [entries, List.length_map, Std.HashMap.length_toList]
  rfl

-- No client has two windows.
theorem nodup_clients_entries (limiter : LocalLimiter) :
    (limiter.entries.map Prod.fst).Nodup := by
  have hclients : limiter.entries.map Prod.fst = limiter.windows.keys.map Client.mk := by
    rw [entries, ← Std.HashMap.map_fst_toList_eq_keys, List.map_map, List.map_map]
    rfl
  rw [hclients]
  exact Std.HashMap.nodup_keys.map fun one other h => congrArg Client.name h

theorem entries_withLimit (limit : Nat) : (withLimit limit).entries = [] := by
  rw [← List.length_eq_zero_iff, length_entries]
  rfl

end Entries

section Latest

variable {arrivals : List Arrival} {client : Client} {bucket : UInt64}

theorem latest?_concat (arrivals : List Arrival) (next : Arrival) (client : Client) :
    latest? (arrivals ++ [next]) client =
      if next.client = client then some next.bucket else latest? arrivals client := by
  rw [latest?, List.filter_append]
  by_cases h : next.client = client <;> simp [h, latest?]

theorem mem_of_latest? (h : latest? arrivals client = some bucket) :
    ⟨bucket, client⟩ ∈ arrivals := by
  obtain ⟨⟨_, _⟩, hlast, rfl⟩ := Option.map_eq_some_iff.mp h
  have hmem := List.mem_of_getLast? hlast
  rw [List.mem_filter, decide_eq_true_eq] at hmem
  obtain ⟨hmem, rfl⟩ := hmem
  exact hmem

theorem mem_recent_iff :
    client ∈ recent arrivals bucket ↔
      ∃ latest, latest? arrivals client = some latest ∧ bucket.toNat - 1 ≤ latest.toNat := by
  rw [recent, List.mem_filter, List.mem_dedup, Option.any_eq_true]
  simp only [decide_eq_true_eq]
  refine and_iff_right_of_imp ?_
  rintro ⟨latest, hlatest, -⟩
  exact List.mem_map_of_mem (mem_of_latest? hlatest)

theorem nodup_recent (arrivals : List Arrival) (bucket : UInt64) :
    (recent arrivals bucket).Nodup := (List.nodup_dedup _).filter _

end Latest

section Count

variable {limiter : LocalLimiter} {next : Arrival} {client : Client} {window : Window}

theorem mem_entries_count_self_iff :
    (next.client, window) ∈ (limiter.count next.bucket next.client).2.entries ↔
      window = ⟨next.bucket, limiter.standing next + 1⟩ := by
  rw [mem_entries_iff, window_count_self, Option.some.injEq, eq_comm]

-- Another client keeps its window, unless windows are dropped and this is one of the old.
theorem mem_entries_count_of_ne_iff (hne : next.client ≠ client) :
    (client, window) ∈ (limiter.count next.bucket next.client).2.entries ↔
      (client, window) ∈ limiter.entries ∧
        (limiter.Prunes next → next.bucket.toNat - 1 ≤ window.bucket.toNat) := by
  rw [mem_entries_iff, mem_entries_iff, window_count_of_ne limiter next client hne,
    ← oldestKept_toNat, ← UInt64.le_iff_toNat_le]
  by_cases hprunes : limiter.Prunes next
  · simp [hprunes, Option.filter_eq_some_iff]
  · simp [hprunes]

theorem tracked_count_of_not_prunes (hprunes : ¬limiter.Prunes next) :
    (limiter.count next.bucket next.client).2.tracked < pruneThreshold := by
  have hsize : (limiter.count next.bucket next.client).2.tracked =
      (limiter.windows.insert next.client.name
        (advanced limiter.windows[next.client.name]? next.bucket)).size := by
    rw [tracked, windows_count, advanced_eq]
    simp only [hprunes, ite_false]
    rfl
  rw [hsize]
  exact Nat.lt_of_not_le hprunes

theorem few_or_recent_count (limiter : LocalLimiter) (next : Arrival) :
    (limiter.count next.bucket next.client).2.tracked < pruneThreshold ∨
    ∀ entry ∈ (limiter.count next.bucket next.client).2.entries,
      next.bucket.toNat - 1 ≤ entry.2.bucket.toNat := by
  by_cases hprunes : limiter.Prunes next
  · refine Or.inr fun ⟨client, window⟩ hentry => ?_
    by_cases hclient : next.client = client
    · subst hclient
      rw [mem_entries_count_self_iff.mp hentry]
      exact Nat.sub_le _ _
    · exact ((mem_entries_count_of_ne_iff hclient).mp hentry).2 hprunes
  · exact Or.inl (tracked_count_of_not_prunes hprunes)

theorem UpToDate.count {arrivals : List Arrival} (h : limiter.UpToDate arrivals) :
    (limiter.count next.bucket next.client).2.UpToDate (arrivals ++ [next]) := by
  rintro ⟨client, window⟩ hentry
  rw [latest?_concat]
  by_cases hclient : next.client = client
  · subst hclient
    rw [mem_entries_count_self_iff.mp hentry, if_pos rfl]
    exact ⟨rfl, Nat.succ_pos _⟩
  · rw [if_neg hclient]
    exact h _ ((mem_entries_count_of_ne_iff hclient).mp hentry).1

-- A client that has no window any more had an old one.
theorem old_of_dropped (hentry : (client, window) ∈ limiter.entries)
    (hdropped : client ∉ (limiter.count next.bucket next.client).2.entries.map Prod.fst) :
    window.bucket.toNat + 1 < next.bucket.toNat := by
  have hclient : next.client ≠ client := by
    rintro rfl
    exact hdropped (List.mem_map_of_mem (mem_entries_count_self_iff.mpr rfl))
  by_contra hrecent
  have hkept := (mem_entries_count_of_ne_iff hclient).mpr ⟨hentry, fun _ => by omega⟩
  exact hdropped (List.mem_map_of_mem hkept)

end Count

theorem upToDate_after (limit : Nat) (arrivals : List Arrival) :
    ((withLimit limit).after arrivals).UpToDate arrivals := by
  induction arrivals using List.reverseRecOn with
  | nil =>
      intro entry hentry
      rw [after, List.foldl_nil, entries_withLimit] at hentry
      cases hentry
  | append_singleton arrivals next ih =>
      rw [after_concat]
      exact ih.count

theorem tracked_le_recent {limiter : LocalLimiter} {arrivals : List Arrival} {bucket : UInt64}
    (h : limiter.UpToDate arrivals)
    (hrecent : ∀ entry ∈ limiter.entries, bucket.toNat - 1 ≤ entry.2.bucket.toNat) :
    limiter.tracked ≤ (recent arrivals bucket).length := by
  have hsubset : limiter.entries.map Prod.fst ⊆ recent arrivals bucket := by
    intro client hclient
    obtain ⟨entry, hentry, rfl⟩ := List.mem_map.mp hclient
    exact mem_recent_iff.mpr ⟨_, (h entry hentry).1, hrecent entry hentry⟩
  have hle := (List.subperm_of_subset (nodup_clients_entries limiter) hsubset).length_le
  rwa [List.length_map, length_entries] at hle

end LocalLimiter

namespace Callers

open LocalLimiter

variable {limit : Nat} {s t : Callers}

-- Calls that come one after the other, each with the clock as it stands then.
theorem exists_drifted (limit : Nat) (visits : List Visit) :
    ∃ s, Drifted limit s ∧ s.waiting = [] ∧ s.arrivals = visits.map Visit.arrival := by
  induction visits using List.reverseRecOn with
  | nil => exact ⟨_, .start ⟨0, 0⟩, rfl, rfl⟩
  | append_singleton visits visit ih =>
      obtain ⟨s, hs, hwaiting, harrivals⟩ := ih
      have hread := (hs.drift (.set s visit.clock)).drift (.step (.read _ visit.client))
      have hcounted := hread.drift (.step (.counted _ [] [] visit.arrival (by rw [hwaiting]; rfl)))
      refine ⟨_, hcounted, rfl, ?_⟩
      simp only [arrivals] at harrivals ⊢
      rw [List.map_append, harrivals, List.map_append]
      rfl

theorem Drifted.limiter_eq (hs : Drifted limit s) :
    s.limiter = (withLimit limit).after s.arrivals := hs.replayed.1

-- A client loses its window only to a call of a bucket more than one ahead.
theorem Drift.old_of_dropped (h : Drift s t) {client : Client} {window : Window}
    (hentry : (client, window) ∈ s.limiter.entries)
    (hdropped : client ∉ t.limiter.entries.map Prod.fst) :
    ∃ call allowed, t.answered = s.answered ++ [(call, allowed)] ∧
      window.bucket.toNat + 1 < call.bucket.toNat := by
  have hheld : client ∈ s.limiter.entries.map Prod.fst := List.mem_map_of_mem hentry
  cases h with
  | set clock => exact absurd hheld hdropped
  | step h =>
      cases h with
      | passed clock hforward => exact absurd hheld hdropped
      | read client => exact absurd hheld hdropped
      | counted front back next hwaiting =>
          exact ⟨next, _, rfl, LocalLimiter.old_of_dropped hentry hdropped⟩

-- However the clock jumps, with every call either few clients are held or none that has not
-- called since one bucket before. The client that calls is held, no client is held twice, and
-- none is given up but for being further behind than that.
theorem held_few_or_recent (limit : Nat) (s : Callers) (hlimit : 0 < limit)
    (hs : Drifted limit s) :
    (∀ client, s.limiter.allow s.clock client = s.limiter.count s.clock.bucket client) ∧
    (s.limiter.entries.length = s.limiter.tracked ∧ (s.limiter.entries.map Prod.fst).Nodup) ∧
    (∀ earlier call allowed, s.answered = earlier ++ [(call, allowed)] →
      (s.limiter.tracked < pruneThreshold ∨
        ∀ entry ∈ s.limiter.entries, call.bucket.toNat - 1 ≤ entry.2.bucket.toNat) ∧
      (∃ count, 0 < count ∧ (call.client, ⟨call.bucket, count⟩) ∈ s.limiter.entries) ∧
      s.limiter.tracked ≤ max (pruneThreshold - 1) (recent s.arrivals call.bucket).length) ∧
    ∀ t, Drift s t → ∀ client window, (client, window) ∈ s.limiter.entries →
      client ∉ t.limiter.entries.map Prod.fst →
        ∃ call allowed, t.answered = s.answered ++ [(call, allowed)] ∧
          window.bucket.toNat + 1 < call.bucket.toNat := by
  have hlimiter := hs.limiter_eq
  refine ⟨fun client => ?_, ⟨length_entries _, nodup_clients_entries _⟩,
    fun earlier call allowed hlast => ?_, fun t h client window => h.old_of_dropped⟩
  · have henabled : 0 < s.limiter.limit := by
      rw [hlimiter, after_limit]
      exact hlimit
    exact allow_eq_count s.limiter ⟨s.clock, client⟩ henabled
  · have harrivals : s.arrivals = earlier.map Prod.fst ++ [call] := by
      rw [arrivals, hlast, List.map_append]
      rfl
    have hcount : s.limiter =
        (((withLimit limit).after (earlier.map Prod.fst)).count call.bucket call.client).2 := by
      rw [hlimiter, harrivals, after_concat]
    have huptodate : s.limiter.UpToDate s.arrivals := hlimiter ▸ upToDate_after limit s.arrivals
    have hbound : s.limiter.tracked < pruneThreshold ∨
        ∀ entry ∈ s.limiter.entries, call.bucket.toNat - 1 ≤ entry.2.bucket.toNat := by
      rw [hcount]
      exact few_or_recent_count _ call
    have hself : (call.client, ⟨call.bucket,
        ((withLimit limit).after (earlier.map Prod.fst)).standing call + 1⟩) ∈
        s.limiter.entries := by
      rw [hcount]
      exact mem_entries_count_self_iff.mpr rfl
    refine ⟨hbound, ⟨_, Nat.succ_pos _, hself⟩, ?_⟩
    rcases hbound with hfew | hrecent
    · omega
    · have hle := tracked_le_recent huptodate hrecent
      omega

-- As many clients as make the limiter look for old windows. All but the last have called two
-- buckets before.
def early (i : Nat) : Visit := ⟨⟨0, 0⟩, ⟨String.ofList (List.replicate i 'a')⟩⟩

def late : Visit := ⟨⟨120, 0⟩, ⟨"203.0.113.5"⟩⟩

def crowd : List Visit := (List.range (pruneThreshold - 1)).map early ++ [late]

theorem bucket_early (i : Nat) : (early i).arrival.bucket = 0 := by
  change (Clock.mk 0 0).bucket = 0
  decide

theorem bucket_late : late.arrival.bucket = 2 := by decide

theorem length_recent_crowd : (recent (crowd.map Visit.arrival) 2).length ≤ 1 := by
  have hsubset : recent (crowd.map Visit.arrival) 2 ⊆ [late.client] := by
    intro client hclient
    obtain ⟨latest, hlatest, hrecent⟩ := mem_recent_iff.mp hclient
    rw [crowd, List.map_append, List.map_map, List.map_singleton, latest?_concat] at hlatest
    split at hlatest
    · rename_i hlate
      exact List.mem_singleton.mpr hlate.symm
    · obtain ⟨i, -, harrival⟩ := List.mem_map.mp (mem_of_latest? hlatest)
      have hbucket : (early i).arrival.bucket = latest := congrArg Arrival.bucket harrival
      rw [← hbucket, bucket_early] at hrecent
      exact absurd hrecent (by decide)
  exact (List.subperm_of_subset (nodup_recent _ _) hsubset).length_le

theorem nodup_clients_crowd : (crowd.map Visit.client).Nodup := by
  rw [crowd, List.map_append, List.map_map]
  refine List.nodup_append.mpr ⟨List.nodup_range.map fun i j h => ?_, List.nodup_singleton _, ?_⟩
  · have hnames := congrArg (fun client => client.name.length) h
    simpa [early] using hnames
  · intro client hearly other hlate heq
    obtain ⟨i, -, rfl⟩ := List.mem_map.mp hearly
    obtain rfl := List.mem_singleton.mp hlate
    have hnames := congrArg (fun client => '.' ∈ client.name.toList) heq
    simp [early, late] at hnames

theorem held_few_or_recent_of_crowd :
    0 < 1 ∧ ∃ s, Drifted 1 s ∧
      (s.arrivals.map Arrival.client).Nodup ∧ s.arrivals.length = pruneThreshold ∧
      s.limiter.tracked < pruneThreshold ∧
      ∃ count, 0 < count ∧ (late.client, ⟨2, count⟩) ∈ s.limiter.entries := by
  obtain ⟨s, hs, -, harrivals⟩ := exists_drifted 1 crowd
  have hclients : (s.arrivals.map Arrival.client).Nodup := by
    rw [harrivals, List.map_map]
    exact nodup_clients_crowd
  have hlength : s.arrivals.length = pruneThreshold := by
    rw [harrivals, List.length_map, crowd, List.length_append, List.length_map, List.length_range]
    rfl
  have hanswered := hs.replayed.2
  rw [harrivals, crowd, List.map_append, List.map_singleton, answers_concat] at hanswered
  obtain ⟨-, -, hcalled, -⟩ := held_few_or_recent 1 s (by decide) hs
  obtain ⟨-, hself, hbound⟩ := hcalled _ _ _ hanswered
  rw [bucket_late] at hself hbound
  have hrecent := length_recent_crowd
  rw [← harrivals] at hrecent
  refine ⟨by decide, s, hs, hclients, hlength, ?_, hself⟩
  rw [pruneThreshold] at hbound ⊢
  omega

end Callers

end AdmissionControl.RateLimit
