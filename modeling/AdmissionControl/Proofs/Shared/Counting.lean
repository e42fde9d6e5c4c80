import AdmissionControl.RateLimit.ScriptedStore
import Mathlib.Logic.Function.Basic
import Mathlib.Tactic.SplitIfs

namespace AdmissionControl.RateLimit

-- Counters in which one key has been counted once more.
def bumped (counters : String → Nat) (key : String) : String → Nat :=
  Function.update counters key (counters key + 1)

@[simp] theorem bumped_self (counters : String → Nat) (key : String) :
    bumped counters key key = counters key + 1 := by simp [bumped]

theorem bumped_of_ne (counters : String → Nat) {key other : String} (hne : other ≠ key) :
    bumped counters key other = counters other := by simp [bumped, hne]

-- How a store counts. In its sound states an evaluation that succeeds counts its
-- key once and answers with the new count, and one that has lost the script
-- counts nothing. Any other failure may have come before or after the count.
-- Nothing else touches a counter, and none is ever dropped.
structure Counting {σ : Type} (store : CounterStore σ) where
  sound : σ → Prop
  counters : σ → String → Nat
  sound_load {s after : σ} {script : String} {result : Except StoreError String}
    (hs : sound s) (h : store.load script s = (result, after)) : sound after
  counters_load {s after : σ} {script : String} {result : Except StoreError String}
    (hs : sound s) (h : store.load script s = (result, after)) : counters after = counters s
  sound_evaluate {s after : σ} {handle key : String} {secondsKept : UInt64}
    {result : Except StoreError Int} (hs : sound s)
    (h : store.evaluate handle key secondsKept s = (result, after)) : sound after
  counters_ok {s after : σ} {handle key : String} {secondsKept : UInt64} {count : Int}
    (hs : sound s) (h : store.evaluate handle key secondsKept s = (.ok count, after)) :
    count = counters s key + 1 ∧ counters after = bumped (counters s) key
  counters_unknownScript {s after : σ} {handle key : String} {secondsKept : UInt64}
    (hs : sound s)
    (h : store.evaluate handle key secondsKept s = (.error .unknownScript, after)) :
    counters after = counters s
  counters_error {s after : σ} {handle key : String} {secondsKept : UInt64} {error : StoreError}
    (hs : sound s) (h : store.evaluate handle key secondsKept s = (.error error, after)) :
    counters after = counters s ∨ counters after = bumped (counters s) key

namespace ScriptedStore

def counters (s : ScriptedStore) (key : String) : Nat :=
  match s.tallies[key]? with
  | some tally => tally.count.toNat
  | none => 0

-- No count is to be returned that has not been made, and no tally is negative.
structure Sound (s : ScriptedStore) : Prop where
  counted : ∀ n, Outcome.count n ∉ s.evaluateOutcomes
  nonneg : ∀ (key : String) (tally : Tally), s.tallies[key]? = some tally → 0 ≤ tally.count

theorem Sound.of_eq {s after : ScriptedStore} (hs : s.Sound)
    (htallies : after.tallies = s.tallies)
    (houtcomes : after.evaluateOutcomes ⊆ s.evaluateOutcomes) : after.Sound where
  counted n hn := hs.counted n (houtcomes hn)
  nonneg := by rw [htallies]; exact hs.nonneg

theorem counters_congr {s after : ScriptedStore} (h : after.tallies = s.tallies) :
    after.counters = s.counters := by
  funext key
  simp [counters, h]

theorem load_frame (script : String) (s : ScriptedStore) :
    (s.load script).2.tallies = s.tallies ∧
    (s.load script).2.evaluateOutcomes = s.evaluateOutcomes := by
  cases hdown : s.down with
  | true => simp [load, record, hdown]
  | false =>
      cases houtcomes : s.loadOutcomes with
      | nil => simp [load, record, hdown, houtcomes]
      | cons outcome rest => cases outcome <;> simp [load, record, hdown, houtcomes]

-- Before the count a sound store can only fail, and it keeps its tallies.
theorem request_frame {s : ScriptedStore} (hs : s.Sound) (handle key : String)
    (secondsKept : UInt64) :
    (s.request handle key secondsKept).2.tallies = s.tallies ∧
    (s.request handle key secondsKept).2.evaluateOutcomes ⊆ s.evaluateOutcomes ∧
    ∀ count, (s.request handle key secondsKept).1 ≠ some (.ok count) := by
  cases hdown : s.down with
  | true => simp [request, record, hdown]
  | false =>
      cases houtcomes : s.evaluateOutcomes with
      | nil =>
          simp only [request, record, hdown, houtcomes]
          split_ifs <;> simp
      | cons outcome rest =>
          cases outcome with
          | failure error => simp [request, record, hdown, houtcomes]
          | count n => exact absurd (by simp [houtcomes]) (hs.counted n)
          | normal =>
              simp only [request, record, hdown, houtcomes]
              split_ifs <;> simp

theorem increment_spec {s : ScriptedStore} (hs : s.Sound) (key : String) (secondsKept : UInt64) :
    (s.increment key secondsKept).1 = s.counters key + 1 ∧
    (s.increment key secondsKept).2.counters = bumped s.counters key ∧
    (s.increment key secondsKept).2.Sound := by
  -- only the number in the tally matters, whether or not there was one before
  obtain ⟨kept, hincrement⟩ : ∃ kept, s.increment key secondsKept =
      ((s.counters key + 1 : Int),
        { s with tallies := s.tallies.insert key ⟨s.counters key + 1, kept⟩ }) := by
    cases htally : s.tallies[key]? with
    | none => exact ⟨secondsKept, by simp [increment, counters, htally]⟩
    | some tally =>
        have hnonneg := hs.nonneg key tally htally
        have hcount : (tally.count.toNat : Int) = tally.count := Int.toNat_of_nonneg hnonneg
        exact ⟨tally.secondsKept, by simp [increment, counters, htally, hcount]⟩
  rw [hincrement]
  refine ⟨rfl, ?_, hs.counted, ?_⟩
  · funext other
    by_cases he : other = key
    · subst he
      simp [counters]
    · have hne : (key == other) = false := by simpa using Ne.symm he
      rw [bumped_of_ne _ he]
      simp [counters, Std.HashMap.getElem?_insert, hne]
  · intro other tally h
    rw [Std.HashMap.getElem?_insert] at h
    split at h
    · cases h
      simp only
      omega
    · exact hs.nonneg other tally h

theorem evaluate_spec {s : ScriptedStore} (hs : s.Sound) (handle key : String)
    (secondsKept : UInt64) :
    (s.evaluate handle key secondsKept).2.Sound ∧
    ((∃ error, (s.evaluate handle key secondsKept).1 = .error error ∧
        (s.evaluate handle key secondsKept).2.counters = s.counters) ∨
      ((s.evaluate handle key secondsKept).1 = .ok (s.counters key + 1 : Nat) ∧
        (s.evaluate handle key secondsKept).2.counters = bumped s.counters key)) := by
  obtain ⟨htallies, houtcomes, hnotOk⟩ := request_frame hs handle key secondsKept
  cases hrequest : s.request handle key secondsKept with
  | mk result after =>
      rw [hrequest] at htallies houtcomes hnotOk
      have hafter : after.Sound := hs.of_eq htallies houtcomes
      have hcounters := counters_congr htallies
      cases result with
      | none =>
          obtain ⟨hcount, hbumped, hsound⟩ := increment_spec hafter key secondsKept
          simp only [evaluate, hrequest]
          refine ⟨hsound, Or.inr ⟨?_, ?_⟩⟩
          · simp [hcount, hcounters]
          · rw [hbumped, hcounters]
      | some result =>
          cases result with
          | ok count => exact absurd rfl (hnotOk count)
          | error error =>
              simp only [evaluate, hrequest]
              exact ⟨hafter, Or.inl ⟨error, rfl, hcounters⟩⟩

-- The scripted store counts as a real one does, whatever faults it is told to have.
def counting : Counting store where
  sound := Sound
  counters := counters
  sound_load {s after script result} hs h := by
    obtain ⟨htallies, houtcomes⟩ := load_frame script s
    rw [show s.load script = (result, after) from h] at htallies houtcomes
    exact hs.of_eq htallies fun outcome ho => houtcomes ▸ ho
  counters_load {s after script result} hs h := by
    have htallies := (load_frame script s).1
    rw [show s.load script = (result, after) from h] at htallies
    exact counters_congr htallies
  sound_evaluate {s after handle key secondsKept result} hs h := by
    have hspec := evaluate_spec hs handle key secondsKept
    rw [show s.evaluate handle key secondsKept = (result, after) from h] at hspec
    exact hspec.1
  counters_ok {s after handle key secondsKept count} hs h := by
    have hspec := evaluate_spec hs handle key secondsKept
    rw [show s.evaluate handle key secondsKept = (.ok count, after) from h] at hspec
    simpa using hspec.2
  counters_unknownScript {s after handle key secondsKept} hs h := by
    have hspec := evaluate_spec hs handle key secondsKept
    rw [show s.evaluate handle key secondsKept = (.error .unknownScript, after) from h] at hspec
    simpa using hspec.2
  counters_error {s after handle key secondsKept error} hs h := by
    have hspec := evaluate_spec hs handle key secondsKept
    rw [show s.evaluate handle key secondsKept = (.error error, after) from h] at hspec
    exact Or.inl (by simpa using hspec.2)

end ScriptedStore

end AdmissionControl.RateLimit
