import AdmissionControl.Proofs.Shared.Serving
import Std.Data.HashMap

namespace AdmissionControl.RateLimit

-- How a store drops its keys. A key that is new when it is counted is kept for the seconds
-- that this call says, by the clock of the store. Later counts do not put that off.
structure Expiring {σ : Type} {store : CounterStore σ} (counting : Counting store) where
  now : σ → Nat
  drops : σ → String → Nat
  pass : Nat → σ → σ
  now_pass (s : σ) (time : Nat) : now (pass time s) = time
  sound_pass {s : σ} (hs : counting.sound s) (time : Nat) : counting.sound (pass time s)
  counters_pass {s : σ} (hs : counting.sound s) (time : Nat) (key : String) :
    counting.counters (pass time s) key =
      if drops s key ≤ time then 0 else counting.counters s key
  drops_pass {s : σ} {time : Nat} {key : String} (hs : counting.sound s)
    (hheld : counting.counters (pass time s) key ≠ 0) : drops (pass time s) key = drops s key
  frame_load {s after : σ} {script : String} {result : Except StoreError String}
    (hs : counting.sound s) (h : store.load script s = (result, after)) :
    now after = now s ∧ drops after = drops s
  frame_unknownScript {s after : σ} {handle key : String} {secondsKept : UInt64}
    (hs : counting.sound s)
    (h : store.evaluate handle key secondsKept s = (.error .unknownScript, after)) :
    now after = now s ∧ drops after = drops s
  counted {s after : σ} {handle key : String} {secondsKept : UInt64} {count : Int}
    (hs : counting.sound s) (h : store.evaluate handle key secondsKept s = (.ok count, after)) :
    now after = now s ∧
    drops after = if counting.counters s key = 0 then
      Function.update (drops s) key (now s + secondsKept.toNat * Span.nanosPerSecond)
    else drops s

theorem Expiring.prepared {σ : Type} {store : CounterStore σ} {counting : Counting store}
    (expiring : Expiring counting) {s after : σ} (hprepared : Prepared store s after)
    (hs : counting.sound s) :
    expiring.now after = expiring.now s ∧ expiring.drops after = expiring.drops s := by
  induction hprepared with
  | refl s => exact ⟨rfl, rfl⟩
  | loaded hload hrest ih =>
      obtain ⟨hnow, hdrops⟩ := ih (counting.sound_load hs hload)
      obtain ⟨hnow', hdrops'⟩ := expiring.frame_load hs hload
      exact ⟨hnow.trans hnow', hdrops.trans hdrops'⟩
  | lost hlost hrest ih =>
      obtain ⟨hnow, hdrops⟩ := ih (counting.sound_evaluate hs hlost)
      obtain ⟨hnow', hdrops'⟩ := expiring.frame_unknownScript hs hlost
      exact ⟨hnow.trans hnow', hdrops.trans hdrops'⟩

structure Entry where
  count : Nat
  dropsAt : Nat

-- A store that never fails and drops its keys in time. It knows a script by its text, so
-- that a handle is good for ever once the script is loaded.
structure KeyStore where
  now : Nat := 0
  loaded : Bool := false
  entries : Std.HashMap String Entry := ∅

namespace KeyStore

def counters (s : KeyStore) (key : String) : Nat := (s.entries[key]?.map Entry.count).getD 0

def drops (s : KeyStore) (key : String) : Nat := (s.entries[key]?.map Entry.dropsAt).getD 0

def Knows (s : KeyStore) (handle : String) : Prop := s.loaded = true ∧ handle = windowScript

instance (s : KeyStore) (handle : String) : Decidable (s.Knows handle) :=
  inferInstanceAs (Decidable (_ ∧ _))

def load (script : String) (s : KeyStore) : Except StoreError String × KeyStore :=
  (.ok script, { s with loaded := s.loaded || script == windowScript })

def counted (key : String) (secondsKept : UInt64) (s : KeyStore) : Entry :=
  match s.entries[key]? with
  | some entry => { entry with count := entry.count + 1 }
  | none => ⟨1, s.now + secondsKept.toNat * Span.nanosPerSecond⟩

def evaluate (handle key : String) (secondsKept : UInt64) (s : KeyStore) :
    Except StoreError Int × KeyStore :=
  if s.Knows handle then
    (.ok (s.counted key secondsKept).count,
      { s with entries := s.entries.insert key (s.counted key secondsKept) })
  else (.error .unknownScript, s)

def store : CounterStore KeyStore where
  load := load
  evaluate := evaluate
  ping s := (.ok (), s)

def pass (time : Nat) (s : KeyStore) : KeyStore :=
  { s with now := time, entries := s.entries.filter fun _ entry => time < entry.dropsAt }

-- A key that is held has been counted.
def Sound (s : KeyStore) : Prop :=
  ∀ (key : String) (entry : Entry), s.entries[key]? = some entry → 0 < entry.count

theorem sound_empty : Sound {} := fun key entry hentry => by
  simp at hentry

@[simp] theorem counters_empty (key : String) : counters {} key = 0 := by simp [counters]

theorem entries_pass (s : KeyStore) (time : Nat) (key : String) :
    (s.pass time).entries[key]? = s.entries[key]?.filter fun entry => time < entry.dropsAt := by
  simp [pass]

theorem counters_eq_zero {s : KeyStore} (hs : s.Sound) (key : String) :
    s.counters key = 0 ↔ s.entries[key]? = none := by
  cases hentry : s.entries[key]? with
  | none => simp [counters, hentry]
  | some entry => simpa [counters, hentry] using Nat.ne_of_gt (hs key entry hentry)

theorem counted_eq {s : KeyStore} (hs : s.Sound) (key : String) (secondsKept : UInt64) :
    s.counted key secondsKept = ⟨s.counters key + 1,
      if s.counters key = 0 then s.now + secondsKept.toNat * Span.nanosPerSecond
      else s.drops key⟩ := by
  simp only [counters_eq_zero hs]
  cases hentry : s.entries[key]? <;> simp [counted, counters, drops, hentry]

theorem load_eq {s after : KeyStore} {script : String} {result : Except StoreError String}
    (h : store.load script s = (result, after)) :
    after = { s with loaded := s.loaded || script == windowScript } :=
  (congrArg Prod.snd h).symm

theorem evaluate_eq {s after : KeyStore} {handle key : String} {secondsKept : UInt64}
    {result : Except StoreError Int}
    (h : store.evaluate handle key secondsKept s = (result, after)) :
    (s.Knows handle ∧ result = .ok (s.counted key secondsKept).count ∧
      after = { s with entries := s.entries.insert key (s.counted key secondsKept) }) ∨
    (¬s.Knows handle ∧ result = .error .unknownScript ∧ after = s) := by
  simp only [store, evaluate] at h
  split at h
  · rename_i hknows
    exact Or.inl ⟨hknows, (congrArg Prod.fst h).symm, (congrArg Prod.snd h).symm⟩
  · rename_i hknows
    exact Or.inr ⟨hknows, (congrArg Prod.fst h).symm, (congrArg Prod.snd h).symm⟩

theorem counters_insert (s : KeyStore) (key : String) (entry : Entry) :
    counters { s with entries := s.entries.insert key entry } =
      Function.update s.counters key entry.count := by
  funext other
  by_cases he : other = key
  · subst he
    simp [counters]
  · have hne : (key == other) = false := by simpa using Ne.symm he
    simp [counters, Std.HashMap.getElem?_insert, hne, he]

theorem drops_insert (s : KeyStore) (key : String) (entry : Entry) :
    drops { s with entries := s.entries.insert key entry } =
      Function.update s.drops key entry.dropsAt := by
  funext other
  by_cases he : other = key
  · subst he
    simp [drops]
  · have hne : (key == other) = false := by simpa using Ne.symm he
    simp [drops, Std.HashMap.getElem?_insert, hne, he]

theorem Sound.evaluate {s after : KeyStore} {handle key : String} {secondsKept : UInt64}
    {result : Except StoreError Int} (hs : s.Sound)
    (h : store.evaluate handle key secondsKept s = (result, after)) : after.Sound := by
  obtain ⟨-, -, rfl⟩ | ⟨-, -, rfl⟩ := evaluate_eq h
  · intro other entry hentry
    rw [Std.HashMap.getElem?_insert] at hentry
    split at hentry
    · cases hentry
      rw [counted_eq hs]
      exact Nat.succ_pos _
    · exact hs other entry hentry
  · exact hs

def counting : Counting store where
  sound := Sound
  counters := counters
  sound_load hs h := by
    obtain rfl := load_eq h
    exact hs
  counters_load hs h := by
    obtain rfl := load_eq h
    rfl
  sound_evaluate hs h := hs.evaluate h
  counters_ok {s after handle key secondsKept count} hs h := by
    obtain ⟨-, hcount, rfl⟩ | ⟨-, hcount, -⟩ := evaluate_eq h
    · cases hcount
      rw [counted_eq hs, counters_insert]
      exact ⟨by simp, rfl⟩
    · cases hcount
  counters_unknownScript {s after handle key secondsKept} hs h := by
    obtain ⟨-, hcount, -⟩ | ⟨-, -, rfl⟩ := evaluate_eq h
    · cases hcount
    · rfl
  counters_error {s after handle key secondsKept error} hs h := by
    obtain ⟨-, hcount, -⟩ | ⟨-, -, rfl⟩ := evaluate_eq h
    · cases hcount
    · exact Or.inl rfl

def serving : Serving counting where
  known := Knows
  load_ok {s} hs := ⟨_, _, rfl, by simp [Knows]⟩
  evaluate_ok {s handle} hs hknows key secondsKept := ⟨_, _, if_pos hknows⟩
  evaluate_unknown {s handle} hs hunknown key secondsKept := ⟨_, if_neg hunknown⟩
  ping_ok hs := ⟨_, rfl, hs, rfl⟩

def expiring : Expiring counting where
  now := now
  drops := drops
  pass := pass
  now_pass s time := rfl
  sound_pass {s} hs time := by
    intro key entry hentry
    rw [entries_pass] at hentry
    exact hs key entry (Option.filter_eq_some_iff.mp hentry).1
  counters_pass {s} hs time key := by
    change (s.pass time).counters key = if s.drops key ≤ time then 0 else s.counters key
    cases hentry : s.entries[key]? with
    | none => simp [counters, entries_pass, hentry]
    | some entry =>
        by_cases hdue : time < entry.dropsAt
        · simp [counters, drops, entries_pass, hentry, Option.filter, hdue, Nat.not_le.mpr hdue]
        · simp [counters, drops, entries_pass, hentry, Option.filter, hdue, Nat.not_lt.mp hdue]
  drops_pass {s time key} hs hheld := by
    change (s.pass time).counters key ≠ 0 at hheld
    cases hentry : s.entries[key]? with
    | none => simp [drops, entries_pass, hentry]
    | some entry =>
        by_cases hdue : time < entry.dropsAt
        · simp [drops, entries_pass, hentry, Option.filter, hdue]
        · simp [counters, entries_pass, hentry, Option.filter, hdue] at hheld
  frame_load hs h := by
    obtain rfl := load_eq h
    exact ⟨rfl, rfl⟩
  frame_unknownScript {s after handle key secondsKept} hs h := by
    obtain ⟨-, hcount, -⟩ | ⟨-, -, rfl⟩ := evaluate_eq h
    · cases hcount
    · exact ⟨rfl, rfl⟩
  counted {s after handle key secondsKept count} hs h := by
    obtain ⟨-, -, rfl⟩ | ⟨-, hcount, -⟩ := evaluate_eq h
    · rw [drops_insert, counted_eq hs]
      refine ⟨rfl, ?_⟩
      change Function.update s.drops key _ = if s.counters key = 0 then _ else s.drops
      split
      · rfl
      · exact Function.update_eq_self _ _
    · cases hcount

end KeyStore

end AdmissionControl.RateLimit
