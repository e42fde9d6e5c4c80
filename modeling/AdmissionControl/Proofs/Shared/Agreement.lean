import AdmissionControl.Proofs.Shared.Occasions

namespace AdmissionControl.RateLimit

open Identity

-- A change of the store that no counter can tell, such as the loss of the script.
def Harmless {σ : Type} {store : CounterStore σ} (counting : Counting store) (change : σ → σ) :
    Prop :=
  ∀ s, counting.sound s → counting.sound (change s) ∧
    counting.counters (change s) = counting.counters s

namespace Scene

variable {σ : Type} {store : CounterStore σ} {counting : Counting store}
variable {settings : SharedSettings} {seen : List Arrival} {memory shared : Scene σ}

-- Both limiters have counted the same arrivals, one in its windows and one in its store.
structure Agreeing (counting : Counting store) (settings : SharedSettings) (seen : List Arrival)
    (memory shared : Scene σ) : Prop where
  windows : memory.limiter = .inMemory ((LocalLimiter.withLimit settings.limit).after seen)
  calm : Calm counting settings shared
  counters : ∀ arrival : Arrival,
    counting.counters shared.store (arrival.key settings) = seen.count arrival

-- Out of use, both let everyone in and count nobody.
theorem visited_of_disabled (h : Agreeing counting settings seen memory shared)
    (hlimit : settings.limit = 0) (visit : Visit) :
    memory.answer? store (.visited visit) = shared.answer? store (.visited visit) ∧
    Agreeing counting settings seen (memory.next store (.visited visit))
      (shared.next store (.visited visit)) := by
  obtain ⟨limiter, hlimiter, rfl, hbreaker⟩ := h.calm.limiter
  have hcounted :
      ((LocalLimiter.withLimit limiter.settings.limit).after seen).isEnabled = false := by
    simp [LocalLimiter.isEnabled, LocalLimiter.withLimit, hlimit]
  have henabled : limiter.isEnabled = false := by simp [SharedLimiter.isEnabled, hlimit]
  have hmemory : memory.ruling store visit =
      ⟨true, .inMemory ((LocalLimiter.withLimit limiter.settings.limit).after seen), memory.store,
        []⟩ := by
    simp [ruling_of_inMemory store h.windows, LocalLimiter.allow, hcounted]
  have hshared : shared.ruling store visit = ⟨true, .shared limiter, shared.store, []⟩ := by
    simp [ruling_of_shared hlimiter, SharedLimiter.allow, SharedLimiter.start, henabled]
  refine ⟨by simp only [answer?, hmemory, hshared], ?_⟩
  simp only [next, hmemory, hshared]
  exact ⟨rfl, ⟨⟨limiter, rfl, rfl, hbreaker⟩, h.calm.sound⟩, h.counters⟩

-- In use, the window that is gone on with and the counter of the key say the same,
-- as no bucket that is over comes again.
theorem visited_of_enabled (serving : Serving counting)
    (h : Agreeing counting settings seen memory shared) (hlimit : 0 < settings.limit)
    (visit : Visit) (horder : (seen ++ [visit.arrival]).Pairwise fun a b => a.bucket ≤ b.bucket) :
    memory.answer? store (.visited visit) = shared.answer? store (.visited visit) ∧
    Agreeing counting settings (seen ++ [visit.arrival]) (memory.next store (.visited visit))
      (shared.next store (.visited visit)) := by
  obtain ⟨hbefore, -, hlatest⟩ := List.pairwise_append.mp horder
  have hstanding := LocalLimiter.standing_eq_count settings.limit seen visit.arrival hbefore
    fun earlier he => hlatest earlier he visit.arrival (by simp)
  have hcounted := LocalLimiter.allow_eq_count
    ((LocalLimiter.withLimit settings.limit).after seen) visit
    (by rw [LocalLimiter.after_limit]; exact hlimit)
  have hmemory := ruling_of_inMemory store h.windows visit
  rw [hcounted] at hmemory
  obtain ⟨hanswer, hcalm, hcounters⟩ := visited_of_calm serving h.calm hlimit visit
  refine ⟨?_, ?_, hcalm, ?_⟩
  · rw [hanswer, h.counters]
    simp only [answer?, hmemory, LocalLimiter.count_fst, hstanding, LocalLimiter.after_limit]
    rfl
  · simp only [next, hmemory, LocalLimiter.after_concat]
  · intro arrival
    rw [hcounters, LocalLimiter.count_concat, ← h.counters arrival]
    by_cases he : visit.arrival = arrival
    · subst he
      simp
    · rw [bumped_of_ne _ fun hkey => he ((Arrival.key_inj settings).mp hkey).symm]
      simp [he]

-- What is done to the store between the calls makes no difference to either.
theorem next_agreeing (serving : Serving counting)
    (h : Agreeing counting settings seen memory shared) (occasion : Occasion σ)
    (horder : (seen ++ occasion.arrival?.toList).Pairwise fun a b => a.bucket ≤ b.bucket)
    (hharmless : ∀ change, occasion = .storeChanged change → Harmless counting change) :
    memory.answer? store occasion = shared.answer? store occasion ∧
    ∃ later, later.Sublist (seen ++ occasion.arrival?.toList) ∧
      Agreeing counting settings later (memory.next store occasion)
        (shared.next store occasion) := by
  cases occasion with
  | visited visit =>
      rcases Nat.eq_zero_or_pos settings.limit with hlimit | hlimit
      · obtain ⟨hanswer, hnext⟩ := visited_of_disabled h hlimit visit
        exact ⟨hanswer, seen, List.sublist_append_left _ _, hnext⟩
      · obtain ⟨hanswer, hnext⟩ := visited_of_enabled serving h hlimit visit horder
        exact ⟨hanswer, _, List.Sublist.refl _, hnext⟩
  | healthAsked =>
      refine ⟨rfl, seen, List.sublist_append_left _ _, ?_⟩
      obtain ⟨limiter, hlimiter, hsettings, hbreaker⟩ := h.calm.limiter
      obtain ⟨after, hping, hsound, hcounters⟩ := serving.ping_ok h.calm.sound
      have hkept : (shared.limiter.health store shared.store).2 = shared.store ∨
          (shared.limiter.health store shared.store).2 = after := by
        cases henabled : limiter.isEnabled <;> simp [hlimiter, Limiter.health, henabled, hping]
      rcases hkept with he | he <;> simp only [next, he]
      · exact ⟨h.windows, h.calm, h.counters⟩
      · exact ⟨h.windows, ⟨h.calm.limiter, hsound⟩, fun arrival => hcounters ▸ h.counters arrival⟩
  | storeChanged change =>
      obtain ⟨hsound, hcounters⟩ := hharmless change rfl shared.store h.calm.sound
      exact ⟨rfl, seen, List.sublist_append_left _ _, h.windows, ⟨h.calm.limiter, hsound⟩,
        fun arrival => hcounters ▸ h.counters arrival⟩

theorem answers_agree (serving : Serving counting) (occasions : List (Occasion σ))
    (h : Agreeing counting settings seen memory shared)
    (horder : (seen ++ arrivals occasions).Pairwise fun a b => a.bucket ≤ b.bucket)
    (hharmless : ∀ change, .storeChanged change ∈ occasions → Harmless counting change) :
    memory.answers store occasions = shared.answers store occasions ∧
    ∃ later, Agreeing counting settings later (memory.after store occasions)
      (shared.after store occasions) := by
  induction occasions generalizing seen memory shared with
  | nil => exact ⟨rfl, seen, h⟩
  | cons occasion rest ih =>
      have harrivals : arrivals (occasion :: rest) = occasion.arrival?.toList ++ arrivals rest := by
        cases harrival : occasion.arrival? <;> simp [arrivals, harrival]
      rw [harrivals, ← List.append_assoc] at horder
      obtain ⟨hanswer, later, hlater, hnext⟩ := next_agreeing serving h occasion
        (List.pairwise_append.mp horder).1 fun change he => hharmless change (by simp [he])
      obtain ⟨hrest, hafter⟩ := ih hnext (horder.sublist (hlater.append_right _))
        fun change hm => hharmless change (List.mem_cons_of_mem _ hm)
      exact ⟨by rw [answers, answers, hanswer, hrest], hafter⟩

theorem agreeing_of_fresh (s : RateLimitSettings) {state : σ} (hsound : counting.sound state)
    (hfresh : ∀ key, counting.counters state key = 0) :
    Agreeing counting (Limiter.sharedOfSettings s).settings []
      ⟨.ofSettings { s with backend := .memory }, state⟩
      ⟨.ofSettings { s with backend := .sharedStore }, state⟩ :=
  ⟨rfl, ⟨⟨_, rfl, rfl, rfl⟩, hsound⟩, fun _ => hfresh _⟩

-- Over a store without faults that starts out empty, it makes no difference where the
-- counters are kept, and the store is never taken to be down.
theorem backends_agree (serving : Serving counting) (settings : RateLimitSettings) (s : σ)
    (occasions : List (Occasion σ)) (hsound : counting.sound s)
    (hfresh : ∀ key, counting.counters s key = 0)
    (horder : (arrivals occasions).Pairwise fun a b => a.bucket ≤ b.bucket)
    (hharmless : ∀ change, .storeChanged change ∈ occasions → Harmless counting change) :
    let memory : Scene σ := ⟨.ofSettings { settings with backend := .memory }, s⟩
    let shared : Scene σ := ⟨.ofSettings { settings with backend := .sharedStore }, s⟩
    memory.answers store occasions = shared.answers store occasions ∧
    ∀ earlier, earlier <+: occasions → ∃ limiter : SharedLimiter,
      (shared.after store earlier).limiter = .shared limiter ∧
      ∀ now, limiter.breaker.state now = .normal := by
  intro memory shared
  have hstart := agreeing_of_fresh settings hsound hfresh
  refine ⟨(answers_agree serving occasions hstart horder hharmless).1, ?_⟩
  rintro earlier ⟨rest, rfl⟩
  have hearlier : (arrivals earlier).Pairwise fun a b => a.bucket ≤ b.bucket :=
    horder.sublist ((List.sublist_append_left earlier rest).filterMap _)
  obtain ⟨-, later, hlater⟩ := answers_agree serving earlier hstart hearlier
    fun change hm => hharmless change (List.mem_append_left _ hm)
  obtain ⟨limiter, hlimiter, -, hbreaker⟩ := hlater.calm.limiter
  exact ⟨limiter, hlimiter, fun now => by rw [hbreaker]; rfl⟩

-- One request a minute, with the script lost between two requests of the first minute and
-- a third one in the next.
theorem backends_agree_on_two_minutes :
    let settings : RateLimitSettings := { requestsPerMinute := 1 }
    let visit (unixSeconds : UInt64) : Occasion ScriptedStore :=
      .visited ⟨⟨unixSeconds, 0⟩, ⟨"203.0.113.5"⟩⟩
    let occasions := [
      visit 60, .storeChanged ScriptedStore.evict, .healthAsked, visit 119, visit 120]
    let memory : Scene ScriptedStore := ⟨.ofSettings { settings with backend := .memory }, {}⟩
    let shared : Scene ScriptedStore := ⟨.ofSettings { settings with backend := .sharedStore }, {}⟩
    ((memory.answers ScriptedStore.store occasions).map Prod.snd = [true, false, true]) ∧
    memory.answers ScriptedStore.store occasions = shared.answers ScriptedStore.store occasions ∧
    ∃ limiter : SharedLimiter,
      (shared.after ScriptedStore.store occasions).limiter = .shared limiter ∧
      limiter.breaker.state .zero = .normal := by
  intro settings visit occasions memory shared
  have hfaultless : ScriptedStore.Faultless {} := ⟨⟨by simp, by simp⟩, rfl, rfl, rfl, rfl⟩
  have hharmless : ∀ change, .storeChanged change ∈ occasions →
      Harmless ScriptedStore.faultless change := by
    intro change hm
    obtain rfl : change = ScriptedStore.evict := by simpa [occasions, visit] using hm
    exact fun s hs => ScriptedStore.evict_harmless hs
  obtain ⟨hanswers, hnormal⟩ := backends_agree ScriptedStore.serving settings {} occasions
    hfaultless (fun key => by simp [ScriptedStore.faultless, ScriptedStore.counters]) (by decide)
    hharmless
  obtain ⟨limiter, hlimiter, hstate⟩ := hnormal occasions (List.prefix_refl _)
  have hcounted : ((LocalLimiter.withLimit 1).answered
      [⟨⟨60, 0⟩, ⟨"203.0.113.5"⟩⟩, ⟨⟨119, 0⟩, ⟨"203.0.113.5"⟩⟩, ⟨⟨120, 0⟩, ⟨"203.0.113.5"⟩⟩]).map
      Prod.snd = [true, false, true] := by
    rw [LocalLimiter.answered_eq_answers _ _ (by decide),
      LocalLimiter.answers_eq_judged _ _ (by decide)]
    decide
  exact ⟨hcounted, hanswers, limiter, hlimiter, hstate .zero⟩

end Scene

end AdmissionControl.RateLimit
