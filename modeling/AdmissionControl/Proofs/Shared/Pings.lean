import AdmissionControl.Proofs.Shared.Exchanges
import AdmissionControl.RateLimit.Limiter
import AdmissionControl.RateLimit.ScriptedStore

namespace AdmissionControl.RateLimit

open Identity

variable {σ τ : Type}

-- A store that does not count its pings. All that loads and evaluations go by is in the
-- view, and pinging the store leaves that as it is.
structure PingsUnseen (store : CounterStore σ) (view : σ → τ) : Prop where
  ping (s : σ) : view (store.ping s).2 = view s
  load {one other : σ} (hview : view one = view other) (script : String) :
    (store.load script one).1 = (store.load script other).1 ∧
      view (store.load script one).2 = view (store.load script other).2
  evaluate {one other : σ} (hview : view one = view other) (handle key : String)
      (secondsKept : UInt64) :
    (store.evaluate handle key secondsKept one).1 =
        (store.evaluate handle key secondsKept other).1 ∧
      view (store.evaluate handle key secondsKept one).2 =
        view (store.evaluate handle key secondsKept other).2

def Exchange.isPing : Exchange → Bool
  | .ping _ => true
  | _ => false

def StoreCall.isPing : StoreCall → Bool
  | .ping => true
  | _ => false

-- With a record of its calls a store also shows all of these but pings.
def viewRecorded (view : σ → τ) (s : σ × List Exchange) : τ × List Exchange :=
  (view s.1, s.2.filter fun made => !made.isPing)

theorem PingsUnseen.recorded {store : CounterStore σ} {view : σ → τ}
    (hunseen : PingsUnseen store view) : PingsUnseen store.recorded (viewRecorded view) where
  ping s := by simp [CounterStore.recorded, viewRecorded, Exchange.isPing, hunseen.ping]
  load {one other} hview script := by
    obtain ⟨hstore, hmade⟩ := Prod.mk.inj hview
    obtain ⟨hresult, hafter⟩ := hunseen.load hstore script
    refine ⟨hresult, ?_⟩
    simp only [CounterStore.recorded, viewRecorded, List.filter_append, hmade, hresult, hafter]
  evaluate {one other} hview handle key secondsKept := by
    obtain ⟨hstore, hmade⟩ := Prod.mk.inj hview
    obtain ⟨hresult, hafter⟩ := hunseen.evaluate hstore handle key secondsKept
    refine ⟨hresult, ?_⟩
    simp only [CounterStore.recorded, viewRecorded, List.filter_append, hmade, hresult, hafter]

namespace ScriptedStore

-- The whole store, but for how pings are to end and which have been made.
def apartFromPings (s : ScriptedStore) : ScriptedStore :=
  { s with
    pingOutcomes := []
    calls := s.calls.filter fun call => !call.isPing }

theorem ping_apartFromPings (s : ScriptedStore) : s.ping.2.apartFromPings = s.apartFromPings := by
  cases hdown : s.down with
  | true => simp [ping, record, apartFromPings, StoreCall.isPing, hdown]
  | false =>
      cases houtcomes : s.pingOutcomes with
      | nil => simp [ping, record, apartFromPings, StoreCall.isPing, hdown, houtcomes]
      | cons outcome rest =>
          cases outcome <;>
            simp [ping, record, apartFromPings, StoreCall.isPing, hdown, houtcomes]

-- What is left of a store without its pings is loaded and evaluates as the store itself.
theorem load_apartFromPings (s : ScriptedStore) (script : String) :
    (s.apartFromPings.load script).1 = (s.load script).1 ∧
      (s.apartFromPings.load script).2.apartFromPings = (s.load script).2.apartFromPings := by
  cases hdown : s.down with
  | true => simp [load, record, apartFromPings, StoreCall.isPing, hdown]
  | false =>
      cases houtcomes : s.loadOutcomes with
      | nil => simp [load, record, handle, apartFromPings, StoreCall.isPing, hdown, houtcomes]
      | cons outcome rest =>
          cases outcome <;>
            simp [load, record, handle, apartFromPings, StoreCall.isPing, hdown, houtcomes]

theorem request_apartFromPings (s : ScriptedStore) (held key : String) (secondsKept : UInt64) :
    (s.apartFromPings.request held key secondsKept).1 = (s.request held key secondsKept).1 ∧
      (s.apartFromPings.request held key secondsKept).2.apartFromPings =
        (s.request held key secondsKept).2.apartFromPings := by
  cases hdown : s.down with
  | true => simp [request, record, apartFromPings, StoreCall.isPing, hdown]
  | false =>
      cases houtcomes : s.evaluateOutcomes with
      | nil =>
          simp only [request, record, handle, apartFromPings, hdown, houtcomes]
          split_ifs <;> simp [StoreCall.isPing]
      | cons outcome rest =>
          cases outcome <;> simp only [request, record, handle, apartFromPings, hdown, houtcomes]
          · split_ifs <;> simp [StoreCall.isPing]
          · simp [StoreCall.isPing]
          · simp [StoreCall.isPing]

theorem increment_apartFromPings (s : ScriptedStore) (key : String) (secondsKept : UInt64) :
    (s.apartFromPings.increment key secondsKept).1 = (s.increment key secondsKept).1 ∧
      (s.apartFromPings.increment key secondsKept).2.apartFromPings =
        (s.increment key secondsKept).2.apartFromPings :=
  ⟨rfl, by simp [increment, apartFromPings]⟩

theorem evaluate_apartFromPings (s : ScriptedStore) (held key : String) (secondsKept : UInt64) :
    (s.apartFromPings.evaluate held key secondsKept).1 = (s.evaluate held key secondsKept).1 ∧
      (s.apartFromPings.evaluate held key secondsKept).2.apartFromPings =
        (s.evaluate held key secondsKept).2.apartFromPings := by
  obtain ⟨hresult, hafter⟩ := s.request_apartFromPings held key secondsKept
  simp only [evaluate]
  rcases hrequest : s.request held key secondsKept with ⟨result, after⟩
  rcases hsame : s.apartFromPings.request held key secondsKept with ⟨same, last⟩
  rw [hrequest, hsame] at hresult hafter
  obtain rfl : same = result := hresult
  cases same with
  | some result => exact ⟨rfl, hafter⟩
  | none =>
      obtain ⟨hcount, hcounted⟩ := last.increment_apartFromPings key secondsKept
      obtain ⟨hsame, hlast⟩ := after.increment_apartFromPings key secondsKept
      rw [show last.apartFromPings = after.apartFromPings from hafter] at hcount hcounted
      exact ⟨congrArg Except.ok (hcount.symm.trans hsame), hcounted.symm.trans hlast⟩

theorem pingsUnseen : PingsUnseen store apartFromPings where
  ping := ping_apartFromPings
  load {one other} hview script := by
    obtain ⟨hresult, hafter⟩ := one.load_apartFromPings script
    obtain ⟨hother, hlast⟩ := other.load_apartFromPings script
    rw [hview] at hresult hafter
    exact ⟨hresult.symm.trans hother, hafter.symm.trans hlast⟩
  evaluate {one other} hview held key secondsKept := by
    obtain ⟨hresult, hafter⟩ := one.evaluate_apartFromPings held key secondsKept
    obtain ⟨hother, hlast⟩ := other.evaluate_apartFromPings held key secondsKept
    rw [hview] at hresult hafter
    exact ⟨hresult.symm.trans hother, hafter.symm.trans hlast⟩

end ScriptedStore

namespace SharedLimiter

variable {store : CounterStore σ} {view : σ → τ} {one other : σ}

theorem step_congr (hunseen : PingsUnseen store view) (hview : view one = view other)
    (limiter : SharedLimiter) (call : Call) :
    (step store one limiter call).1 = (step store other limiter call).1 ∧
      view (step store one limiter call).2 = view (step store other limiter call).2 := by
  simp only [step]
  cases call.phase with
  | loading again =>
      obtain ⟨hresult, hafter⟩ := hunseen.load hview windowScript
      exact ⟨congrArg (limiter.loaded call again) hresult, hafter⟩
  | evaluating handle again =>
      obtain ⟨hresult, hafter⟩ :=
        hunseen.evaluate hview handle call.key limiter.settings.secondsKept
      exact ⟨congrArg (limiter.evaluated call again) hresult, hafter⟩

-- A call comes to the same from two states with the same view.
theorem finish_congr (hunseen : PingsUnseen store view) (hview : view one = view other)
    (limiter : SharedLimiter) (call : Call) :
    let result := finish store one limiter call
    let same := finish store other limiter call
    result.1 = same.1 ∧ result.2.1 = same.2.1 ∧ view result.2.2.1 = view same.2.2.1 ∧
      result.2.2.2 = same.2.2.2 := by
  -- the rank of the phase falls with each step
  induction hrank : call.phase.rank using Nat.strongRecOn
    generalizing one other limiter call with
  | ind rank ih =>
      obtain ⟨hturn, hafter⟩ := step_congr hunseen hview limiter call
      rcases hone : step store one limiter call with ⟨⟨progress, later, journal⟩, after⟩
      rcases hother : step store other limiter call with ⟨turn, last⟩
      rw [hone, hother] at hturn hafter
      obtain rfl : turn = ⟨progress, later, journal⟩ := hturn.symm
      cases progress with
      | answered allowed =>
          rw [finish_of_answered hone, finish_of_answered hother]
          exact ⟨rfl, rfl, hafter, rfl⟩
      | asking next =>
          have hlt : next.phase.rank < rank := by
            rw [← hrank]
            exact rank_step_lt (by rw [hone])
          obtain ⟨hallowed, hlimiter, hstore, hjournal⟩ := ih _ hlt hafter later next rfl
          rw [finish_of_asking hone, finish_of_asking hother]
          exact ⟨hallowed, hlimiter, hstore, congrArg (journal ++ ·) hjournal⟩

end SharedLimiter

-- So does what a limiter says to a request.
theorem Limiter.allow_congr {store : CounterStore σ} {view : σ → τ} {one other : σ}
    (hunseen : PingsUnseen store view) (hview : view one = view other) (limiter : Limiter)
    (clock : Clock) (client : Client) :
    let result := limiter.allow store one clock client
    let same := limiter.allow store other clock client
    result.allowed = same.allowed ∧ result.limiter = same.limiter ∧
      view result.store = view same.store ∧ result.journal = same.journal := by
  cases limiter with
  | inMemory limiter => exact ⟨rfl, rfl, hview, rfl⟩
  | shared limiter =>
      simp only [allow, SharedLimiter.allow]
      cases limiter.start clock client with
      | answered allowed => exact ⟨rfl, rfl, hview, rfl⟩
      | asking call =>
          obtain ⟨hallowed, hlimiter, hstore, hjournal⟩ :=
            SharedLimiter.finish_congr hunseen hview limiter call
          exact ⟨hallowed, congrArg Limiter.shared hlimiter, hstore, hjournal⟩

theorem Limiter.view_health {store : CounterStore σ} {view : σ → τ}
    (hunseen : PingsUnseen store view) (s : σ) (limiter : Limiter) :
    view (limiter.health store s).2 = view s := by
  cases limiter with
  | inMemory limiter => rfl
  | shared limiter =>
      have hping := hunseen.ping s
      simp only [health]
      split
      · rfl
      · split <;> simp_all

end AdmissionControl.RateLimit
