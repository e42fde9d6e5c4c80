import AdmissionControl.Proofs.Shared.Keys
import AdmissionControl.Proofs.Shared.Serving
import AdmissionControl.Proofs.Window.Minutes
import AdmissionControl.RateLimit.Limiter

namespace AdmissionControl.RateLimit

open Identity

-- What may come up for a limiter. Others may change its store at any time.
inductive Occasion (σ : Type) where
  | visited (visit : Visit)
  | healthAsked
  | storeChanged (change : σ → σ)

def Occasion.arrival? {σ : Type} : Occasion σ → Option Arrival
  | .visited visit => some visit.arrival
  | _ => none

def arrivals {σ : Type} (occasions : List (Occasion σ)) : List Arrival :=
  occasions.filterMap Occasion.arrival?

-- A limiter and the store that it may ask.
structure Scene (σ : Type) where
  limiter : Limiter
  store : σ

namespace Scene

variable {σ : Type} (store : CounterStore σ)

def ruling (scene : Scene σ) (visit : Visit) : Ruling σ :=
  scene.limiter.allow store scene.store visit.clock visit.client

def next (scene : Scene σ) : Occasion σ → Scene σ
  | .visited visit => ⟨(scene.ruling store visit).limiter, (scene.ruling store visit).store⟩
  | .healthAsked => { scene with store := (scene.limiter.health store scene.store).2 }
  | .storeChanged change => { scene with store := change scene.store }

def after (scene : Scene σ) (occasions : List (Occasion σ)) : Scene σ :=
  occasions.foldl (next store) scene

def answer? (scene : Scene σ) : Occasion σ → Option (Arrival × Bool)
  | .visited visit => some (visit.arrival, (scene.ruling store visit).allowed)
  | _ => none

-- The answers to the requests among the occasions, in their order.
def answers (scene : Scene σ) : List (Occasion σ) → List (Arrival × Bool)
  | [] => []
  | occasion :: rest =>
    (scene.answer? store occasion).toList ++ (scene.next store occasion).answers rest

variable {store} {scene : Scene σ}

theorem ruling_of_inMemory (store : CounterStore σ) {limiter : LocalLimiter}
    (hlimiter : scene.limiter = .inMemory limiter) (visit : Visit) :
    scene.ruling store visit =
      ⟨(limiter.allow visit.clock visit.client).1,
        .inMemory (limiter.allow visit.clock visit.client).2, scene.store, []⟩ := by
  simp only [ruling, hlimiter]
  rfl

theorem ruling_of_shared {limiter : SharedLimiter} (hlimiter : scene.limiter = .shared limiter)
    (visit : Visit) :
    let result := limiter.allow store scene.store visit.clock visit.client
    scene.ruling store visit =
      ⟨result.1, .shared result.2.1, result.2.2.1, result.2.2.2⟩ := by
  simp only [ruling, hlimiter]
  rfl

theorem after_append (scene : Scene σ) (earlier later : List (Occasion σ)) :
    scene.after store (earlier ++ later) = (scene.after store earlier).after store later := by
  simp [after]

theorem answers_append (scene : Scene σ) (earlier later : List (Occasion σ)) :
    scene.answers store (earlier ++ later) =
      scene.answers store earlier ++ (scene.after store earlier).answers store later := by
  induction earlier generalizing scene with
  | nil => rfl
  | cons occasion rest ih =>
      simp only [List.cons_append, answers, ih, List.append_assoc]
      rfl

section Calm

variable {counting : Counting store} {settings : SharedSettings}

-- A limiter that has had no failure to note, over a store in a sound state.
structure Calm (counting : Counting store) (settings : SharedSettings) (scene : Scene σ) :
    Prop where
  limiter : ∃ limiter : SharedLimiter, scene.limiter = .shared limiter ∧
    limiter.settings = settings ∧ limiter.breaker = .closed
  sound : counting.sound scene.store

theorem isDegraded_of_closed {breaker : Breaker} (hbreaker : breaker = .closed) (now : Span) :
    breaker.isDegraded now = false := by
  rw [hbreaker]
  rfl

-- One request, when nothing fails: it is counted, and the count decides.
theorem visited_of_calm (serving : Serving counting) (h : Calm counting settings scene)
    (hlimit : 0 < settings.limit) (visit : Visit) :
    let used := visit.arrival.key settings
    let after := scene.next store (.visited visit)
    scene.answer? store (.visited visit) =
      some (visit.arrival,
        decide (counting.counters scene.store used + 1 ≤ settings.limit)) ∧
    Calm counting settings after ∧
    counting.counters after.store = bumped (counting.counters scene.store) used := by
  obtain ⟨limiter, hlimiter, rfl, hbreaker⟩ := h.limiter
  obtain ⟨hallowed, hsettings, hclosed, hsound, hcounters⟩ :=
    SharedLimiter.allow_of_serving serving h.sound
      (by simpa [SharedLimiter.isEnabled] using hlimit) visit.clock
      (isDegraded_of_closed hbreaker _) visit.client
  simp only [answer?, next, ruling_of_shared hlimiter, hallowed]
  exact ⟨rfl, ⟨⟨_, rfl, hsettings, hclosed⟩, hsound⟩, hcounters⟩

end Calm

end Scene

end AdmissionControl.RateLimit
