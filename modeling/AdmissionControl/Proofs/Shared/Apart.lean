import AdmissionControl.Proofs.Shared.Crowd
import AdmissionControl.Proofs.Shared.Protocol

namespace AdmissionControl.RateLimit

open Identity

-- The key that the store is asked to count.
def Exchange.key? : Exchange → Option String
  | .evaluate _ key _ _ => some key
  | .load .. | .ping .. => none

namespace Mark

-- All keys that a mark tells of: the one that the store was asked to count, the one whose counter
-- has grown, and the one that the answer was for.
def keys : Mark → List String
  | .exchanged _ exchange grown => exchange.key?.toList ++ grown.toList
  | .answered _ used _ => used.toList

end Mark

namespace SharedLimiter

variable {σ : Type} {store : CounterStore σ} {s : σ} {limiter : SharedLimiter} {call : Call}

theorem key_of_start {clock : Clock} {client : Client}
    (hstart : limiter.start clock client = .asking call) :
    call.key = key limiter.settings clock.bucket client := by
  simp only [start] at hstart
  split_ifs at hstart
  cases hstart
  rfl

theorem key?_exchange {asked : String}
    (h : (exchange store s limiter call).key? = some asked) : asked = call.key := by
  rw [exchange] at h
  split at h
  · cases h
  · exact (Option.some.inj h).symm

end SharedLimiter

namespace Instances

variable {ι σ : Type} {store : CounterStore σ} (counting : Counting store)

-- All that can come of calls that arrive in this order, started and served in any order by
-- instances with the same settings. In between anything may become of the counters.
inductive Attended [DecidableEq ι] (settings : SharedSettings) :
    List Arrival → Instances ι σ → Prop where
  | start (limiters : ι → SharedLimiter) (s : σ)
      (hsettings : ∀ owner, (limiters owner).settings = settings) (hsound : counting.sound s) :
      Attended settings [] ⟨limiters, s, 0, [], []⟩
  | begun {arrivals : List Arrival} {s : Instances ι σ} (hs : Attended settings arrivals s)
      (owner : ι) (clock : Clock) (client : Client) :
      Attended settings (arrivals ++ [⟨clock.bucket, client⟩]) (s.begun owner clock client)
  | exchanged {arrivals : List Arrival} {s : Instances ι σ} (hs : Attended settings arrivals s)
      (front : List (Flight ι)) (flight : Flight ι) (back : List (Flight ι))
      (hflights : s.flights = front ++ flight :: back) :
      Attended settings arrivals (s.exchanged counting front flight back)
  | disturbed {arrivals : List Arrival} {s : Instances ι σ} (hs : Attended settings arrivals s)
      (after : σ) (hsound : counting.sound after) :
      Attended settings arrivals { s with store := after }

-- The call of this number is the one of an arrival, and the keys are none but its own.
def Own (settings : SharedSettings) (arrivals : List Arrival) (number : Nat) (keys : List String) :
    Prop :=
  ∃ arrival, arrivals[number]? = some arrival ∧ ∀ key ∈ keys, key = arrival.key settings

-- Whatever has been asked of the store or still is, each call has asked for its own key.
structure Attributed (settings : SharedSettings) (arrivals : List Arrival) (s : Instances ι σ) :
    Prop where
  sound : counting.sound s.store
  started : s.started = arrivals.length
  flights : ∀ flight ∈ s.flights, Own settings arrivals flight.number [flight.call.key]
  log : ∀ mark ∈ s.log, Own settings arrivals mark.number mark.keys
  settings : ∀ owner, (s.limiters owner).settings = settings

variable {counting} {settings : SharedSettings} {arrivals : List Arrival} {s : Instances ι σ}
variable {number : Nat} {keys : List String}

theorem Own.append (h : Own settings arrivals number keys) (more : List Arrival) :
    Own settings (arrivals ++ more) number keys := by
  obtain ⟨arrival, harrival, hkeys⟩ := h
  obtain ⟨hlt, -⟩ := List.getElem?_eq_some_iff.mp harrival
  exact ⟨arrival, (List.getElem?_append_left hlt).trans harrival, hkeys⟩

theorem Own.of_forall {others : List String} (h : Own settings arrivals number keys)
    (hothers : ∀ key ∈ others, key ∈ keys) : Own settings arrivals number others := by
  obtain ⟨arrival, harrival, hkeys⟩ := h
  exact ⟨arrival, harrival, fun key hkey => hkeys key (hothers key hkey)⟩

theorem eq_of_grown {before after : σ} {key grew : String}
    (h : grown counting before after key = some grew) : grew = key := by
  rw [grown] at h
  split at h
  · cases h
  · exact (Option.some.inj h).symm

-- An exchange tells of no key but that of its call.
theorem mem_keys_markOf {flight : Flight ι} {after : σ} {key : String}
    (h : key ∈ (markOf counting s flight after).keys) : key ∈ [flight.call.key] := by
  simp only [markOf, Mark.keys, List.mem_append, Option.mem_toList] at h
  rw [List.mem_singleton]
  rcases h with hasked | hgrown
  · exact SharedLimiter.key?_exchange hasked
  · exact eq_of_grown hgrown

theorem attributed_begun (h : Attributed counting settings arrivals s) (owner : ι) (clock : Clock)
    (client : Client) :
    Attributed counting settings (arrivals ++ [⟨clock.bucket, client⟩])
      (s.begun owner clock client) := by
  have hstarted : s.started + 1 = (arrivals ++ [(⟨clock.bucket, client⟩ : Arrival)]).length := by
    rw [List.length_append, h.started]
    rfl
  have hnew : (arrivals ++ [(⟨clock.bucket, client⟩ : Arrival)])[s.started]? =
      some ⟨clock.bucket, client⟩ := by
    rw [h.started, List.getElem?_concat_length]
  unfold begun
  split
  · rename_i call hstart
    refine ⟨h.sound, hstarted, fun flight hflight => ?_,
      fun mark hmark => (h.log mark hmark).append _, h.settings⟩
    rcases List.mem_append.mp hflight with hflight | hflight
    · exact (h.flights flight hflight).append _
    · rw [List.mem_singleton.mp hflight]
      refine ⟨_, hnew, fun key hkey => ?_⟩
      rw [List.mem_singleton.mp hkey, SharedLimiter.key_of_start hstart, h.settings owner,
        Arrival.key]
  · rename_i allowed hstart
    refine ⟨h.sound, hstarted, fun flight hflight => (h.flights flight hflight).append _,
      fun mark hmark => ?_, h.settings⟩
    rcases List.mem_append.mp hmark with hmark | hmark
    · exact (h.log mark hmark).append _
    · rw [List.mem_singleton.mp hmark]
      exact ⟨_, hnew, nofun⟩

variable [DecidableEq ι]

theorem attributed_exchanged (h : Attributed counting settings arrivals s)
    {front back : List (Flight ι)} {flight : Flight ι}
    (hflights : s.flights = front ++ flight :: back) :
    Attributed counting settings arrivals (s.exchanged counting front flight back) := by
  have hown := h.flights flight (by simp [hflights])
  have hlog (after : σ) : ∀ mark ∈ s.log ++ [markOf counting s flight after],
      Own settings arrivals mark.number mark.keys := by
    intro mark hm
    rcases List.mem_append.mp hm with hm | hm
    · exact h.log mark hm
    · rw [List.mem_singleton.mp hm]
      exact hown.of_forall fun _ => mem_keys_markOf
  simp only [exchanged]
  split
  · rename_i next limiter journal after hstep
    have hturn := SharedLimiter.turn_of_step hstep
    refine ⟨sound_turn h.sound hturn, h.started, fun other hother => ?_, hlog after,
      settings_update _ h.settings (hturn.settings.trans (h.settings _))⟩
    rw [List.mem_append, List.mem_cons] at hother
    rcases hother with hother | rfl | hother
    · exact h.flights other (by simp [hflights, hother])
    · rw [hturn.key_of_asking rfl]
      exact hown
    · exact h.flights other (by simp [hflights, hother])
  · rename_i allowed limiter journal after hstep
    have hturn := SharedLimiter.turn_of_step hstep
    refine ⟨sound_turn h.sound hturn, h.started, fun other hother => ?_, fun mark hm => ?_,
      settings_update _ h.settings (hturn.settings.trans (h.settings _))⟩
    · rcases List.mem_append.mp hother with hother | hother
      · exact h.flights other (by simp [hflights, hother])
      · exact h.flights other (by simp [hflights, hother])
    · rcases List.mem_append.mp hm with hm | hm
      · exact hlog after mark hm
      · rw [List.mem_singleton.mp hm]
        exact hown.of_forall fun key hkey => by simpa [Mark.keys] using hkey

theorem Attended.attributed (hs : Attended counting settings arrivals s) :
    Attributed counting settings arrivals s := by
  induction hs with
  | start limiters s hsettings hsound => exact ⟨hsound, rfl, nofun, nofun, hsettings⟩
  | begun hs owner clock client ih => exact attributed_begun ih owner clock client
  | exchanged hs front flight back hflights ih => exact attributed_exchanged ih hflights
  | disturbed hs after hsound ih => exact ⟨hsound, ih.started, ih.flights, ih.log, ih.settings⟩

theorem store_exchanged (s : Instances ι σ) (front : List (Flight ι)) (flight : Flight ι)
    (back : List (Flight ι)) :
    (s.exchanged counting front flight back).store =
      (SharedLimiter.step store s.store (s.limiters flight.owner) flight.call).2 := by
  simp only [exchanged]
  split <;> simp_all

-- Two keys under one root are the same only for the same minute and the same name, whatever is
-- in the root and the name. So however calls overlap, each asks for the key of its own arrival
-- and for no other, and when it is served the counters of all other arrivals stay as they are.
theorem counters_apart (settings : SharedSettings) :
    (∀ (bucket other : UInt64) (client another : Client),
      SharedLimiter.key settings bucket client = SharedLimiter.key settings other another ↔
        bucket = other ∧ client.name = another.name) ∧
    ∀ (arrivals : List Arrival) (s : Instances ι σ), Attended counting settings arrivals s →
      (∀ mark ∈ s.log, ∃ arrival, arrivals[mark.number]? = some arrival ∧
        ∀ key ∈ mark.keys, key = arrival.key settings) ∧
      ∀ front flight back, s.flights = front ++ flight :: back →
        ∃ arrival, arrivals[flight.number]? = some arrival ∧
          ∀ other ≠ arrival,
            counting.counters (s.exchanged counting front flight back).store
              (other.key settings) = counting.counters s.store (other.key settings) := by
  refine ⟨fun bucket other client another => ?_, fun arrivals s hs => ⟨hs.attributed.log, ?_⟩⟩
  · rw [SharedLimiter.key_eq_iff, LocalLimiter.name_eq_iff]
  · -- only the counter of the key of the call can have grown, and this key is of no other arrival
    intro front flight back hflights
    obtain ⟨arrival, harrival, hkeys⟩ := hs.attributed.flights flight (by simp [hflights])
    refine ⟨arrival, harrival, fun other hother => ?_⟩
    have hkey : flight.call.key = arrival.key settings := hkeys _ (List.mem_singleton_self _)
    have hturn := SharedLimiter.turn store s.store (s.limiters flight.owner) flight.call
    rw [store_exchanged]
    rcases kept_or_bumped hs.attributed.sound hturn with hkept | hbumped
    · rw [hkept]
    · rw [hbumped, hkey, bumped_of_ne]
      exact fun heq => hother ((Arrival.key_inj settings).mp heq)

-- Root and names with colons and digits: the second name goes on where the first bucket ends.
theorem counters_apart_of_colons :
    let settings : SharedSettings := ⟨5, "budget:1", 120, .ofSeconds 5, true⟩
    let one : Arrival := ⟨1, ⟨"1:a"⟩⟩
    let other : Arrival := ⟨11, ⟨"a"⟩⟩
    one.key settings = "budget:1:1:1:a" ∧ other.key settings = "budget:1:11:a" ∧
    ∃ s after : Instances Bool KeyStore,
      Attended KeyStore.counting settings [one, other] s ∧
      Attended KeyStore.counting settings [one, other] after ∧
      KeyStore.counting.counters after.store (one.key settings) = 1 ∧
      KeyStore.counting.counters after.store (other.key settings) =
        KeyStore.counting.counters s.store (other.key settings) ∧
      ∀ mark ∈ after.log, ∃ arrival, [one, other][mark.number]? = some arrival ∧
        ∀ key ∈ mark.keys, key = arrival.key settings := by
  intro settings one other
  let limiter : SharedLimiter := { SharedLimiter.fresh settings with handle := some windowScript }
  let loaded : KeyStore := { loaded := true }
  have hsound : KeyStore.counting.sound loaded := KeyStore.sound_empty
  have hfresh : Attended KeyStore.counting settings []
      ⟨fun _ : Bool => limiter, loaded, 0, [], []⟩ := .start _ loaded (fun _ => rfl) hsound
  have hs := (hfresh.begun false ⟨60, 0⟩ ⟨"1:a"⟩).begun true ⟨660, 0⟩ ⟨"a"⟩
  let call : Call := ⟨.zero, one.key settings, .evaluating windowScript false⟩
  let waiting : Call := ⟨.zero, other.key settings, .evaluating windowScript false⟩
  have hafter := hs.exchanged [] ⟨0, false, call⟩ [⟨1, true, waiting⟩] rfl
  obtain ⟨hlog, -⟩ := (counters_apart settings).2 _ _ hafter
  obtain ⟨-, hexchanges⟩ := (counters_apart settings).2 _ _ hs
  obtain ⟨arrival, harrival, hothers⟩ := hexchanges [] ⟨0, false, call⟩ [⟨1, true, waiting⟩] rfl
  obtain rfl : one = arrival := Option.some.inj harrival
  have hne : other ≠ one := by decide
  refine ⟨by decide +kernel, by decide +kernel, _, _, hs, hafter, ?_, hothers other hne, hlog⟩
  obtain ⟨count, after, hevaluate⟩ := KeyStore.serving.evaluate_ok hsound
    (show KeyStore.Knows loaded windowScript from ⟨rfl, rfl⟩) call.key limiter.settings.secondsKept
  obtain ⟨-, hcounters⟩ := KeyStore.counting.counters_ok hsound hevaluate
  have hstep : (SharedLimiter.step KeyStore.store loaded limiter call).2 = after := by
    simp only [SharedLimiter.step, call, hevaluate]
  rw [store_exchanged]
  change KeyStore.counting.counters (SharedLimiter.step KeyStore.store loaded limiter call).2 _ = 1
  rw [hstep, hcounters, bumped_self]
  exact congrArg (· + 1) (KeyStore.counters_empty _)

end Instances

end AdmissionControl.RateLimit
