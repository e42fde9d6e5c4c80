import AdmissionControl.RateLimit.StoreError

namespace AdmissionControl.RateLimit

-- Increments a counter and sets how long it is kept when it is new. The store
-- runs it as a whole, so no other call comes in between.
def windowScript : String :=
"
local current = redis.call(\"INCR\", KEYS[1])
if current == 1 then
  redis.call(\"EXPIRE\", KEYS[1], tonumber(ARGV[1]))
end
return current
"

-- A place outside the program where counters are kept. Each call is atomic. A
-- script is loaded once and from then on run by its handle, which the store may
-- forget.
structure CounterStore (σ : Type) where
  load : String → σ → Except StoreError String × σ
  evaluate : (handle key : String) → (secondsKept : UInt64) → σ → Except StoreError Int × σ
  ping : σ → Except StoreError Unit × σ

-- A store that never answers: every call runs into its deadline.
def CounterStore.silent (limit : Span) : CounterStore σ where
  load _ s := (.error (.timeout limit), s)
  evaluate _ _ _ s := (.error (.timeout limit), s)
  ping s := (.error (.timeout limit), s)

end AdmissionControl.RateLimit
