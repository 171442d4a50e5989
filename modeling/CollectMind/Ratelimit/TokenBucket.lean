import CollectMind.Library.ExpiringStore
import CollectMind.Library.Runs

set_option autoImplicit false

/- `ratelimit/token_bucket.lua`: the atomic check-and-deduct script. Lua numbers
are exact here and `math.floor` is the floor of an integer quotient. -/
namespace CollectMind.TokenBucket

open ExpiringStore

/-- The two hash fields the script reads with `HMGET`; an absent field reads as nil. -/
structure Fields where
  tokens : Option Int
  lastRefillMs : Option Int
  deriving DecidableEq, Repr

abbrev Redis := Store String Fields

inductive Reply where
  | error (message : String)
  | allowed (remaining : Int)
  | denied (retryAfterMs : Int)
  deriving DecidableEq, Repr

def Reply.isAllowed : Reply → Bool
  | .allowed _ => true
  | _ => false

/-- The working values `tokens` and `last_refill_ms` of the script. -/
structure Bucket where
  tokens : Int
  lastRefillMs : Int
  deriving DecidableEq, Repr

/-- The stored bucket, or a full one stamped now when either field is missing. -/
def load (cell : Option (Entry Fields)) (clock nowMs burstCapacity : Int) : Bucket :=
  match current cell clock with
  | some ⟨⟨some tokens, some lastRefillMs⟩, _⟩ => ⟨tokens, lastRefillMs⟩
  | _ => ⟨burstCapacity, nowMs⟩

/-- Whole tokens earned since the last refill; a clock that went back earns none. -/
def refillOf (bucket : Bucket) (nowMs sustainedRps : Int) : Int :=
  let elapsedMs := nowMs - bucket.lastRefillMs
  let elapsedMs := if elapsedMs < 0 then 0 else elapsedMs
  elapsedMs * sustainedRps / 1000

def applyRefill (bucket : Bucket) (nowMs sustainedRps burstCapacity : Int) : Bucket :=
  let refill := refillOf bucket nowMs sustainedRps
  if refill > 0 then
    ⟨min burstCapacity (bucket.tokens + refill),
      bucket.lastRefillMs + refill * 1000 / sustainedRps⟩
  else bucket

def ttlMs (sustainedRps burstCapacity : Int) : Int :=
  burstCapacity * 1000 * 2 / sustainedRps

def retryAfterMs (sustainedRps : Int) : Int :=
  let msPerToken := 1000 / sustainedRps
  if msPerToken < 1 then 1 else msPerToken

def store (redis : Redis) (clock : Int) (key : String) (bucket : Bucket) : Redis :=
  put redis clock key ⟨some bucket.tokens, some bucket.lastRefillMs⟩

/-- The script body. `ARGV` arrives through `tonumber`, so each argument may be nil. -/
def tokenBucket (redis : Redis) (clock : Int) (key : String)
    (argNowMs argSustainedRps argBurstCapacity : Option Int) : Redis × Reply :=
  match argNowMs, argSustainedRps, argBurstCapacity with
  | some nowMs, some sustainedRps, some burstCapacity =>
    let bucket := applyRefill (load (redis key) clock nowMs burstCapacity)
      nowMs sustainedRps burstCapacity
    if bucket.tokens ≥ 1 then
      let spent := { bucket with tokens := bucket.tokens - 1 }
      (pexpire (store redis clock key spent) clock key (ttlMs sustainedRps burstCapacity),
        .allowed spent.tokens)
    else
      -- The denied branch persists the refill too, and leaves the key's deadline alone.
      (store redis clock key bucket, .denied (retryAfterMs sustainedRps))
  | _, _, _ => (redis, .error "token_bucket.lua: invalid arguments")

/-- One call of the limiter at `nowMs`, on a server that shares the caller's clock. -/
def call (key : String) (sustainedRps burstCapacity : Int) (redis : Redis) (nowMs : Int) :
    Redis × Reply :=
  tokenBucket redis nowMs key (some nowMs) (some sustainedRps) (some burstCapacity)

/-- A script call touches no key but its own. -/
theorem tokenBucket_other (redis : Redis) (clock : Int) (key other : String)
    (argNowMs argSustainedRps argBurstCapacity : Option Int) (apart : other ≠ key) :
    (tokenBucket redis clock key argNowMs argSustainedRps argBurstCapacity).1 other =
      redis other := by
  unfold tokenBucket
  split
  · dsimp only
    split
    · exact (pexpire_other _ _ _ _ _ apart).trans (put_other _ _ _ _ _ apart)
    · exact put_other _ _ _ _ _ apart
  · rfl

/-- ... and reads none either: the cell under the key decides the reply and the cell it leaves. -/
theorem tokenBucket_own (redis other : Redis) (clock : Int) (key : String)
    (argNowMs argSustainedRps argBurstCapacity : Option Int) (same : redis key = other key) :
    (tokenBucket redis clock key argNowMs argSustainedRps argBurstCapacity).2 =
        (tokenBucket other clock key argNowMs argSustainedRps argBurstCapacity).2 ∧
      (tokenBucket redis clock key argNowMs argSustainedRps argBurstCapacity).1 key =
        (tokenBucket other clock key argNowMs argSustainedRps argBurstCapacity).1 key := by
  unfold tokenBucket
  split
  · simp only [same]
    split
    · simp only [store, pexpire_same, put_same, same, and_self]
    · simp only [store, put_same, same, and_self]
  · exact ⟨rfl, same⟩

/-- The script seen from its own key: the cell before, the cell after, the reply. -/
def cellCall (sustainedRps burstCapacity : Int) (cell : Option (Entry Fields)) (nowMs : Int) :
    Option (Entry Fields) × Reply :=
  let bucket := applyRefill (load cell nowMs nowMs burstCapacity) nowMs sustainedRps burstCapacity
  if bucket.tokens ≥ 1 then
    (some ⟨⟨some (bucket.tokens - 1), some bucket.lastRefillMs⟩,
        some (nowMs + ttlMs sustainedRps burstCapacity)⟩,
      .allowed (bucket.tokens - 1))
  else
    (some ⟨⟨some bucket.tokens, some bucket.lastRefillMs⟩, (current cell nowMs).bind (·.expireAt)⟩,
      .denied (retryAfterMs sustainedRps))

/-- A freshly put entry is live at the moment it is put. -/
theorem put_live (redis : Redis) (clock : Int) (key : String) (fields : Fields) :
    current (put redis clock key fields key) clock =
      some ⟨fields, (current (redis key) clock).bind (·.expireAt)⟩ := by
  rw [put_same]
  apply current_of_live
  cases found : current (redis key) clock with
  | none => rfl
  | some entry =>
      obtain ⟨value, expireAt⟩ := entry
      exact (current_eq_some.mp found).2

theorem call_cell (key : String) (sustainedRps burstCapacity : Int) (redis : Redis) (nowMs : Int) :
    ((call key sustainedRps burstCapacity redis nowMs).1 key,
      (call key sustainedRps burstCapacity redis nowMs).2) =
      cellCall sustainedRps burstCapacity (redis key) nowMs := by
  simp only [call, tokenBucket, cellCall]
  split
  · simp only [store, pexpire_same, put_live, Option.map_some]
  · simp only [store, put_same]

end CollectMind.TokenBucket
