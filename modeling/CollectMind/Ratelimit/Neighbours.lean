import CollectMind.Ratelimit.Middleware
import CollectMind.Ratelimit.TokenBucket

set_option autoImplicit false

/- All tenants behind one Redis: the script calls of their requests, interleaved in any order. -/
namespace CollectMind.Ratelimit

open Python TokenBucket ExpiringStore

/-- A request that has reached its script call. The server's clock, by which keys expire, need
not be the caller's. -/
structure Arrival where
  tenantId : String
  kind : BucketKind
  config : TenantConfig
  nowMs : Int
  clock : Int

/-- The three numbers of the script's reply, as the client receives them. -/
def outcomeOf : Reply → EvalOutcome
  | .error message => .fails true message
  | .allowed remaining => .replies (.arr [.int 1, .int remaining, .int 0])
  | .denied retryAfterMs => .replies (.arr [.int 0, .int 0, .int retryAfterMs])

/-- `EVALSHA` on a server that has the script. -/
def evalsha (redis : Redis) (clock : Int) (call : EvalCall) : Redis × EvalOutcome :=
  let (next, reply) := tokenBucket redis clock call.key (some call.nowMs) (some call.sustainedRps)
    (some call.burstCapacity)
  (next, outcomeOf reply)

/-- What the middleware makes of a reply. -/
def EvalOutcome.verdict : EvalOutcome → Option Verdict
  | .replies value => readVerdict (fun _ => none) value
  | _ => none

/-- The script call of an arrival, and what the middleware learns from it. -/
def limit (redis : Redis) (arrival : Arrival) : Redis × Option Verdict :=
  let (next, outcome) := evalsha redis arrival.clock
    (evalCall arrival.nowMs arrival.tenantId arrival.kind arrival.config "")
  (next, outcome.verdict)

/-- Requests of one tenant on one bucket. -/
def Arrival.isFor (tenantId : String) (kind : BucketKind) (arrival : Arrival) : Bool :=
  arrival.tenantId == tenantId && arrival.kind == kind

/-- A Redis with nothing in it but what stands under one key. -/
def onlyKey (redis : Redis) (key : String) : Redis := fun other => if other = key then redis key else none

/-- No tenant id makes the key of another tenant or bucket: the kind is what follows the last
separator. -/
theorem bucketKey_injective {tenantId other : String} {kind otherKind : BucketKind}
    (same : bucketKey tenantId kind = bucketKey other otherKind) :
    tenantId = other ∧ kind = otherKind := by
  have chars := congrArg String.toList same
  simp only [bucketKey, String.toList_append, List.append_assoc] at chars
  have tails := List.append_cancel_left chars
  have last := congrArg List.getLast? tails
  have kinds : kind = otherKind := by
    cases kind with
    | inbound =>
        cases otherKind with
        | inbound => rfl
        | query => simp [BucketKind.name] at last
    | query =>
        cases otherKind with
        | inbound => simp [BucketKind.name] at last
        | query => rfl
  refine ⟨?_, kinds⟩
  rw [kinds] at tails
  exact String.toList_inj.mp (List.append_cancel_right tails)

theorem limit_own (redis other : Redis) (arrival : Arrival)
    (same : redis (bucketKey arrival.tenantId arrival.kind) =
      other (bucketKey arrival.tenantId arrival.kind)) :
    (limit redis arrival).2 = (limit other arrival).2 ∧
      (limit redis arrival).1 (bucketKey arrival.tenantId arrival.kind) =
        (limit other arrival).1 (bucketKey arrival.tenantId arrival.kind) := by
  have script := tokenBucket_own redis other arrival.clock
    (bucketKey arrival.tenantId arrival.kind) (some arrival.nowMs)
    (some (arrival.config.bucket arrival.kind).sustainedRps)
    (some (arrival.config.bucket arrival.kind).burstCapacity) same
  simp only [limit, evalsha, evalCall]
  exact ⟨congrArg (fun reply => (outcomeOf reply).verdict) script.1, script.2⟩

theorem limit_other (redis : Redis) (arrival : Arrival) (key : String)
    (apart : key ≠ bucketKey arrival.tenantId arrival.kind) :
    (limit redis arrival).1 key = redis key := by
  simp only [limit, evalsha, evalCall]
  exact tokenBucket_other redis arrival.clock _ key _ _ _ apart

theorem Arrival.isFor_iff {tenantId : String} {kind : BucketKind} {arrival : Arrival} :
    arrival.isFor tenantId kind = true ↔ arrival.tenantId = tenantId ∧ arrival.kind = kind := by
  simp [Arrival.isFor]

/-- What a tenant is told on one of its buckets does not depend on anyone else's requests. -/
theorem limit_isolated (tenantId : String) (kind : BucketKind) (redis : Redis)
    (arrivals : List Arrival) :
    Runs.answersTo limit (Arrival.isFor tenantId kind) redis arrivals =
      Runs.outputs limit (onlyKey redis (bucketKey tenantId kind))
        (arrivals.filter (Arrival.isFor tenantId kind)) := by
  apply Runs.answersTo_alone limit (Arrival.isFor tenantId kind) (fun state other =>
    state (bucketKey tenantId kind) = other (bucketKey tenantId kind))
  · intro state other arrival owned agree
    obtain ⟨tenant, bucket⟩ := Arrival.isFor_iff.mp owned
    rw [← tenant, ← bucket] at agree ⊢
    exact limit_own state other arrival agree
  · intro state other arrival foreign agree
    have apart : bucketKey tenantId kind ≠ bucketKey arrival.tenantId arrival.kind := by
      intro same
      have both := bucketKey_injective same
      have owned := Arrival.isFor_iff.mpr ⟨both.1.symm, both.2.symm⟩
      rw [foreign] at owned
      cases owned
    rw [limit_other state arrival _ apart]
    exact agree
  · simp [onlyKey]

/-- The middleware always sends numbers, so the script has three to reply. -/
theorem evalsha_replies (redis : Redis) (clock : Int) (call : EvalCall) :
    ∃ verdict : Verdict, (evalsha redis clock call).2 =
      .replies (.arr [.int verdict.decision, .int verdict.remaining, .int verdict.retryAfterMs]) := by
  simp only [evalsha, tokenBucket]
  split
  · exact ⟨⟨1, _, 0⟩, rfl⟩
  · exact ⟨⟨0, 0, _⟩, rfl⟩

/-- `limit` is what the middleware does with a request that reaches a Redis that has the
script. -/
theorem dispatch_limit (env : Env) (sha : String) (request : Request) (redis : Redis) (clock : Int)
    (principal : Principal) (config : TenantConfig) (limited : isExempt request.path = false)
    (verified : authenticate env request = some principal)
    (configured : env.getForTenant principal.tenantId = .ok config)
    (served : ∀ call, env.evalsha 0 call = (evalsha redis clock call).2) :
    ∃ verdict, (limit redis ⟨principal.tenantId, bucketForPath request.path, config, env.nowMs,
        clock⟩).2 = some verdict ∧
      (dispatch env (some sha) request).answer =
        if verdict.decision = 1 then .forwarded
        else .refused 429 "rate_limit_exceeded" "rate limit exceeded"
          (some (retryAfterSeconds verdict.retryAfterMs)) := by
  obtain ⟨token, present, accepted⟩ := Option.bind_eq_some_iff.mp verified
  have hashless : ∀ call : EvalCall, (evalsha redis clock { call with sha := "" }).2 =
      (evalsha redis clock call).2 := fun _ => rfl
  have replied := evalsha_replies redis clock
    (evalCall env.nowMs principal.tenantId (bucketForPath request.path) config sha)
  obtain ⟨verdict, reply⟩ := replied
  refine ⟨verdict, ?_, ?_⟩
  · have learned := congrArg EvalOutcome.verdict ((hashless _).trans reply)
    exact learned
  · rw [dispatch, if_neg (by simp [limited])]
    simp only [present, accepted, configured, evaluate, ensureLuaLoaded, served, reply,
      EvalOutcome.result, settle]
    have read : readVerdict env.intOfStr (.arr [.int verdict.decision, .int verdict.remaining,
        .int verdict.retryAfterMs]) = some verdict := rfl
    rw [read]
    dsimp only
    split
    · rfl
    · rfl

end CollectMind.Ratelimit
