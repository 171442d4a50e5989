import CollectMind.Errors
import CollectMind.Library.PyText

set_option autoImplicit false

/- `ratelimit/middleware.py`: the limiter in front of every handler. Redis is an oracle that
answers, raises before the script runs or raises after it; what a request does to it and to
the handler behind the middleware is kept as one trace of events. -/
namespace CollectMind.Ratelimit

open Python

inductive BucketKind where
  | inbound
  | query
  deriving DecidableEq, Repr

def BucketKind.name : BucketKind → String
  | .inbound => "inbound"
  | .query => "query"

def exemptPrefixes : List String :=
  ["/health", "/ready", "/metrics", "/api/v1/health", "/api/v1/ready", "/api/v1/audit/break-glass"]

def inboundPaths : List String := ["/api/v1/findings"]

/-- `_is_exempt`. -/
def isExempt (path : String) : Bool :=
  if path = "/api/v1/findings" then false else exemptPrefixes.any (startsWith path)

/-- `_bucket_for_path`. -/
def bucketForPath (path : String) : BucketKind :=
  if path = "/api/v1/findings" || inboundPaths.any (startsWith path) then .inbound else .query

def bucketKey (tenantId : String) (kind : BucketKind) : String :=
  "ratelimit:" ++ tenantId ++ ":" ++ kind.name

structure RateLimitBucket where
  sustainedRps : Int
  burstCapacity : Int

structure TenantConfig where
  inbound : RateLimitBucket
  query : RateLimitBucket

def TenantConfig.bucket (config : TenantConfig) : BucketKind → RateLimitBucket
  | .inbound => config.inbound
  | .query => config.query

/-- The arguments of one `EVALSHA`; the numbers travel as their decimal text. -/
structure EvalCall where
  sha : String
  key : String
  nowMs : Int
  sustainedRps : Int
  burstCapacity : Int
  deriving DecidableEq, Repr

/-- What becomes of an `EVALSHA`: the script runs and a reply arrives, the server does not
know the script, or an error is raised, before or after the script ran. -/
inductive EvalOutcome where
  | replies (value : Json)
  | noScript (message : String)
  | fails (ran : Bool) (message : String)

def EvalOutcome.result : EvalOutcome → Except String Json
  | .replies value => .ok value
  | .noScript message => .error message
  | .fails _ message => .error message

inductive Event where
  | scriptLoad
  | evalsha (call : EvalCall) (outcome : EvalOutcome)
  | callNext

/-- The script ran on the server. -/
def Event.ran : Event → Bool
  | .evalsha _ (.replies _) => true
  | .evalsha _ (.fails ran _) => ran
  | _ => false

def Event.isCallNext : Event → Bool
  | .callNext => true
  | _ => false

structure Request where
  path : String
  authorization : Option String

/-- The parties around the middleware during one request. `scriptLoad k` and `evalsha k` are
what Redis does in its `k`-th such command. -/
structure Env where
  verify : String → Option Principal
  getForTenant : String → Except String TenantConfig
  nowMs : Int
  scriptLoad : Nat → Except String String
  evalsha : Nat → EvalCall → EvalOutcome
  intOfStr : String → Option Int

inductive Answer where
  | forwarded
  | refused (status : Nat) (code message : String) (retryAfterSeconds : Option Int)
  | raised
  deriving DecidableEq, Repr

structure Dispatch where
  trace : List Event
  luaSha : Option String
  answer : Answer

/-- The script call of one request: what it sent, the script hash it leaves on the middleware,
and the reply. -/
structure Script where
  trace : List Event
  luaSha : Option String
  result : Except String Json

/-- `_ensure_lua_loaded`; `attempt` counts the loads of this request. -/
def ensureLuaLoaded (env : Env) (luaSha : Option String) (attempt : Nat) :
    List Event × Except String String :=
  match luaSha with
  | some sha => ([], .ok sha)
  | none => ([.scriptLoad], env.scriptLoad attempt)

/-- The test that takes an error for a lost script. -/
def mentionsMissingScript (message : String) : Bool :=
  occursIn "noscript".toList (lower message) || occursIn "no matching script".toList (lower message)

/-- The `try` block of `dispatch`: load, evaluate, and once more after a lost script. -/
def evaluate (env : Env) (luaSha : Option String) (call : String → EvalCall) : Script :=
  match ensureLuaLoaded env luaSha 0 with
  | (loaded, .error message) => ⟨loaded, luaSha, .error message⟩
  | (loaded, .ok sha) =>
    let first := env.evalsha 0 (call sha)
    let sent := loaded ++ [.evalsha (call sha) first]
    match first.result with
    | .ok value => ⟨sent, some sha, .ok value⟩
    | .error inner =>
      if mentionsMissingScript inner then
        match ensureLuaLoaded env none 1 with
        | (reloaded, .error message) => ⟨sent ++ reloaded, none, .error message⟩
        | (reloaded, .ok sha) =>
          let second := env.evalsha 1 (call sha)
          ⟨sent ++ reloaded ++ [.evalsha (call sha) second], some sha, second.result⟩
      else ⟨sent, some sha, .error inner⟩

/-- The token of the `Authorization` header. -/
def bearerToken (request : Request) : Option String :=
  let header := request.authorization.getD ""
  if "bearer ".toList.isPrefixOf (lower header) then some (strip (header.toList.drop 7)) else none

/-- The principal of a request whose token is there and verifies. -/
def authenticate (env : Env) (request : Request) : Option Principal :=
  bearerToken request >>= env.verify

structure Verdict where
  decision : Int
  remaining : Int
  retryAfterMs : Int
  deriving DecidableEq, Repr

/-- The three numbers read from a reply; `none` where reading them raises. -/
def readVerdict (intOfStr : String → Option Int) (result : Json) : Option Verdict := do
  let decision ← result.index 0 >>= Json.toInt intOfStr
  let remaining ← result.index 1 >>= Json.toInt intOfStr
  let retryAfterMs ← result.index 2 >>= Json.toInt intOfStr
  return ⟨decision, remaining, retryAfterMs⟩

def retryAfterSeconds (retryAfterMs : Int) : Int := max 1 ((retryAfterMs + 999) / 1000)

/-- The branches after the script call. -/
def settle (env : Env) (script : Script) : Dispatch :=
  match script.result with
  | .error _ => ⟨script.trace, script.luaSha,
      .refused 503 "rate_limit_unavailable" "rate limiter unavailable" (some 1)⟩
  | .ok value =>
    match readVerdict env.intOfStr value with
    | none => ⟨script.trace, script.luaSha, .raised⟩
    | some verdict =>
      if verdict.decision = 1 then ⟨script.trace ++ [.callNext], script.luaSha, .forwarded⟩
      else ⟨script.trace, script.luaSha, .refused 429 "rate_limit_exceeded" "rate limit exceeded"
        (some (retryAfterSeconds verdict.retryAfterMs))⟩

/-- The script call of a tenant for a path, but for the hash. -/
def evalCall (nowMs : Int) (tenantId : String) (kind : BucketKind) (config : TenantConfig)
    (sha : String) : EvalCall where
  sha := sha
  key := bucketKey tenantId kind
  nowMs := nowMs
  sustainedRps := (config.bucket kind).sustainedRps
  burstCapacity := (config.bucket kind).burstCapacity

/-- `RateLimitMiddleware.dispatch`. -/
def dispatch (env : Env) (luaSha : Option String) (request : Request) : Dispatch :=
  if isExempt request.path then ⟨[.callNext], luaSha, .forwarded⟩
  else
    match bearerToken request with
    | none => ⟨[], luaSha, .refused 401 "UNAUTHENTICATED" "missing bearer token" none⟩
    | some token =>
      match env.verify token with
      | none => ⟨[], luaSha, .refused 401 "UNAUTHENTICATED" "invalid token" none⟩
      | some principal =>
        match env.getForTenant principal.tenantId with
        | .error _ => ⟨[], luaSha, .raised⟩
        | .ok config =>
          settle env (evaluate env luaSha
            (evalCall env.nowMs principal.tenantId (bucketForPath request.path) config))

/-- An error that does not come from a lost script does not read like one. -/
def PlainErrors (env : Env) : Prop :=
  ∀ k call ran message, env.evalsha k call = .fails ran message →
    mentionsMissingScript message = false

theorem EvalOutcome.result_ok {outcome : EvalOutcome} {value : Json}
    (success : outcome.result = .ok value) : outcome = .replies value := by
  cases outcome with
  | replies reply =>
      cases success
      rfl
  | noScript message => cases success
  | fails ran message => cases success

/-- Only a server that did not run the script is asked a second time. -/
theorem retried_not_ran {env : Env} (plain : PlainErrors env) {k : Nat} {call : EvalCall}
    {inner : String} (raised : (env.evalsha k call).result = .error inner)
    (missing : mentionsMissingScript inner = true) :
    (Event.evalsha call (env.evalsha k call)).ran = false := by
  cases outcome : env.evalsha k call with
  | replies value =>
      rw [outcome] at raised
      cases raised
  | noScript message => rfl
  | fails ran message =>
      have apart := plain k call ran message outcome
      rw [outcome] at raised
      cases raised
      rw [missing] at apart
      cases apart

theorem ensureLuaLoaded_trace (env : Env) (luaSha : Option String) (attempt : Nat) :
    ∀ event ∈ (ensureLuaLoaded env luaSha attempt).1, event = .scriptLoad := by
  intro event member
  unfold ensureLuaLoaded at member
  split at member
  · cases member
  · exact List.mem_singleton.mp member

/-- What a script call can put into the trace. -/
structure Charged (script : Script) (call : String → EvalCall) : Prop where
  runs_le : script.trace.countP Event.ran ≤ 1
  stays : ∀ event ∈ script.trace, event.isCallNext = false
  replied : ∀ value, script.result = .ok value →
    ∃ sha, .evalsha (call sha) (.replies value) ∈ script.trace

theorem countP_scriptLoads {events : List Event} (loads : ∀ event ∈ events, event = .scriptLoad) :
    events.countP Event.ran = 0 := by
  rw [List.countP_eq_zero]
  intro event member
  rw [loads event member]
  simp [Event.ran]

theorem stays_scriptLoads {events : List Event} (loads : ∀ event ∈ events, event = .scriptLoad) :
    ∀ event ∈ events, event.isCallNext = false := by
  intro event member
  rw [loads event member]
  rfl

theorem countP_ran_singleton_le (event : Event) : [event].countP Event.ran ≤ 1 :=
  List.countP_le_length

/-- Loads, and a command that is not the handler's. -/
theorem stays_append {first second : List Event}
    (left : ∀ event ∈ first, event.isCallNext = false)
    (right : ∀ event ∈ second, event.isCallNext = false) :
    ∀ event ∈ first ++ second, event.isCallNext = false := by
  intro event member
  rcases List.mem_append.mp member with early | late
  · exact left event early
  · exact right event late

theorem stays_evalsha (call : EvalCall) (outcome : EvalOutcome) :
    ∀ event ∈ [Event.evalsha call outcome], event.isCallNext = false := by
  intro event member
  rw [List.mem_singleton.mp member]
  rfl

/-- The script runs at most once in a call, the second evaluation included. -/
theorem evaluate_charged {env : Env} (plain : PlainErrors env) (luaSha : Option String)
    (call : String → EvalCall) : Charged (evaluate env luaSha call) call := by
  have loads := ensureLuaLoaded_trace env luaSha 0
  have reloads := ensureLuaLoaded_trace env none 1
  unfold evaluate
  split
  · rename_i loaded message loading
    rw [loading] at loads
    refine ⟨?_, stays_scriptLoads loads, ?_⟩
    · rw [countP_scriptLoads loads]
      omega
    · intro value success
      cases success
  · rename_i loaded sha loading
    rw [loading] at loads
    dsimp only
    have first := stays_append (stays_scriptLoads loads) (stays_evalsha (call sha) (env.evalsha 0 (call sha)))
    have once := countP_ran_singleton_le (.evalsha (call sha) (env.evalsha 0 (call sha)))
    split
    · rename_i value success
      refine ⟨?_, first, ?_⟩
      · rw [List.countP_append, countP_scriptLoads loads]
        omega
      · intro reply returned
        cases returned
        refine ⟨sha, ?_⟩
        rw [EvalOutcome.result_ok success]
        exact List.mem_append_right _ (List.mem_singleton.mpr rfl)
    · rename_i inner raised
      split
      · rename_i missing
        have unran : [Event.evalsha (call sha) (env.evalsha 0 (call sha))].countP Event.ran = 0 := by
          rw [List.countP_singleton, retried_not_ran plain raised missing]
          rfl
        split
        · rename_i reloaded message reloading
          rw [reloading] at reloads
          refine ⟨?_, stays_append first (stays_scriptLoads reloads), ?_⟩
          · rw [List.countP_append, List.countP_append, countP_scriptLoads loads, unran,
              countP_scriptLoads reloads]
            omega
          · intro value success
            cases success
        · rename_i reloaded again reloading
          rw [reloading] at reloads
          have twice := countP_ran_singleton_le (.evalsha (call again) (env.evalsha 1 (call again)))
          refine ⟨?_, stays_append (stays_append first (stays_scriptLoads reloads))
            (stays_evalsha _ _), ?_⟩
          · simp only [List.countP_append, countP_scriptLoads loads, unran,
              countP_scriptLoads reloads]
            omega
          · intro value success
            refine ⟨again, ?_⟩
            rw [EvalOutcome.result_ok success]
            exact List.mem_append_right _ (List.mem_singleton.mpr rfl)
      · refine ⟨?_, first, ?_⟩
        · rw [List.countP_append, countP_scriptLoads loads]
          omega
        · intro value success
          cases success

/-- What the limiter promises about a request to a path that is not exempt. -/
structure FailsClosed (env : Env) (request : Request) (trace : List Event) : Prop where
  forwards_le : trace.countP Event.isCallNext ≤ 1
  allowed : ∀ before after, trace = before ++ .callNext :: after →
    ∃ principal call value verdict, authenticate env request = some principal ∧
      call.key = bucketKey principal.tenantId (bucketForPath request.path) ∧
      .evalsha call (.replies value) ∈ before ∧
      readVerdict env.intOfStr value = some verdict ∧ verdict.decision = 1
  runs_le : trace.countP Event.ran ≤ 1
  unauthenticated : authenticate env request = none → trace = []

theorem FailsClosed.silent (env : Env) (request : Request) : FailsClosed env request [] where
  forwards_le := Nat.zero_le 1
  allowed := by
    intro before after split
    have length := congrArg List.length split
    simp at length
  runs_le := Nat.zero_le 1
  unauthenticated _ := rfl

theorem countP_isCallNext_of_stays {events : List Event}
    (stays : ∀ event ∈ events, event.isCallNext = false) :
    events.countP Event.isCallNext = 0 := by
  rw [List.countP_eq_zero]
  intro event member
  rw [stays event member]
  simp

/-- A trace without the handler says nothing about what came before it. -/
theorem FailsClosed.refuses {env : Env} {request : Request} {principal : Principal}
    {script : Script} {call : String → EvalCall}
    (verified : authenticate env request = some principal) (charged : Charged script call) :
    FailsClosed env request script.trace where
  forwards_le := by
    rw [countP_isCallNext_of_stays charged.stays]
    omega
  allowed := by
    intro before after split
    have inside : Event.callNext ∈ script.trace := by simp [split]
    have stays := charged.stays _ inside
    cases stays
  runs_le := charged.runs_le
  unauthenticated := by
    intro absent
    rw [verified] at absent
    cases absent

/-- The handler is at the end of the trace, and the reply before it. -/
theorem FailsClosed.forwards {env : Env} {request : Request} {principal : Principal}
    {script : Script} {call : String → EvalCall} {value : Json} {verdict : Verdict}
    (verified : authenticate env request = some principal) (charged : Charged script call)
    (keyed : ∀ sha, (call sha).key = bucketKey principal.tenantId (bucketForPath request.path))
    (replied : script.result = .ok value) (read : readVerdict env.intOfStr value = some verdict)
    (allow : verdict.decision = 1) :
    FailsClosed env request (script.trace ++ [.callNext]) where
  forwards_le := by
    rw [List.countP_append, countP_isCallNext_of_stays charged.stays]
    simp [Event.isCallNext]
  allowed := by
    intro before after split
    obtain ⟨sha, evaluated⟩ := charged.replied value replied
    refine ⟨principal, call sha, value, verdict, verified, keyed sha, ?_, read, allow⟩
    have last : after = [] := by
      by_contra more
      have earlier : Event.callNext ∈ script.trace := by
        obtain ⟨rest, final, shape⟩ := List.eq_nil_or_concat after |>.resolve_left more
        have whole : script.trace ++ [.callNext] = (before ++ .callNext :: rest) ++ [final] := by
          rw [split, shape]
          simp
        rw [(List.append_inj' whole rfl).1]
        simp
      have stays := charged.stays _ earlier
      cases stays
    rw [last] at split
    rw [(List.append_inj' split rfl).1] at evaluated
    exact evaluated
  runs_le := by
    rw [List.countP_append]
    exact charged.runs_le
  unauthenticated := by
    intro absent
    rw [verified] at absent
    cases absent

theorem settle_failsClosed {env : Env} {request : Request} {principal : Principal} {script : Script}
    {call : String → EvalCall} (verified : authenticate env request = some principal)
    (charged : Charged script call)
    (keyed : ∀ sha, (call sha).key = bucketKey principal.tenantId (bucketForPath request.path)) :
    FailsClosed env request (settle env script).trace := by
  unfold settle
  split
  · exact .refuses verified charged
  · rename_i value replied
    split
    · exact .refuses verified charged
    · rename_i verdict read
      split
      · rename_i allow
        exact .forwards verified charged keyed replied read allow
      · exact .refuses verified charged

/-- Whatever Redis does, the handler is called only behind a decision to allow, and the bucket
is charged at most once. -/
theorem dispatch_failsClosed (env : Env) (luaSha : Option String) (request : Request)
    (limited : isExempt request.path = false) (plain : PlainErrors env) :
    FailsClosed env request (dispatch env luaSha request).trace := by
  unfold dispatch
  rw [if_neg (by simp [limited])]
  split
  · exact .silent env request
  · rename_i token present
    split
    · exact .silent env request
    · rename_i principal verified
      split
      · exact .silent env request
      · rename_i config found
        have authenticated : authenticate env request = some principal := by
          simp only [authenticate, present, Option.bind_eq_bind, Option.bind_some, verified]
        apply settle_failsClosed authenticated (evaluate_charged plain luaSha _)
        intro sha
        rfl

/-- Redis has lost the script, and runs it once it is loaded again. -/
def restarted : Env where
  verify _ := some ⟨"tenant-a", "client"⟩
  getForTenant _ := .ok ⟨⟨2000, 4000⟩, ⟨200, 400⟩⟩
  nowMs := 0
  scriptLoad _ := .ok "sha"
  evalsha k _ :=
    if k = 0 then .noScript "No matching script. Please use EVAL."
    else .replies (.arr [.int 1, .int 3999, .int 0])
  intOfStr _ := none

theorem restarted_plain : PlainErrors restarted := by
  intro k call ran message outcome
  unfold restarted at outcome
  dsimp only at outcome
  split at outcome
  · cases outcome
  · cases outcome

theorem dispatch_failsClosed_restarted :
    (dispatch restarted (some "stale") ⟨"/api/v1/findings", some "Bearer token"⟩).answer = .forwarded ∧
    FailsClosed restarted ⟨"/api/v1/findings", some "Bearer token"⟩
      (dispatch restarted (some "stale") ⟨"/api/v1/findings", some "Bearer token"⟩).trace :=
  ⟨by decide +kernel, dispatch_failsClosed restarted (some "stale") _ (by decide) restarted_plain⟩

end CollectMind.Ratelimit
