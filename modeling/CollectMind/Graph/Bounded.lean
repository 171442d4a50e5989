import CollectMind.Graph.Sent

set_option autoImplicit false

/- The retry loop of `CollectMindGraph.run` when nothing raises: how many rounds it takes,
what each round is told about the one before, and when the deployer is called. -/
namespace CollectMind.Graph

open Python Validator

/-- The generator answers every request, and the collector every call. -/
structure Answers (env : Env) (responses : Nat → GenerationResponse) : Prop where
  generator : ∀ k, env.outputs k = .ok (responses k)
  collector : ∀ call, ∃ response, env.deploy call = .ok response

section Bounded

variable (env : Env) (responses : Nat → GenerationResponse) (session : PolicyGenerationSession)

/-- The verdict of round `k`. -/
def verdict (k : Nat) : Bool := (validateNode env (responses k).policy).2

/-- The errors that round `k` leaves on the session. -/
def recorded (k : Nat) : List Dict := (validateNode env (responses k).policy).1

/-- The session as round `k` finds it if every round before it failed. -/
def sessionAt : Nat → PolicyGenerationSession
  | 0 => initialPlan session
  | k + 1 =>
    { afterRound env (sessionAt k) (responses k) with retryCount := (sessionAt k).retryCount + 1 }

def sentIn (k : Nat) : GenerationRequest := generationRequest env (sessionAt env responses session k)

/-- How the loop is left from round `last`. -/
def leave (last : Nat) (sent : List GenerationRequest) : Execution :=
  let next := afterRound env (sessionAt env responses session last) (responses last)
  if verdict env responses last then deployNode env next (last + 1) sent
  else ⟨sent, [], .ok ⟨next, .deadLetter, last + 1⟩⟩

/-- The last round of a loop that starts with round `first` and may go round `retries` times
again. -/
structure Last (retries first last : Nat) : Prop where
  lower : first ≤ last
  upper : last ≤ first + retries
  failed : ∀ k, first ≤ k → k < last → verdict env responses k = false
  stops : verdict env responses last = true ∨ last = first + retries

end Bounded

variable {env : Env} {responses : Nat → GenerationResponse} {session : PolicyGenerationSession}

theorem Last.here {retries first : Nat} (stops : verdict env responses first = true ∨ retries = 0) :
    Last env responses retries first first where
  lower := Nat.le_refl first
  upper := Nat.le_add_right first retries
  failed := by
    intro k lower upper
    omega
  stops := by
    apply stops.imp id
    intro spent
    omega

theorem Last.later {retries first last : Nat} (failed : verdict env responses first = false)
    (rest : Last env responses retries (first + 1) last) :
    Last env responses (retries + 1) first last where
  lower := by
    have lower := rest.lower
    omega
  upper := by
    have upper := rest.upper
    omega
  failed := by
    intro k lower upper
    by_cases now : k = first
    · rw [now]
      exact failed
    · exact rest.failed k (by omega) upper
  stops := by
    apply rest.stops.imp id
    intro spent
    omega

theorem range'_cons_of_le {first last : Nat} (lower : first + 1 ≤ last) :
    List.range' first (last + 1 - first) = first :: List.range' (first + 1) (last + 1 - (first + 1)) := by
  have length : last + 1 - first = (last + 1 - (first + 1)) + 1 := by omega
  rw [length, List.range'_succ]

/-- The loop takes one round after the other, up to the last. -/
theorem rounds_last (session : PolicyGenerationSession) (answers : Answers env responses)
    (retries first : Nat) (requests : List GenerationRequest)
    (budget : retries = retriesLeft (sessionAt env responses session first)) :
    ∃ last, Last env responses retries first last ∧
      rounds env first (sessionAt env responses session first) requests =
        leave env responses session last
          (requests ++ (List.range' first (last + 1 - first)).map (sentIn env responses session)) := by
  have loop : ∀ current, retries = retriesLeft current → current = sessionAt env responses session first →
      ∃ last, Last env responses retries first last ∧
        rounds env first current requests = leave env responses session last
          (requests ++ (List.range' first (last + 1 - first)).map (sentIn env responses session)) := by
    intro current left
    apply rounds_induction (motive := fun retries first current requests execution =>
      current = sessionAt env responses session first →
      ∃ last, Last env responses retries first last ∧ execution = leave env responses session last
        (requests ++ (List.range' first (last + 1 - first)).map (sentIn env responses session)))
    · intro retries attempts session requests message output
      rw [answers.generator] at output
      cases output
    · intro retries attempts current requests response output valid same
      rw [answers.generator] at output
      cases output
      refine ⟨attempts, .here (Or.inl valid), ?_⟩
      have length : attempts + 1 - attempts = 1 := by omega
      rw [leave, if_pos (by exact valid), length, same]
      rfl
    · intro attempts current requests response output invalid same
      rw [answers.generator] at output
      cases output
      refine ⟨attempts, .here (Or.inr rfl), ?_⟩
      have refused : ¬ verdict env responses attempts = true := by
        rw [verdict, invalid]
        simp
      have length : attempts + 1 - attempts = 1 := by omega
      rw [leave, if_neg refused, length, same]
      rfl
    · intro retries attempts current requests response execution output invalid ih same
      rw [answers.generator] at output
      cases output
      obtain ⟨last, rest, ended⟩ := ih (by rw [same]; rfl)
      refine ⟨last, .later invalid rest, ?_⟩
      rw [ended, range'_cons_of_le rest.lower, List.map_cons, List.append_assoc,
        List.singleton_append, same]
      rfl
    · exact left
  exact loop _ budget rfl

/-- A round that fails leaves an error behind, so the next request has a retry context. -/
theorem validateNode_errors {policy : Dict} (invalid : (validateNode env policy).2 = false) :
    (validateNode env policy).1.isEmpty = false := by
  unfold validateNode at invalid ⊢
  split
  · rfl
  · rename_i spec accepted
    rw [accepted] at invalid
    have refused : (env.validator.validate spec).ok = false := invalid
    simp only [refused, Bool.false_eq_true, ↓reduceIte, List.isEmpty_map]
    exact refused

theorem sentIn_retryContext {k : Nat} (failed : verdict env responses k = false) :
    (sentIn env responses session (k + 1)).retryContext = some (recorded env responses k) := by
  have some_left : (recorded env responses k).isEmpty = false := validateNode_errors failed
  have left : (sessionAt env responses session (k + 1)).validationErrors = recorded env responses k := rfl
  rw [sentIn, generationRequest, left, some_left]
  rfl

theorem sessionAt_tenantId (k : Nat) :
    (sessionAt env responses session k).tenantId = session.tenantId := by
  induction k with
  | zero => rfl
  | succ k ih => exact ih

theorem leave_requests (last : Nat) (sent : List GenerationRequest) :
    (leave env responses session last sent).requests = sent := by
  unfold leave
  split
  · exact deployNode_requests _ _
  · rfl

theorem deployCall_afterRound (last : Nat) :
    deployCall env (afterRound env (sessionAt env responses session last) (responses last)).tenantId
        ((afterRound env (sessionAt env responses session last)
          (responses last)).generatedPolicy.getD []) =
      deployCall env session.tenantId (responses last).policy := by
  have tenant : (afterRound env (sessionAt env responses session last) (responses last)).tenantId =
      session.tenantId := sessionAt_tenantId last
  rw [tenant]
  rfl

/-- A policy that validated is sent, in one call. -/
theorem leave_calls_valid (session : PolicyGenerationSession) {last : Nat} (sent : List GenerationRequest)
    (valid : verdict env responses last = true) :
    ∃ call, (leave env responses session last sent).calls = [call] ∧
      deployCall env session.tenantId (responses last).policy = some call := by
  obtain ⟨spec, accepted, _⟩ := validateNode_valid valid
  have scope := (modelValidate_accepts accepted).vehicleScope
  rw [leave, if_pos valid, deployNode_calls, deployCall_afterRound, deployCall, scope]
  exact ⟨_, rfl, rfl⟩

theorem leave_failed {last : Nat} (sent : List GenerationRequest)
    (failed : verdict env responses last = false) :
    leave env responses session last sent = ⟨sent, [],
      .ok ⟨afterRound env (sessionAt env responses session last) (responses last), .deadLetter,
        last + 1⟩⟩ := by
  rw [leave, if_neg (by simp [failed])]

theorem leave_returns (session : PolicyGenerationSession) (answers : Answers env responses)
    (last : Nat) (sent : List GenerationRequest) :
    ∃ result, (leave env responses session last sent).outcome = .ok result ∧
      result.validationAttempts = last + 1 ∧
      (verdict env responses last = false → result.finalState = .deadLetter) := by
  cases decided : verdict env responses last with
  | false =>
      rw [leave_failed sent decided]
      exact ⟨_, rfl, rfl, fun _ => rfl⟩
  | true =>
      obtain ⟨call, _, listed⟩ := leave_calls_valid session sent decided
      obtain ⟨response, answered⟩ := answers.collector call
      rw [leave, if_pos decided, deployNode, deployCall_afterRound, listed]
      simp only [answered]
      exact ⟨_, rfl, rfl, fun failed => by cases failed⟩

theorem leave_calls_iff (last : Nat) (sent : List GenerationRequest) :
    (leave env responses session last sent).calls ≠ [] ↔ verdict env responses last = true := by
  cases decided : verdict env responses last with
  | false =>
      rw [leave_failed sent decided]
      simp
  | true =>
      obtain ⟨call, only, _⟩ := leave_calls_valid session sent decided
      rw [only]
      simp

theorem leave_payload {last : Nat} {sent : List GenerationRequest} {call : DeployCall}
    (member : call ∈ (leave env responses session last sent).calls) :
    call.payload = (responses last).policy := by
  have valid := (leave_calls_iff last sent).mp (List.ne_nil_of_mem member)
  obtain ⟨only, calls, listed⟩ := leave_calls_valid session sent valid
  rw [calls, List.mem_singleton] at member
  rw [member]
  obtain ⟨scope, _, built⟩ := Option.map_eq_some_iff.mp listed
  rw [← built]

theorem leave_calls_le (last : Nat) (sent : List GenerationRequest) :
    (leave env responses session last sent).calls.length ≤ 1 := by
  cases decided : verdict env responses last with
  | false =>
      rw [leave_failed sent decided]
      exact Nat.zero_le 1
  | true =>
      obtain ⟨call, only, _⟩ := leave_calls_valid session sent decided
      rw [only]
      exact Nat.le_refl 1

/-- The loop takes every round the budget allows exactly if all but the last of these fail. -/
theorem Last.eq_iff {retries last : Nat} (ends : Last env responses retries 0 last) :
    last = retries ↔ ∀ k < retries, verdict env responses k = false := by
  constructor
  · intro all k below
    exact ends.failed k (Nat.zero_le k) (by omega)
  · intro failed
    have upper := ends.upper
    rcases ends.stops with valid | spent
    · by_contra early
      rw [failed last (by omega)] at valid
      cases valid
    · omega

/-- What the loop promises about a run whose calls all return. Rounds are numbered from 0, and
there is one generation request in each: watched for as many rounds as there are requests, or
for more rounds than the budget leaves retries, the loop has ended. -/
structure BoundedRun (env : Env) (responses : Nat → GenerationResponse)
    (session : PolicyGenerationSession) (execution : Execution) : Prop where
  ends : ∀ fuel, runFor env fuel session =
    if execution.requests.length ≤ fuel then some execution else none
  settles : ∀ fuel : Nat, max 0 (session.retryBudget - session.retryCount) < (fuel : Int) →
    runFor env fuel session = some execution
  rounds_pos : 0 < execution.requests.length
  rounds_le : (execution.requests.length : Int) ≤ max 0 (session.retryBudget - session.retryCount) + 1
  rounds_eq_iff : (execution.requests.length : Int) =
      max 0 (session.retryBudget - session.retryCount) + 1 ↔
    ∀ k : Nat, (k : Int) < max 0 (session.retryBudget - session.retryCount) →
      verdict env responses k = false
  returns : ∃ result, execution.outcome = .ok result ∧
    result.validationAttempts = execution.requests.length ∧
    ((∀ k < execution.requests.length, verdict env responses k = false) →
      result.finalState = .deadLetter ∧ execution.calls = [])
  calls_le : execution.calls.length ≤ 1
  calls_iff : execution.calls ≠ [] ↔ verdict env responses (execution.requests.length - 1) = true
  payload : ∀ call ∈ execution.calls,
    call.payload = (responses (execution.requests.length - 1)).policy
  retryContext : ∀ k, k + 1 < execution.requests.length →
    execution.requests[k + 1]?.map GenerationRequest.retryContext =
      some (some (recorded env responses k))

theorem leave_bounded (answers : Answers env responses) {last : Nat}
    (ends : Last env responses (retriesLeft session) 0 last)
    (whole : run env session = leave env responses session last
      ((List.range (last + 1)).map (sentIn env responses session))) :
    BoundedRun env responses session (leave env responses session last
      ((List.range (last + 1)).map (sentIn env responses session))) := by
  have budget : (retriesLeft session : Int) = max 0 (session.retryBudget - session.retryCount) := by
    unfold retriesLeft
    omega
  have length : (leave env responses session last
      ((List.range (last + 1)).map (sentIn env responses session))).requests.length = last + 1 := by
    rw [leave_requests, List.length_map, List.length_range]
  have upper := ends.upper
  have watched := runFor_eq env session
  rw [whole] at watched
  constructor
  · exact watched
  · intro fuel enough
    rw [watched, if_pos (by omega)]
  · omega
  · omega
  · rw [length, ← budget]
    have total : ((last + 1 : Nat) : Int) = (retriesLeft session : Int) + 1 ↔
        last = retriesLeft session := by omega
    rw [total, ends.eq_iff]
    simp only [Int.ofNat_lt]
  · rw [length]
    obtain ⟨result, returned, attempts, final⟩ := leave_returns session answers last
      ((List.range (last + 1)).map (sentIn env responses session))
    refine ⟨result, returned, attempts, ?_⟩
    intro failed
    have refused := failed last (Nat.lt_succ_self last)
    refine ⟨final refused, ?_⟩
    rw [leave_failed _ refused]
  · exact leave_calls_le last _
  · rw [length]
    exact leave_calls_iff last _
  · intro call member
    rw [length]
    exact leave_payload member
  · intro k below
    rw [length] at below
    rw [leave_requests, List.getElem?_map, List.getElem?_range below, Option.map_some,
      Option.map_some, sentIn_retryContext (ends.failed k (Nat.zero_le k) (by omega))]

/-- The budget bounds the rounds, the deployer is called for the last of them if that one
validates, and each round but the first is told the errors of the one before. -/
theorem run_bounded (env : Env) (responses : Nat → GenerationResponse)
    (session : PolicyGenerationSession) (answers : Answers env responses) :
    BoundedRun env responses session (run env session) := by
  obtain ⟨last, ends, ended⟩ := rounds_last session answers (retriesLeft session) 0 [] rfl
  have whole : run env session = leave env responses session last
      ((List.range (last + 1)).map (sentIn env responses session)) := by
    rw [List.range_eq_range']
    exact ended
  rw [whole]
  exact leave_bounded answers ends whole

/-- A generator whose first answer is empty. -/
def secondTry (k : Nat) : GenerationResponse :=
  if k = 0 then ⟨[], []⟩
  else ⟨samplePolicy "vehicle-1" "tenant-a" "finding-1" "session-1", []⟩

theorem run_bounded_second_try :
    ((run { sampleEnv [] with outputs := fun k => .ok (secondTry k) } sampleSession).requests.length,
      (run { sampleEnv [] with outputs := fun k => .ok (secondTry k) } sampleSession).calls.length)
        = (2, 1) ∧
    BoundedRun { sampleEnv [] with outputs := fun k => .ok (secondTry k) } secondTry sampleSession
      (run { sampleEnv [] with outputs := fun k => .ok (secondTry k) } sampleSession) :=
  ⟨by decide +kernel, run_bounded _ secondTry sampleSession ⟨fun _ => rfl, fun _ => ⟨_, rfl⟩⟩⟩

end CollectMind.Graph
