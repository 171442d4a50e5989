import CollectMind.Graph.Session
import CollectMind.Validator.PolicyValidator

set_option autoImplicit false

/- `CollectMindGraph.run` of graph/build.py with its four nodes: the orchestrator's routing,
the generator, the validator and the deployer. -/
namespace CollectMind.Graph

open Python Validator

structure GenerationRequest where
  sessionId : String
  promptTemplateVersion : String
  prompt : String
  decodingSeed : Int
  retryContext : Option (List Dict)

structure GenerationResponse where
  policy : Dict
  runtimeInfo : Dict

/-- The arguments of `collector.deploy`. -/
structure DeployCall where
  tenantId : String
  policyId : Json
  version : Json
  vehicleScope : List Json
  payload : Dict
  payloadSignature : String
  signatureKeyId : String

structure DeployResponse where
  deploymentId : String
  status : String
  downstreamResponse : Json
  expiresAt : Option Nat

/-- The parties around the graph. `outputs k` is what the generator node does in its `k`-th
call: return a response or raise. -/
structure Env where
  parsers : Parsers
  validator : PolicyValidator
  render : PolicyGenerationSession → String
  outputs : Nat → Except String GenerationResponse
  sign : Dict → String × String
  deploy : DeployCall → Except String DeployResponse
  deploymentId : String
  now : Nat

def defaultDecodingSeed : Int := 12648430

inductive FinalState where
  | completed
  | deadLetter
  deriving DecidableEq, Repr

structure GraphRun where
  session : PolicyGenerationSession
  finalState : FinalState
  validationAttempts : Nat

/-- A run seen from outside: what it sent, and how it ended. -/
structure Execution where
  requests : List GenerationRequest
  calls : List DeployCall
  outcome : Except String GraphRun

inductive RouteDecision where
  | deploy
  | retry
  | deadLetter
  deriving DecidableEq, Repr

/-- `Orchestrator.route_after_validation`. -/
def routeAfterValidation (session : PolicyGenerationSession) (valid : Bool) :
    RouteDecision × PolicyGenerationSession :=
  if valid then (.deploy, session)
  else if session.retryBudgetExhausted then (.deadLetter, session)
  else (.retry, { session with retryCount := session.retryCount + 1 })

/-- The request that `PolicyGenerator.generate` sends. -/
def generationRequest (env : Env) (session : PolicyGenerationSession) : GenerationRequest where
  sessionId := session.sessionId
  promptTemplateVersion := session.promptTemplateVersion
  prompt := env.render session
  decodingSeed := defaultDecodingSeed
  retryContext := if session.validationErrors.isEmpty then none else some session.validationErrors

/-- What `PolicyGenerator.generate` leaves on the session. -/
def afterGenerate (session : PolicyGenerationSession) (response : GenerationResponse) :
    PolicyGenerationSession :=
  { session with
    generatedPolicy := some response.policy
    lastRuntimeInfo := some response.runtimeInfo
    lastDecodingSeed := some defaultDecodingSeed }

def ValidationError.toDict (error : ValidationError) : Dict :=
  [("code", .str error.code), ("field", .str error.field), ("message", .str error.message),
    ("details", .obj error.details)]

/-- The errors `PolicyValidatorNode.validate` puts on the session, and its verdict. -/
def validateNode (env : Env) (policy : Dict) : List Dict × Bool :=
  match CollectionPolicySpec.modelValidate env.parsers policy with
  | none => ([[("code", .str "SCHEMA_VALIDATION_FAILED"), ("field", .str "generated_policy"),
      ("message", .str (env.parsers.describe (.obj policy)))]], false)
  | some spec =>
    let result := env.validator.validate spec
    (if result.ok then [] else result.errors.map ValidationError.toDict, result.ok)

theorem validateNode_valid {env : Env} {policy : Dict} (valid : (validateNode env policy).2 = true) :
    ∃ spec, CollectionPolicySpec.modelValidate env.parsers policy = some spec ∧
      (env.validator.validate spec).ok = true := by
  unfold validateNode at valid
  split at valid
  · cases valid
  · rename_i spec accepted
    exact ⟨spec, accepted, valid⟩

/-- The call that `PolicyDeployer.deploy` makes; `none` if `list(...)` raises before it. -/
def deployCall (env : Env) (tenantId : String) (policy : Dict) : Option DeployCall :=
  ((policy.get "vehicle_scope").getD (.arr [])).toList.map fun vehicleScope =>
    { tenantId := tenantId
      policyId := (policy.get "policy_id").getD (.str "")
      version := (policy.get "version").getD (.str "1.0.0")
      vehicleScope := vehicleScope
      payload := policy
      payloadSignature := (env.sign policy).1
      signatureKeyId := (env.sign policy).2 }

def deploymentRecord (env : Env) (call : DeployCall) (response : DeployResponse) :
    DeploymentRecord where
  deploymentId := if response.deploymentId = "" then env.deploymentId else response.deploymentId
  tenantId := call.tenantId
  policyId := call.policyId
  version := call.version
  vehicleScope := call.vehicleScope
  status := response.status
  deployedAt := env.now
  expiresAt := response.expiresAt
  downstreamResponse := response.downstreamResponse

/-- `PolicyDeployer.deploy` and `Orchestrator.route_after_deploy`. -/
def deployNode (env : Env) (session : PolicyGenerationSession) (attempts : Nat)
    (requests : List GenerationRequest) : Execution :=
  match deployCall env session.tenantId (session.generatedPolicy.getD []) with
  | none => ⟨requests, [], .error "object is not iterable"⟩
  | some call =>
    match env.deploy call with
    | .error message => ⟨requests, [call], .error message⟩
    | .ok response =>
      let record := deploymentRecord env call response
      ⟨requests, [call], .ok
        { session := { session with deploymentRecord := some record }
          finalState := if record.status = "accepted" then .completed else .deadLetter
          validationAttempts := attempts }⟩

/-- The session after a round's generator and validator. -/
def afterRound (env : Env) (session : PolicyGenerationSession) (response : GenerationResponse) :
    PolicyGenerationSession :=
  { afterGenerate session response with
    validationErrors := (validateNode env response.policy).1 }

/-- The rounds that the budget leaves after the first. -/
def retriesLeft (session : PolicyGenerationSession) : Nat :=
  (session.retryBudget - session.retryCount).toNat

theorem retryBudgetExhausted_iff (session : PolicyGenerationSession) :
    session.retryBudgetExhausted = true ↔ retriesLeft session = 0 := by
  simp only [PolicyGenerationSession.retryBudgetExhausted, decide_eq_true_eq, retriesLeft]
  omega

/-- The orchestrator sends the session round again only at the cost of a retry. -/
theorem retriesLeft_lt {session next : PolicyGenerationSession} {valid : Bool}
    (again : routeAfterValidation session valid = (.retry, next)) :
    retriesLeft next < retriesLeft session := by
  unfold routeAfterValidation at again
  split at again
  · cases again
  · split at again
    · cases again
    · rename_i unspent
      cases again
      rw [retryBudgetExhausted_iff] at unspent
      simp only [retriesLeft] at unspent ⊢
      omega

/-- How a round of the loop ends: the run is over, or `continue`. -/
inductive Round where
  | ends (execution : Execution)
  | again (session : PolicyGenerationSession) (requests : List GenerationRequest)

/-- The body of the loop of `CollectMindGraph.run`, with what follows a `break`. -/
def round (env : Env) (attempts : Nat) (session : PolicyGenerationSession)
    (requests : List GenerationRequest) : Round :=
  let sent := requests ++ [generationRequest env session]
  match env.outputs attempts with
  | .error message => .ends ⟨sent, [], .error message⟩
  | .ok response =>
    match routeAfterValidation (afterRound env session response)
        (validateNode env response.policy).2 with
    | (.deploy, next) => .ends (deployNode env next (attempts + 1) sent)
    | (.deadLetter, next) => .ends ⟨sent, [], .ok ⟨next, .deadLetter, attempts + 1⟩⟩
    | (.retry, next) => .again next sent

theorem round_retriesLeft {env : Env} {attempts : Nat} {session next : PolicyGenerationSession}
    {requests sent : List GenerationRequest}
    (again : round env attempts session requests = .again next sent) :
    retriesLeft next < retriesLeft session := by
  unfold round at again
  dsimp only at again
  split at again
  · cases again
  · rename_i response output
    split at again
    · cases again
    · cases again
    · rename_i onward decision
      cases again
      have less : retriesLeft next < retriesLeft (afterRound env session response) :=
        retriesLeft_lt decision
      exact less

/-- The loop of `CollectMindGraph.run` when it has made `attempts` rounds. Nothing but the
orchestrator's routing ends it. -/
def rounds (env : Env) (attempts : Nat) (session : PolicyGenerationSession)
    (requests : List GenerationRequest) : Execution :=
  match onward : round env attempts session requests with
  | .ends execution => execution
  | .again next sent => rounds env (attempts + 1) next sent
termination_by retriesLeft session
decreasing_by exact round_retriesLeft onward

/-- `Orchestrator.initial_plan`. -/
def initialPlan (session : PolicyGenerationSession) : PolicyGenerationSession :=
  { session with executionPlan := ["generate", "validate", "deploy"] }

/-- `CollectMindGraph.run`. -/
def run (env : Env) (session : PolicyGenerationSession) : Execution :=
  rounds env 0 (initialPlan session) []

/-- The loop, watched for at most `fuel` rounds; `none` if it has not ended by then. -/
def roundsFor (env : Env) : Nat → Nat → PolicyGenerationSession → List GenerationRequest →
    Option Execution
  | 0, _, _, _ => none
  | fuel + 1, attempts, session, requests =>
    match round env attempts session requests with
    | .ends execution => some execution
    | .again next sent => roundsFor env fuel (attempts + 1) next sent

def runFor (env : Env) (fuel : Nat) (session : PolicyGenerationSession) : Option Execution :=
  roundsFor env fuel 0 (initialPlan session) []

/-- The first output within the budget that validates; a generator that raises ends the
search. -/
def firstValid (env : Env) (retries attempts : Nat) : Option Dict :=
  match env.outputs attempts with
  | .error _ => none
  | .ok response =>
    if (validateNode env response.policy).2 then some response.policy
    else
      match retries with
      | 0 => none
      | retries + 1 => firstValid env retries (attempts + 1)

/-- What a run keeps of the session it was given, and what it has put on it. -/
structure Ended (env : Env) (session : PolicyGenerationSession) (run : GraphRun) : Prop where
  sessionId : run.session.sessionId = session.sessionId
  tenantId : run.session.tenantId = session.tenantId
  correlationId : run.session.correlationId = session.correlationId
  originatingFinding : run.session.originatingFinding = session.originatingFinding
  generated : run.session.generatedPolicy ≠ none
  completed : run.finalState = .completed → ∃ policy call response,
    run.session.generatedPolicy = some policy ∧
    deployCall env session.tenantId policy = some call ∧ env.deploy call = .ok response ∧
    response.status = "accepted" ∧
    run.session.deploymentRecord = some (deploymentRecord env call response)

theorem deployNode_calls (env : Env) (session : PolicyGenerationSession) (attempts : Nat)
    (requests : List GenerationRequest) :
    (deployNode env session attempts requests).calls =
      (deployCall env session.tenantId (session.generatedPolicy.getD [])).toList := by
  unfold deployNode
  split
  · rename_i unlisted
    rw [unlisted]
    rfl
  · rename_i call listed
    rw [listed]
    split
    · rfl
    · rfl

theorem deployNode_requests {env : Env} {session : PolicyGenerationSession} (attempts : Nat)
    (requests : List GenerationRequest) :
    (deployNode env session attempts requests).requests = requests := by
  unfold deployNode
  split
  · rfl
  · split
    · rfl
    · rfl

theorem deployNode_ended {env : Env} {session : PolicyGenerationSession} {attempts : Nat}
    {requests : List GenerationRequest} {policy : Dict} {run : GraphRun}
    (generated : session.generatedPolicy = some policy)
    (success : (deployNode env session attempts requests).outcome = .ok run) :
    Ended env session run := by
  unfold deployNode at success
  rw [generated, Option.getD_some] at success
  split at success
  · cases success
  · rename_i call listed
    split at success
    · cases success
    · rename_i response answered
      cases success
      refine ⟨rfl, rfl, rfl, rfl, by simp, ?_⟩
      intro completed
      refine ⟨policy, call, response, rfl, listed, answered, ?_, rfl⟩
      by_contra refused
      simp [deploymentRecord, refused] at completed

theorem retriesLeft_retry {session : PolicyGenerationSession} {retries : Nat}
    (left : retriesLeft session = retries + 1) :
    retriesLeft { session with retryCount := session.retryCount + 1 } = retries := by
  simp only [retriesLeft] at left ⊢
  omega

theorem routeAfterValidation_valid (session : PolicyGenerationSession) :
    routeAfterValidation session true = (.deploy, session) := rfl

theorem routeAfterValidation_spent {session : PolicyGenerationSession}
    (spent : retriesLeft session = 0) :
    routeAfterValidation session false = (.deadLetter, session) := by
  rw [routeAfterValidation, if_neg (by simp), if_pos ((retryBudgetExhausted_iff session).mpr spent)]

theorem routeAfterValidation_left {session : PolicyGenerationSession} {retries : Nat}
    (left : retriesLeft session = retries + 1) :
    routeAfterValidation session false =
      (.retry, { session with retryCount := session.retryCount + 1 }) := by
  have unspent : ¬ session.retryBudgetExhausted = true := by
    rw [retryBudgetExhausted_iff, left]
    omega
  rw [routeAfterValidation, if_neg (by simp), if_neg unspent]

section Rounds

variable {env : Env} {attempts : Nat} {session : PolicyGenerationSession}
  {requests : List GenerationRequest}

theorem rounds_ends {execution : Execution}
    (ends : round env attempts session requests = .ends execution) :
    rounds env attempts session requests = execution := by
  rw [rounds]
  split
  · rename_i other same
    rw [ends] at same
    cases same
    rfl
  · rename_i next sent same
    rw [ends] at same
    cases same

theorem rounds_again {next : PolicyGenerationSession} {sent : List GenerationRequest}
    (again : round env attempts session requests = .again next sent) :
    rounds env attempts session requests = rounds env (attempts + 1) next sent := by
  rw [rounds]
  split
  · rename_i execution same
    rw [again] at same
    cases same
  · rename_i other others same
    rw [again] at same
    cases same
    rfl

theorem round_raises {message : String} (output : env.outputs attempts = .error message) :
    round env attempts session requests =
      .ends ⟨requests ++ [generationRequest env session], [], .error message⟩ := by
  rw [round, output]

theorem round_deploys {response : GenerationResponse} (output : env.outputs attempts = .ok response)
    (valid : (validateNode env response.policy).2 = true) :
    round env attempts session requests =
      .ends (deployNode env (afterRound env session response) (attempts + 1)
        (requests ++ [generationRequest env session])) := by
  simp only [round, output, valid, routeAfterValidation_valid]

theorem round_givesUp {response : GenerationResponse} (output : env.outputs attempts = .ok response)
    (invalid : (validateNode env response.policy).2 = false) (spent : retriesLeft session = 0) :
    round env attempts session requests =
      .ends ⟨requests ++ [generationRequest env session], [],
        .ok ⟨afterRound env session response, .deadLetter, attempts + 1⟩⟩ := by
  have none : retriesLeft (afterRound env session response) = 0 := spent
  simp only [round, output, invalid, routeAfterValidation_spent none]

theorem round_again {response : GenerationResponse} {retries : Nat}
    (output : env.outputs attempts = .ok response)
    (invalid : (validateNode env response.policy).2 = false)
    (left : retriesLeft session = retries + 1) :
    round env attempts session requests =
      .again { afterRound env session response with retryCount := session.retryCount + 1 }
        (requests ++ [generationRequest env session]) := by
  have some_left : retriesLeft (afterRound env session response) = retries + 1 := left
  simp only [round, output, invalid, routeAfterValidation_left some_left]
  rfl

/-- A round sends one request, whether or not it is the last. -/
theorem round_ends_requests {execution : Execution}
    (ends : round env attempts session requests = .ends execution) :
    execution.requests = requests ++ [generationRequest env session] := by
  unfold round at ends
  dsimp only at ends
  split at ends
  · cases ends
    rfl
  · split at ends
    · cases ends
      exact deployNode_requests _ _
    · cases ends
      rfl
    · cases ends

theorem round_again_requests {next : PolicyGenerationSession} {sent : List GenerationRequest}
    (again : round env attempts session requests = .again next sent) :
    sent = requests ++ [generationRequest env session] := by
  unfold round at again
  dsimp only at again
  split at again
  · cases again
  · split at again
    · cases again
    · cases again
    · cases again
      rfl

variable {motive : Nat → Nat → PolicyGenerationSession → List GenerationRequest → Execution → Prop}

/-- The ways out of a round, for a session with so many retries left: the generator raises, a valid
output is deployed, the budget is spent, or the loop goes round again. -/
theorem rounds_induction
    (raises : ∀ retries attempts session requests message, env.outputs attempts = .error message →
      motive retries attempts session requests
        ⟨requests ++ [generationRequest env session], [], .error message⟩)
    (deploys : ∀ retries attempts session requests response, env.outputs attempts = .ok response →
      (validateNode env response.policy).2 = true →
      motive retries attempts session requests
        (deployNode env (afterRound env session response) (attempts + 1)
          (requests ++ [generationRequest env session])))
    (givesUp : ∀ attempts session requests response, env.outputs attempts = .ok response →
      (validateNode env response.policy).2 = false →
      motive 0 attempts session requests
        ⟨requests ++ [generationRequest env session], [],
          .ok ⟨afterRound env session response, .deadLetter, attempts + 1⟩⟩)
    (again : ∀ retries attempts session requests response execution,
      env.outputs attempts = .ok response → (validateNode env response.policy).2 = false →
      motive retries (attempts + 1)
        { afterRound env session response with retryCount := session.retryCount + 1 }
        (requests ++ [generationRequest env session]) execution →
      motive (retries + 1) attempts session requests execution)
    (retries attempts : Nat) (session : PolicyGenerationSession)
    (requests : List GenerationRequest) (budget : retries = retriesLeft session) :
    motive retries attempts session requests (rounds env attempts session requests) := by
  induction retries generalizing attempts session requests with
  | zero =>
      cases output : env.outputs attempts with
      | error message =>
          rw [rounds_ends (round_raises output)]
          exact raises 0 attempts session requests message output
      | ok response =>
          cases verdict : (validateNode env response.policy).2 with
          | true =>
              rw [rounds_ends (round_deploys output verdict)]
              exact deploys 0 attempts session requests response output verdict
          | false =>
              rw [rounds_ends (round_givesUp output verdict budget.symm)]
              exact givesUp attempts session requests response output verdict
  | succ retries ih =>
      cases output : env.outputs attempts with
      | error message =>
          rw [rounds_ends (round_raises output)]
          exact raises (retries + 1) attempts session requests message output
      | ok response =>
          cases verdict : (validateNode env response.policy).2 with
          | true =>
              rw [rounds_ends (round_deploys output verdict)]
              exact deploys (retries + 1) attempts session requests response output verdict
          | false =>
              have left : retriesLeft session = retries + 1 := budget.symm
              rw [rounds_again (round_again output verdict left)]
              apply again retries attempts session requests response _ output verdict
              exact ih (attempts + 1) _ _ (retriesLeft_retry left).symm

theorem rounds_sends (env : Env) (attempts : Nat) (session : PolicyGenerationSession)
    (requests : List GenerationRequest) :
    requests.length < (rounds env attempts session requests).requests.length := by
  apply rounds_induction (motive := fun _ _ _ requests execution =>
    requests.length < execution.requests.length)
  · intro retries attempts session requests message output
    simp
  · intro retries attempts session requests response output valid
    simp [deployNode_requests]
  · intro attempts session requests response output invalid
    simp
  · intro retries attempts session requests response execution output invalid more
    rw [List.length_append] at more
    exact Nat.lt_of_succ_lt more
  · rfl

/-- Watched for long enough, the loop has ended as `rounds` says, and before that it has not. -/
theorem roundsFor_eq (env : Env) (fuel attempts : Nat) (session : PolicyGenerationSession)
    (requests : List GenerationRequest) :
    roundsFor env fuel attempts session requests =
      if (rounds env attempts session requests).requests.length ≤ requests.length + fuel then
        some (rounds env attempts session requests)
      else none := by
  induction fuel generalizing attempts session requests with
  | zero =>
      have sends := rounds_sends env attempts session requests
      rw [roundsFor, if_neg (by omega)]
  | succ fuel ih =>
      rw [roundsFor]
      cases onward : round env attempts session requests with
      | ends execution =>
          have sent : execution.requests.length = requests.length + 1 := by
            rw [round_ends_requests onward, List.length_append]
            rfl
          rw [rounds_ends onward, if_pos (by omega)]
      | again next sent =>
          have longer : sent.length = requests.length + 1 := by
            rw [round_again_requests onward, List.length_append]
            rfl
          have same : sent.length + fuel = requests.length + (fuel + 1) := by omega
          rw [rounds_again onward, ← same]
          exact ih (attempts + 1) next sent

end Rounds

theorem runFor_eq (env : Env) (session : PolicyGenerationSession) (fuel : Nat) :
    runFor env fuel session =
      if (run env session).requests.length ≤ fuel then some (run env session) else none := by
  rw [runFor, roundsFor_eq, List.length_nil, Nat.zero_add]
  rfl

/-- A run deploys the first valid output, and nothing else. -/
theorem rounds_calls (env : Env) (attempts : Nat) (session : PolicyGenerationSession)
    (requests : List GenerationRequest) :
    (rounds env attempts session requests).calls =
      ((firstValid env (retriesLeft session) attempts).bind (deployCall env session.tenantId)).toList := by
  apply rounds_induction (motive := fun retries attempts session _ execution => execution.calls =
    ((firstValid env retries attempts).bind (deployCall env session.tenantId)).toList)
  · intro retries attempts session requests message output
    rw [firstValid.eq_def, output]
    rfl
  · intro retries attempts session requests response output valid
    rw [firstValid.eq_def, output, deployNode_calls]
    simp only [valid, ↓reduceIte]
    rfl
  · intro attempts session requests response output invalid
    rw [firstValid.eq_def, output]
    simp only [invalid, Bool.false_eq_true, ↓reduceIte]
    rfl
  · intro retries attempts session requests response execution output invalid ih
    rw [firstValid.eq_def, output]
    simp only [invalid, Bool.false_eq_true, ↓reduceIte]
    exact ih
  · rfl

/-- A run of another session with the same name, tenant and finding. -/
theorem Ended.of_same {env : Env} {session earlier : PolicyGenerationSession} {run : GraphRun}
    (ended : Ended env session run) (sessionId : session.sessionId = earlier.sessionId)
    (tenantId : session.tenantId = earlier.tenantId)
    (correlationId : session.correlationId = earlier.correlationId)
    (finding : session.originatingFinding = earlier.originatingFinding) :
    Ended env earlier run where
  sessionId := ended.sessionId.trans sessionId
  tenantId := ended.tenantId.trans tenantId
  correlationId := ended.correlationId.trans correlationId
  originatingFinding := ended.originatingFinding.trans finding
  generated := ended.generated
  completed := tenantId ▸ ended.completed

theorem rounds_ended {env : Env} {attempts : Nat} {session : PolicyGenerationSession}
    {requests : List GenerationRequest} :
    ∀ run, (rounds env attempts session requests).outcome = .ok run →
      Ended env session run := by
  apply rounds_induction (motive := fun _ _ session _ execution =>
    ∀ run, execution.outcome = .ok run → Ended env session run)
  · intro retries attempts session requests message output run success
    cases success
  · intro retries attempts session requests response output valid run success
    exact (deployNode_ended rfl success).of_same rfl rfl rfl rfl
  · intro attempts session requests response output invalid run success
    cases success
    exact ⟨rfl, rfl, rfl, rfl, by simp [afterRound, afterGenerate], fun final => by cases final⟩
  · intro retries attempts session requests response execution output invalid ih run success
    exact (ih run success).of_same rfl rfl rfl rfl
  · rfl

theorem run_ended {env : Env} {session : PolicyGenerationSession} {result : GraphRun}
    (success : (run env session).outcome = .ok result) : Ended env session result := by
  rw [run] at success
  exact (rounds_ended result success).of_same rfl rfl rfl rfl

/-- A run whose deployment the collector accepted ends as completed, with the record of it. -/
structure Delivered (env : Env) (session : PolicyGenerationSession) (call : DeployCall)
    (response : DeployResponse) (result : GraphRun) : Prop where
  completed : result.finalState = .completed
  listed : ∃ policy, result.session.generatedPolicy = some policy ∧
    deployCall env session.tenantId policy = some call
  record : result.session.deploymentRecord = some (deploymentRecord env call response)

theorem deployNode_delivered {env : Env} {session : PolicyGenerationSession} {attempts : Nat}
    {requests : List GenerationRequest} {policy : Dict} {call : DeployCall}
    {response : DeployResponse} (generated : session.generatedPolicy = some policy)
    (sent : call ∈ (deployNode env session attempts requests).calls)
    (answered : env.deploy call = .ok response) (accepted : response.status = "accepted") :
    ∃ result, (deployNode env session attempts requests).outcome = .ok result ∧
      Delivered env session call response result := by
  rw [deployNode_calls, generated, Option.getD_some, Option.mem_toList] at sent
  simp only [deployNode, generated, Option.getD_some, sent, answered]
  refine ⟨_, rfl, ?_, ⟨policy, rfl, sent⟩, rfl⟩
  exact if_pos accepted

theorem rounds_delivered {env : Env} {attempts : Nat} {session : PolicyGenerationSession}
    {requests : List GenerationRequest} {call : DeployCall} {response : DeployResponse}
    (answered : env.deploy call = .ok response) (accepted : response.status = "accepted") :
    call ∈ (rounds env attempts session requests).calls →
      ∃ result, (rounds env attempts session requests).outcome = .ok result ∧
        Delivered env session call response result := by
  apply rounds_induction (motive := fun _ _ session _ execution => call ∈ execution.calls →
    ∃ result, execution.outcome = .ok result ∧ Delivered env session call response result)
  · intro retries attempts session requests message output sent
    cases sent
  · intro retries attempts session requests output produced valid sent
    obtain ⟨result, outcome, delivered⟩ := deployNode_delivered rfl sent answered accepted
    exact ⟨result, outcome, delivered.completed, delivered.listed, delivered.record⟩
  · intro attempts session requests output produced invalid sent
    cases sent
  · intro retries attempts session requests output execution produced invalid ih sent
    obtain ⟨result, outcome, delivered⟩ := ih sent
    exact ⟨result, outcome, delivered.completed, delivered.listed, delivered.record⟩
  · rfl

theorem run_delivered {env : Env} {session : PolicyGenerationSession} {call : DeployCall}
    {response : DeployResponse} (sent : call ∈ (run env session).calls)
    (answered : env.deploy call = .ok response) (accepted : response.status = "accepted") :
    ∃ result, (run env session).outcome = .ok result ∧
      Delivered env session call response result := by
  rw [run] at sent ⊢
  obtain ⟨result, outcome, delivered⟩ := rounds_delivered answered accepted sent
  exact ⟨result, outcome, delivered.completed, delivered.listed, delivered.record⟩

theorem run_calls (env : Env) (session : PolicyGenerationSession) :
    (run env session).calls =
      ((firstValid env (retriesLeft session) 0).bind (deployCall env session.tenantId)).toList :=
  rounds_calls env 0 (initialPlan session) []

/-- A policy for one vehicle, with the lineage it is given. -/
def samplePolicy (vehicle tenantId findingId sessionId : String) : Dict :=
  [("policy_id", .str "policy-1"), ("version", .str "1.0.0"),
    ("signals", .arr [.obj [("vss_name", .str "Vehicle.Speed"), ("sample_rate_hz", .int 1),
      ("priority", .int 5)]]),
    ("collection_window_hours", .int 24), ("hypothesis", .str "cell imbalance"),
    ("vehicle_scope", .arr [.str vehicle]),
    ("data_governance_flags", .obj [("pii_consent", .bool false), ("has_pii_signal", .bool false)]),
    ("confidence_threshold", .int 1), ("generated_from_session_id", .str sessionId),
    ("originating_finding", .obj [("tenant_id", .str tenantId), ("finding_id", .str findingId)])]

/-- A generator that answers one policy each time, and a collector that accepts it. -/
def sampleEnv (policy : Dict) : Env where
  parsers := ⟨Char.isDigit, fun _ => none, fun _ => none, fun _ => false, fun _ => "invalid"⟩
  validator := ⟨["Vehicle.Speed"], fun _ => none, [], true⟩
  render _ := "prompt"
  outputs _ := .ok ⟨policy, [("slm_repo", .str "repo"),
    ("slm_revision_sha", .str "0123456789012345678901234567890123456789"),
    ("slm_runtime", .str "stub"), ("slm_runtime_version", .str "1"),
    ("slm_quantization", .str "none")]⟩
  sign _ := ("signature", "key")
  deploy _ := .ok ⟨"deployment-1", "accepted", .null, none⟩
  deploymentId := "deployment-2"
  now := 0

def sampleSession : PolicyGenerationSession where
  sessionId := "session-1"
  tenantId := "tenant-a"
  correlationId := "correlation-1"
  originatingFinding := [("finding_id", .str "finding-1"), ("schema_version", .str "1.0.0"),
    ("vehicle_scope", .arr [.str "vehicle-1"])]
  startedAt := 0

end CollectMind.Graph
