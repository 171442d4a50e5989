import CollectMind.Library.Json

set_option autoImplicit false

/- `PolicyGenerationSession` of graph/session.py: the one state object that the nodes of
the graph pass along. -/
namespace CollectMind.Graph

open Python

/-- The record that `PolicyDeployer.deploy` leaves on the session. -/
structure DeploymentRecord where
  deploymentId : String
  tenantId : String
  policyId : Json
  version : Json
  vehicleScope : List Json
  status : String
  deployedAt : Nat
  expiresAt : Option Nat
  downstreamResponse : Json

structure PolicyGenerationSession where
  sessionId : String
  tenantId : String
  correlationId : String
  originatingFinding : Dict
  executionPlan : List String := ["generate", "validate", "deploy"]
  retryCount : Int := 0
  retryBudget : Int := 3
  validationErrors : List Dict := []
  generatedPolicy : Option Dict := none
  deploymentRecord : Option DeploymentRecord := none
  startedAt : Nat
  lastRuntimeInfo : Option Dict := none
  lastDecodingSeed : Option Int := none
  promptTemplateVersion : String := "1.0.0"

def PolicyGenerationSession.retryBudgetExhausted (session : PolicyGenerationSession) : Bool :=
  session.retryCount ≥ session.retryBudget

end CollectMind.Graph
