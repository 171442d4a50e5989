import CollectMind.Query.AuditEvents
import CollectMind.Ratelimit.Middleware

set_option autoImplicit false

/- The routes that a tenant's token opens, in ingest/http.py, query/api.py and erasure/api.py,
and the bucket that ratelimit/middleware.py charges a request to by the text of its path. -/
namespace CollectMind.Query

open Python Ratelimit

/-- A request to one of the routes, with its path parameter. -/
inductive Route where
  | postFinding
  | getPolicy (policyId : String)
  | listPolicyVersions (policyId : String)
  | activePolicyForGroup (groupId : String)
  | outcomeForFinding (findingId : String)
  | auditForCorrelation (correlationId : String)
  | erasureRequestStatus (requestId : String)
  | getOwnTenantConfig
  | submitErasureRequest
  deriving DecidableEq, Repr

/-- What the path template puts around the parameter. -/
def Route.template : Route → String × String
  | .postFinding => ("/api/v1/findings", "")
  | .getPolicy _ => ("/api/v1/policies/", "")
  | .listPolicyVersions _ => ("/api/v1/policies/", "/versions")
  | .activePolicyForGroup _ => ("/api/v1/vehicle-groups/", "/active-policy")
  | .outcomeForFinding _ => ("/api/v1/findings/", "/outcome")
  | .auditForCorrelation _ => ("/api/v1/audit/", "")
  | .erasureRequestStatus _ => ("/api/v1/erasure-requests/", "")
  | .getOwnTenantConfig => ("/api/v1/tenant-config/self", "")
  | .submitErasureRequest => ("/api/v1/erasure-requests", "")

def Route.parameter : Route → Option String
  | .getPolicy parameter | .listPolicyVersions parameter | .activePolicyForGroup parameter
  | .outcomeForFinding parameter | .auditForCorrelation parameter
  | .erasureRequestStatus parameter => some parameter
  | .postFinding | .getOwnTenantConfig | .submitErasureRequest => none

def Route.path (route : Route) : String :=
  route.template.1 ++ (route.parameter.getD "" ++ route.template.2)

/-- The handler's `_ensure_safe` lets the parameter pass. -/
def Route.safe (route : Route) : Bool := route.parameter.all safeId

/-- The request is charged, to the inbound bucket if it submits a finding and else to the query
bucket. -/
structure RightlyCharged (route : Route) : Prop where
  limited : isExempt route.path = false
  bucket : bucketForPath route.path =
    if route.path = "/api/v1/findings" then .inbound else .query

theorem bucketForPath_diverge {fixed : String} (apart : diverge fixed "/api/v1/findings" = true)
    (rest : String) :
    bucketForPath (fixed ++ rest) =
      if fixed ++ rest = "/api/v1/findings" then .inbound else .query := by
  have elsewhere := (startsWith_diverge apart rest).2
  rw [bucketForPath, if_neg elsewhere]
  apply if_neg
  simp only [elsewhere, decide_false, Bool.false_or, Bool.not_eq_true]
  apply any_startsWith_diverge
  intro start member
  rw [List.mem_singleton.mp member]
  exact apart

/-- The beginnings of paths that the middleware's tests leave alone. -/
def plainStarts : List String :=
  ["/api/v1/policies/", "/api/v1/vehicle-groups/", "/api/v1/erasure-requests/",
    "/api/v1/tenant-config/self", "/api/v1/erasure-requests"]

theorem plainStarts_diverge :
    ∀ fixed ∈ plainStarts, diverge fixed "/api/v1/findings" = true ∧
      ∀ start ∈ exemptPrefixes, diverge fixed start = true := by
  decide +kernel

/-- A path that parts from every text the middleware looks for is charged to the query bucket,
whatever the parameter. -/
theorem rightlyCharged_of_plain {route : Route} (plain : route.template.1 ∈ plainStarts) :
    RightlyCharged route := by
  obtain ⟨inbound, exempt⟩ := plainStarts_diverge _ plain
  constructor
  · rw [Route.path, isExempt, if_neg (startsWith_diverge inbound _).2]
    exact any_startsWith_diverge exempt _
  · exact bucketForPath_diverge inbound _

/-- An audit query is exempt exactly if its correlation id reads like the operators' path. -/
theorem isExempt_audit (correlationId : String) :
    isExempt (Route.auditForCorrelation correlationId).path =
      startsWith correlationId "break-glass" := by
  have others : ∀ start ∈ ["/health", "/ready", "/metrics", "/api/v1/health", "/api/v1/ready"],
      diverge "/api/v1/audit/" start = true := by decide +kernel
  have path : (Route.auditForCorrelation correlationId).path =
      "/api/v1/audit/" ++ (correlationId ++ "") := rfl
  have elsewhere := (startsWith_diverge (show diverge "/api/v1/audit/" "/api/v1/findings" = true by decide)
    (correlationId ++ "")).2
  have split : exemptPrefixes = ["/health", "/ready", "/metrics", "/api/v1/health", "/api/v1/ready"] ++
      ["/api/v1/audit/" ++ "break-glass"] := by decide
  rw [path, isExempt, if_neg elsewhere, split, List.any_append, any_startsWith_diverge others,
    List.any_cons, List.any_nil, startsWith_append, String.append_empty, Bool.false_or,
    Bool.or_false]

theorem rightlyCharged_audit_iff (correlationId : String) :
    RightlyCharged (.auditForCorrelation correlationId) ↔
      startsWith correlationId "break-glass" = false := by
  constructor
  · intro charged
    rw [← isExempt_audit]
    exact charged.limited
  · intro plain
    constructor
    · rw [isExempt_audit]
      exact plain
    · have apart : diverge "/api/v1/audit/" "/api/v1/findings" = true := by decide
      exact bucketForPath_diverge apart _

/-- An outcome query is charged as if it submitted a finding. -/
theorem not_rightlyCharged_outcome (findingId : String) :
    ¬ RightlyCharged (.outcomeForFinding findingId) := by
  intro charged
  have longer : "/api/v1/findings".toList <+: "/api/v1/findings/".toList := by decide
  have not_shorter : ¬ "/api/v1/findings/".toList <+: "/api/v1/findings".toList := by decide
  have inside : startsWith (Route.outcomeForFinding findingId).path "/api/v1/findings" = true :=
    startsWith_inside longer _
  have elsewhere : (Route.outcomeForFinding findingId).path ≠ "/api/v1/findings" :=
    append_ne not_shorter _
  have bucket := charged.bucket
  rw [if_neg elsewhere, bucketForPath, inboundPaths, List.any_cons, inside, Bool.true_or,
    Bool.or_true, if_pos rfl] at bucket
  cases bucket

/-- A request is charged to the right bucket unless it asks for an outcome, or for the audit
events of a correlation id that begins with `break-glass`. -/
theorem rightlyCharged_iff (route : Route) :
    RightlyCharged route ↔
      (∀ findingId, route ≠ .outcomeForFinding findingId) ∧
        ∀ correlationId, route = .auditForCorrelation correlationId →
          startsWith correlationId "break-glass" = false := by
  cases route with
  | outcomeForFinding findingId =>
      apply iff_of_false (not_rightlyCharged_outcome findingId)
      exact fun plain => plain.1 findingId rfl
  | auditForCorrelation correlationId =>
      rw [rightlyCharged_audit_iff]
      constructor
      · intro plain
        refine ⟨by simp, ?_⟩
        intro other same
        cases same
        exact plain
      · intro plain
        exact plain.2 correlationId rfl
  | postFinding =>
      refine iff_of_true ⟨by decide, by decide⟩ (by simp)
  | _ =>
      refine iff_of_true ?_ (by simp)
      exact rightlyCharged_of_plain (by simp [Route.template, plainStarts])

/-- Both identifiers are safe. The one request is not charged at all, the other is charged to the
bucket for findings. -/
theorem rightlyCharged_fails_for_safe_ids :
    (Route.auditForCorrelation "break-glass-42").safe = true ∧
    isExempt (Route.auditForCorrelation "break-glass-42").path = true ∧
    ¬ RightlyCharged (.auditForCorrelation "break-glass-42") ∧
    (Route.outcomeForFinding "finding-1").safe = true ∧
    bucketForPath (Route.outcomeForFinding "finding-1").path = .inbound ∧
    ¬ RightlyCharged (.outcomeForFinding "finding-1") := by
  refine ⟨by decide, by decide, ?_, by decide, by decide, ?_⟩
  · intro charged
    have limited := charged.limited
    revert limited
    decide
  · intro charged
    have bucket := charged.bucket
    revert bucket
    decide

end CollectMind.Query
