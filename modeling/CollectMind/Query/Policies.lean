import Mathlib.Order.OrderDual
import CollectMind.Erasure.Dispatcher
import CollectMind.Query.AuditEvents

set_option autoImplicit false

/- The reads of registry/repository.py and the routes of query/api.py over them: a policy, its
versions, the active policy of a vehicle and the outcome of a finding. -/
namespace CollectMind.Query

open Python RowSecurity Registry Erasure

/-- `ORDER BY ... DESC`. -/
def newestFirst {ρ : Type} (time : ρ → Nat) (rows : List ρ) : List ρ :=
  BatchQueue.sort (fun row => OrderDual.toDual (time row)) rows

/-- The versions of a tenant's policy, the newest first. -/
def versionsOf (rows : Rows) (tenantId policyId : String) : List PolicyRow :=
  newestFirst PolicyRow.createdAt ((visible policyTable (tenantAccess tenantId) rows.policies).filter
    fun row => row.tenantId == tenantId && row.policyId == policyId)

/-- `PolicyRepository.get` without a version. -/
def getLatest (rows : Rows) (tenantId policyId : String) : Option PolicyRow :=
  (versionsOf rows tenantId policyId).head?

/-- `PolicyRepository.list_versions`. -/
def listVersions (rows : Rows) (tenantId policyId : String) (limit : Nat) : List PolicyRow :=
  (versionsOf rows tenantId policyId).take limit

/-- `originating_finding @> jsonb_build_object('finding_id', ...)`. -/
def namesFinding (findingId : String) : Json → Bool
  | .obj fields => (Dict.get fields "finding_id").any (Json.isStr findingId)
  | _ => false

/-- `PolicyRepository.find_by_finding`. -/
def findByFinding (rows : Rows) (tenantId findingId : String) : Option PolicyRow :=
  (newestFirst PolicyRow.createdAt ((visible policyTable (tenantAccess tenantId) rows.policies).filter
    fun row => row.tenantId == tenantId && namesFinding findingId row.originatingFinding)).head?

/-- The policies joined with their accepted deployments. -/
def activePolicies (rows : Rows) (tenantId vehicleId : String) : List PolicyRow :=
  (visible policyTable (tenantAccess tenantId) rows.policies).flatMap fun policy =>
    ((visible deploymentTable (tenantAccess tenantId) rows.deployments).filter fun deployment =>
      deployment.policyKey == policy.key && policy.tenantId == tenantId &&
        scopeContains vehicleId policy.vehicleScope && deployment.status == "accepted").map
      fun _ => policy

/-- `PolicyRepository.find_active_for_vehicle`. -/
def findActiveForVehicle (rows : Rows) (tenantId vehicleId : String) : Option PolicyRow :=
  (newestFirst PolicyRow.createdAt (activePolicies rows tenantId vehicleId)).head?

/-- `OutcomeRepository.get_by_finding`. -/
def getByFinding (outcomes : List OutcomeRow) (tenantId findingId : String) : Option OutcomeRow :=
  (newestFirst OutcomeRow.evaluatedAt ((visible outcomeTable (tenantAccess tenantId) outcomes).filter
    fun row => row.tenantId == tenantId && namesFinding findingId row.originatingFinding)).head?

/-- `_row_to_policy`. -/
def rowToPolicy (isoformat : Nat → String) (row : PolicyRow) : Dict :=
  [("policy_id", .str row.policyId), ("version", .str row.version), ("signals", row.signalSpec),
    ("trigger_conditions", row.triggerConditions),
    ("collection_window_hours", .int row.collectionWindowHoursLogical),
    ("hypothesis", .str row.hypothesisStatement), ("vehicle_scope", row.vehicleScope),
    ("data_governance_flags", row.dataGovernanceFlags),
    ("confidence_threshold", .float row.confidenceThreshold),
    ("generated_from_session_id", .str row.generatedFromSessionId),
    ("originating_finding", row.originatingFinding),
    ("prompt_template_version", .str row.promptTemplateVersion), ("slm_repo", .str row.slmRepo),
    ("slm_revision_sha", .str row.slmRevisionSha), ("slm_runtime", .str row.slmRuntime),
    ("slm_runtime_version", .str row.slmRuntimeVersion),
    ("slm_quantization", .str row.slmQuantization), ("slm_decoding_seed", .int row.slmDecodingSeed),
    ("created_at", .str (isoformat row.createdAt))]

/-- `_row_to_outcome`. -/
def rowToOutcome (isoformat : Nat → String) (row : OutcomeRow) : Dict :=
  [("outcome_id", .str row.outcomeId), ("originating_finding", row.originatingFinding),
    ("policy_ref", .obj [("tenant_id", .str row.tenantId), ("policy_id", .str row.policyId),
      ("version", .str row.version)]),
    ("hypothesis_state", .str row.hypothesisState), ("evaluated_at", .str (isoformat row.evaluatedAt)),
    ("signals_collected_count", .int row.signalsCollectedCount),
    ("data_quality_score", .float (.finite row.dataQualityScore)),
    ("evidence_summary", .obj row.evidenceSummary)]

/-- The answer of a route: its body, or the `NotFound` of a resource. -/
inductive Reply where
  | body (content : Json)
  | notFound (resource identifier : String)

/-- A route that looks one thing up under an id of its path. -/
def lookedUp (resource identifier : String) (found : Option Dict) : Reply :=
  if !safeId identifier then .notFound resource identifier
  else
    match found with
    | none => .notFound resource identifier
    | some content => .body (.obj content)

section Routes

variable (isoformat : Nat → String) (rows : Rows) (outcomes : List OutcomeRow) (tenantId : String)

/-- `get_policy`. -/
def getPolicyRoute (policyId : String) : Reply :=
  lookedUp "policy" policyId ((getLatest rows tenantId policyId).map (rowToPolicy isoformat))

/-- `list_policy_versions`. -/
def listPolicyVersions (policyId : String) (limit : Nat) : Reply :=
  if !safeId policyId then .notFound "policy" policyId
  else
    match listVersions rows tenantId policyId limit with
    | [] => .notFound "policy" policyId
    | found => .body (.arr (found.map fun row => .obj (rowToPolicy isoformat row)))

/-- `active_policy_for_group`: the group's id is looked up as a vehicle's. -/
def activePolicyForGroup (groupId : String) : Reply :=
  lookedUp "active_policy" groupId
    ((findActiveForVehicle rows tenantId groupId).map (rowToPolicy isoformat))

/-- `outcome_for_finding`. -/
def outcomeForFinding (findingId : String) : Reply :=
  lookedUp "outcome" findingId
    ((getByFinding outcomes tenantId findingId).map (rowToOutcome isoformat))

/-- What the routes make of one stored version of a policy: the version that `get_policy` returns
is no older, and `list_policy_versions` has it among the others if its limit leaves none out. -/
structure Served (policy : PolicyRow) : Prop where
  latest : ∃ latest, getPolicyRoute isoformat rows policy.tenantId policy.policyId =
    .body (.obj (rowToPolicy isoformat latest)) ∧ policy.createdAt ≤ latest.createdAt
  listed : ∀ limit, (versionsOf rows policy.tenantId policy.policyId).length ≤ limit →
    ∃ items, listPolicyVersions isoformat rows policy.tenantId policy.policyId limit =
      .body (.arr items) ∧ .obj (rowToPolicy isoformat policy) ∈ items

end Routes

section Order

variable {ρ : Type} {time : ρ → Nat} {listed : List ρ} {row : ρ}

theorem mem_newestFirst : row ∈ newestFirst time listed ↔ row ∈ listed :=
  (BatchQueue.sort_perm _ listed).mem_iff

/-- The first row is one that none is newer than. -/
theorem newestFirst_head (first : (newestFirst time listed).head? = some row) :
    row ∈ listed ∧ ∀ other ∈ listed, time other ≤ time row := by
  obtain ⟨rest, sorted⟩ := List.head?_eq_some_iff.mp first
  have ordered := BatchQueue.sort_sorted (fun row => OrderDual.toDual (time row)) listed
  have arranged : BatchQueue.sort (fun row => OrderDual.toDual (time row)) listed = row :: rest :=
    sorted
  rw [arranged, List.pairwise_cons] at ordered
  constructor
  · rw [← mem_newestFirst, sorted]
    exact List.mem_cons_self
  · intro other member
    rw [← @mem_newestFirst ρ time, sorted] at member
    rcases List.mem_cons.mp member with rfl | later
    · exact Nat.le_refl _
    · exact OrderDual.toDual_le_toDual.mp (ordered.1 other later)

theorem newestFirst_head_exists (member : row ∈ listed) :
    ∃ first, (newestFirst time listed).head? = some first ∧ time row ≤ time first := by
  cases sorted : newestFirst time listed with
  | nil =>
      rw [← @mem_newestFirst ρ time, sorted] at member
      cases member
  | cons first rest =>
      have head : (newestFirst time listed).head? = some first := by rw [sorted]; rfl
      exact ⟨first, rfl, (newestFirst_head head).2 row member⟩

end Order

section Lookups

variable {rows : Rows} {outcomes : List OutcomeRow} {tenantId vehicleId findingId : String}
  {policy : PolicyRow} {outcome : OutcomeRow}

theorem mem_activePolicies : policy ∈ activePolicies rows tenantId vehicleId ↔
    policy ∈ rows.policies ∧ tenantId ≠ "" ∧ policy.tenantId = tenantId ∧
      scopeContains vehicleId policy.vehicleScope = true ∧
      ∃ deployment ∈ rows.deployments, deployment.policyKey = policy.key ∧
        deployment.status = "accepted" := by
  have policies : TableName.tenantScoped .collectionPolicies = true := by decide
  have deployments : TableName.tenantScoped .deploymentTargets = true := by decide
  simp only [activePolicies, List.mem_flatMap, List.mem_map, List.mem_filter, Bool.and_eq_true,
    beq_iff_eq, policyTable, deploymentTable, mem_visible_tenantAccess _ policies,
    mem_visible_tenantAccess _ deployments, Option.some.injEq]
  constructor
  · rintro ⟨_, ⟨stored, named, own⟩, deployment, ⟨⟨member, _⟩, ⟨⟨joined, _⟩, covers⟩, accepted⟩, rfl⟩
    exact ⟨stored, named, own, covers, deployment, member, joined, accepted⟩
  · rintro ⟨stored, named, own, covers, deployment, member, joined, accepted⟩
    have tenant : deployment.tenantId = tenantId := (congrArg Prod.fst joined).trans own
    exact ⟨policy, ⟨stored, named, own⟩, deployment,
      ⟨⟨member, named, tenant⟩, ⟨⟨joined, own⟩, covers⟩, accepted⟩, rfl⟩

/-- The row returned is the tenant's own and names the finding. -/
theorem getByFinding_some (found : getByFinding outcomes tenantId findingId = some outcome) :
    outcome ∈ outcomes ∧ tenantId ≠ "" ∧ outcome.tenantId = tenantId ∧
      namesFinding findingId outcome.originatingFinding = true := by
  have listed := (newestFirst_head found).1
  rw [List.mem_filter, outcomeTable, mem_visible_tenantAccess _ (by decide), Bool.and_eq_true,
    beq_iff_eq] at listed
  exact ⟨listed.1.1, listed.1.2.1, listed.2⟩

theorem findByFinding_isSome (member : policy ∈ rows.policies) (named : policy.tenantId ≠ "")
    (names : namesFinding findingId policy.originatingFinding = true) :
    ∃ found, findByFinding rows policy.tenantId findingId = some found ∧
      policy.createdAt ≤ found.createdAt := by
  apply newestFirst_head_exists
  rw [List.mem_filter, policyTable, mem_visible_tenantAccess _ (by decide), Bool.and_eq_true,
    beq_iff_eq]
  exact ⟨⟨member, named, rfl⟩, rfl, names⟩

/-- A lookup by key finds the first row with the key. -/
theorem getPolicy_first {before later : List PolicyRow}
    (stored : rows.policies = before ++ policy :: later) (named : policy.tenantId ≠ "")
    (fresh : ∀ row ∈ before, row.key ≠ policy.key) :
    getPolicy rows policy.tenantId policy.policyId policy.version = some policy := by
  have seen : policy ∈ visible policyTable (tenantAccess policy.tenantId) rows.policies := by
    rw [policyTable, mem_visible_tenantAccess _ (by decide), stored]
    exact ⟨List.mem_append_right _ List.mem_cons_self, named, rfl⟩
  rw [getPolicy, stored, visible, List.filter_append, List.find?_append]
  rw [visible, List.mem_filter] at seen
  have earlier : (before.filter fun row => !(tenantAccess policy.tenantId).enforced ||
      admitsUsing policyTable.policies .select (tenantAccess policy.tenantId).context row).find?
      (fun row => row.key == (policy.tenantId, policy.policyId, policy.version)) = none := by
    rw [List.find?_eq_none]
    intro row member same
    exact fresh row (List.mem_of_mem_filter member) (beq_iff_eq.mp same)
  rw [earlier, Option.none_or, List.filter_cons, if_pos seen.2]
  exact List.find?_cons_of_pos (beq_iff_eq.mpr rfl)

theorem lookedUp_body_iff {resource identifier : String} {found : Option Dict} {content : Json} :
    lookedUp resource identifier found = .body content ↔
      safeId identifier = true ∧ ∃ fields, found = some fields ∧ content = .obj fields := by
  unfold lookedUp
  cases safeId identifier with
  | false => simp
  | true => cases found <;> simp [eq_comm]

end Lookups

end CollectMind.Query
