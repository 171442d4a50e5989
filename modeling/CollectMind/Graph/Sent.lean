import CollectMind.Graph.Run

set_option autoImplicit false

/- What reaches the collector in a run of the graph: the first output that validates, and of
it only what the schema fixes. No stage compares an output with the session or with the
ownership store, so vehicle ownership and lineage are whatever the generator wrote. -/
namespace CollectMind.Graph

open Python Validator

variable {env : Env} {session : PolicyGenerationSession}

theorem firstValid_valid {retries attempts : Nat} {policy : Dict}
    (first : firstValid env retries attempts = some policy) :
    (validateNode env policy).2 = true := by
  fun_induction firstValid env retries attempts with
  | case1 => cases first
  | case2 retries attempts response output valid =>
      cases first
      exact valid
  | case3 => cases first
  | case4 attempts response output invalid retries ih => exact ih first

/-- The call that carries a policy, and the policy as the schema reads it. -/
structure Sent (env : Env) (session : PolicyGenerationSession) (call : DeployCall)
    (policy : Dict) (spec : CollectionPolicySpec) : Prop where
  first : firstValid env (retriesLeft session) 0 = some policy
  accepted : CollectionPolicySpec.modelValidate env.parsers policy = some spec
  payload : call.payload = policy
  vehicleScope : call.vehicleScope = spec.vehicleScope.val.map fun vehicle => .str vehicle.val

/-- The first output that validates is sent as it is. -/
theorem run_delivers {policy : Dict} {spec : CollectionPolicySpec}
    (first : firstValid env (retriesLeft session) 0 = some policy)
    (accepted : CollectionPolicySpec.modelValidate env.parsers policy = some spec) :
    ∃ call, (run env session).calls = [call] ∧ Sent env session call policy spec := by
  have scope := (modelValidate_accepts accepted).vehicleScope
  rw [run_calls, first, Option.bind_some, deployCall, scope]
  exact ⟨_, rfl, first, accepted, rfl, rfl⟩

/-- Nothing else is sent. -/
theorem run_sends {call : DeployCall} (member : call ∈ (run env session).calls) :
    ∃ policy spec, Sent env session call policy spec := by
  cases first : firstValid env (retriesLeft session) 0 with
  | none =>
      rw [run_calls, first] at member
      cases member
  | some policy =>
      obtain ⟨spec, accepted, _⟩ := validateNode_valid (firstValid_valid first)
      obtain ⟨sent, only, facts⟩ := run_delivers first accepted
      rw [only, List.mem_singleton] at member
      rw [member]
      exact ⟨policy, spec, facts⟩

/-- Every call of the run satisfies a condition if the first valid output does. -/
theorem run_calls_forall {condition : DeployCall → Prop} {onSpec : CollectionPolicySpec → Prop}
    (reads : ∀ call policy spec, Sent env session call policy spec → (condition call ↔ onSpec spec)) :
    (∀ call ∈ (run env session).calls, condition call) ↔
      ∀ policy spec, firstValid env (retriesLeft session) 0 = some policy →
        CollectionPolicySpec.modelValidate env.parsers policy = some spec → onSpec spec := by
  constructor
  · intro holds policy spec first accepted
    obtain ⟨call, only, sent⟩ := run_delivers first accepted
    apply (reads call policy spec sent).mp
    exact holds call (by rw [only]; exact List.mem_singleton.mpr rfl)
  · intro holds call member
    obtain ⟨policy, spec, sent⟩ := run_sends member
    exact (reads call policy spec sent).mpr (holds policy spec sent.first sent.accepted)

/-- Every vehicle that a call names is owned by the session's tenant. -/
def CallsOwned (owners : String → Option String) (env : Env) (session : PolicyGenerationSession) :
    Prop :=
  ∀ call ∈ (run env session).calls, ∀ vehicle ∈ call.vehicleScope,
    ∃ name, vehicle = .str name ∧ owners name = some session.tenantId

/-- A run keeps to the tenant's vehicles exactly if the generator does, in the first output
that validates. -/
theorem callsOwned_iff_output_owned (owners : String → Option String) (env : Env)
    (session : PolicyGenerationSession) :
    CallsOwned owners env session ↔
      ∀ policy spec, firstValid env (retriesLeft session) 0 = some policy →
        CollectionPolicySpec.modelValidate env.parsers policy = some spec →
        ∀ vehicle ∈ spec.vehicleScope.val, owners vehicle.val = some session.tenantId := by
  apply run_calls_forall
  intro call policy spec sent
  rw [sent.vehicleScope]
  constructor
  · intro owned vehicle member
    obtain ⟨name, same, owner⟩ := owned _ (List.mem_map_of_mem member)
    cases same
    exact owner
  · intro owned vehicle member
    obtain ⟨named, listed, rfl⟩ := List.mem_map.mp member
    exact ⟨named.val, rfl, owned named listed⟩

/-- A store with one vehicle, which belongs to another tenant. -/
def sampleOwners (vehicle : String) : Option String :=
  if vehicle = "vehicle-b" then some "tenant-b" else none

theorem sampleOwners_foreign (vehicle : String) : sampleOwners vehicle ≠ some "tenant-a" := by
  unfold sampleOwners
  split <;> simp

theorem callsOwned_fails_for_foreign_vehicle :
    ¬ CallsOwned sampleOwners
      (sampleEnv (samplePolicy "vehicle-b" "tenant-a" "finding-1" "session-1")) sampleSession := by
  intro owned
  have sent : (run (sampleEnv (samplePolicy "vehicle-b" "tenant-a" "finding-1" "session-1"))
      sampleSession).calls.any (fun call => call.vehicleScope.any fun _ => true) = true := by
    decide +kernel
  obtain ⟨call, member, names⟩ := List.any_eq_true.mp sent
  obtain ⟨vehicle, listed, _⟩ := List.any_eq_true.mp names
  obtain ⟨name, _, owner⟩ := owned call member vehicle listed
  exact sampleOwners_foreign name owner

/-- The vehicles of the session's finding. -/
def findingScope (session : PolicyGenerationSession) : List Json :=
  ((session.originatingFinding.get "vehicle_scope").getD (.arr [])).toList.getD []

/-- The lineage that a policy for this session has to carry. -/
structure Lineage (session : PolicyGenerationSession) (payload : Dict) : Prop where
  finding : ∃ fields : Dict, payload.get "originating_finding" = some (.obj fields) ∧
    fields.get "tenant_id" = some (.str session.tenantId) ∧
    ∃ findingId, fields.get "finding_id" = some findingId ∧
      session.originatingFinding.get "finding_id" = some findingId
  sessionId : payload.get "generated_from_session_id" = some (.str session.sessionId)
  vehicleScope : ∃ vehicles, payload.get "vehicle_scope" = some (.arr vehicles) ∧
    ∀ vehicle ∈ vehicles, vehicle ∈ findingScope session

/-- The same of a policy as the schema reads it. -/
structure SpecLineage (session : PolicyGenerationSession) (spec : CollectionPolicySpec) : Prop where
  tenantId : spec.originatingFinding.tenantId.val = session.tenantId
  findingId : session.originatingFinding.get "finding_id" =
    some (.str spec.originatingFinding.findingId.val)
  sessionId : spec.generatedFromSessionId.val = session.sessionId
  vehicleScope : ∀ vehicle ∈ spec.vehicleScope.val, Json.str vehicle.val ∈ findingScope session

theorem lineage_iff {policy : Dict} {spec : CollectionPolicySpec} (accepts : Accepts policy spec) :
    Lineage session policy ↔ SpecLineage session spec := by
  obtain ⟨fields, found, tenantId, findingId⟩ := accepts.finding
  constructor
  · rintro ⟨⟨other, same, tenant, named, finding, source⟩, generated, vehicles, scope, inside⟩
    rw [found] at same
    cases same
    rw [tenantId] at tenant
    rw [findingId] at finding
    rw [accepts.sessionId] at generated
    rw [accepts.vehicleScope] at scope
    cases finding
    cases scope
    refine ⟨Json.str.inj (Option.some.inj tenant), source, Json.str.inj (Option.some.inj generated), ?_⟩
    intro vehicle member
    exact inside _ (List.mem_map_of_mem member)
  · intro lineage
    refine ⟨⟨fields, found, by rw [tenantId, lineage.tenantId], _, findingId, lineage.findingId⟩,
      by rw [accepts.sessionId, lineage.sessionId], _, accepts.vehicleScope, ?_⟩
    intro vehicle member
    obtain ⟨named, listed, rfl⟩ := List.mem_map.mp member
    exact lineage.vehicleScope named listed

/-- Every policy sent to the collector carries the session's lineage. -/
def CallsLineage (env : Env) (session : PolicyGenerationSession) : Prop :=
  ∀ call ∈ (run env session).calls, Lineage session call.payload

/-- A run sends the session's lineage exactly if the generator wrote it, in the first output
that validates. -/
theorem callsLineage_iff_output_lineage (env : Env) (session : PolicyGenerationSession) :
    CallsLineage env session ↔
      ∀ policy spec, firstValid env (retriesLeft session) 0 = some policy →
        CollectionPolicySpec.modelValidate env.parsers policy = some spec →
        SpecLineage session spec := by
  apply run_calls_forall
  intro call policy spec sent
  rw [sent.payload]
  exact lineage_iff (modelValidate_accepts sent.accepted)

theorem callsLineage_fails_for_foreign_session :
    ¬ CallsLineage (sampleEnv (samplePolicy "vehicle-1" "tenant-b" "finding-9" "session-9"))
      sampleSession := by
  intro lineage
  have sent : (run (sampleEnv (samplePolicy "vehicle-1" "tenant-b" "finding-9" "session-9"))
      sampleSession).calls.any (fun call =>
        (call.payload.get "generated_from_session_id" >>= parseStr) == some "session-9") = true := by
    decide +kernel
  obtain ⟨call, member, foreign⟩ := List.any_eq_true.mp sent
  rw [(lineage call member).sessionId] at foreign
  exact absurd foreign (by decide)

end CollectMind.Graph
