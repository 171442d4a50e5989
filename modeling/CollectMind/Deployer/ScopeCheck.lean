import CollectMind.Graph.Run
import CollectMind.Registry.Audit

set_option autoImplicit false

/- `deploy_with_tenant_scope_check` of deployer/node.py with `validate_tenant_scope` of
deployer/tenant_scope_check.py. Three tenants meet here: the one that asks, the one the
policy declares, and the owner of each vehicle. -/
namespace CollectMind.Deployer

open Python Registry CollectMind.Graph

/-- The parties around the check: the text of a value that is no string, the ownership
lookup, the registered tenants, the collector, and the id and time of an audit row. -/
structure Gate where
  repr : Json → String
  owners : String → Option String
  tenants : List String
  deploy : DeployCall → Except String DeployResponse
  eventId : String
  now : Nat

structure TenantVehicleMismatch where
  policyId : String
  targetVehicleId : String
  policyDeclaredTenantId : String
  vehicleOwningTenantId : Option String

inductive Raised where
  | mismatch (mismatch : TenantVehicleMismatch)
  | notIterable
  | audit (error : AuditError)
  | collector (message : String)

section Source

variable (gate : Gate) (policy : Dict)

/-- `str(policy.get(key, default))`. -/
def textOf (key default : String) : String :=
  ((policy.get key).getD (.str default)).toStr gate.repr

def declaredTenant : String := textOf gate policy "tenant_id" ""

/-- `list(policy.get("vehicle_scope") or [])`; `none` if it raises. -/
def vehicleScope : Option (List Json) := (orEmpty (policy.get "vehicle_scope")).toList

/-- The vehicles as the ownership lookup sees them. -/
def vehicleNames : List String :=
  ((vehicleScope policy).getD []).map fun vehicle => vehicle.toStr gate.repr

/-- The first vehicle, in scope order, that a tenant does not own. -/
def firstNotOwned (owners : String → Option String) (tenantId : String) (names : List String) :
    Option String :=
  names.find? fun vehicle => decide (owners vehicle ≠ some tenantId)

/-- The mismatch that the check raises for a vehicle. -/
def mismatchOf (vehicle : String) : TenantVehicleMismatch where
  policyId := textOf gate policy "policy_id" ""
  targetVehicleId := vehicle
  policyDeclaredTenantId := declaredTenant gate policy
  vehicleOwningTenantId := gate.owners vehicle

def validateTenantScope : Except Raised Unit :=
  match vehicleScope policy with
  | none => .error .notIterable
  | some _ =>
    match firstNotOwned gate.owners (declaredTenant gate policy) (vehicleNames gate policy) with
    | some vehicle => .error (.mismatch (mismatchOf gate policy vehicle))
    | none => .ok ()

/-- An owner as JSON holds it. -/
def ownerJson (owner : Option String) : Json := owner.elim .null .str

def rejectionEvent (tenantId correlationId : String) (mismatch : TenantVehicleMismatch) :
    AuditEvent where
  tenantId := tenantId
  kind := .deploymentRejected
  correlationId := correlationId
  principalSubject := tenantId
  originatingFinding := some
    [("policy_ref", .obj [("policy_id", .str (textOf gate policy "policy_id" "")),
        ("version", .str (textOf gate policy "version" "1.0.0"))]),
      ("target_vehicle_id", .str mismatch.targetVehicleId),
      ("policy_declared_tenant_id", .str mismatch.policyDeclaredTenantId),
      ("vehicle_owning_tenant_id", ownerJson mismatch.vehicleOwningTenantId)]

def outboundCall (tenantId : String) : DeployCall where
  tenantId := tenantId
  policyId := .str (textOf gate policy "policy_id" "")
  version := .str (textOf gate policy "version" "1.0.0")
  vehicleScope := (vehicleScope policy).getD []
  payload := policy
  payloadSignature := ""
  signatureKeyId := ""

/-- The audit table after the wrapper, the collector calls it made, and how it ended. -/
structure Outcome where
  rows : List AuditRow
  calls : List DeployCall
  result : Except Raised DeployResponse

def deployWithTenantScopeCheck (rows : List AuditRow) (tenantId correlationId : String) : Outcome :=
  match validateTenantScope gate policy with
  | .error (.mismatch mismatch) =>
    match write gate.tenants rows (rejectionEvent gate policy tenantId correlationId mismatch)
        gate.eventId gate.now with
    | .ok (next, _) => ⟨next, [], .error (.mismatch mismatch)⟩
    | .error error => ⟨rows, [], .error (.audit error)⟩
  | .error raised => ⟨rows, [], .error raised⟩
  | .ok () =>
    let call := outboundCall gate policy tenantId
    ⟨rows, [call], (gate.deploy call).mapError .collector⟩

end Source

section FirstNotOwned

variable {owners : String → Option String} {tenantId : String} {names : List String}

theorem firstNotOwned_eq_none :
    firstNotOwned owners tenantId names = none ↔ ∀ vehicle ∈ names, owners vehicle = some tenantId := by
  rw [firstNotOwned, List.find?_eq_none]
  simp only [decide_eq_true_eq, not_not]

theorem firstNotOwned_not_owned {vehicle : String}
    (found : firstNotOwned owners tenantId names = some vehicle) :
    owners vehicle ≠ some tenantId := by
  have foreign := List.find?_some found
  exact of_decide_eq_true foreign

theorem firstNotOwned_head {first : String} (rest : List String)
    (foreign : owners first ≠ some tenantId) :
    firstNotOwned owners tenantId (first :: rest) = some first :=
  List.find?_cons_of_pos (decide_eq_true foreign)

end FirstNotOwned

section Outcomes

variable {gate : Gate} {policy : Dict} {rows : List AuditRow} {tenantId correlationId : String}

/-- No earlier rejection stands under the correlation id. -/
def Unreported (rows : List AuditRow) (correlationId : String) : Prop :=
  ∀ row ∈ rows, row.correlationId = correlationId → row.kind ≠ .deploymentRejected

/-- The row rejects this vehicle and names its owner. -/
def Names (row : AuditRow) (correlationId vehicle : String) (owner : Option String) : Prop :=
  row.kind = .deploymentRejected ∧ row.correlationId = correlationId ∧
    ∃ finding : Dict, row.originatingFinding = some finding ∧
      finding.get "target_vehicle_id" = some (.str vehicle) ∧
      finding.get "vehicle_owning_tenant_id" = some (ownerJson owner)

/-- What an audit write needs of the world around it. -/
structure Healthy (gate : Gate) (rows : List AuditRow) (tenantId correlationId : String) : Prop where
  tenant : tenantId ≠ ""
  known : tenantId ∈ gate.tenants
  correlation : correlationId ≠ ""
  event : gate.eventId ≠ ""
  unique : ∀ row ∈ rows, row.eventId ≠ gate.eventId

/-- The row of a rejection. -/
def rejectionRow (gate : Gate) (policy : Dict) (tenantId correlationId vehicle : String) : AuditRow :=
  (rejectionEvent gate policy tenantId correlationId (mismatchOf gate policy vehicle)).row
    gate.eventId gate.now

theorem rejectionRow_names (vehicle : String) :
    Names (rejectionRow gate policy tenantId correlationId vehicle) correlationId vehicle
      (gate.owners vehicle) :=
  ⟨rfl, rfl, _, rfl, rfl, rfl⟩

theorem outcome_unlisted (unlisted : vehicleScope policy = none) :
    (deployWithTenantScopeCheck gate policy rows tenantId correlationId).calls = [] := by
  simp only [deployWithTenantScopeCheck, validateTenantScope, unlisted]

theorem outcome_passes (listed : vehicleScope policy ≠ none)
    (passes : firstNotOwned gate.owners (declaredTenant gate policy) (vehicleNames gate policy) = none) :
    (deployWithTenantScopeCheck gate policy rows tenantId correlationId).calls.length = 1 := by
  obtain ⟨scope, iterable⟩ := Option.ne_none_iff_exists'.mp listed
  simp only [deployWithTenantScopeCheck, validateTenantScope, iterable, passes, List.length_singleton]

section Rejected

variable {vehicle : String} (listed : vehicleScope policy ≠ none)
  (found : firstNotOwned gate.owners (declaredTenant gate policy) (vehicleNames gate policy) =
    some vehicle)
include listed found

theorem outcome_rejects :
    deployWithTenantScopeCheck gate policy rows tenantId correlationId =
      match write gate.tenants rows
        (rejectionEvent gate policy tenantId correlationId (mismatchOf gate policy vehicle))
        gate.eventId gate.now with
      | .ok (next, _) => ⟨next, [], .error (.mismatch (mismatchOf gate policy vehicle))⟩
      | .error error => ⟨rows, [], .error (.audit error)⟩ := by
  obtain ⟨scope, iterable⟩ := Option.ne_none_iff_exists'.mp listed
  simp only [deployWithTenantScopeCheck, validateTenantScope, iterable, found]

theorem outcome_rejects_calls :
    (deployWithTenantScopeCheck gate policy rows tenantId correlationId).calls = [] := by
  rw [outcome_rejects listed found]
  split <;> rfl

/-- With the key free, the rejection is stored and the mismatch raised. -/
theorem outcome_reported (healthy : Healthy gate rows tenantId correlationId)
    (unreported : Unreported rows correlationId) :
    deployWithTenantScopeCheck gate policy rows tenantId correlationId =
      ⟨rows ++ [rejectionRow gate policy tenantId correlationId vehicle], [],
        .error (.mismatch (mismatchOf gate policy vehicle))⟩ := by
  have free : rows.any (sameEvent (rejectionRow gate policy tenantId correlationId vehicle)) =
      false := by
    rw [List.any_eq_false]
    intro row member clash
    obtain ⟨same, kind⟩ := sameEvent_iff.mp clash
    exact unreported row member same kind
  have checked : (rejectionRow gate policy tenantId correlationId vehicle).checked = true := by
    simp [AuditRow.checked, rejectionRow, AuditEvent.row, rejectionEvent, healthy.tenant,
      healthy.correlation, healthy.event]
  have known : (rejectionEvent gate policy tenantId correlationId
      (mismatchOf gate policy vehicle)).tenantId ∈ gate.tenants := healthy.known
  rw [outcome_rejects listed found, write_fresh rfl checked healthy.tenant known healthy.unique free]
  rfl

/-- A table that the wrapper has extended by one row that names a vehicle shows which vehicle
the check stopped at, and that no rejection stood there before. -/
theorem reported_of_names {row : AuditRow} {named : String} {owner : Option String}
    (extended : (deployWithTenantScopeCheck gate policy rows tenantId correlationId).rows =
      rows ++ [row])
    (names : Names row correlationId named owner) :
    vehicle = named ∧ Unreported rows correlationId := by
  rw [outcome_rejects listed found] at extended
  split at extended
  · rename_i next stored outcome
    obtain ⟨_, _, ⟨free, appended, _⟩ | ⟨existing, _, _, _, _, unchanged, _⟩⟩ := write_ok outcome
    · dsimp only at extended
      rw [appended, List.append_cancel_left_eq, List.cons.injEq] at extended
      obtain ⟨_, _, finding, written, target, _⟩ := names
      rw [← extended.1] at written
      cases written
      refine ⟨Json.str.inj (Option.some.inj target), ?_⟩
      intro other member same kind
      exact List.any_eq_false.mp free other member (sameEvent_iff.mpr ⟨same, kind⟩)
    · dsimp only at extended
      rw [unchanged] at extended
      simp at extended
  · simp at extended

end Rejected

end Outcomes

/-- The wrapper is exact: it deploys once if the asking tenant owns every vehicle, and else
calls nobody, leaves one row that names the first vehicle it does not own, and raises. -/
structure Exact (gate : Gate) (policy : Dict) (rows : List AuditRow)
    (tenantId correlationId : String) : Prop where
  deploys : (∀ vehicle ∈ vehicleNames gate policy, gate.owners vehicle = some tenantId) →
    (deployWithTenantScopeCheck gate policy rows tenantId correlationId).calls.length = 1
  rejects : ∀ vehicle,
    firstNotOwned gate.owners tenantId (vehicleNames gate policy) = some vehicle →
    (deployWithTenantScopeCheck gate policy rows tenantId correlationId).calls = [] ∧
    (∃ row, (deployWithTenantScopeCheck gate policy rows tenantId correlationId).rows =
        rows ++ [row] ∧ Names row correlationId vehicle (gate.owners vehicle)) ∧
    ∃ mismatch, (deployWithTenantScopeCheck gate policy rows tenantId correlationId).result =
      .error (.mismatch mismatch)

/-- The policies on which the check, made for the declared tenant, answers for the asking
one: those that declare it, and those whose first vehicle belongs to neither. -/
structure Answers (gate : Gate) (policy : Dict) (rows : List AuditRow)
    (tenantId correlationId : String) : Prop where
  listed : vehicleScope policy ≠ none
  declared : ∀ first rest, vehicleNames gate policy = first :: rest →
    declaredTenant gate policy = tenantId ∨
      (gate.owners first ≠ some tenantId ∧
        gate.owners first ≠ some (declaredTenant gate policy))
  reported : (∀ vehicle ∈ vehicleNames gate policy, gate.owners vehicle = some tenantId) ∨
    Unreported rows correlationId

section Exactness

variable {gate : Gate} {policy : Dict} {rows : List AuditRow} {tenantId correlationId : String}

/-- An exact wrapper that has to reject a vehicle has stopped at that vehicle. -/
theorem Exact.stops (holds : Exact gate policy rows tenantId correlationId)
    (listed : vehicleScope policy ≠ none) {vehicle : String}
    (due : firstNotOwned gate.owners tenantId (vehicleNames gate policy) = some vehicle) :
    firstNotOwned gate.owners (declaredTenant gate policy) (vehicleNames gate policy) =
      some vehicle ∧ Unreported rows correlationId := by
  obtain ⟨silent, ⟨row, extended, names⟩, _⟩ := holds.rejects vehicle due
  cases found : firstNotOwned gate.owners (declaredTenant gate policy) (vehicleNames gate policy) with
  | none =>
      have called : (deployWithTenantScopeCheck gate policy rows tenantId
        correlationId).calls.length = 1 := outcome_passes listed found
      rw [silent] at called
      cases called
  | some stopped =>
      obtain ⟨same, unreported⟩ := reported_of_names listed found extended names
      exact ⟨by rw [same], unreported⟩

theorem Exact.listed (holds : Exact gate policy rows tenantId correlationId) :
    vehicleScope policy ≠ none := by
  intro unlisted
  have called := holds.deploys (by simp [vehicleNames, unlisted])
  rw [outcome_unlisted unlisted] at called
  cases called

theorem Exact.answers (holds : Exact gate policy rows tenantId correlationId) :
    Answers gate policy rows tenantId correlationId := by
  refine ⟨holds.listed, ?_, ?_⟩
  · intro first rest scope
    by_cases same : declaredTenant gate policy = tenantId
    · exact Or.inl same
    · right
      by_cases owned : gate.owners first = some tenantId
      · -- The check stops at a vehicle that the asking tenant owns.
        have foreign : gate.owners first ≠ some (declaredTenant gate policy) := by
          rw [owned]
          exact fun equal => same (Option.some.inj equal).symm
        have stopped := firstNotOwned_head rest foreign
        rw [← scope] at stopped
        cases due : firstNotOwned gate.owners tenantId (vehicleNames gate policy) with
        | none =>
            have called := holds.deploys (firstNotOwned_eq_none.mp due)
            rw [outcome_rejects_calls holds.listed stopped] at called
            cases called
        | some vehicle =>
            have elsewhere := (holds.stops holds.listed due).1
            rw [stopped] at elsewhere
            cases elsewhere
            exact absurd owned (firstNotOwned_not_owned due)
      · -- The first vehicle has to be rejected, so the check must not pass it.
        have due := firstNotOwned_head rest owned
        rw [← scope] at due
        exact ⟨owned, firstNotOwned_not_owned (holds.stops holds.listed due).1⟩
  · cases due : firstNotOwned gate.owners tenantId (vehicleNames gate policy) with
    | none => exact Or.inl (firstNotOwned_eq_none.mp due)
    | some vehicle => exact Or.inr (holds.stops holds.listed due).2

/-- On such a policy the check stops where the asking tenant's first foreign vehicle is. -/
theorem Answers.same (answers : Answers gate policy rows tenantId correlationId) :
    firstNotOwned gate.owners (declaredTenant gate policy) (vehicleNames gate policy) =
      firstNotOwned gate.owners tenantId (vehicleNames gate policy) := by
  cases scope : vehicleNames gate policy with
  | nil => rfl
  | cons first rest =>
      rcases answers.declared first rest scope with same | ⟨foreign, undeclared⟩
      · rw [same]
      · rw [firstNotOwned_head rest foreign, firstNotOwned_head rest undeclared]

theorem Answers.exact (answers : Answers gate policy rows tenantId correlationId)
    (healthy : Healthy gate rows tenantId correlationId) :
    Exact gate policy rows tenantId correlationId := by
  constructor
  · intro owned
    have passes := firstNotOwned_eq_none.mpr owned
    rw [← answers.same] at passes
    exact outcome_passes answers.listed passes
  · intro vehicle due
    have foreign : ¬ ∀ vehicle ∈ vehicleNames gate policy, gate.owners vehicle = some tenantId := by
      rw [← firstNotOwned_eq_none, due]
      simp
    have unreported := answers.reported.resolve_left foreign
    rw [← answers.same] at due
    rw [outcome_reported answers.listed due healthy unreported]
    exact ⟨rfl, ⟨_, rfl, rejectionRow_names vehicle⟩, _, rfl⟩

end Exactness

/-- The schema of a generated policy has no field for a tenant, so an accepted policy declares
the empty one. -/
theorem declaredTenant_of_accepts {gate : Gate} {policy : Dict}
    {spec : Validator.CollectionPolicySpec} (accepts : Validator.Accepts policy spec) :
    declaredTenant gate policy = "" := by
  rw [declaredTenant, textOf, accepts.closed "tenant_id" (by decide)]
  rfl

/-- So the check stops an accepted policy at its first vehicle if that has any owner. -/
theorem accepted_not_deployed {gate : Gate} {policy : Dict} {rows : List AuditRow}
    {spec : Validator.CollectionPolicySpec} {tenantId correlationId : String}
    (accepts : Validator.Accepts policy spec) (tenant : tenantId ≠ "")
    (owned : ∀ vehicle ∈ vehicleNames gate policy, gate.owners vehicle = some tenantId) :
    (deployWithTenantScopeCheck gate policy rows tenantId correlationId).calls = [] := by
  obtain ⟨vehicle, others, vehicles⟩ := List.exists_cons_of_ne_nil spec.vehicleScope.property
  have listed : vehicleScope policy =
      some (.str vehicle.val :: others.map fun vehicle => .str vehicle.val) := by
    rw [vehicleScope, accepts.vehicleScope, vehicles]
    rfl
  obtain ⟨first, rest, scope⟩ : ∃ first rest, vehicleNames gate policy = first :: rest := by
    rw [vehicleNames, listed]
    exact ⟨_, _, rfl⟩
  have foreign : gate.owners first ≠ some (declaredTenant gate policy) := by
    rw [declaredTenant_of_accepts accepts, owned first (by rw [scope]; simp)]
    exact fun empty => tenant (Option.some.inj empty)
  have stopped := firstNotOwned_head rest foreign
  rw [← scope] at stopped
  exact outcome_rejects_calls (by rw [listed]; simp) stopped

end CollectMind.Deployer
