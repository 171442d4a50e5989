import Mathlib.Data.List.Sort
import CollectMind.Ingest.Finding
import CollectMind.Library.BatchQueue
import CollectMind.Library.Decimal
import CollectMind.Registry.Audit

set_option autoImplicit false

/- registry/repository.py over the tables of migrations 005, 006 and 007: what the graph runner
writes, and what the feedback worker reads and writes. -/
namespace CollectMind.Registry

open Python RowSecurity Ingest

/-- How `int` and `float` read a string, and the texts of what they and the driver raise: on a
value that is no number, and on one that is not text. -/
structure Converters where
  intOfStr : String → Option Int
  floatOfStr : String → Option PyFloat
  notInt : Json → String
  notFloat : Json → String
  notText : Json → String

/-- `int(value)`. -/
def Converters.toInt (converters : Converters) (value : Json) : Except String Int :=
  match value.toInt converters.intOfStr with
  | some number => .ok number
  | none => .error (converters.notInt value)

/-- `float(value)`. -/
def Converters.toFloat (converters : Converters) (value : Json) : Except String PyFloat :=
  match value.toFloat converters.floatOfStr with
  | some number => .ok number
  | none => .error (converters.notFloat value)

/-- A value bound to a `TEXT` column. -/
def Converters.text (converters : Converters) : Json → Except String String
  | .str value => .ok value
  | value => .error (converters.notText value)

/-- The `audit_meta` of a policy's insert. -/
structure AuditMeta where
  promptTemplateVersion : String
  slmRepo : Json
  slmRevisionSha : Json
  slmRuntime : Json
  slmRuntimeVersion : Json
  slmQuantization : Json
  slmDecodingSeed : Int
  payloadSignature : String
  signatureKeyId : String

structure PolicyRow where
  tenantId : String
  policyId : String
  version : String
  signalSpec : Json
  triggerConditions : Json
  collectionWindowHoursLogical : Int
  vehicleScope : Json
  hypothesisStatement : String
  dataGovernanceFlags : Json
  confidenceThreshold : PyFloat
  generatedFromSessionId : String
  originatingFinding : Json
  promptTemplateVersion : String
  slmRepo : String
  slmRevisionSha : String
  slmRuntime : String
  slmRuntimeVersion : String
  slmQuantization : String
  slmDecodingSeed : Int
  payloadSignature : String
  signatureKeyId : String
  createdAt : Nat

/-- The row that `PolicyRepository.insert` sends. -/
def policyRow (converters : Converters) (tenantId : String) (policy : Dict) (auditMeta : AuditMeta)
    (now : Nat) : Except String PolicyRow := do
  let policyId ← policy.item "policy_id"
  let version ← policy.item "version"
  let signals ← policy.item "signals"
  let window ← policy.item "collection_window_hours" >>= converters.toInt
  let vehicleScope ← policy.item "vehicle_scope"
  let flags ← policy.item "data_governance_flags"
  let threshold ← policy.item "confidence_threshold" >>= converters.toFloat
  let sessionId ← policy.item "generated_from_session_id"
  let finding ← policy.item "originating_finding"
  let policyId ← converters.text policyId
  let version ← converters.text version
  let hypothesis ← converters.text ((policy.get "hypothesis").getD (.str ""))
  let sessionId ← converters.text sessionId
  let slmRepo ← converters.text auditMeta.slmRepo
  let slmRevisionSha ← converters.text auditMeta.slmRevisionSha
  let slmRuntime ← converters.text auditMeta.slmRuntime
  let slmRuntimeVersion ← converters.text auditMeta.slmRuntimeVersion
  let slmQuantization ← converters.text auditMeta.slmQuantization
  return {
    tenantId := tenantId
    policyId := policyId
    version := version
    signalSpec := signals
    triggerConditions := (policy.get "trigger_conditions").getD (.arr [])
    collectionWindowHoursLogical := window
    vehicleScope := vehicleScope
    hypothesisStatement := hypothesis
    dataGovernanceFlags := flags
    confidenceThreshold := threshold
    generatedFromSessionId := sessionId
    originatingFinding := finding
    promptTemplateVersion := auditMeta.promptTemplateVersion
    slmRepo := slmRepo
    slmRevisionSha := slmRevisionSha
    slmRuntime := slmRuntime
    slmRuntimeVersion := slmRuntimeVersion
    slmQuantization := slmQuantization
    slmDecodingSeed := auditMeta.slmDecodingSeed
    payloadSignature := auditMeta.payloadSignature
    signatureKeyId := auditMeta.signatureKeyId
    createdAt := now }

/-- `jsonb_array_length(value) > 0`; it raises on a value that is no array. -/
def nonEmptyArray : Json → Bool
  | .arr items => !items.isEmpty
  | _ => false

def isArray : Json → Bool
  | .arr _ => true
  | _ => false

def unitInterval : PyFloat → Bool
  | .finite value => decide (0 ≤ value) && decide (value ≤ 1)
  | _ => false

def postgresSemver (text : String) : Bool := semver Char.isDigit text.toList

/-- The `CHECK` constraints of migration 005. -/
def PolicyRow.checked (row : PolicyRow) : Bool :=
  row.policyId != "" && postgresSemver row.version && nonEmptyArray row.signalSpec &&
    isArray row.triggerConditions && decide (1 ≤ row.collectionWindowHoursLogical) &&
    decide (row.collectionWindowHoursLogical ≤ 168) && nonEmptyArray row.vehicleScope &&
    unitInterval row.confidenceThreshold && row.generatedFromSessionId != "" &&
    postgresSemver row.promptTemplateVersion && row.slmRevisionSha.length == 40 &&
    ["vllm", "llama_cpp", "stub"].contains row.slmRuntime &&
    ["bf16", "gguf-q4_k_m", "none"].contains row.slmQuantization

/-- The primary key (tenant_id, policy_id, version). -/
def PolicyRow.key (row : PolicyRow) : String × String × String :=
  (row.tenantId, row.policyId, row.version)

/-- A number as a `NUMERIC(4,3)` column keeps it; one that does not fit fails its check. -/
def numeric43 : PyFloat → PyFloat
  | .finite value => .finite (Decimal.toScale 3 value)
  | value => value

/-- The row as its columns keep it. -/
def PolicyRow.stored (row : PolicyRow) : PolicyRow :=
  { row with confidenceThreshold := numeric43 row.confidenceThreshold }

structure DeploymentRow where
  deploymentId : String
  tenantId : String
  policyId : String
  version : String
  environment : String
  vehicleScope : List Json
  status : String
  downstreamResponse : Json
  requestedAt : Nat
  acceptedAt : Option Nat
  expiresAt : Option Nat

/-- The `CHECK` constraints of migration 006. -/
def DeploymentRow.checked (row : DeploymentRow) : Bool :=
  row.deploymentId != "" && postgresSemver row.version &&
    ["dev", "staging", "prod"].contains row.environment && !row.vehicleScope.isEmpty &&
    ["requested", "accepted", "rejected", "expired"].contains row.status

/-- The columns of the foreign key to `collection_policies`. -/
def DeploymentRow.policyKey (row : DeploymentRow) : String × String × String :=
  (row.tenantId, row.policyId, row.version)

/-- The committed rows that a runner reads and writes. -/
structure Rows where
  tenants : List String
  audits : List AuditRow
  policies : List PolicyRow
  deployments : List DeploymentRow

def policyTable : Table Settings PolicyRow :=
  table ⟨fun row => some row.tenantId, fun _ => none, fun _ => none⟩ .collectionPolicies

def deploymentTable : Table Settings DeploymentRow :=
  table ⟨fun row => some row.tenantId, fun _ => none, fun _ => none⟩ .deploymentTargets

/-- The `INSERT` of a policy, in the transaction of its tenant. -/
def insertPolicyRow (rows : Rows) (new : PolicyRow) : Except Fault Rows := do
  let next ← insertRow policyTable (tenantAccess new.tenantId) .fail rows.policies new.stored
  if !new.stored.checked || rows.policies.any (fun row => row.key == new.key) ||
      !rows.tenants.contains new.tenantId then .error .constraint
  else .ok { rows with policies := next }

/-- The `INSERT` of a deployment. -/
def insertDeploymentRow (rows : Rows) (new : DeploymentRow) : Except Fault Rows := do
  let next ← insertRow deploymentTable (tenantAccess new.tenantId) .fail rows.deployments new
  if !new.checked || rows.deployments.any (fun row => row.deploymentId == new.deploymentId) ||
      !rows.policies.any (fun row => row.key == new.policyKey) ||
      !rows.tenants.contains new.tenantId then .error .constraint
  else .ok { rows with deployments := next }

/-- `PolicyRepository.get` with a version. -/
def getPolicy (rows : Rows) (tenantId policyId version : String) : Option PolicyRow :=
  (visible policyTable (tenantAccess tenantId) rows.policies).find? fun row =>
    row.key == (tenantId, policyId, version)

/-- `_PUBLIC`, the tenant whose context the next two statements run in. -/
def publicTenant : String := "feature-001-default"

def DeploymentRow.isDue (now : Nat) (row : DeploymentRow) : Bool :=
  row.status == "accepted" && row.expiresAt.any fun expiresAt => decide (expiresAt ≤ now)

/-- `DeploymentRepository.list_due`. -/
def listDue (rows : Rows) (now : Nat) : List DeploymentRow :=
  (((visible deploymentTable (tenantAccess publicTenant) rows.deployments).filter
    (DeploymentRow.isDue now)).insertionSort fun first second =>
      first.expiresAt.getD 0 ≤ second.expiresAt.getD 0).take 100

/-- `DeploymentRepository.mark_expired`. -/
def markExpired (rows : Rows) (deploymentId : String) : Except Fault Rows := do
  let deployments ← update deploymentTable (tenantAccess publicTenant) true
    (fun row => some (row.deploymentId == deploymentId)) (fun row => { row with status := "expired" })
    rows.deployments
  return { rows with deployments := deployments }

structure OutcomeRow where
  outcomeId : String
  tenantId : String
  originatingFinding : Json
  policyId : String
  version : String
  hypothesisState : String
  evaluatedAt : Nat
  evidenceSummary : Dict
  signalsCollectedCount : Nat
  dataQualityScore : Rat

/-- The `CHECK` constraints of migration 007. -/
def OutcomeRow.checked (row : OutcomeRow) : Bool :=
  row.outcomeId != "" && postgresSemver row.version &&
    ["confirmed", "ruled_out", "no_data"].contains row.hypothesisState &&
    (decide (0 ≤ row.dataQualityScore) && decide (row.dataQualityScore ≤ 1))

/-- The columns of the foreign key to `collection_policies`. -/
def OutcomeRow.policyKey (row : OutcomeRow) : String × String × String :=
  (row.tenantId, row.policyId, row.version)

def outcomeTable : Table Settings OutcomeRow :=
  table ⟨fun row => some row.tenantId, fun _ => none, fun _ => none⟩ .policyOutcomes

/-- `OutcomeRepository.insert`. -/
def insertOutcomeRow (rows : Rows) (outcomes : List OutcomeRow) (new : OutcomeRow) :
    Except Fault (List OutcomeRow) := do
  let next ← insertRow outcomeTable (tenantAccess new.tenantId) .fail outcomes new
  if !new.checked || outcomes.any (fun row => row.outcomeId == new.outcomeId) ||
      !rows.policies.any (fun row => row.key == new.policyKey) ||
      !rows.tenants.contains new.tenantId then .error .constraint
  else .ok next

theorem text_ok {converters : Converters} {value : Json} {text : String}
    (success : converters.text value = .ok text) : value = .str text := by
  cases value with
  | str raw =>
      cases success
      rfl
  | _ => cases success

/-- Where the columns of a policy's row come from. -/
structure RowOf (converters : Converters) (tenantId : String) (policy : Dict) (row : PolicyRow) :
    Prop where
  tenantId : row.tenantId = tenantId
  policyId : policy.get "policy_id" = some (.str row.policyId)
  version : policy.get "version" = some (.str row.version)
  signalSpec : policy.get "signals" = some row.signalSpec
  triggerConditions : row.triggerConditions = (policy.get "trigger_conditions").getD (.arr [])
  window : ∃ value, policy.get "collection_window_hours" = some value ∧
    converters.toInt value = .ok row.collectionWindowHoursLogical
  vehicleScope : policy.get "vehicle_scope" = some row.vehicleScope
  hypothesis : (policy.get "hypothesis").getD (.str "") = .str row.hypothesisStatement
  flags : policy.get "data_governance_flags" = some row.dataGovernanceFlags
  threshold : ∃ value, policy.get "confidence_threshold" = some value ∧
    converters.toFloat value = .ok row.confidenceThreshold
  sessionId : policy.get "generated_from_session_id" = some (.str row.generatedFromSessionId)
  finding : policy.get "originating_finding" = some row.originatingFinding

theorem policyRow_ok {converters : Converters} {tenantId : String} {policy : Dict}
    {auditMeta : AuditMeta} {now : Nat} {row : PolicyRow}
    (success : policyRow converters tenantId policy auditMeta now = .ok row) :
    RowOf converters tenantId policy row := by
  rw [policyRow] at success
  obtain ⟨policyId, policyIdItem, success⟩ := (Checked.bind_ok_iff _ _ _).mp success
  obtain ⟨version, versionItem, success⟩ := (Checked.bind_ok_iff _ _ _).mp success
  obtain ⟨signals, signalsItem, success⟩ := (Checked.bind_ok_iff _ _ _).mp success
  obtain ⟨hours, hoursItem, success⟩ := (Checked.bind_ok_iff _ _ _).mp success
  obtain ⟨scope, scopeItem, success⟩ := (Checked.bind_ok_iff _ _ _).mp success
  obtain ⟨flags, flagsItem, success⟩ := (Checked.bind_ok_iff _ _ _).mp success
  obtain ⟨threshold, thresholdItem, success⟩ := (Checked.bind_ok_iff _ _ _).mp success
  obtain ⟨sessionId, sessionItem, success⟩ := (Checked.bind_ok_iff _ _ _).mp success
  obtain ⟨finding, findingItem, success⟩ := (Checked.bind_ok_iff _ _ _).mp success
  obtain ⟨policyIdText, policyIdBound, success⟩ := (Checked.bind_ok_iff _ _ _).mp success
  obtain ⟨versionText, versionBound, success⟩ := (Checked.bind_ok_iff _ _ _).mp success
  obtain ⟨hypothesis, hypothesisBound, success⟩ := (Checked.bind_ok_iff _ _ _).mp success
  obtain ⟨sessionText, sessionBound, success⟩ := (Checked.bind_ok_iff _ _ _).mp success
  -- The five columns of the generator.
  iterate 5 obtain ⟨_, _, success⟩ := (Checked.bind_ok_iff _ _ _).mp success
  cases success
  obtain ⟨window, windowItem, windowBound⟩ := (Checked.bind_ok_iff _ _ _).mp hoursItem
  obtain ⟨number, numberItem, numberBound⟩ := (Checked.bind_ok_iff _ _ _).mp thresholdItem
  rw [text_ok policyIdBound] at policyIdItem
  rw [text_ok versionBound] at versionItem
  rw [text_ok sessionBound] at sessionItem
  exact {
    tenantId := rfl
    policyId := Dict.item_ok policyIdItem
    version := Dict.item_ok versionItem
    signalSpec := Dict.item_ok signalsItem
    triggerConditions := rfl
    window := ⟨window, Dict.item_ok windowItem, windowBound⟩
    vehicleScope := Dict.item_ok scopeItem
    hypothesis := text_ok hypothesisBound
    flags := Dict.item_ok flagsItem
    threshold := ⟨number, Dict.item_ok numberItem, numberBound⟩
    sessionId := Dict.item_ok sessionItem
    finding := Dict.item_ok findingItem }

/-- An `INSERT` in a tenant's transaction of a row of that tenant. -/
theorem insertRow_own_iff {ρ : Type} (columns : Columns ρ) {name : TableName}
    (own : name.tenantScoped = true) {tenantId : String} {new : ρ}
    (mine : columns.tenantId new = some tenantId) (rows next : List ρ) :
    insertRow (table columns name) (tenantAccess tenantId) .fail rows new = .ok next ↔
      tenantId ≠ "" ∧ next = rows ++ [new] := by
  have admitted : admitsCheck (table columns name).policies .insert (tenantAccess tenantId).context
      new = true ↔ tenantId ≠ "" ∧ columns.tenantId new = some tenantId :=
    admitsCheck_iff own (tenantAccess_tenant tenantId) .insert new
  constructor
  · intro success
    exact ⟨(admitted.mp (insertRow_admitted (tenantAccess_enforced _) success)).1,
      insertRow_fail_ok success⟩
  · rintro ⟨named, rfl⟩
    exact insertRow_fail (admitted.mpr ⟨named, mine⟩)

/-- What the insert of a policy checks, and what it does. -/
theorem insertPolicyRow_iff {rows next : Rows} {new : PolicyRow} :
    insertPolicyRow rows new = .ok next ↔
      new.tenantId ≠ "" ∧ new.tenantId ∈ rows.tenants ∧ new.stored.checked = true ∧
        (∀ row ∈ rows.policies, row.key ≠ new.key) ∧
        next = { rows with policies := rows.policies ++ [new.stored] } := by
  have inserted : ∀ next, insertRow policyTable (tenantAccess new.tenantId) .fail rows.policies
      new.stored = .ok next ↔ new.tenantId ≠ "" ∧ next = rows.policies ++ [new.stored] :=
    insertRow_own_iff _ (by decide) rfl rows.policies
  rw [insertPolicyRow, Checked.bind_ok_iff]
  simp only [inserted, Checked.guard_ok_iff, Bool.or_eq_true, Bool.not_eq_true', not_or,
    Bool.not_eq_false, List.any_eq_true, not_exists, not_and, beq_iff_eq, List.contains_iff_mem]
  constructor
  · rintro ⟨policies, ⟨named, rfl⟩, ⟨⟨checked, fresh⟩, known⟩, rfl⟩
    exact ⟨named, known, checked, fresh, rfl⟩
  · rintro ⟨named, known, checked, fresh, rfl⟩
    exact ⟨_, ⟨named, rfl⟩, ⟨⟨checked, fresh⟩, known⟩, rfl⟩

theorem insertPolicyRow_ok {rows next : Rows} {new : PolicyRow}
    (success : insertPolicyRow rows new = .ok next) :
    next = { rows with policies := rows.policies ++ [new.stored] } :=
  (insertPolicyRow_iff.mp success).2.2.2.2

theorem insertPolicyRow_checked {rows next : Rows} {new : PolicyRow}
    (success : insertPolicyRow rows new = .ok next) :
    new.tenantId ≠ "" ∧ new.tenantId ∈ rows.tenants ∧ ∀ row ∈ rows.policies, row.key ≠ new.key := by
  obtain ⟨named, known, _, fresh, _⟩ := insertPolicyRow_iff.mp success
  exact ⟨named, known, fresh⟩

/-- A policy that has been inserted is found under its key, whatever is inserted later. -/
theorem getPolicy_inserted {rows next : Rows} {new : PolicyRow} {later : List PolicyRow}
    {found : Rows} (success : insertPolicyRow rows new = .ok next)
    (kept : found.policies = next.policies ++ later) :
    getPolicy found new.tenantId new.policyId new.version = some new.stored := by
  obtain ⟨named, _, fresh⟩ := insertPolicyRow_checked success
  have seen : new.stored ∈ visible policyTable (tenantAccess new.tenantId) [new.stored] := by
    rw [policyTable, mem_visible_tenantAccess _ (by decide)]
    exact ⟨List.mem_singleton.mpr rfl, named, rfl⟩
  have shown : visible policyTable (tenantAccess new.tenantId) [new.stored] = [new.stored] := by
    rw [visible, List.mem_filter] at seen
    rw [visible, List.filter_singleton, seen.2]
    rfl
  have before : (visible policyTable (tenantAccess new.tenantId) rows.policies).find?
      (fun row => row.key == (new.tenantId, new.policyId, new.version)) = none := by
    rw [List.find?_eq_none]
    intro row member same
    exact fresh row (List.mem_of_mem_filter member) (beq_iff_eq.mp same)
  have here : [new.stored].find? (fun row => row.key == (new.tenantId, new.policyId, new.version)) =
      some new.stored := List.find?_cons_of_pos (beq_iff_eq.mpr rfl)
  rw [getPolicy, kept, insertPolicyRow_ok success, visible, List.filter_append, List.filter_append,
    List.find?_append, List.find?_append]
  rw [visible] at before shown
  rw [before, shown, here]
  rfl

theorem insertDeploymentRow_iff {rows next : Rows} {new : DeploymentRow} :
    insertDeploymentRow rows new = .ok next ↔
      new.tenantId ≠ "" ∧ new.tenantId ∈ rows.tenants ∧ new.checked = true ∧
        (∀ row ∈ rows.deployments, row.deploymentId ≠ new.deploymentId) ∧
        (∃ row ∈ rows.policies, row.key = new.policyKey) ∧
        next = { rows with deployments := rows.deployments ++ [new] } := by
  have inserted : ∀ next, insertRow deploymentTable (tenantAccess new.tenantId) .fail
      rows.deployments new = .ok next ↔ new.tenantId ≠ "" ∧ next = rows.deployments ++ [new] :=
    insertRow_own_iff _ (by decide) rfl rows.deployments
  rw [insertDeploymentRow, Checked.bind_ok_iff]
  simp only [inserted, Checked.guard_ok_iff, Bool.or_eq_true, Bool.not_eq_true', not_or,
    Bool.not_eq_false, List.any_eq_true, not_exists, not_and, beq_iff_eq, List.contains_iff_mem]
  constructor
  · rintro ⟨deployments, ⟨named, rfl⟩, ⟨⟨⟨checked, fresh⟩, refers⟩, known⟩, rfl⟩
    exact ⟨named, known, checked, fresh, refers, rfl⟩
  · rintro ⟨named, known, checked, fresh, refers, rfl⟩
    exact ⟨_, ⟨named, rfl⟩, ⟨⟨⟨checked, fresh⟩, refers⟩, known⟩, rfl⟩

theorem insertDeploymentRow_ok {rows next : Rows} {new : DeploymentRow}
    (success : insertDeploymentRow rows new = .ok next) :
    next = { rows with deployments := rows.deployments ++ [new] } :=
  (insertDeploymentRow_iff.mp success).2.2.2.2.2

theorem insertOutcomeRow_iff {rows : Rows} {outcomes next : List OutcomeRow} {new : OutcomeRow} :
    insertOutcomeRow rows outcomes new = .ok next ↔
      new.tenantId ≠ "" ∧ new.tenantId ∈ rows.tenants ∧ new.checked = true ∧
        (∀ row ∈ outcomes, row.outcomeId ≠ new.outcomeId) ∧
        (∃ row ∈ rows.policies, row.key = new.policyKey) ∧ next = outcomes ++ [new] := by
  have inserted : ∀ next, insertRow outcomeTable (tenantAccess new.tenantId) .fail outcomes new =
      .ok next ↔ new.tenantId ≠ "" ∧ next = outcomes ++ [new] :=
    insertRow_own_iff _ (by decide) rfl outcomes
  rw [insertOutcomeRow, Checked.bind_ok_iff]
  simp only [inserted, Checked.guard_ok_iff, Bool.or_eq_true, Bool.not_eq_true', not_or,
    Bool.not_eq_false, List.any_eq_true, not_exists, not_and, beq_iff_eq, List.contains_iff_mem]
  constructor
  · rintro ⟨outcomes, ⟨named, rfl⟩, ⟨⟨⟨checked, fresh⟩, refers⟩, known⟩, rfl⟩
    exact ⟨named, known, checked, fresh, refers, rfl⟩
  · rintro ⟨named, known, checked, fresh, refers, rfl⟩
    exact ⟨_, ⟨named, rfl⟩, ⟨⟨⟨checked, fresh⟩, refers⟩, known⟩, rfl⟩

theorem insertOutcomeRow_ok {rows : Rows} {outcomes next : List OutcomeRow} {new : OutcomeRow}
    (success : insertOutcomeRow rows outcomes new = .ok next) : next = outcomes ++ [new] :=
  (insertOutcomeRow_iff.mp success).2.2.2.2.2

theorem getPolicy_found {rows : Rows} {tenantId policyId version : String} {policy : PolicyRow}
    (found : getPolicy rows tenantId policyId version = some policy) :
    policy ∈ rows.policies ∧ policy.key = (tenantId, policyId, version) := by
  rw [getPolicy] at found
  have matched := List.find?_some found
  exact ⟨List.mem_of_mem_filter (List.mem_of_find?_eq_some found), beq_iff_eq.mp matched⟩

/-- A tenant finds its own policy. -/
theorem getPolicy_isSome {rows : Rows} {tenantId policyId version : String} (named : tenantId ≠ "")
    (stored : ∃ row ∈ rows.policies, row.key = (tenantId, policyId, version)) :
    (getPolicy rows tenantId policyId version).isSome = true := by
  obtain ⟨row, member, key⟩ := stored
  have owner : row.tenantId = tenantId := congrArg Prod.fst key
  rw [getPolicy, List.find?_isSome]
  refine ⟨row, ?_, beq_iff_eq.mpr key⟩
  rw [policyTable, mem_visible_tenantAccess _ (by decide)]
  exact ⟨member, named, congrArg some owner⟩

/-- What `mark_expired` makes of a row: it does not see those of other tenants. -/
def expire (deploymentIds : List String) (row : DeploymentRow) : DeploymentRow :=
  if row.tenantId = publicTenant ∧ row.deploymentId ∈ deploymentIds then
    { row with status := "expired" }
  else row

/-- `mark_expired` does not fail, and expires the row if the public tenant owns it. -/
theorem markExpired_eq (rows : Rows) (deploymentId : String) :
    markExpired rows deploymentId =
      .ok { rows with deployments := rows.deployments.map (expire [deploymentId]) } := by
  rw [markExpired, Checked.bind_ok_iff]
  refine ⟨rows.deployments.map (expire [deploymentId]), ?_, rfl⟩
  apply update_sweep (by decide) (tenantAccess_enforced _) (tenantAccess_tenant publicTenant)
    (by decide)
  constructor
  case keeps => exact fun row => rfl
  case stays => exact fun row => rfl
  case hits =>
    intro row hit
    apply if_pos
    simpa using hit
  case misses =>
    intro row missed
    apply if_neg
    simpa using missed

/-- Under the public tenant's context its own rows are seen. -/
theorem visible_public (deployments : List DeploymentRow) :
    visible deploymentTable (tenantAccess publicTenant) deployments =
      deployments.filter fun row => row.tenantId == publicTenant := by
  apply List.filter_congr
  intro row _
  rw [tenantAccess_enforced, Bool.not_true, Bool.false_or, Bool.eq_iff_iff, deploymentTable,
    admitsUsing_iff (by decide) (tenantAccess_tenant publicTenant)]
  simp [publicTenant]

/-- The deployments that wait for the worker: those of the public tenant that are due. -/
def backlog (rows : Rows) (now : Nat) : List DeploymentRow :=
  rows.deployments.filter fun row => row.isDue now && row.tenantId == publicTenant

/-- `ORDER BY expires_at`. -/
def DeploymentRow.expiry (row : DeploymentRow) : Nat := row.expiresAt.getD 0

theorem listDue_eq (rows : Rows) (now : Nat) :
    listDue rows now = (BatchQueue.sort DeploymentRow.expiry (backlog rows now)).take 100 := by
  rw [listDue, visible_public, List.filter_filter]
  rfl

theorem mem_backlog {rows : Rows} {now : Nat} {row : DeploymentRow} :
    row ∈ backlog rows now ↔
      row ∈ rows.deployments ∧ row.isDue now = true ∧ row.tenantId = publicTenant := by
  rw [backlog, List.mem_filter, Bool.and_eq_true, beq_iff_eq]

theorem mem_backlog_of_listDue {rows : Rows} {now : Nat} {row : DeploymentRow}
    (listed : row ∈ listDue rows now) : row ∈ backlog rows now := by
  rw [listDue_eq] at listed
  exact (BatchQueue.sort_perm _ _).mem_iff.mp (List.mem_of_mem_take listed)

/-- The due deployments that are listed are those of the public tenant. -/
theorem listDue_perm (rows : Rows) (now : Nat)
    (few : (rows.deployments.filter (DeploymentRow.isDue now)).length ≤ 100) :
    (listDue rows now).Perm ((rows.deployments.filter (DeploymentRow.isDue now)).filter
      fun row => row.tenantId == publicTenant) := by
  have shorter := List.length_filter_le (fun row => row.tenantId == publicTenant)
    (rows.deployments.filter (DeploymentRow.isDue now))
  have seen : backlog rows now = (rows.deployments.filter (DeploymentRow.isDue now)).filter
      fun row => row.tenantId == publicTenant := by
    rw [List.filter_comm, List.filter_filter]
    rfl
  have sorted := BatchQueue.sort_perm DeploymentRow.expiry (backlog rows now)
  rw [listDue_eq, List.take_of_length_le, ← seen]
  · exact sorted
  · rw [sorted.length_eq, seen]
    omega

end CollectMind.Registry
