import CollectMind.Feedback.Worker
import CollectMind.Library.Calls

set_option autoImplicit false

/- `ErasureDispatcher` of erasure/dispatcher.py: a request is recorded and audited, then each of
three stores is swept in a transaction of its own, and the status is computed from which of them
raised. Whether a store still holds the subject plays no part in it. -/
namespace CollectMind.Erasure

open Python Sql RowSecurity Registry Feedback

inductive SubjectKind where
  | vehicle
  | finding
  | principal
  deriving DecidableEq, Repr

inductive ErasureMode where
  | erased
  | redacted
  deriving DecidableEq, Repr

/-- `requested`, `in_progress`, `completed` and `partial`. -/
inductive ErasureStatus where
  | requested
  | inProgress
  | completed
  | inPart
  deriving DecidableEq, Repr

inductive StoreStatus where
  | pending
  | erased
  | redacted
  | failed
  deriving DecidableEq, Repr

structure PerStoreStatus where
  registry : StoreStatus := .pending
  telemetry : StoreStatus := .pending
  audit : StoreStatus := .pending
  deriving DecidableEq, Repr

structure ErasureRequest where
  subjectKind : SubjectKind
  subjectIdentifier : String
  mode : ErasureMode := .erased
  nonEmpty : subjectIdentifier ≠ ""

/-- A row of `erasure_requests`. -/
structure ErasureRow where
  requestId : String
  tenantId : String
  subjectKind : SubjectKind
  subjectIdentifier : String
  requestedBy : String
  requestedAt : Nat
  targetCompletionAt : Nat
  status : ErasureStatus
  perStoreStatus : PerStoreStatus
  mode : ErasureMode
  completedAt : Option Nat

/-- The `CHECK` constraints of migration 010. -/
def ErasureRow.checked (row : ErasureRow) : Bool :=
  row.requestId != "" && row.subjectIdentifier != "" && row.requestedBy != ""

structure Stores where
  rows : Rows
  telemetry : List ObservationRow
  requests : List ErasureRow

def requestTable : Table Settings ErasureRow :=
  table ⟨fun row => some row.tenantId, fun _ => none, fun _ => none⟩ .erasureRequests

/-- The arguments of `submit`, and the id of its audit event. -/
structure Submission where
  requestId : String
  tenantId : String
  requestedBy : String
  requestedAt : Nat
  targetCompletionAt : Nat
  payload : ErasureRequest
  eventId : String

def Submission.row (submission : Submission) : ErasureRow where
  requestId := submission.requestId
  tenantId := submission.tenantId
  subjectKind := submission.payload.subjectKind
  subjectIdentifier := submission.payload.subjectIdentifier
  requestedBy := submission.requestedBy
  requestedAt := submission.requestedAt
  targetCompletionAt := submission.targetCompletionAt
  status := .requested
  perStoreStatus := {}
  mode := submission.payload.mode
  completedAt := none

def insertRequest (submission : Submission) (stores : Stores) : Except AuditError Stores :=
  let new := submission.row
  match insertRow requestTable (tenantAccess new.tenantId) .fail stores.requests new with
  | .error fault => .error (.database fault)
  | .ok next =>
    if !new.checked || stores.requests.any (fun row => row.requestId == new.requestId) ||
        !stores.rows.tenants.contains new.tenantId then .error (.database .constraint)
    else .ok { stores with requests := next }

def auditRequest (submission : Submission) (stores : Stores) : Except AuditError Stores := do
  let (audits, _) ← write stores.rows.tenants stores.rows.audits
    { tenantId := submission.tenantId
      kind := .erasure
      correlationId := submission.requestId
      principalSubject := submission.requestedBy }
    submission.eventId submission.requestedAt
  return { stores with rows := { stores.rows with audits := audits } }

/-- `submit` up to the task that it creates: there is none if this raises. -/
def submit (fates : Nat → Calls.Fate AuditError) (submission : Submission) (stores : Stores) :
    Stores × Option AuditError :=
  Calls.sequence fates 0 [insertRequest submission, auditRequest submission] stores

/-- `acquire(tenantId)` after `set_config('collectmind.erasure', 'on', true)`. -/
def erasureAccess (tenantId : String) : Access Settings :=
  accessOf defaultRoles (insideAcquire defaultRoles "collectmind" [] tenantId
    [.setConfig "collectmind.erasure" "on" true])

/-- `vehicle_scope @> jsonb_build_array(vehicle)`. -/
def scopeContains (vehicle : String) : Json → Bool
  | .arr items => items.any (Json.isStr vehicle)
  | _ => false

/-- `jsonb_agg` of the other vehicles, which is NULL if there are none. -/
def scopeWithout (vehicle : String) : Json → Json
  | .arr items =>
    match items.filter fun item => !item.isStr vehicle with
    | [] => .null
    | others => .arr others
  | _ => .null

/-- `_erase_registry`. -/
def eraseRegistry (tenantId : String) (payload : ErasureRequest) (stores : Stores) :
    Except Fault Stores :=
  if payload.subjectKind ≠ .vehicle then .ok stores
  else do
    let policies ← updateChecked policyTable (erasureAccess tenantId) PolicyRow.checked true
      (fun row => (eq (some row.tenantId) (some tenantId)).and
        (some (scopeContains payload.subjectIdentifier row.vehicleScope)))
      (fun row => { row with vehicleScope := scopeWithout payload.subjectIdentifier row.vehicleScope })
      stores.rows.policies
    return { stores with rows := { stores.rows with policies := policies } }

/-- `_erase_telemetry`. -/
def eraseTelemetry (tenantId : String) (payload : ErasureRequest) (stores : Stores) :
    Except Fault Stores :=
  if payload.subjectKind ≠ .vehicle then .ok stores
  else do
    let telemetry ← delete observationTable (tenantAccess tenantId) true
      (fun row => (eq (some row.tenantId) (some tenantId)).and
        (eq (some row.vehicleId) (some payload.subjectIdentifier)))
      stores.telemetry
    return { stores with telemetry := telemetry }

/-- `originating_finding ->> 'finding_id'`; `jsonText` is the text of a value that is no string. -/
def findingId (jsonText : Json → String) (finding : Option Dict) : Option String :=
  match finding >>= fun fields => fields.get "finding_id" with
  | none | some .null => none
  | some (.str text) => some text
  | some value => some (jsonText value)

/-- `jsonb_set(COALESCE(finding, '{}'), '{redacted_subject}', to_jsonb(subject))`. -/
def redactFinding (subject : String) (finding : Option Dict) : Dict :=
  (finding.getD []).set "redacted_subject" (.str subject)

/-- `_redact_audit`. -/
def redactAudit (jsonText : Json → String) (tenantId : String) (payload : ErasureRequest)
    (stores : Stores) : Except Fault Stores := do
  let audits ← updateChecked auditTable (erasureAccess tenantId) AuditRow.checked true
    (fun row => (eq (some row.tenantId) (some tenantId)).and
      ((eq (findingId jsonText row.originatingFinding) (some payload.subjectIdentifier)).or
        (eq (some row.principalSubject) (some payload.subjectIdentifier))))
    (fun row => { row with
      originatingFinding := some (redactFinding payload.subjectIdentifier row.originatingFinding) })
    stores.rows.audits
  return { stores with rows := { stores.rows with audits := audits } }

def StoreStatus.settled : StoreStatus → Bool
  | .erased | .redacted => true
  | .pending | .failed => false

def PerStoreStatus.status (perStore : PerStoreStatus) : ErasureStatus :=
  if perStore.registry.settled && perStore.telemetry.settled && perStore.audit.settled then .completed
  else .inPart

/-- The `UPDATE` of the request at the end of `_dispatch`. -/
def recordStatus (tenantId requestId : String) (perStore : PerStoreStatus) (now : Nat)
    (stores : Stores) : Except Fault Stores := do
  let requests ← updateChecked requestTable (tenantAccess tenantId) ErasureRow.checked true
    (fun row => eq (some row.requestId) (some requestId))
    (fun row => { row with
      status := perStore.status, perStoreStatus := perStore, completedAt := some now })
    stores.requests
  return { stores with requests := requests }

/-- What the connection does to each of the four transactions. -/
structure Fates where
  registry : Calls.Fate Fault
  telemetry : Calls.Fate Fault
  audit : Calls.Fate Fault
  record : Calls.Fate Fault

structure Dispatched where
  stores : Stores
  perStore : PerStoreStatus
  raised : Option Fault

/-- A store is settled unless its step raised. -/
def settledUnless (raised : Option Fault) (done : StoreStatus) : StoreStatus :=
  if raised.isSome then .failed else done

/-- `_dispatch`. -/
def dispatch (jsonText : Json → String) (fates : Fates) (now : Nat) (tenantId requestId : String)
    (payload : ErasureRequest) (stores : Stores) : Dispatched :=
  let registry := Calls.call fates.registry (eraseRegistry tenantId payload) stores
  let telemetry := Calls.call fates.telemetry (eraseTelemetry tenantId payload) registry.1
  let audit := Calls.call fates.audit (redactAudit jsonText tenantId payload) telemetry.1
  let perStore : PerStoreStatus :=
    { registry := settledUnless registry.2 (if payload.mode = .erased then .erased else .redacted)
      telemetry := settledUnless telemetry.2 .erased
      audit := settledUnless audit.2 .redacted }
  let recorded := Calls.call fates.record (recordStatus tenantId requestId perStore now) audit.1
  { stores := recorded.1, perStore := perStore, raised := recorded.2 }

/-- `get`. -/
def getRequest (stores : Stores) (tenantId requestId : String) : Option ErasureRow :=
  (visible requestTable (tenantAccess tenantId) stores.requests).find? fun row =>
    row.tenantId == tenantId && row.requestId == requestId

/-- The audit row of the request itself. -/
def ownRecord (requestId : String) (row : AuditRow) : Prop :=
  row.kind = .erasure ∧ row.correlationId = requestId

/-- The id of a registered tenant, which migration 002 does not let be empty. -/
def TenantId := { tenantId : String // tenantId ≠ "" }

section Sweeps

variable {jsonText : Json → String} {tenant : TenantId} {payload : ErasureRequest}
variable {stores next : Stores}

theorem erasureAccess_tenant (tenantId : String) :
    (erasureAccess tenantId).context "app.tenant_id" = some tenantId := by
  have keeps : ∀ op ∈ [Session.Op.setConfig "collectmind.erasure" "on" true],
      keepsContext op = true := by decide
  exact (insideAcquire_scoped defaultRoles "collectmind" [] tenantId _ keeps).values.2

/-- In its own transaction the dispatcher passes the guard of the immutable tables. -/
theorem erasureAccess_passes {ρ : Type} (tenantId : String) (new : ρ) :
    rejectMutationUnlessErasure (erasureAccess tenantId).context (some new) = .keep new := rfl

/-- What the sweep of the registry makes of a row. -/
def eraseScope (tenantId : String) (payload : ErasureRequest) (row : PolicyRow) : PolicyRow :=
  if payload.subjectKind = .vehicle ∧ row.tenantId = tenantId ∧
      scopeContains payload.subjectIdentifier row.vehicleScope = true then
    { row with vehicleScope := scopeWithout payload.subjectIdentifier row.vehicleScope }
  else row

/-- The sweep of the telemetry removes the row. -/
def observes (tenantId : String) (payload : ErasureRequest) (row : ObservationRow) : Prop :=
  payload.subjectKind = .vehicle ∧ row.tenantId = tenantId ∧
    row.vehicleId = payload.subjectIdentifier

instance (tenantId : String) (payload : ErasureRequest) (row : ObservationRow) :
    Decidable (observes tenantId payload row) :=
  inferInstanceAs (Decidable (_ ∧ _))

/-- The audit row is about the subject, as far as `_redact_audit` looks. -/
def concerns (jsonText : Json → String) (subject : String) (row : AuditRow) : Prop :=
  findingId jsonText row.originatingFinding = some subject ∨ row.principalSubject = subject

instance (jsonText : Json → String) (subject : String) (row : AuditRow) :
    Decidable (concerns jsonText subject row) :=
  inferInstanceAs (Decidable (_ ∨ _))

/-- What the sweep of the audit log makes of a row. -/
def redact (jsonText : Json → String) (tenantId : String) (payload : ErasureRequest)
    (row : AuditRow) : AuditRow :=
  if row.tenantId = tenantId ∧ concerns jsonText payload.subjectIdentifier row then
    { row with
      originatingFinding := some (redactFinding payload.subjectIdentifier row.originatingFinding) }
  else row

theorem eraseRegistry_sweeps (vehicle : payload.subjectKind = .vehicle) :
    Sweeps ⟨fun row : PolicyRow => some row.tenantId, fun _ => none, fun _ => none⟩
      .collectionPolicies (erasureAccess tenant.val) tenant.val
      (fun row => (eq (some row.tenantId) (some tenant.val)).and
        (some (scopeContains payload.subjectIdentifier row.vehicleScope)))
      (fun row => { row with vehicleScope := scopeWithout payload.subjectIdentifier row.vehicleScope })
      (eraseScope tenant.val payload) := by
  constructor
  case keeps => exact fun row => erasureAccess_passes tenant.val _
  case stays => exact fun row => rfl
  case hits =>
    intro row hit
    simp only [and_eq_true, eq_value_iff, Option.some.injEq] at hit
    exact if_pos ⟨vehicle, hit.2⟩
  case misses =>
    intro row missed
    simp only [and_eq_true, eq_value_iff, Option.some.injEq] at missed
    exact if_neg fun hit => missed ⟨hit.2.1, hit.2⟩

/-- The sweep of the registry succeeds exactly if every scope that it leaves is acceptable. -/
theorem eraseRegistry_ok_iff :
    eraseRegistry tenant.val payload stores = .ok next ↔
      next = { stores with
        rows := { stores.rows with
          policies := stores.rows.policies.map (eraseScope tenant.val payload) } } ∧
      ∀ row ∈ stores.rows.policies, payload.subjectKind = .vehicle → row.tenantId = tenant.val →
        scopeContains payload.subjectIdentifier row.vehicleScope = true →
        ({ row with vehicleScope :=
          scopeWithout payload.subjectIdentifier row.vehicleScope } : PolicyRow).checked = true := by
  unfold eraseRegistry
  by_cases vehicle : payload.subjectKind = .vehicle
  · rw [if_neg (not_not.mpr vehicle), Checked.bind_ok_iff]
    constructor
    · intro success
      obtain ⟨policies, updated, settled⟩ := success
      cases settled
      obtain ⟨same, met⟩ := (updateChecked_sweep_iff (by decide) rfl
        (erasureAccess_tenant tenant.val) tenant.property (eraseRegistry_sweeps vehicle)).mp updated
      simp only [and_eq_true, eq_value_iff, Option.some.injEq] at met
      rw [same]
      exact ⟨rfl, fun row member _ own named => met row member ⟨own, own, named⟩⟩
    · intro success
      refine ⟨_, (updateChecked_sweep_iff (by decide) rfl (erasureAccess_tenant tenant.val)
        tenant.property (eraseRegistry_sweeps vehicle)).mpr ⟨rfl, ?_⟩, ?_⟩
      · intro row member hit
        simp only [and_eq_true, eq_value_iff, Option.some.injEq] at hit
        exact success.2 row member vehicle hit.1 hit.2.2
      · rw [success.1]
        rfl
  · have same : eraseScope tenant.val payload = id := by
      funext row
      exact if_neg fun hit => vehicle hit.1
    rw [if_pos vehicle, same, List.map_id]
    constructor
    · intro success
      cases success
      exact ⟨rfl, fun _ _ kind => absurd kind vehicle⟩
    · intro success
      rw [success.1]

theorem eraseRegistry_ok (success : eraseRegistry tenant.val payload stores = .ok next) :
    next = { stores with
      rows := { stores.rows with
        policies := stores.rows.policies.map (eraseScope tenant.val payload) } } :=
  (eraseRegistry_ok_iff.mp success).1

/-- The sweep of the telemetry always succeeds. -/
theorem eraseTelemetry_eq (tenant : TenantId) (payload : ErasureRequest) (stores : Stores) :
    eraseTelemetry tenant.val payload stores = .ok { stores with
      telemetry := stores.telemetry.filter fun row => decide (¬ observes tenant.val payload row) } := by
  unfold eraseTelemetry
  by_cases vehicle : payload.subjectKind = .vehicle
  · have swept : delete observationTable (tenantAccess tenant.val) true
        (fun row => (eq (some row.tenantId) (some tenant.val)).and
          (eq (some row.vehicleId) (some payload.subjectIdentifier))) stores.telemetry =
        .ok (stores.telemetry.filter fun row => decide (¬ observes tenant.val payload row)) := by
      refine Eq.trans (delete_sweep (by decide) (tenantAccess_enforced _)
        (tenantAccess_tenant tenant.val) tenant.property (fun _ => rfl)) ?_
      apply congrArg Except.ok
      apply List.filter_congr
      intro row _
      simp only [and_eq_true, eq_value_iff, Option.some.injEq, observes, vehicle, true_and]
      rw [decide_eq_decide]
      tauto
    rw [if_neg (not_not.mpr vehicle), swept]
    rfl
  · have same : (stores.telemetry.filter fun row => decide (¬ observes tenant.val payload row)) =
        stores.telemetry := by
      apply List.filter_eq_self.mpr
      intro row _
      simp [observes, vehicle]
    rw [if_pos vehicle, same]

theorem redactAudit_sweeps :
    Sweeps auditColumns .auditEvents (erasureAccess tenant.val) tenant.val
      (fun row => (eq (some row.tenantId) (some tenant.val)).and
        ((eq (findingId jsonText row.originatingFinding) (some payload.subjectIdentifier)).or
          (eq (some row.principalSubject) (some payload.subjectIdentifier))))
      (fun row => { row with
        originatingFinding := some (redactFinding payload.subjectIdentifier row.originatingFinding) })
      (redact jsonText tenant.val payload) := by
  constructor
  case keeps => exact fun row => erasureAccess_passes tenant.val _
  case stays => exact fun row => rfl
  case hits =>
    intro row hit
    simp only [and_eq_true, or_eq_true, eq_value_iff, Option.some.injEq] at hit
    exact if_pos hit.2
  case misses =>
    intro row missed
    simp only [and_eq_true, or_eq_true, eq_value_iff, Option.some.injEq] at missed
    exact if_neg fun hit => missed ⟨congrArg some hit.1, hit⟩

/-- No constraint of the audit log looks at the finding: the sweep of rows that meet them
succeeds. -/
theorem redactAudit_ok_iff :
    redactAudit jsonText tenant.val payload stores = .ok next ↔
      next = { stores with
        rows := { stores.rows with
          audits := stores.rows.audits.map (redact jsonText tenant.val payload) } } ∧
      ∀ row ∈ stores.rows.audits, row.tenantId = tenant.val →
        concerns jsonText payload.subjectIdentifier row → row.checked = true := by
  rw [redactAudit, Checked.bind_ok_iff]
  constructor
  · intro success
    obtain ⟨audits, updated, settled⟩ := success
    cases settled
    obtain ⟨same, met⟩ := (updateChecked_sweep_iff (by decide) rfl
      (erasureAccess_tenant tenant.val) tenant.property redactAudit_sweeps).mp updated
    simp only [and_eq_true, or_eq_true, eq_value_iff, Option.some.injEq] at met
    rw [same]
    exact ⟨rfl, fun row member own about => met row member ⟨congrArg some own, own, about⟩⟩
  · intro success
    refine ⟨_, (updateChecked_sweep_iff (by decide) rfl (erasureAccess_tenant tenant.val)
      tenant.property redactAudit_sweeps).mpr ⟨rfl, ?_⟩, ?_⟩
    · intro row member hit
      simp only [and_eq_true, or_eq_true, eq_value_iff, Option.some.injEq] at hit
      exact success.2 row member hit.2.1 hit.2.2
    · rw [success.1]
      rfl

theorem redactAudit_ok (success : redactAudit jsonText tenant.val payload stores = .ok next) :
    next = { stores with
      rows := { stores.rows with
        audits := stores.rows.audits.map (redact jsonText tenant.val payload) } } :=
  (redactAudit_ok_iff.mp success).1

end Sweeps

section Completed

variable {jsonText : Json → String} {fates : Fates} {now : Nat} {tenant : TenantId}
variable {requestId : String} {payload : ErasureRequest} {stores : Stores}

theorem recordStatus_keeps (tenantId requestId : String) (perStore : PerStoreStatus) (now : Nat) :
    Calls.Keeps (fun stores : Stores => (stores.rows, stores.telemetry))
      (recordStatus tenantId requestId perStore now) := by
  intro stores next success
  rw [recordStatus, Checked.bind_ok_iff] at success
  obtain ⟨requests, _, settled⟩ := success
  cases settled
  rfl

theorem settledUnless_settled_iff {raised : Option Fault} {done : StoreStatus}
    (settles : done.settled = true) :
    (settledUnless raised done).settled = true ↔ raised = none := by
  cases raised with
  | none => simp [settledUnless, settles]
  | some fault => simp [settledUnless, StoreStatus.settled]

/-- What `_dispatch` notes for a registry that has not raised. -/
theorem noted_settled (mode : ErasureMode) :
    (if mode = .erased then StoreStatus.erased else .redacted).settled = true := by
  split
  · rfl
  · rfl

theorem status_completed_iff {perStore : PerStoreStatus} :
    perStore.status = .completed ↔ perStore.registry.settled = true ∧
      perStore.telemetry.settled = true ∧ perStore.audit.settled = true := by
  simp [PerStoreStatus.status, and_assoc]

/-- What it takes for a dispatch to end as completed: the three sweeps lose no connection, and
leave no row that its table does not accept. -/
structure Completes (jsonText : Json → String) (fates : Fates) (tenantId : String)
    (payload : ErasureRequest) (stores : Stores) : Prop where
  registry : fates.registry = .runs
  telemetry : fates.telemetry = .runs
  audit : fates.audit = .runs
  policies : ∀ row ∈ stores.rows.policies, payload.subjectKind = .vehicle → row.tenantId = tenantId →
    scopeContains payload.subjectIdentifier row.vehicleScope = true →
    ({ row with vehicleScope :=
      scopeWithout payload.subjectIdentifier row.vehicleScope } : PolicyRow).checked = true
  audits : ∀ row ∈ stores.rows.audits, row.tenantId = tenantId →
    concerns jsonText payload.subjectIdentifier row → row.checked = true

theorem completes_of_steps {first second third : Stores} (registryRuns : fates.registry = .runs)
    (telemetryRuns : fates.telemetry = .runs) (auditRuns : fates.audit = .runs)
    (registry : eraseRegistry tenant.val payload stores = .ok first)
    (telemetry : eraseTelemetry tenant.val payload first = .ok second)
    (audit : redactAudit jsonText tenant.val payload second = .ok third) :
    Completes jsonText fates tenant.val payload stores := by
  obtain ⟨erased, acceptable⟩ := eraseRegistry_ok_iff.mp registry
  have deleted := Except.ok.inj (telemetry.symm.trans (eraseTelemetry_eq tenant payload first))
  have logged := (redactAudit_ok_iff.mp audit).2
  subst erased deleted
  exact ⟨registryRuns, telemetryRuns, auditRuns, acceptable, logged⟩

/-- The status is computed from what was raised alone, so it is completed exactly if all three
steps return. -/
theorem dispatch_completed_iff :
    (dispatch jsonText fates now tenant.val requestId payload stores).perStore.status = .completed ↔
      Completes jsonText fates tenant.val payload stores := by
  rw [status_completed_iff]
  constructor
  · rintro ⟨registry, telemetry, audit⟩
    have first := Calls.call_returns_iff.mp
      (Prod.ext rfl ((settledUnless_settled_iff (noted_settled payload.mode)).mp registry))
    have second := Calls.call_returns_iff.mp
      (Prod.ext rfl ((settledUnless_settled_iff rfl).mp telemetry))
    have third := Calls.call_returns_iff.mp
      (Prod.ext rfl ((settledUnless_settled_iff rfl).mp audit))
    exact completes_of_steps first.1 second.1 third.1 first.2 second.2 third.2
  · intro completes
    have first := Calls.call_returns_iff.mpr
      ⟨completes.registry, eraseRegistry_ok_iff.mpr ⟨rfl, completes.policies⟩⟩
    have second := fun before => Calls.call_returns_iff.mpr
      ⟨completes.telemetry, eraseTelemetry_eq tenant payload before⟩
    have third : ∀ before : Stores, before.rows.audits = stores.rows.audits →
        (Calls.call fates.audit (redactAudit jsonText tenant.val payload) before).2 = none := by
      intro before same
      rw [Calls.call_returns_iff.mpr
        ⟨completes.audit, redactAudit_ok_iff.mpr ⟨rfl, same ▸ completes.audits⟩⟩]
    refine ⟨(settledUnless_settled_iff (noted_settled payload.mode)).mpr ?_,
      (settledUnless_settled_iff rfl).mpr ?_, (settledUnless_settled_iff rfl).mpr (third _ ?_)⟩
    · rw [first]
    · rw [second]
    · rw [second, first]

/-- What a dispatch that ends as completed has done to the stores. -/
structure Swept (jsonText : Json → String) (tenantId : String) (payload : ErasureRequest)
    (before after : Stores) : Prop where
  policies : after.rows.policies = before.rows.policies.map (eraseScope tenantId payload)
  deployments : after.rows.deployments = before.rows.deployments
  telemetry : ∀ row, row ∈ after.telemetry ↔
    row ∈ before.telemetry ∧ ¬ observes tenantId payload row
  audits : after.rows.audits = before.rows.audits.map (redact jsonText tenantId payload)

theorem Swept.congr {tenantId : String} {before after other : Stores}
    (swept : Swept jsonText tenantId payload before after) (rows : other.rows = after.rows)
    (telemetry : other.telemetry = after.telemetry) :
    Swept jsonText tenantId payload before other := by
  refine ⟨?_, ?_, ?_, ?_⟩
  · rw [rows, swept.policies]
  · rw [rows, swept.deployments]
  · rw [telemetry]
    exact swept.telemetry
  · rw [rows, swept.audits]

theorem swept_of_steps {first second third : Stores}
    (registry : eraseRegistry tenant.val payload stores = .ok first)
    (telemetry : eraseTelemetry tenant.val payload first = .ok second)
    (audit : redactAudit jsonText tenant.val payload second = .ok third) :
    Swept jsonText tenant.val payload stores third := by
  have erased := eraseRegistry_ok registry
  have deleted := Except.ok.inj (telemetry.symm.trans (eraseTelemetry_eq tenant payload first))
  have redacted := redactAudit_ok audit
  subst erased deleted redacted
  refine ⟨rfl, rfl, ?_, rfl⟩
  intro row
  simp only [List.mem_filter, decide_eq_true_eq]

theorem dispatch_swept
    (completed : (dispatch jsonText fates now tenant.val requestId payload stores).perStore.status =
      .completed) :
    Swept jsonText tenant.val payload stores
      (dispatch jsonText fates now tenant.val requestId payload stores).stores := by
  obtain ⟨registry, telemetry, audit⟩ := status_completed_iff.mp completed
  have swept := swept_of_steps
    (Calls.call_returns ((settledUnless_settled_iff (noted_settled payload.mode)).mp registry))
    (Calls.call_returns ((settledUnless_settled_iff rfl).mp telemetry))
    (Calls.call_returns ((settledUnless_settled_iff rfl).mp audit))
  have kept := (recordStatus_keeps tenant.val requestId
    (dispatch jsonText fates now tenant.val requestId payload stores).perStore now).call
      fates.record (Calls.call fates.audit (redactAudit jsonText tenant.val payload)
        (Calls.call fates.telemetry (eraseTelemetry tenant.val payload)
          (Calls.call fates.registry (eraseRegistry tenant.val payload) stores).1).1).1
  obtain ⟨rows, telemetry⟩ := Prod.mk.inj kept
  exact swept.congr rows telemetry

end Completed

section Recorded

variable {tenantId requestId : String} {stores : Stores}

/-- What the last `UPDATE` makes of a request. -/
def settleRow (tenantId requestId : String) (perStore : PerStoreStatus) (now : Nat)
    (row : ErasureRow) : ErasureRow :=
  if row.tenantId = tenantId ∧ row.requestId = requestId then
    { row with status := perStore.status, perStoreStatus := perStore, completedAt := some now }
  else row

theorem recordStatus_ok {tenant : TenantId} {perStore : PerStoreStatus} {now : Nat} {next : Stores}
    (success : recordStatus tenant.val requestId perStore now stores = .ok next) :
    next.requests = stores.requests.map (settleRow tenant.val requestId perStore now) := by
  rw [recordStatus, Checked.bind_ok_iff] at success
  obtain ⟨requests, updated, settled⟩ := success
  cases settled
  refine updateChecked_sweep (by decide) (tenantAccess_enforced _) (tenantAccess_tenant tenant.val)
    tenant.property ?_ updated
  constructor
  case keeps => exact fun row => rfl
  case stays => exact fun row => rfl
  case hits =>
    intro row hit
    simp only [eq_value_iff, Option.some.injEq] at hit
    exact if_pos hit
  case misses =>
    intro row missed
    simp only [eq_value_iff, Option.some.injEq] at missed
    exact if_neg missed

theorem mem_visible_requests {row : ErasureRow} :
    row ∈ visible requestTable (tenantAccess tenantId) stores.requests ↔
      row ∈ stores.requests ∧ tenantId ≠ "" ∧ row.tenantId = tenantId := by
  rw [requestTable, mem_visible_tenantAccess _ (by decide), Option.some.injEq]

theorem eraseRegistry_keeps (tenantId : String) (payload : ErasureRequest) :
    Calls.Keeps (fun stores : Stores => (stores.rows.audits, stores.requests))
      (eraseRegistry tenantId payload) := by
  intro stores next success
  unfold eraseRegistry at success
  split at success
  · cases success
    rfl
  · obtain ⟨policies, _, settled⟩ := (Checked.bind_ok_iff _ _ _).mp success
    cases settled
    rfl

theorem eraseTelemetry_keeps (tenantId : String) (payload : ErasureRequest) :
    Calls.Keeps (fun stores : Stores => (stores.rows.audits, stores.requests))
      (eraseTelemetry tenantId payload) := by
  intro stores next success
  unfold eraseTelemetry at success
  split at success
  · cases success
    rfl
  · obtain ⟨telemetry, _, settled⟩ := (Checked.bind_ok_iff _ _ _).mp success
    cases settled
    rfl

theorem redactAudit_requests (jsonText : Json → String) (payload : ErasureRequest) :
    Calls.Keeps Stores.requests (redactAudit jsonText tenantId payload) := by
  intro stores next success
  obtain ⟨audits, _, settled⟩ := (Checked.bind_ok_iff _ _ _).mp success
  cases settled
  rfl

theorem getRequest_settled {perStore : PerStoreStatus} {now : Nat} {next : Stores}
    (settled : next.requests = stores.requests.map (settleRow tenantId requestId perStore now))
    (found : (getRequest stores tenantId requestId).isSome = true) :
    (getRequest next tenantId requestId).map ErasureRow.status = some perStore.status := by
  obtain ⟨row, seen, key⟩ := List.find?_isSome.mp found
  rw [Bool.and_eq_true, beq_iff_eq, beq_iff_eq] at key
  obtain ⟨member, named, _⟩ := mem_visible_requests.mp seen
  have updated : settleRow tenantId requestId perStore now row =
      { row with status := perStore.status, perStoreStatus := perStore, completedAt := some now } :=
    if_pos key
  -- The updated row is there to be found, and only updated rows have its key.
  have present : (getRequest next tenantId requestId).isSome = true := by
    apply List.find?_isSome.mpr
    refine ⟨settleRow tenantId requestId perStore now row, ?_, by simp [updated, key.1, key.2]⟩
    rw [mem_visible_requests, settled]
    exact ⟨List.mem_map_of_mem member, named, by rw [updated]; exact key.1⟩
  obtain ⟨result, shown⟩ := Option.isSome_iff_exists.mp present
  rw [shown, Option.map_some]
  have stored := (mem_visible_requests.mp (List.mem_of_find?_eq_some shown)).1
  have keyed := List.find?_some shown
  rw [Bool.and_eq_true, beq_iff_eq, beq_iff_eq] at keyed
  rw [settled] at stored
  obtain ⟨old, _, same⟩ := List.mem_map.mp stored
  unfold settleRow at same
  split at same
  · rw [← same]
  · rename_i missed
    rw [same] at missed
    exact absurd keyed missed

/-- If the last transaction returns, `get` shows the request with the dispatcher's status. -/
theorem getRequest_dispatch (jsonText : Json → String) (fates : Fates) (now : Nat)
    (tenant : TenantId) (payload : ErasureRequest)
    (recorded : (dispatch jsonText fates now tenant.val requestId payload stores).raised = none)
    (found : (getRequest stores tenant.val requestId).isSome = true) :
    (getRequest (dispatch jsonText fates now tenant.val requestId payload stores).stores tenant.val
        requestId).map ErasureRow.status =
      some (dispatch jsonText fates now tenant.val requestId payload stores).perStore.status := by
  have settled := recordStatus_ok (Calls.call_returns recorded)
  have registry : Calls.Keeps Stores.requests (eraseRegistry tenant.val payload) :=
    (eraseRegistry_keeps tenant.val payload).map Prod.snd
  have telemetry : Calls.Keeps Stores.requests (eraseTelemetry tenant.val payload) :=
    (eraseTelemetry_keeps tenant.val payload).map Prod.snd
  rw [(redactAudit_requests jsonText payload).call, telemetry.call, registry.call] at settled
  exact getRequest_settled settled found

theorem insertRequest_ok {submission : Submission} {next : Stores}
    (success : insertRequest submission stores = .ok next) :
    submission.tenantId ≠ "" ∧
      next = { stores with requests := stores.requests ++ [submission.row] } := by
  unfold insertRequest at success
  dsimp only at success
  split at success
  · cases success
  · rename_i requests inserted
    split at success
    · cases success
    · cases success
      refine ⟨?_, by rw [insertRow_fail_ok inserted]⟩
      have admitted := insertRow_admitted (tenantAccess_enforced _) inserted
      rw [requestTable, admitsCheck_iff (by decide) (tenantAccess_tenant _)] at admitted
      exact admitted.1

/-- A submission that returns has a tenant with a name, who finds the request, and has left the
record of it. -/
theorem submit_returns {fates : Nat → Calls.Fate AuditError} {submission : Submission}
    (quiet : (submit fates submission stores).2 = none) :
    submission.tenantId ≠ "" ∧
      (getRequest (submit fates submission stores).1 submission.tenantId
        submission.requestId).isSome = true ∧
      ∃ row ∈ (submit fates submission stores).1.rows.audits,
        row.tenantId = submission.tenantId ∧ ownRecord submission.requestId row := by
  have effects := Calls.sequence_returns _ _ _ _ quiet
  rw [List.foldlM_cons, Checked.bind_ok_iff] at effects
  obtain ⟨inserted, insertion, effects⟩ := effects
  rw [List.foldlM_cons, Checked.bind_ok_iff] at effects
  obtain ⟨audited, auditing, last⟩ := effects
  change Except.ok audited = .ok (submit fates submission stores).1 at last
  rw [← Except.ok.inj last]
  obtain ⟨named, rfl⟩ := insertRequest_ok insertion
  rw [auditRequest, Checked.bind_ok_iff] at auditing
  obtain ⟨⟨audits, stored⟩, written, settled⟩ := auditing
  cases settled
  refine ⟨named, ?_, ?_⟩
  · apply List.find?_isSome.mpr
    refine ⟨submission.row, ?_, by simp [Submission.row]⟩
    rw [mem_visible_requests]
    exact ⟨List.mem_append_right _ (List.mem_singleton.mpr rfl), named, rfl⟩
  · obtain ⟨_, _, ⟨_, appended, _⟩ | ⟨row, member, correlation, kind, owner, same, _⟩⟩ :=
      write_ok written
    · dsimp only
      rw [appended]
      exact ⟨_, List.mem_append_right _ (List.mem_singleton.mpr rfl), rfl, rfl, rfl⟩
    · rw [same]
      exact ⟨row, member, owner, kind, correlation⟩

end Recorded

section Traces

variable {jsonText : Json → String} {tenantId requestId subject : String}
variable {payload : ErasureRequest} {before after : Stores}

/-- The subject occurs in the row's finding. -/
def findingMentions (subject : String) (row : AuditRow) : Bool :=
  row.originatingFinding.any fun finding => (Json.obj finding).mentions subject

/-- No store of the tenant holds the subject, apart from the request's own record. -/
structure Erased (tenantId requestId subject : String) (stores : Stores) : Prop where
  policies : ∀ row ∈ stores.rows.policies, row.tenantId = tenantId →
    scopeContains subject row.vehicleScope = false
  deployments : ∀ row ∈ stores.rows.deployments, row.tenantId = tenantId →
    row.vehicleScope.any (Json.isStr subject) = false
  telemetry : ∀ row ∈ stores.telemetry, row.tenantId = tenantId → row.vehicleId ≠ subject
  audits : ∀ row ∈ stores.rows.audits, row.tenantId = tenantId → ¬ ownRecord requestId row →
    row.principalSubject ≠ subject ∧ findingMentions subject row = false

/-- There is nothing to erase but what a request for a vehicle removes: the vehicle from the
scopes of policies, and its telemetry. -/
structure Untraced (jsonText : Json → String) (tenantId requestId : String)
    (payload : ErasureRequest) (stores : Stores) : Prop where
  policies : payload.subjectKind ≠ .vehicle → ∀ row ∈ stores.rows.policies,
    row.tenantId = tenantId → scopeContains payload.subjectIdentifier row.vehicleScope = false
  deployments : ∀ row ∈ stores.rows.deployments, row.tenantId = tenantId →
    row.vehicleScope.any (Json.isStr payload.subjectIdentifier) = false
  telemetry : payload.subjectKind ≠ .vehicle → ∀ row ∈ stores.telemetry,
    row.tenantId = tenantId → row.vehicleId ≠ payload.subjectIdentifier
  audits : ∀ row ∈ stores.rows.audits, row.tenantId = tenantId → ¬ ownRecord requestId row →
    ¬ concerns jsonText payload.subjectIdentifier row ∧
      findingMentions payload.subjectIdentifier row = false

theorem scopeContains_scopeWithout (vehicle : String) (scope : Json) :
    scopeContains vehicle (scopeWithout vehicle scope) = false := by
  cases scope with
  | arr items =>
      cases filtered : items.filter fun item => !item.isStr vehicle with
      | nil =>
          simp only [scopeWithout, filtered]
          rfl
      | cons first others =>
          simp only [scopeWithout, filtered, scopeContains]
          rw [← filtered, List.any_eq_false]
          intro item member
          simpa using (List.mem_filter.mp member).2
  | _ => rfl

theorem eraseScope_tenantId (row : PolicyRow) :
    (eraseScope tenantId payload row).tenantId = row.tenantId := by
  unfold eraseScope
  split <;> rfl

/-- A request for a vehicle takes it out of the scope of every policy of the tenant. -/
theorem eraseScope_vehicle (vehicle : payload.subjectKind = .vehicle) {row : PolicyRow}
    (own : row.tenantId = tenantId) :
    scopeContains payload.subjectIdentifier (eraseScope tenantId payload row).vehicleScope =
      false := by
  unfold eraseScope
  split
  · exact scopeContains_scopeWithout _ _
  · rename_i missed
    by_contra named
    exact missed ⟨vehicle, own, by simpa using named⟩

theorem eraseScope_other (kind : payload.subjectKind ≠ .vehicle) (row : PolicyRow) :
    eraseScope tenantId payload row = row :=
  if_neg fun hit => kind hit.1

/-- Redaction keeps whose row it is, and which record. -/
theorem redact_keeps (jsonText : Json → String) (tenantId requestId : String)
    (payload : ErasureRequest) (row : AuditRow) :
    (redact jsonText tenantId payload row).tenantId = row.tenantId ∧
      (ownRecord requestId (redact jsonText tenantId payload row) ↔ ownRecord requestId row) := by
  unfold redact
  split
  · exact ⟨rfl, Iff.rfl⟩
  · exact ⟨rfl, Iff.rfl⟩

/-- Redaction cleans no row: the rows that it finds keep their principal and have the subject
written into their finding, and it does not find those that merely mention the subject. -/
theorem redact_clean_iff {row : AuditRow} (own : row.tenantId = tenantId) :
    ((redact jsonText tenantId payload row).principalSubject ≠ payload.subjectIdentifier ∧
        findingMentions payload.subjectIdentifier (redact jsonText tenantId payload row) = false) ↔
      ¬ concerns jsonText payload.subjectIdentifier row ∧
        findingMentions payload.subjectIdentifier row = false := by
  by_cases about : concerns jsonText payload.subjectIdentifier row
  · have written : findingMentions payload.subjectIdentifier (redact jsonText tenantId payload row) =
        true := by
      rw [redact, if_pos ⟨own, about⟩]
      apply fieldsMention_of_mem (Dict.mem_set (row.originatingFinding.getD []) "redacted_subject"
        (.str payload.subjectIdentifier))
      simp [Json.mentions]
    simp [written, about]
  · have untouched : redact jsonText tenantId payload row = row := if_neg fun hit => about hit.2
    have principal : row.principalSubject ≠ payload.subjectIdentifier :=
      fun same => about (Or.inr same)
    simp [untouched, about, principal]

/-- After a sweep the stores are clean exactly if there was nothing else to erase before. -/
theorem Swept.erased_iff (swept : Swept jsonText tenantId payload before after) :
    Erased tenantId requestId payload.subjectIdentifier after ↔
      Untraced jsonText tenantId requestId payload before := by
  constructor
  · intro erased
    refine ⟨?_, ?_, ?_, ?_⟩
    · intro kind row member own
      apply erased.policies row _ own
      rw [swept.policies, ← eraseScope_other kind row]
      exact List.mem_map_of_mem member
    · rw [← swept.deployments]
      exact erased.deployments
    · intro kind row member own
      exact erased.telemetry row ((swept.telemetry row).mpr ⟨member, fun hit => kind hit.1⟩) own
    · intro row member own foreign
      obtain ⟨tenant, record⟩ := redact_keeps jsonText tenantId requestId payload row
      apply (redact_clean_iff own).mp
      apply erased.audits _ _ (tenant.trans own) (fun mine => foreign (record.mp mine))
      rw [swept.audits]
      exact List.mem_map_of_mem member
  · intro untraced
    refine ⟨?_, ?_, ?_, ?_⟩
    · intro row member own
      rw [swept.policies] at member
      obtain ⟨old, stored, rfl⟩ := List.mem_map.mp member
      rw [eraseScope_tenantId] at own
      by_cases vehicle : payload.subjectKind = .vehicle
      · exact eraseScope_vehicle vehicle own
      · rw [eraseScope_other vehicle]
        exact untraced.policies vehicle old stored own
    · rw [swept.deployments]
      exact untraced.deployments
    · intro row member own
      obtain ⟨stored, missed⟩ := (swept.telemetry row).mp member
      by_cases vehicle : payload.subjectKind = .vehicle
      · exact fun same => missed ⟨vehicle, own, same⟩
      · exact untraced.telemetry vehicle row stored own
    · intro row member own foreign
      rw [swept.audits] at member
      obtain ⟨old, stored, rfl⟩ := List.mem_map.mp member
      obtain ⟨tenant, record⟩ := redact_keeps jsonText tenantId requestId payload old
      rw [tenant] at own
      apply (redact_clean_iff own).mpr
      exact untraced.audits old stored own fun mine => foreign (record.mpr mine)

end Traces

/-- A completed erasure has erased exactly if there was nothing to erase but what a request for
a vehicle removes from policies and telemetry. -/
theorem completed_erased_iff_untraced (jsonText : Json → String) (fates : Fates) (now : Nat)
    (tenant : TenantId) (requestId : String) (payload : ErasureRequest) (stores : Stores) :
    ((dispatch jsonText fates now tenant.val requestId payload stores).perStore.status = .completed →
        Erased tenant.val requestId payload.subjectIdentifier
          (dispatch jsonText fates now tenant.val requestId payload stores).stores) ↔
      (¬ Completes jsonText fates tenant.val payload stores ∨
        Untraced jsonText tenant.val requestId payload stores) := by
  rw [← @dispatch_completed_iff jsonText fates now tenant requestId, ← imp_iff_not_or]
  refine imp_congr_right fun completed => ?_
  exact (dispatch_swept completed).erased_iff

/-- A policy for two vehicles, deployed to the first of them. -/
def sampleStores : Stores where
  rows := { (sampleTables publicTenant).rows with
    policies := (sampleTables publicTenant).rows.policies.map fun row =>
      { row with vehicleScope := .arr [.str "vehicle-1", .str "vehicle-2"] } }
  telemetry := []
  requests := []

def sampleRequest : ErasureRequest := ⟨.vehicle, "vehicle-1", .erased, by decide⟩

/-- The erasure of the first vehicle, with nothing going wrong. -/
def sampleDispatch : Dispatched :=
  dispatch (fun _ => "") ⟨.runs, .runs, .runs, .runs⟩ 20 publicTenant "request-1" sampleRequest
    sampleStores

/-- It completes, and the vehicle is still in the deployment's scope. -/
theorem completed_erased_fails_for_deployed_vehicle :
    sampleDispatch.perStore.status = .completed ∧
    ¬ Erased publicTenant "request-1" "vehicle-1" sampleDispatch.stores := by
  refine ⟨by decide +kernel, ?_⟩
  intro erased
  have named : ∃ row ∈ sampleDispatch.stores.rows.deployments, row.tenantId = publicTenant ∧
      row.vehicleScope.any (Json.isStr "vehicle-1") = true := by
    refine ⟨_, List.mem_singleton.mpr rfl, rfl, ?_⟩
    decide
  obtain ⟨row, member, own, scope⟩ := named
  rw [erased.deployments row member own] at scope
  cases scope

end CollectMind.Erasure
