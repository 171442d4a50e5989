import CollectMind.Graph.Runner

set_option autoImplicit false

/- What `run_async` leaves behind when one of its calls fails. The collector has accepted the
deployment before the first of them, and the handler writes its `rejected` row after any of
them, so both the registry rows and the verdict depend on where the run stops. -/
namespace CollectMind.Graph

open Python Registry Calls RowSecurity

variable {env : RunnerEnv} {session : PolicyGenerationSession}

/-- The calls of a run whose deployment was accepted. -/
def deployedCalls (env : RunnerEnv) (ended : PolicyGenerationSession) (policy : Dict)
    (record : DeploymentRecord) : List (Rows → Except String Rows) :=
  [auditCall env 0 (generatedEvent env ended policy), insertPolicy env ended policy,
    auditCall env 1 (.ok (validatedEvent env ended policy)), insertDeployment env ended record,
    auditCall env 2 (.ok (deployedEvent env ended policy record)), simulateCall env policy record]

theorem calls_completed (env : RunnerEnv) {result : GraphRun} {policy : Dict} {record : DeploymentRecord}
    (completed : result.finalState = .completed)
    (generated : result.session.generatedPolicy = some policy)
    (recorded : result.session.deploymentRecord = some record) :
    calls env result = deployedCalls env result.session policy record := by
  simp only [calls, completed, generated, recorded, Option.getD_some]
  rfl

theorem calls_deadLetter (env : RunnerEnv) {result : GraphRun} {policy : Dict}
    (dead : result.finalState = .deadLetter)
    (generated : result.session.generatedPolicy = some policy) :
    calls env result = [auditCall env 0 (generatedEvent env result.session policy),
      auditCall env 1 (deadLetterEvent env result.session)] := by
  simp only [calls, dead, generated]
  rfl

section Frames

theorem auditCall_keeps_policies (k : Nat) (event : Except String AuditEvent) :
    Keeps Rows.policies (auditCall env k event) := by
  intro rows next success
  obtain ⟨sent, _, ⟨appended, _⟩ | ⟨unchanged, _⟩⟩ := auditCall_ok success
  · rw [appended]
  · rw [unchanged]

theorem auditCall_keeps_deployments (k : Nat) (event : Except String AuditEvent) :
    Keeps Rows.deployments (auditCall env k event) := by
  intro rows next success
  obtain ⟨sent, _, ⟨appended, _⟩ | ⟨unchanged, _⟩⟩ := auditCall_ok success
  · rw [appended]
  · rw [unchanged]

theorem insertPolicy_keeps_deployments (ended : PolicyGenerationSession) (policy : Dict) :
    Keeps Rows.deployments (insertPolicy env ended policy) := by
  intro rows next success
  obtain ⟨row, effect, _⟩ := insertPolicy_ok success
  rw [effect]

theorem insertPolicy_keeps_audits (env : RunnerEnv) (ended : PolicyGenerationSession) (policy : Dict) :
    Keeps Rows.audits (insertPolicy env ended policy) := by
  intro rows next success
  obtain ⟨row, effect, _⟩ := insertPolicy_ok success
  rw [effect]

theorem insertDeployment_keeps_policies (ended : PolicyGenerationSession)
    (record : DeploymentRecord) : Keeps Rows.policies (insertDeployment env ended record) := by
  intro rows next success
  obtain ⟨row, effect, _⟩ := insertDeployment_ok success
  rw [effect]

theorem insertDeployment_keeps_audits (env : RunnerEnv) (ended : PolicyGenerationSession)
    (record : DeploymentRecord) : Keeps Rows.audits (insertDeployment env ended record) := by
  intro rows next success
  obtain ⟨row, effect, _⟩ := insertDeployment_ok success
  rw [effect]

theorem simulateCall_keeps {τ : Type} (view : Rows → τ) (policy : Dict)
    (record : DeploymentRecord) : Keeps view (simulateCall env policy record) := by
  intro rows next success
  rw [simulateCall_ok success]

/-- The handler's own write touches audit rows only. -/
theorem runAsync_view {τ : Type} (view : Rows → τ)
    (keeps : ∀ k event, Keeps view (auditCall env k event)) (fates : Nat → Fate String)
    (last : Fate String) (rows : Rows) :
    view (runAsync env session fates last rows).1 = view (runOnce env session fates rows).1 := by
  unfold runAsync
  split
  · rename_i next outcome
    rw [outcome]
  · rename_i next message outcome
    rw [outcome]
    exact (keeps 3 _).call last next

end Frames

section Tracking

/-- The collector was called in the session's run and accepted the deployment. -/
structure Accepted (env : RunnerEnv) (session : PolicyGenerationSession) (call : DeployCall)
    (response : DeployResponse) : Prop where
  sent : call ∈ (run env.graph session).calls
  answered : env.graph.deploy call = .ok response
  accepted : response.status = "accepted"

/-- The row of the policy version that was deployed. -/
def PolicyTracked (session : PolicyGenerationSession) (call : DeployCall)
    (policies : List PolicyRow) : Prop :=
  ∃ row ∈ policies, row.tenantId = session.tenantId ∧ call.policyId = .str row.policyId ∧
    call.version = .str row.version

/-- A row for the deployment that was accepted. -/
def TargetTracked (env : RunnerEnv) (session : PolicyGenerationSession) (call : DeployCall)
    (response : DeployResponse) (deployments : List DeploymentRow) : Prop :=
  ∃ row ∈ deployments,
    row.deploymentId = (deploymentRecord env.graph call response).deploymentId ∧
    row.tenantId = session.tenantId ∧ call.policyId = .str row.policyId ∧
    call.version = .str row.version

/-- After `run_async` the registry has both rows of every deployment that was accepted in it. -/
def NoneUntracked (env : RunnerEnv) (session : PolicyGenerationSession) (fates : Nat → Fate String)
    (last : Fate String) (rows : Rows) : Prop :=
  ∀ call response, Accepted env session call response →
    PolicyTracked session call (runAsync env session fates last rows).1.policies ∧
      TargetTracked env session call response (runAsync env session fates last rows).1.deployments

/-- Each of the two rows was there before, or its insert is reached and commits: the calls
before it return, and it does not roll back. They are the second and fourth of the run. -/
def InsertsCommit (env : RunnerEnv) (session : PolicyGenerationSession) (fates : Nat → Fate String)
    (rows : Rows) (call : DeployCall) (response : DeployResponse) : Prop :=
  ∀ result, (run env.graph session).outcome = .ok result →
    (PolicyTracked session call rows.policies ∨ CommitsAt fates 0 (calls env result) 1 rows) ∧
      (TargetTracked env session call response rows.deployments ∨
        CommitsAt fates 0 (calls env result) 3 rows)

theorem policyTracked_iff {call : DeployCall} {response : DeployResponse} {result : GraphRun}
    (fates : Nat → Fate String) (last : Fate String) (rows : Rows)
    (success : (run env.graph session).outcome = .ok result)
    (delivered : Delivered env.graph session call response result) :
    PolicyTracked session call (runAsync env session fates last rows).1.policies ↔
      PolicyTracked session call rows.policies ∨ CommitsAt fates 0 (calls env result) 1 rows := by
  obtain ⟨policy, generated, listed⟩ := delivered.listed
  have shape := calls_completed env delivered.completed generated delivered.record
  rw [runAsync_view Rows.policies auditCall_keeps_policies, runOnce, success]
  simp only [shape]
  apply sequence_establishes (fun rows : Rows => PolicyTracked session call rows.policies) fates 0
    ((deployedCalls env result.session policy (deploymentRecord env.graph call response)).take 1)
    (insertPolicy env result.session policy)
    ((deployedCalls env result.session policy (deploymentRecord env.graph call response)).drop 2)
  · intro operation member
    apply Keeps.map
    revert operation
    simp [deployedCalls, auditCall_keeps_policies]
  · intro operation member
    apply Keeps.map
    revert operation
    simp [deployedCalls, auditCall_keeps_policies, insertDeployment_keeps_policies,
      simulateCall_keeps]
  · intro mid next effect
    obtain ⟨row, stored, tenant, named⟩ := insertPolicy_ok effect
    obtain ⟨callId, callVersion⟩ := deployCall_named listed named
    refine ⟨row, ?_, tenant.trans (run_ended success).tenantId, callId, callVersion⟩
    rw [stored]
    exact List.mem_append_right _ (List.mem_singleton.mpr rfl)

theorem targetTracked_iff {call : DeployCall} {response : DeployResponse} {result : GraphRun}
    (fates : Nat → Fate String) (last : Fate String) (rows : Rows)
    (success : (run env.graph session).outcome = .ok result)
    (delivered : Delivered env.graph session call response result) :
    TargetTracked env session call response (runAsync env session fates last rows).1.deployments ↔
      TargetTracked env session call response rows.deployments ∨
        CommitsAt fates 0 (calls env result) 3 rows := by
  obtain ⟨policy, generated, _⟩ := delivered.listed
  have shape := calls_completed env delivered.completed generated delivered.record
  rw [runAsync_view Rows.deployments auditCall_keeps_deployments, runOnce, success]
  simp only [shape]
  apply sequence_establishes
    (fun rows : Rows => TargetTracked env session call response rows.deployments) fates 0
    ((deployedCalls env result.session policy (deploymentRecord env.graph call response)).take 3)
    (insertDeployment env result.session (deploymentRecord env.graph call response))
    ((deployedCalls env result.session policy (deploymentRecord env.graph call response)).drop 4)
  · intro operation member
    apply Keeps.map
    revert operation
    simp [deployedCalls, auditCall_keeps_deployments, insertPolicy_keeps_deployments]
  · intro operation member
    apply Keeps.map
    revert operation
    simp [deployedCalls, auditCall_keeps_deployments, simulateCall_keeps]
  · intro mid next effect
    obtain ⟨row, stored, deploymentId, tenant, rowId, rowVersion, _⟩ := insertDeployment_ok effect
    refine ⟨row, ?_, deploymentId, tenant.trans (run_ended success).tenantId, rowId, rowVersion⟩
    rw [stored]
    exact List.mem_append_right _ (List.mem_singleton.mpr rfl)

/-- Every accepted deployment is tracked exactly if, for each of them, both rows were there or
both inserts commit. -/
theorem noneUntracked_iff_insertsCommit (env : RunnerEnv) (session : PolicyGenerationSession)
    (fates : Nat → Fate String) (last : Fate String) (rows : Rows) :
    NoneUntracked env session fates last rows ↔
      ∀ call response, Accepted env session call response →
        InsertsCommit env session fates rows call response := by
  constructor
  · intro tracked call response accepted result success
    obtain ⟨other, outcome, delivered⟩ :=
      run_delivered accepted.sent accepted.answered accepted.accepted
    have same : other = result := Except.ok.inj (outcome.symm.trans success)
    rw [same] at delivered
    obtain ⟨policy, target⟩ := tracked call response accepted
    exact ⟨(policyTracked_iff fates last rows success delivered).mp policy,
      (targetTracked_iff fates last rows success delivered).mp target⟩
  · intro commit call response accepted
    obtain ⟨result, success, delivered⟩ :=
      run_delivered accepted.sent accepted.answered accepted.accepted
    obtain ⟨policy, target⟩ := commit call response accepted result success
    exact ⟨(policyTracked_iff fates last rows success delivered).mpr policy,
      (targetTracked_iff fates last rows success delivered).mpr target⟩

/-- The registry of a tenant that has the sample policy's version already. -/
def versionTaken : Rows :=
  { tenants := ["tenant-a"]
    audits := []
    policies := [{
      tenantId := "tenant-a"
      policyId := "policy-1"
      version := "1.0.0"
      signalSpec := .arr [.obj [("vss_name", .str "Vehicle.Speed")]]
      triggerConditions := .arr []
      collectionWindowHoursLogical := 24
      vehicleScope := .arr [.str "vehicle-1"]
      hypothesisStatement := "earlier"
      dataGovernanceFlags := .obj []
      confidenceThreshold := .finite 1
      generatedFromSessionId := "session-0"
      originatingFinding := .obj []
      promptTemplateVersion := "1.0.0"
      slmRepo := "repo"
      slmRevisionSha := "0123456789012345678901234567890123456789"
      slmRuntime := "stub"
      slmRuntimeVersion := "1"
      slmQuantization := "none"
      slmDecodingSeed := 0
      payloadSignature := "signature"
      signatureKeyId := "key"
      createdAt := 0 }]
    deployments := [] }

/-- The collector accepts, the policy's insert meets the primary key, and no row of the
deployment is ever written. -/
theorem noneUntracked_fails_for_taken_version :
    ¬ NoneUntracked sampleRunner sampleSession (fun _ => .runs) .runs versionTaken := by
  intro tracked
  have called : (run sampleRunner.graph sampleSession).calls.any (fun _ => true) = true := by
    decide +kernel
  have untouched : (runAsync sampleRunner sampleSession (fun _ => .runs) .runs
      versionTaken).1.deployments.isEmpty = true := by
    decide +kernel
  obtain ⟨call, sent, _⟩ := List.any_eq_true.mp called
  obtain ⟨row, member, _⟩ := (tracked call _ ⟨sent, rfl, rfl⟩).2
  rw [List.isEmpty_iff.mp untouched] at member
  cases member

end Tracking

section Recorded

/-- What the constraints of `audit_events` ask of the columns that come from the session. -/
structure Registered (session : PolicyGenerationSession) (rows : Rows) : Prop where
  tenantId : session.tenantId ≠ ""
  known : session.tenantId ∈ rows.tenants
  sessionId : session.sessionId ≠ ""
  correlationId : session.correlationId ≠ ""

/-- The id drawn for the runner's event `k` has not been used, in the table or in this run. -/
structure FreshId (env : RunnerEnv) (rows : Rows) (k : Nat) : Prop where
  nonempty : env.eventId k ≠ ""
  unused : ∀ row ∈ rows.audits, row.eventId ≠ env.eventId k
  distinct : ∀ j < k, env.eventId j ≠ env.eventId k

/-- The registry can take the rows of a completed run, up to its `deployed` row. -/
structure Recordable (env : RunnerEnv) (ended : PolicyGenerationSession) (policy : Dict)
    (record : DeploymentRecord) (rows : Rows) : Prop where
  registered : Registered ended rows
  generated : ∃ event, generatedEvent env ended policy = .ok event ∧ event.slm.missing = []
  policyRow : ∃ row, policyRow env.converters ended.tenantId policy (auditMeta env ended policy)
      env.now = .ok row ∧
    row.stored.checked = true ∧ ∀ other ∈ rows.policies, other.key ≠ row.key
  deploymentId : record.deploymentId ≠ ""
  undeployed : ∀ row ∈ rows.deployments, row.deploymentId ≠ record.deploymentId
  freshIds : ∀ k < 3, FreshId env rows k

/-- The conditions on which the session's first event of a kind is stored. -/
theorem auditCall_free_iff {k : Nat} {event : AuditEvent} {kind : AuditKind} {rows next : Rows}
    (ours : Ours session kind event) (subject : event.principalSubject = session.sessionId)
    (free : ∀ row ∈ rows.audits, row.correlationId = session.correlationId → row.kind ≠ kind) :
    auditCall env k (.ok event) rows = .ok next ↔
      (Registered session rows ∧ event.missing = [] ∧ env.eventId k ≠ "" ∧
        ∀ row ∈ rows.audits, row.eventId ≠ env.eventId k) ∧
      next = { rows with audits := rows.audits ++ [event.row (env.eventId k) env.now] } := by
  have unseen : rows.audits.any (sameEvent (event.row (env.eventId k) env.now)) = false := by
    rw [List.any_eq_false]
    intro row member same
    obtain ⟨correlation, sameKind⟩ := sameEvent_iff.mp same
    exact free row member (correlation.trans ours.correlationId) (sameKind.trans ours.kind)
  constructor
  · intro success
    simp only [auditCall, bind, Except.bind] at success
    split at success
    · rename_i audits stored outcome
      cases success
      obtain ⟨⟨complete, checked, tenant, known, unique⟩, rfl, rfl⟩ :=
        (write_free_iff unseen).mp outcome
      obtain ⟨nonempty, sessionId, correlationId⟩ := (row_checked_iff complete _ _).mp checked
      rw [ours.tenantId] at tenant known
      rw [subject] at sessionId
      rw [ours.correlationId] at correlationId
      exact ⟨⟨⟨tenant, known, sessionId, correlationId⟩, complete, nonempty, unique⟩, rfl⟩
    · cases success
  · rintro ⟨⟨registered, complete, nonempty, unique⟩, rfl⟩
    have checked := (row_checked_iff complete (env.eventId k) env.now).mpr
      ⟨nonempty, subject ▸ registered.sessionId, ours.correlationId ▸ registered.correlationId⟩
    have stored : write rows.tenants rows.audits event (env.eventId k) env.now =
        .ok (rows.audits ++ [event.row (env.eventId k) env.now], env.eventId k) :=
      write_fresh complete checked (ours.tenantId ▸ registered.tenantId)
        (ours.tenantId ▸ registered.known) unique unseen
    simp only [auditCall, bind, Except.bind, stored]

/-- Rows of other kinds leave the key of an event free. -/
theorem Unused.free {rows : Rows} {kind : AuditKind} {written : List AuditRow}
    (unused : Unused session rows) (known : kind ∈ runnerKinds)
    (others : ∀ row ∈ written, row.kind ≠ kind) :
    ∀ row ∈ rows.audits ++ written, row.correlationId = session.correlationId → row.kind ≠ kind := by
  intro row member same ofKind
  rcases List.mem_append.mp member with earlier | added
  · exact unused row earlier same (ofKind ▸ known)
  · exact others row added ofKind

theorem insertPolicy_iff {ended : PolicyGenerationSession} {policy : Dict} {rows next : Rows} :
    insertPolicy env ended policy rows = .ok next ↔
      ∃ row, policyRow env.converters ended.tenantId policy (auditMeta env ended policy) env.now =
          .ok row ∧
        (ended.tenantId ≠ "" ∧ ended.tenantId ∈ rows.tenants) ∧
        (row.stored.checked = true ∧ ∀ other ∈ rows.policies, other.key ≠ row.key) ∧
        next = { rows with policies := rows.policies ++ [row.stored] } := by
  rw [insertPolicy, Checked.bind_ok_iff]
  constructor
  · rintro ⟨row, built, inserted⟩
    obtain ⟨named, known, checked, fresh, effect⟩ :=
      insertPolicyRow_iff.mp (Checked.mapError_ok inserted)
    rw [(policyRow_ok built).tenantId] at named known
    exact ⟨row, built, ⟨named, known⟩, ⟨checked, fresh⟩, effect⟩
  · rintro ⟨row, built, ⟨named, known⟩, ⟨checked, fresh⟩, rfl⟩
    rw [← (policyRow_ok built).tenantId] at named known
    refine ⟨row, built, ?_⟩
    rw [insertPolicyRow_iff.mpr ⟨named, known, checked, fresh, rfl⟩]
    rfl

/-- The deployment of a policy that is stored needs an id of its own, and no more. -/
theorem insertDeployment_stored_iff {ended : PolicyGenerationSession} {record : DeploymentRecord}
    {rows : Rows} {row : PolicyRow} (tenant : ended.tenantId ≠ "")
    (known : ended.tenantId ∈ rows.tenants) (stored : row.stored ∈ rows.policies)
    (owner : row.tenantId = ended.tenantId) (checked : row.stored.checked = true)
    (policyId : record.policyId = .str row.policyId) (version : record.version = .str row.version)
    (scope : record.vehicleScope ≠ []) (accepted : record.status = "accepted") :
    (∃ next, insertDeployment env ended record rows = .ok next) ↔
      record.deploymentId ≠ "" ∧
        ∀ other ∈ rows.deployments, other.deploymentId ≠ record.deploymentId := by
  have semver : postgresSemver row.version = true := by
    simp only [PolicyRow.checked, Bool.and_eq_true] at checked
    exact checked.1.1.1.1.1.1.1.1.1.1.1.2
  constructor
  · rintro ⟨next, success⟩
    rw [insertDeployment, Checked.bind_ok_iff] at success
    obtain ⟨_, _, success⟩ := success
    rw [Checked.bind_ok_iff] at success
    obtain ⟨_, _, inserted⟩ := success
    obtain ⟨_, _, rowChecked, fresh, _⟩ := insertDeploymentRow_iff.mp (Checked.mapError_ok inserted)
    simp only [DeploymentRow.checked, Bool.and_eq_true, bne_iff_ne] at rowChecked
    exact ⟨rowChecked.1.1.1.1, fresh⟩
  · rintro ⟨nonempty, fresh⟩
    simp only [insertDeployment, policyId, version, Converters.text, bind, Except.bind]
    refine ⟨_, congrArg (Except.mapError env.driver) (insertDeploymentRow_iff.mpr
      ⟨tenant, known, ?_, fresh, ⟨row.stored, stored, ?_⟩, rfl⟩)⟩
    · simp only [DeploymentRow.checked, Bool.and_eq_true, bne_iff_ne, Bool.not_eq_true',
        List.isEmpty_eq_false_iff]
      exact ⟨⟨⟨⟨nonempty, semver⟩, by decide⟩, scope⟩, by rw [accepted]; decide⟩
    · exact congrArg (fun tenantId => (tenantId, row.policyId, row.version)) owner

theorem generatedEvent_subject {policy : Dict} {sent : AuditEvent}
    (built : generatedEvent env session policy = .ok sent) :
    sent.principalSubject = session.sessionId := by
  rw [generatedEvent] at built
  iterate 8 obtain ⟨_, _, built⟩ := (Checked.bind_ok_iff _ _ _).mp built
  cases built
  rfl

/-- A scope that the policy's row may have is not empty for the collector either. -/
theorem scope_of_checked {tenantId : String} {policy : Dict} {call : DeployCall} {row : PolicyRow}
    (listed : deployCall env.graph tenantId policy = some call)
    (found : policy.get "vehicle_scope" = some row.vehicleScope)
    (checked : row.stored.checked = true) : call.vehicleScope ≠ [] := by
  have nonempty : nonEmptyArray row.vehicleScope = true := by
    simp only [PolicyRow.checked, Bool.and_eq_true] at checked
    exact checked.1.1.1.1.1.1.2
  rw [deployCall, found, Option.getD_some, Option.map_eq_some_iff] at listed
  obtain ⟨scope, items, rfl⟩ := listed
  cases shape : row.vehicleScope with
  | arr values =>
      rw [shape] at nonempty items
      cases items
      simpa [nonEmptyArray] using nonempty
  | _ =>
      rw [shape] at nonempty
      cases nonempty

section Effects

variable {ended : PolicyGenerationSession} {policy : Dict} {call : DeployCall}
  {response : DeployResponse} {rows : Rows}

/-- An id is new if neither the table has it nor the rows that this run has written. -/
theorem freshId_iff {k : Nat} {written : List AuditRow}
    (ids : written.map AuditRow.eventId = (List.range k).map env.eventId) :
    FreshId env rows k ↔ env.eventId k ≠ "" ∧ (∀ row ∈ rows.audits, row.eventId ≠ env.eventId k) ∧
      ∀ row ∈ written, row.eventId ≠ env.eventId k := by
  have apart : (∀ row ∈ written, row.eventId ≠ env.eventId k) ↔
      ∀ j < k, env.eventId j ≠ env.eventId k := by
    rw [← List.forall_mem_map (P := (· ≠ env.eventId k)), ids]
    simp only [List.forall_mem_map, List.mem_range]
  rw [apart]
  exact ⟨fun fresh => ⟨fresh.nonempty, fresh.unused, fresh.distinct⟩,
    fun ⟨nonempty, unused, distinct⟩ => ⟨nonempty, unused, distinct⟩⟩

theorem generatedCall_iff {next : Rows} (unused : Unused ended rows) :
    auditCall env 0 (generatedEvent env ended policy) rows = .ok next ↔
      ∃ event, generatedEvent env ended policy = .ok event ∧
        (Registered ended rows ∧ event.slm.missing = [] ∧ FreshId env rows 0) ∧
        next = { rows with audits := rows.audits ++ [event.row (env.eventId 0) env.now] } := by
  have free : ∀ row ∈ rows.audits, row.correlationId = ended.correlationId →
      row.kind ≠ .generated := by
    intro row member same ofKind
    exact unused row member same (ofKind ▸ by decide)
  have fresh : FreshId env rows 0 ↔
      env.eventId 0 ≠ "" ∧ ∀ row ∈ rows.audits, row.eventId ≠ env.eventId 0 := by
    have ids : ([] : List AuditRow).map AuditRow.eventId = (List.range 0).map env.eventId := rfl
    rw [freshId_iff ids]
    simp
  have stored : ∀ {event}, generatedEvent env ended policy = .ok event →
      (auditCall env 0 (.ok event) rows = .ok next ↔
        (Registered ended rows ∧ event.slm.missing = [] ∧ FreshId env rows 0) ∧
        next = { rows with audits := rows.audits ++ [event.row (env.eventId 0) env.now] }) := by
    intro event built
    have columns : event.missing = event.slm.missing := by
      rw [AuditEvent.missing, (generatedEvent_ours built).kind]
    rw [auditCall_free_iff (generatedEvent_ours built) (generatedEvent_subject built) free, columns,
      fresh]
  constructor
  · intro success
    obtain ⟨event, built, _⟩ := auditCall_ok success
    rw [built] at success
    exact ⟨event, built, (stored built).mp success⟩
  · rintro ⟨event, built, facts⟩
    rw [built]
    exact (stored built).mpr facts

/-- The audit rows of a completed run up to its `deployed` row. -/
def recordedRows (env : RunnerEnv) (ended : PolicyGenerationSession) (policy : Dict)
    (record : DeploymentRecord) (generated : AuditEvent) : List AuditRow :=
  [generated.row (env.eventId 0) env.now,
    (validatedEvent env ended policy).row (env.eventId 1) env.now,
    (deployedEvent env ended policy record).row (env.eventId 2) env.now]

/-- The stores between the calls of a completed run, up to its `deployed` row. -/
structure Steps (env : RunnerEnv) (ended : PolicyGenerationSession) (policy : Dict)
    (record : DeploymentRecord) (rows first second third fourth fifth : Rows) : Prop where
  generated : auditCall env 0 (generatedEvent env ended policy) rows = .ok first
  inserted : insertPolicy env ended policy first = .ok second
  validated : auditCall env 1 (.ok (validatedEvent env ended policy)) second = .ok third
  deployment : insertDeployment env ended record third = .ok fourth
  deployed : auditCall env 2 (.ok (deployedEvent env ended policy record)) fourth = .ok fifth

/-- The row of a call is stored if its id is new, and its key is one that no earlier call has
used. -/
theorem auditCall_later_iff {k : Nat} {event : AuditEvent} {kind : AuditKind}
    {before next : Rows} {written : List AuditRow} (unused : Unused ended rows)
    (known : kind ∈ runnerKinds) (others : ∀ row ∈ written, row.kind ≠ kind)
    (ids : written.map AuditRow.eventId = (List.range k).map env.eventId)
    (audits : before.audits = rows.audits ++ written) (tenants : before.tenants = rows.tenants)
    (ours : Ours ended kind event) (subject : event.principalSubject = ended.sessionId)
    (complete : event.missing = []) (registered : Registered ended rows) :
    auditCall env k (.ok event) before = .ok next ↔ FreshId env rows k ∧
      next = { before with audits := before.audits ++ [event.row (env.eventId k) env.now] } := by
  have same : Registered ended before := ⟨registered.tenantId, tenants ▸ registered.known,
    registered.sessionId, registered.correlationId⟩
  have free := unused.free known others
  rw [← audits] at free
  rw [auditCall_free_iff ours subject free, freshId_iff ids, ← List.forall_mem_append, ← audits]
  constructor
  · rintro ⟨⟨_, _, unique⟩, effect⟩
    exact ⟨unique, effect⟩
  · rintro ⟨unique, effect⟩
    exact ⟨⟨same, complete, unique⟩, effect⟩

theorem validatedEvent_ours (env : RunnerEnv) (ended : PolicyGenerationSession) (policy : Dict) :
    Ours ended .validated (validatedEvent env ended policy) :=
  ⟨rfl, rfl, rfl⟩

theorem deployedEvent_ours (env : RunnerEnv) (ended : PolicyGenerationSession) (policy : Dict)
    (record : DeploymentRecord) : Ours ended .deployed (deployedEvent env ended policy record) :=
  ⟨rfl, rfl, rfl⟩

theorem validatedCall_iff {event : AuditEvent} {before next : Rows} (unused : Unused ended rows)
    (registered : Registered ended rows) (built : generatedEvent env ended policy = .ok event)
    (audits : before.audits = rows.audits ++ [event.row (env.eventId 0) env.now])
    (tenants : before.tenants = rows.tenants) :
    auditCall env 1 (.ok (validatedEvent env ended policy)) before = .ok next ↔
      FreshId env rows 1 ∧ next = { before with audits := before.audits ++
        [(validatedEvent env ended policy).row (env.eventId 1) env.now] } := by
  have others : ∀ row ∈ [event.row (env.eventId 0) env.now], row.kind ≠ .validated := by
    simp [AuditEvent.row, (generatedEvent_ours built).kind]
  exact auditCall_later_iff unused (by decide) others rfl audits tenants
    (validatedEvent_ours env ended policy) rfl rfl registered

theorem deployedCall_iff {event : AuditEvent} {before next : Rows} (record : DeploymentRecord)
    (unused : Unused ended rows) (registered : Registered ended rows)
    (built : generatedEvent env ended policy = .ok event)
    (audits : before.audits = rows.audits ++ [event.row (env.eventId 0) env.now,
      (validatedEvent env ended policy).row (env.eventId 1) env.now])
    (tenants : before.tenants = rows.tenants) :
    auditCall env 2 (.ok (deployedEvent env ended policy record)) before = .ok next ↔
      FreshId env rows 2 ∧ next = { before with audits := before.audits ++
        [(deployedEvent env ended policy record).row (env.eventId 2) env.now] } := by
  have others : ∀ row ∈ [event.row (env.eventId 0) env.now,
      (validatedEvent env ended policy).row (env.eventId 1) env.now], row.kind ≠ .deployed := by
    simp [AuditEvent.row, (generatedEvent_ours built).kind, validatedEvent]
  exact auditCall_later_iff unused (by decide) others rfl audits tenants
    (deployedEvent_ours env ended policy record) rfl rfl registered

/-- Once the policy is stored, its deployment needs an id of its own. -/
theorem deploymentCall_iff {row : PolicyRow} {before : Rows} (registered : Registered ended rows)
    (listed : deployCall env.graph ended.tenantId policy = some call)
    (accepted : response.status = "accepted")
    (built : policyRow env.converters ended.tenantId policy (auditMeta env ended policy) env.now =
      .ok row)
    (checked : row.stored.checked = true) (tenants : before.tenants = rows.tenants)
    (policies : before.policies = rows.policies ++ [row.stored])
    (deployments : before.deployments = rows.deployments) :
    (∃ next, insertDeployment env ended (deploymentRecord env.graph call response) before =
        .ok next) ↔
      (deploymentRecord env.graph call response).deploymentId ≠ "" ∧ ∀ other ∈ rows.deployments,
        other.deploymentId ≠ (deploymentRecord env.graph call response).deploymentId := by
  have rowOf := policyRow_ok built
  obtain ⟨callId, callVersion⟩ := deployCall_named listed ⟨rowOf.policyId, rowOf.version⟩
  have known : ended.tenantId ∈ before.tenants := tenants ▸ registered.known
  have stored : row.stored ∈ before.policies := by
    rw [policies]
    exact List.mem_append_right _ (List.mem_singleton.mpr rfl)
  rw [← deployments]
  exact insertDeployment_stored_iff registered.tenantId known stored rowOf.tenantId checked callId
    callVersion (scope_of_checked listed rowOf.vehicleScope checked) accepted

theorem Steps.recordable {first second third fourth fifth : Rows} (unused : Unused ended rows)
    (listed : deployCall env.graph ended.tenantId policy = some call)
    (accepted : response.status = "accepted")
    (steps : Steps env ended policy (deploymentRecord env.graph call response) rows first second
      third fourth fifth) :
    Recordable env ended policy (deploymentRecord env.graph call response) rows ∧
      fifth.tenants = rows.tenants ∧ ∃ event, generatedEvent env ended policy = .ok event ∧
        fifth.audits = rows.audits ++
          recordedRows env ended policy (deploymentRecord env.graph call response) event := by
  obtain ⟨event, built, ⟨registered, columns, fresh₀⟩, effect₁⟩ :=
    (generatedCall_iff unused).mp steps.generated
  obtain ⟨row, rowBuilt, _, ⟨checked, fresh⟩, effect₂⟩ := insertPolicy_iff.mp steps.inserted
  obtain ⟨fresh₁, effect₃⟩ := (validatedCall_iff unused registered built
    (by rw [effect₂, effect₁]) (by rw [effect₂, effect₁])).mp steps.validated
  obtain ⟨named, undeployed⟩ := (deploymentCall_iff registered listed accepted rowBuilt checked
    (by rw [effect₃, effect₂, effect₁]) (by rw [effect₃, effect₂, effect₁])
    (by rw [effect₃, effect₂, effect₁])).mp ⟨fourth, steps.deployment⟩
  obtain ⟨target, effect₄, _⟩ := insertDeployment_ok steps.deployment
  have audits : fourth.audits = rows.audits ++ [event.row (env.eventId 0) env.now,
      (validatedEvent env ended policy).row (env.eventId 1) env.now] := by
    rw [effect₄, effect₃, effect₂, effect₁]
    exact List.append_assoc _ _ _
  obtain ⟨fresh₂, effect₅⟩ := (deployedCall_iff _ unused registered built audits
    (by rw [effect₄, effect₃, effect₂, effect₁])).mp steps.deployed
  rw [effect₁] at fresh
  refine ⟨⟨registered, ⟨event, built, columns⟩, ⟨row, rowBuilt, checked, fresh⟩, named, undeployed,
    ?_⟩, ?_, event, built, ?_⟩
  · intro k below
    obtain rfl | rfl | rfl : k = 0 ∨ k = 1 ∨ k = 2 := by omega
    · exact fresh₀
    · exact fresh₁
    · exact fresh₂
  · rw [effect₅, effect₄, effect₃, effect₂, effect₁]
  · rw [effect₅, audits, List.append_assoc]
    rfl

/-- A registry that can take the rows of a completed run does take them. -/
theorem Recordable.steps (unused : Unused ended rows)
    (listed : deployCall env.graph ended.tenantId policy = some call)
    (accepted : response.status = "accepted")
    (recordable : Recordable env ended policy (deploymentRecord env.graph call response) rows) :
    ∃ first second third fourth fifth, Steps env ended policy
      (deploymentRecord env.graph call response) rows first second third fourth fifth := by
  obtain ⟨registered, ⟨event, built, columns⟩, ⟨row, rowBuilt, checked, fresh⟩, named, undeployed,
    freshIds⟩ := recordable
  obtain ⟨first, effect₁⟩ : ∃ first, first =
      { rows with audits := rows.audits ++ [event.row (env.eventId 0) env.now] } := ⟨_, rfl⟩
  have wroteGenerated := (generatedCall_iff unused).mpr
    ⟨event, built, ⟨registered, columns, freshIds 0 (by decide)⟩, effect₁⟩
  obtain ⟨second, effect₂⟩ : ∃ second, second =
      { first with policies := first.policies ++ [row.stored] } := ⟨_, rfl⟩
  have inserted := insertPolicy_iff.mpr ⟨row, rowBuilt,
    ⟨registered.tenantId, by rw [effect₁]; exact registered.known⟩,
    ⟨checked, by rw [effect₁]; exact fresh⟩, effect₂⟩
  obtain ⟨third, effect₃⟩ : ∃ third, third = { second with
      audits := second.audits ++ [(validatedEvent env ended policy).row (env.eventId 1) env.now] } :=
    ⟨_, rfl⟩
  have wroteValidated := (validatedCall_iff unused registered built (by rw [effect₂, effect₁])
    (by rw [effect₂, effect₁])).mpr ⟨freshIds 1 (by decide), effect₃⟩
  obtain ⟨fourth, deployment⟩ : ∃ fourth, insertDeployment env ended
      (deploymentRecord env.graph call response) third = .ok fourth :=
    (deploymentCall_iff registered listed accepted rowBuilt checked
      (by rw [effect₃, effect₂, effect₁]) (by rw [effect₃, effect₂, effect₁])
      (by rw [effect₃, effect₂, effect₁])).mpr ⟨named, undeployed⟩
  obtain ⟨target, effect₄, _⟩ := insertDeployment_ok deployment
  have audits : fourth.audits = rows.audits ++ [event.row (env.eventId 0) env.now,
      (validatedEvent env ended policy).row (env.eventId 1) env.now] := by
    rw [effect₄, effect₃, effect₂, effect₁]
    exact List.append_assoc _ _ _
  have wroteDeployed := (deployedCall_iff (deploymentRecord env.graph call response) unused registered
    built audits (by rw [effect₄, effect₃, effect₂, effect₁])).mpr ⟨freshIds 2 (by decide), rfl⟩
  exact ⟨first, second, third, fourth, _, wroteGenerated, inserted, wroteValidated, deployment,
    wroteDeployed⟩

/-- When the `deployed` row commits, in terms of the connection and of what the registry can take. -/
theorem commitsAt_deployed_iff (unused : Unused ended rows)
    (listed : deployCall env.graph ended.tenantId policy = some call)
    (accepted : response.status = "accepted") (fates : Nat → Fate String) :
    CommitsAt fates 0 (deployedCalls env ended policy (deploymentRecord env.graph call response)) 4
        rows ↔
      (∀ k < 4, fates k = .runs) ∧
        Recordable env ended policy (deploymentRecord env.graph call response) rows ∧
        (fates 4).commits = true := by
  have split := commitsAt_iff fates
    ((deployedCalls env ended policy (deploymentRecord env.graph call response)).take 4)
    (auditCall env 2 (.ok (deployedEvent env ended policy (deploymentRecord env.graph call response))))
    ((deployedCalls env ended policy (deploymentRecord env.graph call response)).drop 5) 0 rows
  simp only [deployedCalls, List.take_succ_cons, List.take_zero, List.drop_succ_cons, List.drop_zero,
    List.cons_append, List.nil_append, List.length_cons, List.length_nil, Nat.zero_add,
    List.foldlM_cons, List.foldlM_nil, Checked.bind_ok_iff] at split
  rw [deployedCalls, split]
  apply and_congr_right
  intro _
  apply and_congr_left
  intro _
  constructor
  · rintro ⟨mid, fifth, ⟨first, generated, second, inserted, third, validated, fourth, deployment,
      same⟩, deployed⟩
    cases same
    exact (Steps.recordable unused listed accepted
      ⟨generated, inserted, validated, deployment, deployed⟩).1
  · intro recordable
    obtain ⟨first, second, third, fourth, fifth, steps⟩ := recordable.steps unused listed accepted
    exact ⟨fourth, fifth, ⟨first, steps.generated, second, steps.inserted, third, steps.validated,
      fourth, steps.deployment, rfl⟩, steps.deployed⟩

/-- The connection or the simulation fails once the `deployed` row has committed. -/
def FailsLate (env : RunnerEnv) (policy : Dict) (record : DeploymentRecord)
    (fates : Nat → Fate String) : Prop :=
  fates 4 ≠ .runs ∨ fates 5 ≠ .runs ∨
    ∃ message, env.simulate policy record.deploymentId = .error message

theorem simulateCall_raises_iff (env : RunnerEnv) (policy : Dict) (record : DeploymentRecord)
    (fate : Fate String) (rows : Rows) :
    ∃ raised, Calls.call fate (simulateCall env policy record) rows = (rows, raised) ∧
      (raised ≠ none ↔ fate ≠ .runs ∨
        ∃ message, env.simulate policy record.deploymentId = .error message) := by
  cases simulated : env.simulate policy record.deploymentId with
  | error message => cases fate <;> simp [Calls.call, simulateCall, simulated, Except.map]
  | ok done => cases fate <;> simp [Calls.call, simulateCall, simulated, Except.map]

/-- After the commit of the `deployed` row the registry stays as it is, whether or not the run
raises. -/
theorem Steps.sequence_eq {record : DeploymentRecord} {first second third fourth fifth : Rows}
    (steps : Steps env ended policy record rows first second third fourth fifth)
    {fates : Nat → Fate String} (runs : ∀ k < 4, fates k = .runs)
    (commits : (fates 4).commits = true) :
    ∃ raised, sequence fates 0 (deployedCalls env ended policy record) rows = (fifth, raised) ∧
      (raised ≠ none ↔ FailsLate env policy record fates) := by
  have now : sequence fates 0 (deployedCalls env ended policy record) rows = sequence fates 4
      [auditCall env 2 (.ok (deployedEvent env ended policy record)),
        simulateCall env policy record] fourth := by
    rw [deployedCalls, sequence_runs _ (runs 0 (by decide)) steps.generated,
      sequence_runs _ (runs 1 (by decide)) steps.inserted,
      sequence_runs _ (runs 2 (by decide)) steps.validated,
      sequence_runs _ (runs 3 (by decide)) steps.deployment]
  rw [now, FailsLate]
  cases fate : fates 4 with
  | rollsBack failure =>
      rw [fate] at commits
      cases commits
  | commitsThenRaises failure =>
      refine ⟨some failure, ?_, by simp⟩
      simp only [Calls.sequence, fate, Calls.call, steps.deployed]
  | runs =>
      obtain ⟨raised, outcome, late⟩ := simulateCall_raises_iff env policy record (fates 5) fifth
      refine ⟨raised, ?_, by simpa using late⟩
      rw [sequence_runs _ fate steps.deployed, Calls.sequence, outcome]
      cases raised <;> rfl

end Effects

end Recorded

section Verdict

/-- The session's chain has a row of the kind. -/
def HasKind (session : PolicyGenerationSession) (kind : AuditKind) (audits : List AuditRow) : Prop :=
  ∃ row ∈ audits, row.correlationId = session.correlationId ∧ row.kind = kind

def UniqueVerdict (session : PolicyGenerationSession) (rows : Rows) : Prop :=
  ¬ (HasKind session .deployed rows.audits ∧ HasKind session .rejected rows.audits)

/-- The run deploys and gets as far as the commit of its `deployed` row, which is its fifth call;
then the connection or the simulation fails, and the handler's row commits as well. -/
def RaisesAfterDeployed (env : RunnerEnv) (session : PolicyGenerationSession)
    (fates : Nat → Fate String) (last : Fate String) (rows : Rows) : Prop :=
  ∃ result policy record, (run env.graph session).outcome = .ok result ∧
    result.finalState = .completed ∧ result.session.generatedPolicy = some policy ∧
    result.session.deploymentRecord = some record ∧
    Recordable env result.session policy record rows ∧ (∀ k < 4, fates k = .runs) ∧
    (fates 4).commits = true ∧ FailsLate env policy record fates ∧ FreshId env rows 3 ∧
    last.commits = true

/-- The same by its effects: the `deployed` row is stored, the run raises, and the handler's row is
stored on top. -/
def RejectsAfterDeployed (env : RunnerEnv) (session : PolicyGenerationSession)
    (fates : Nat → Fate String) (last : Fate String) (rows : Rows) : Prop :=
  (∃ result, (run env.graph session).outcome = .ok result ∧
      CommitsAt fates 0 (calls env result) 4 rows) ∧
    ∃ next message final, runOnce env session fates rows = (next, some message) ∧
      auditCall env 3 (.ok (runnerErrorEvent session message)) next = .ok final ∧
      last.commits = true

theorem auditCall_hasKind {k : Nat} {event : AuditEvent} {kind : AuditKind} {rows next : Rows}
    (ours : Ours session kind event) (success : auditCall env k (.ok event) rows = .ok next) :
    HasKind session kind next.audits := by
  obtain ⟨sent, built, outcome⟩ := auditCall_ok success
  cases built
  rcases outcome with ⟨appended, _⟩ | ⟨unchanged, row, member, same, sameKind⟩
  · refine ⟨event.row (env.eventId k) env.now, ?_, ours.correlationId, ours.kind⟩
    rw [appended]
    exact List.mem_append_right _ (List.mem_singleton.mpr rfl)
  · rw [unchanged]
    exact ⟨row, member, same.trans ours.correlationId, sameKind.trans ours.kind⟩

/-- An event of one kind adds no row of another. -/
theorem auditCall_keeps_hasKind {k : Nat} {event : Except String AuditEvent} {kind : AuditKind}
    (other : ∀ sent, event = .ok sent → sent.kind ≠ kind) :
    Keeps (fun rows => HasKind session kind rows.audits) (auditCall env k event) := by
  intro rows next success
  obtain ⟨sent, built, ⟨appended, _⟩ | ⟨unchanged, _⟩⟩ := auditCall_ok success
  · apply propext
    rw [appended]
    constructor
    · rintro ⟨row, member, same, sameKind⟩
      rcases List.mem_append.mp member with earlier | last
      · exact ⟨row, earlier, same, sameKind⟩
      · rw [List.mem_singleton.mp last] at sameKind
        exact absurd sameKind (other sent built)
    · rintro ⟨row, member, facts⟩
      exact ⟨row, List.mem_append_left _ member, facts⟩
  · rw [unchanged]

theorem Unused.not_hasKind {rows : Rows} {kind : AuditKind} (unused : Unused session rows)
    (known : kind ∈ runnerKinds) : ¬ HasKind session kind rows.audits := by
  rintro ⟨row, member, same, sameKind⟩
  have foreign := unused row member same
  rw [sameKind] at foreign
  exact foreign known

/-- What the five calls besides the `deployed` row leave of a kind that is not theirs. -/
theorem deployedCalls_keep_hasKind (env : RunnerEnv) (session ended : PolicyGenerationSession)
    (policy : Dict) (record : DeploymentRecord) {kind : AuditKind} (generated : kind ≠ .generated)
    (validated : kind ≠ .validated) :
    (∀ operation ∈ (deployedCalls env ended policy record).take 4,
        Keeps (fun rows => HasKind session kind rows.audits) operation) ∧
      ∀ operation ∈ (deployedCalls env ended policy record).drop 5,
        Keeps (fun rows => HasKind session kind rows.audits) operation := by
  have first : Keeps (fun rows => HasKind session kind rows.audits)
      (auditCall env 0 (generatedEvent env ended policy)) := by
    apply auditCall_keeps_hasKind
    intro sent built same
    exact generated (same.symm.trans (generatedEvent_ours built).kind)
  have third : Keeps (fun rows => HasKind session kind rows.audits)
      (auditCall env 1 (.ok (validatedEvent env ended policy))) := by
    apply auditCall_keeps_hasKind
    intro sent built same
    cases built
    exact validated same.symm
  have policyInsert := (insertPolicy_keeps_audits env ended policy).map
    (HasKind session kind)
  have deploymentInsert := (insertDeployment_keeps_audits env ended record).map
    (HasKind session kind)
  constructor
  · simp only [deployedCalls, List.take_succ_cons, List.take_zero, List.forall_mem_cons]
    exact ⟨first, policyInsert, third, deploymentInsert, List.forall_mem_nil _⟩
  · simp only [deployedCalls, List.drop_succ_cons, List.drop_zero, List.forall_mem_cons]
    exact ⟨simulateCall_keeps _ policy record, List.forall_mem_nil _⟩

/-- The fifth call decides whether there is a `deployed` row. -/
theorem deployedCalls_hasKind_deployed {ended : PolicyGenerationSession} {policy : Dict}
    {record : DeploymentRecord} (correlationId : ended.correlationId = session.correlationId)
    (tenantId : ended.tenantId = session.tenantId) (fates : Nat → Fate String) {rows : Rows}
    (absent : ¬ HasKind session .deployed rows.audits) :
    HasKind session .deployed
        (sequence fates 0 (deployedCalls env ended policy record) rows).1.audits ↔
      CommitsAt fates 0 (deployedCalls env ended policy record) 4 rows := by
  obtain ⟨keepBefore, keepAfter⟩ := deployedCalls_keep_hasKind env session ended policy record
    (show AuditKind.deployed ≠ .generated by decide) (by decide)
  have decided := sequence_establishes (fun rows : Rows => HasKind session .deployed rows.audits)
    fates 0 _ (auditCall env 2 (.ok (deployedEvent env ended policy record))) _ keepBefore keepAfter
    (fun mid next effect => auditCall_hasKind ⟨tenantId, correlationId, rfl⟩ effect) rows
  exact decided.trans ⟨fun either => either.resolve_left absent, Or.inr⟩

/-- None of the six calls writes a `rejected` row. -/
theorem deployedCalls_hasKind_rejected {ended : PolicyGenerationSession} {policy : Dict}
    {record : DeploymentRecord} (fates : Nat → Fate String) (rows : Rows) :
    HasKind session .rejected
        (sequence fates 0 (deployedCalls env ended policy record) rows).1.audits =
      HasKind session .rejected rows.audits := by
  obtain ⟨keepBefore, keepAfter⟩ := deployedCalls_keep_hasKind env session ended policy record
    (show AuditKind.rejected ≠ .generated by decide) (by decide)
  have fifth : Keeps (fun rows => HasKind session .rejected rows.audits)
      (auditCall env 2 (.ok (deployedEvent env ended policy record))) := by
    apply auditCall_keeps_hasKind
    intro sent built same
    cases built
    cases same
  apply sequence_keeps (fun rows : Rows => HasKind session .rejected rows.audits)
  show ∀ operation ∈ (deployedCalls env ended policy record).take 4 ++
    auditCall env 2 (.ok (deployedEvent env ended policy record)) ::
      (deployedCalls env ended policy record).drop 5, _
  exact List.forall_mem_append.mpr ⟨keepBefore, List.forall_mem_cons.mpr ⟨fifth, keepAfter⟩⟩

/-- Neither call of a dead letter writes a `deployed` row. -/
theorem deadLetter_hasKind_deployed {ended : PolicyGenerationSession} {policy : Dict}
    (fates : Nat → Fate String) (rows : Rows) :
    HasKind session .deployed (sequence fates 0
        [auditCall env 0 (generatedEvent env ended policy),
          auditCall env 1 (deadLetterEvent env ended)] rows).1.audits =
      HasKind session .deployed rows.audits := by
  apply sequence_keeps (fun rows : Rows => HasKind session .deployed rows.audits)
  refine List.forall_mem_cons.mpr ⟨?_, List.forall_mem_cons.mpr ⟨?_, List.forall_mem_nil _⟩⟩
  · apply auditCall_keeps_hasKind
    intro sent built same
    cases same.symm.trans (generatedEvent_ours built).kind
  · apply auditCall_keeps_hasKind
    intro sent built same
    cases same.symm.trans (deadLetterEvent_ours built).kind

/-- Once the graph has ended, the run leaves a `deployed` row exactly if its fifth call commits,
and then no `rejected` row. -/
theorem calls_verdict {result : GraphRun} (fates : Nat → Fate String) {rows : Rows}
    (unused : Unused session rows) (success : (run env.graph session).outcome = .ok result) :
    (HasKind session .deployed (sequence fates 0 (calls env result) rows).1.audits ↔
        CommitsAt fates 0 (calls env result) 4 rows) ∧
      (CommitsAt fates 0 (calls env result) 4 rows →
        ¬ HasKind session .rejected (sequence fates 0 (calls env result) rows).1.audits) := by
  have ended := run_ended success
  have undeployed : ¬ HasKind session .deployed rows.audits := unused.not_hasKind (by decide)
  have unrejected : ¬ HasKind session .rejected rows.audits := unused.not_hasKind (by decide)
  cases final : result.finalState with
  | deadLetter =>
      obtain ⟨policy, generated⟩ := Option.ne_none_iff_exists'.mp ended.generated
      rw [calls_deadLetter env final generated, deadLetter_hasKind_deployed]
      have beyond : ¬ CommitsAt fates 0 [auditCall env 0 (generatedEvent env result.session policy),
          auditCall env 1 (deadLetterEvent env result.session)] 4 rows := by
        rintro ⟨_, _, _, _, none⟩
        exact none
      exact ⟨iff_of_false undeployed beyond, fun commits => absurd commits beyond⟩
  | completed =>
      obtain ⟨policy, call, response, generated, _, _, _, recorded⟩ := ended.completed final
      rw [calls_completed env final generated recorded, deployedCalls_hasKind_rejected]
      exact ⟨deployedCalls_hasKind_deployed ended.correlationId ended.tenantId fates undeployed,
        fun _ => unrejected⟩

/-- The same of `_run`, whether or not the graph itself raises. -/
theorem runOnce_verdict (env : RunnerEnv) (fates : Nat → Fate String) {rows : Rows}
    (unused : Unused session rows) :
    (HasKind session .deployed (runOnce env session fates rows).1.audits ↔
        ∃ result, (run env.graph session).outcome = .ok result ∧
          CommitsAt fates 0 (calls env result) 4 rows) ∧
      UniqueVerdict session (runOnce env session fates rows).1 := by
  unfold runOnce
  cases success : (run env.graph session).outcome with
  | error message =>
      have undeployed : ¬ HasKind session .deployed rows.audits := unused.not_hasKind (by decide)
      refine ⟨iff_of_false undeployed ?_, fun both => undeployed both.1⟩
      rintro ⟨result, other, _⟩
      cases other
  | ok result =>
      obtain ⟨deployed, unrejected⟩ := calls_verdict fates unused success
      refine ⟨⟨fun present => ⟨result, rfl, deployed.mp present⟩, ?_⟩, ?_⟩
      · rintro ⟨other, same, commits⟩
        cases same
        exact deployed.mpr commits
      · exact fun both => unrejected (deployed.mp both.1) both.2

theorem uniqueVerdict_iff_not_rejectsAfterDeployed (env : RunnerEnv) (fates : Nat → Fate String)
    (last : Fate String) {rows : Rows} (unused : Unused session rows) :
    UniqueVerdict session (runAsync env session fates last rows).1 ↔
      ¬ RejectsAfterDeployed env session fates last rows := by
  obtain ⟨deployed, unique⟩ := runOnce_verdict env fates unused
  unfold runAsync
  split
  · rename_i next outcome
    rw [outcome] at unique
    refine iff_of_true unique ?_
    rintro ⟨_, other, message, _, raised, _⟩
    rw [outcome] at raised
    cases raised
  · rename_i next message outcome
    rw [outcome] at deployed unique
    by_cases stored : (∃ final, auditCall env 3 (.ok (runnerErrorEvent session message)) next =
        .ok final) ∧ last.commits = true
    · obtain ⟨⟨final, effect⟩, commits⟩ := stored
      have rejected : HasKind session .rejected final.audits :=
        auditCall_hasKind ⟨rfl, rfl, rfl⟩ effect
      have kept : HasKind session .deployed final.audits = HasKind session .deployed next.audits := by
        refine auditCall_keeps_hasKind ?_ next final effect
        intro sent built same
        cases built
        cases same
      rw [call_commits effect commits, UniqueVerdict, kept, deployed]
      refine not_congr ⟨?_, ?_⟩
      · rintro ⟨late, _⟩
        exact ⟨late, next, message, final, outcome, effect, commits⟩
      · rintro ⟨late, _⟩
        exact ⟨late, rejected⟩
    · obtain ⟨failure, kept⟩ := call_not_commits stored
      rw [kept]
      refine iff_of_true unique ?_
      rintro ⟨_, other, raisedMessage, final, raised, effect, commits⟩
      rw [outcome] at raised
      cases raised
      exact stored ⟨⟨final, effect⟩, commits⟩

theorem commitsAt_deadLetter {result : GraphRun} (fates : Nat → Fate String) (rows : Rows)
    (success : (run env.graph session).outcome = .ok result)
    (dead : result.finalState = .deadLetter) : ¬ CommitsAt fates 0 (calls env result) 4 rows := by
  obtain ⟨policy, generated⟩ := Option.ne_none_iff_exists'.mp (run_ended success).generated
  rw [calls_deadLetter env dead generated]
  rintro ⟨_, _, _, _, none⟩
  exact none

/-- The handler's row is stored on top of a completed run's rows if its id is new. -/
theorem handler_stores_iff {result : GraphRun} {policy : Dict} {record : DeploymentRecord}
    {event : AuditEvent} {fifth : Rows} {rows : Rows} (message : String)
    (unused : Unused session rows) (ended : Ended env.graph session result)
    (registered : Registered result.session rows)
    (built : generatedEvent env result.session policy = .ok event)
    (tenants : fifth.tenants = rows.tenants)
    (audits : fifth.audits = rows.audits ++ recordedRows env result.session policy record event) :
    (∃ final, auditCall env 3 (.ok (runnerErrorEvent session message)) fifth = .ok final) ↔
      FreshId env rows 3 := by
  have same : Registered session rows := ⟨ended.tenantId ▸ registered.tenantId,
    ended.tenantId ▸ registered.known, ended.sessionId ▸ registered.sessionId,
    ended.correlationId ▸ registered.correlationId⟩
  have others : ∀ row ∈ recordedRows env result.session policy record event,
      row.kind ≠ .rejected := by
    simp [recordedRows, AuditEvent.row, (generatedEvent_ours built).kind, validatedEvent,
      deployedEvent]
  have ours : Ours session .rejected (runnerErrorEvent session message) := ⟨rfl, rfl, rfl⟩
  have stored : ∀ next, auditCall env 3 (.ok (runnerErrorEvent session message)) fifth = .ok next ↔
      _ := fun _ => auditCall_later_iff unused (by decide) others rfl audits tenants ours (by rfl)
    (by rfl) same
  constructor
  · rintro ⟨final, success⟩
    exact ((stored final).mp success).1
  · intro fresh
    exact ⟨_, (stored _).mpr ⟨fresh, rfl⟩⟩

/-- A completed run whose `deployed` row commits: what it leaves, and whether it raises. -/
theorem completed_runOnce {result : GraphRun} {policy : Dict} {call : DeployCall}
    {response : DeployResponse} {fates : Nat → Fate String} {rows : Rows}
    (unused : Unused result.session rows) (success : (run env.graph session).outcome = .ok result)
    (completed : result.finalState = .completed)
    (generated : result.session.generatedPolicy = some policy)
    (recorded : result.session.deploymentRecord = some (deploymentRecord env.graph call response))
    (listed : deployCall env.graph result.session.tenantId policy = some call)
    (accepted : response.status = "accepted")
    (recordable : Recordable env result.session policy (deploymentRecord env.graph call response) rows)
    (runs : ∀ k < 4, fates k = .runs) (commits : (fates 4).commits = true) :
    ∃ fifth raised event, runOnce env session fates rows = (fifth, raised) ∧
      (raised ≠ none ↔ FailsLate env policy (deploymentRecord env.graph call response) fates) ∧
      fifth.tenants = rows.tenants ∧ generatedEvent env result.session policy = .ok event ∧
      fifth.audits = rows.audits ++ recordedRows env result.session policy
        (deploymentRecord env.graph call response) event := by
  obtain ⟨first, second, third, fourth, fifth, steps⟩ := recordable.steps unused listed accepted
  obtain ⟨_, tenants, event, built, audits⟩ := steps.recordable unused listed accepted
  obtain ⟨raised, outcome, late⟩ := steps.sequence_eq runs commits
  refine ⟨fifth, raised, event, ?_, late, tenants, built, audits⟩
  rw [runOnce, success]
  exact (congrArg (fun calls => sequence fates 0 calls rows)
    (calls_completed env completed generated recorded)).trans outcome

/-- Whether the effects come about is decided by the connection, the simulation and the registry. -/
theorem rejectsAfterDeployed_iff {fates : Nat → Fate String} {last : Fate String} {rows : Rows}
    (unused : Unused session rows) :
    RejectsAfterDeployed env session fates last rows ↔
      RaisesAfterDeployed env session fates last rows := by
  have unusedAfter : ∀ {result : GraphRun}, Ended env.graph session result →
      Unused result.session rows := by
    intro result ended row member same
    exact unused row member (same.trans ended.correlationId)
  constructor
  · rintro ⟨⟨result, success, reached⟩, next, message, final, raises, stored, lastCommits⟩
    have ended := run_ended success
    cases final : result.finalState with
    | deadLetter => exact absurd reached (commitsAt_deadLetter fates rows success final)
    | completed =>
        obtain ⟨policy, call, response, generated, listed, _, accepted, recorded⟩ :=
          ended.completed final
        rw [← ended.tenantId] at listed
        rw [calls_completed env final generated recorded,
          commitsAt_deployed_iff (unusedAfter ended) listed accepted] at reached
        obtain ⟨runs, recordable, commits⟩ := reached
        obtain ⟨fifth, raised, event, outcome, late, tenants, built, audits⟩ :=
          completed_runOnce (unusedAfter ended) success final generated recorded listed accepted
            recordable runs commits
        cases outcome.symm.trans raises
        exact ⟨result, policy, _, success, final, generated, recorded, recordable, runs, commits,
          late.mp (by simp), (handler_stores_iff message unused ended recordable.registered built
            tenants audits).mp ⟨_, stored⟩, lastCommits⟩
  · rintro ⟨result, policy, record, success, final, generated, recorded, recordable, runs, commits,
      failsLate, fresh, lastCommits⟩
    have ended := run_ended success
    obtain ⟨sent, call, response, same, listed, _, accepted, delivered⟩ := ended.completed final
    cases same.symm.trans generated
    cases delivered.symm.trans recorded
    rw [← ended.tenantId] at listed
    obtain ⟨fifth, raised, event, outcome, late, tenants, built, audits⟩ :=
      completed_runOnce (unusedAfter ended) success final generated recorded listed accepted
        recordable runs commits
    obtain ⟨message, raises⟩ := Option.ne_none_iff_exists'.mp (late.mpr failsLate)
    rw [raises] at outcome
    obtain ⟨stored, effect⟩ := (handler_stores_iff message unused ended recordable.registered built
      tenants audits).mpr fresh
    refine ⟨⟨result, success, ?_⟩, fifth, message, stored, outcome, effect, lastCommits⟩
    rw [calls_completed env final generated recorded,
      commitsAt_deployed_iff (unusedAfter ended) listed accepted]
    exact ⟨runs, recordable, commits⟩

/-- The session's verdict is unique exactly if nothing fails between the commit of its `deployed` row
and the end of the run, or the handler's row does not commit. -/
theorem uniqueVerdict_iff_not_raisesAfterDeployed (env : RunnerEnv)
    (session : PolicyGenerationSession) (fates : Nat → Fate String) (last : Fate String)
    (rows : Rows) (unused : Unused session rows) :
    UniqueVerdict session (runAsync env session fates last rows).1 ↔
      ¬ RaisesAfterDeployed env session fates last rows := by
  rw [uniqueVerdict_iff_not_rejectsAfterDeployed env fates last unused,
    rejectsAfterDeployed_iff unused]

/-- A telemetry simulator that cannot write its observations. -/
def failingSimulator : RunnerEnv :=
  { sampleRunner with simulate := fun _ _ => .error "telemetry_observations unavailable" }

/-- Nothing fails, so the chain that ends in `deployed` stays so. -/
theorem uniqueVerdict_iff_not_raisesAfterDeployed_quiet :
    HasKind sampleSession .deployed
        (runAsync sampleRunner sampleSession (fun _ => .runs) .runs sampleRows).1.audits ∧
      UniqueVerdict sampleSession
        (runAsync sampleRunner sampleSession (fun _ => .runs) .runs sampleRows).1 := by
  have unused : Unused sampleSession sampleRows := fun row member => by cases member
  have stored : (runAsync sampleRunner sampleSession (fun _ => .runs) .runs
      sampleRows).1.audits.any (fun row =>
        row.correlationId == sampleSession.correlationId && row.kind == .deployed) = true := by
    decide +kernel
  simp only [List.any_eq_true, Bool.and_eq_true, beq_iff_eq] at stored
  refine ⟨stored, (uniqueVerdict_iff_not_raisesAfterDeployed sampleRunner sampleSession
    (fun _ => .runs) .runs sampleRows unused).mpr ?_⟩
  rintro ⟨result, policy, record, _, _, _, _, _, _, _, late, _⟩
  rcases late with lost | lost | ⟨message, failed⟩
  · exact lost rfl
  · exact lost rfl
  · cases failed

/-- Every database call succeeds and the simulation raises: the chain ends in `deployed` and
`rejected`. -/
theorem uniqueVerdict_fails_for_failed_simulation :
    Unused sampleSession sampleRows ∧ ¬ UniqueVerdict sampleSession
      (runAsync failingSimulator sampleSession (fun _ => .runs) .runs sampleRows).1 := by
  have unused : Unused sampleSession sampleRows := fun row member => by cases member
  refine ⟨unused, ?_⟩
  intro unique
  have stored : ∀ kind ∈ [AuditKind.deployed, .rejected], (runAsync failingSimulator sampleSession
      (fun _ => .runs) .runs sampleRows).1.audits.any (fun row =>
        row.correlationId == sampleSession.correlationId && row.kind == kind) = true := by
    decide +kernel
  simp only [List.any_eq_true, Bool.and_eq_true, beq_iff_eq] at stored
  exact unique ⟨stored .deployed (by decide), stored .rejected (by decide)⟩

end Verdict

end CollectMind.Graph
