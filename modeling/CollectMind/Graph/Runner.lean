import CollectMind.Graph.Run
import CollectMind.Library.Calls
import CollectMind.Registry.Repository

set_option autoImplicit false

/- `GraphRunner.run_async` of graph/runner.py: the rows and audit events that a run of the
graph leaves in the registry. -/
namespace CollectMind.Graph

open Python Registry Calls RowSecurity

/-- The parties around the runner. `eventId` names the event of each audit write. -/
structure RunnerEnv where
  graph : Env
  converters : Converters
  driver : Fault → String
  repr : Json → String
  sign : Dict → String × String
  simulate : Dict → String → Except String Unit
  factor : Rat
  eventId : Nat → String
  now : Nat

variable (env : RunnerEnv) (session : PolicyGenerationSession)

/-- `_policy_field`. -/
def policyField (policy : Dict) (key : String) : String :=
  match policy.get key with
  | none | some .null => ""
  | some value => value.toStr env.repr

/-- `_finding_ref`. -/
def findingRef : Dict :=
  [("tenant_id", .str session.tenantId),
    ("finding_id", (session.originatingFinding.get "finding_id").getD (.str ""))]

/-- `_flatten_invalid`; it raises on details that are no dictionary or a value that is not
iterable. -/
def flattenInvalid (errors : List Dict) : Except String (List Json) :=
  List.flatten <$> errors.mapM fun error =>
    match error.get "details" with
    | some (.obj details) =>
      match ((Dict.get details "invalid_signals").getD (.arr [])).toList with
      | some signals => .ok signals
      | none => .error "object is not iterable"
    | some value => if value.truthy then .error "object has no attribute 'get'" else .ok []
    | none => .ok []

/-- A value bound to a nullable `TEXT` column. -/
def nullableText : Option Json → Except String (Option String)
  | none | some .null => .ok none
  | some value => some <$> env.converters.text value

def generatedEvent (policy : Dict) : Except String AuditEvent := do
  let policyId ← policy.item "policy_id"
  let version ← policy.item "version"
  let runtimeInfo := session.lastRuntimeInfo.getD []
  let slmRepo ← nullableText env (runtimeInfo.get "slm_repo")
  let slmRevisionSha ← nullableText env (runtimeInfo.get "slm_revision_sha")
  let slmRuntime ← nullableText env (runtimeInfo.get "slm_runtime")
  let slmRuntimeVersion ← nullableText env (runtimeInfo.get "slm_runtime_version")
  let slmQuantization ← nullableText env (runtimeInfo.get "slm_quantization")
  let schemaVersion ← nullableText env (session.originatingFinding.get "schema_version")
  return {
    tenantId := session.tenantId
    kind := .generated
    correlationId := session.correlationId
    principalSubject := session.sessionId
    originatingFinding := some (findingRef session)
    policyRef := some [("tenant_id", .str session.tenantId), ("policy_id", policyId),
      ("version", version)]
    slm := {
      slmRepo := slmRepo
      slmRevisionSha := slmRevisionSha
      slmRuntime := slmRuntime
      slmRuntimeVersion := slmRuntimeVersion
      slmQuantization := slmQuantization
      slmDecodingSeed := session.lastDecodingSeed
      promptTemplateVersion := some session.promptTemplateVersion }
    inboundSchemaVersion := schemaVersion
    timeAccelerationFactor := some env.factor }

/-- The event of a run that ended in the dead letter. -/
def deadLetterEvent : Except String AuditEvent := do
  let invalidSignals ← flattenInvalid session.validationErrors
  let schemaVersion ← nullableText env (session.originatingFinding.get "schema_version")
  return {
    tenantId := session.tenantId
    kind := .rejected
    correlationId := session.correlationId
    principalSubject := session.sessionId
    originatingFinding := some (findingRef session)
    error := some [("code", .str "VALIDATION_FAILED"), ("details", .obj
      [("validation_errors", .arr (session.validationErrors.map Json.obj)),
        ("invalid_signals", .arr invalidSignals)])]
    inboundSchemaVersion := schemaVersion }

/-- The event of an exception, written by `run_async`. -/
def runnerErrorEvent (message : String) : AuditEvent where
  tenantId := session.tenantId
  kind := .rejected
  correlationId := session.correlationId
  principalSubject := session.sessionId
  originatingFinding := some (findingRef session)
  error := some [("code", .str "GRAPH_RUNNER_ERROR"), ("message", .str message)]

def policyRef (policy : Dict) : Dict :=
  [("tenant_id", .str session.tenantId), ("policy_id", .str (policyField env policy "policy_id")),
    ("version", .str (policyField env policy "version"))]

def validatedEvent (policy : Dict) : AuditEvent where
  tenantId := session.tenantId
  kind := .validated
  correlationId := session.correlationId
  principalSubject := session.sessionId
  originatingFinding := some (findingRef session)
  policyRef := some (policyRef env session policy)

def deployedEvent (policy : Dict) (record : DeploymentRecord) : AuditEvent where
  tenantId := session.tenantId
  kind := .deployed
  correlationId := session.correlationId
  principalSubject := session.sessionId
  originatingFinding := some (findingRef session)
  policyRef := some (policyRef env session policy)
  deploymentRef := some [("deployment_id", .str record.deploymentId)]
  timeAccelerationFactor := some env.factor

/-- The `audit_meta` of a policy. -/
def auditMeta (policy : Dict) : AuditMeta :=
  let runtimeInfo := session.lastRuntimeInfo.getD []
  { promptTemplateVersion := session.promptTemplateVersion
    slmRepo := (runtimeInfo.get "slm_repo").getD (.str "unknown")
    slmRevisionSha := (runtimeInfo.get "slm_revision_sha").getD
      (.str "0000000000000000000000000000000000000000")
    slmRuntime := (runtimeInfo.get "slm_runtime").getD (.str "stub")
    slmRuntimeVersion := (runtimeInfo.get "slm_runtime_version").getD (.str "unknown")
    slmQuantization := (runtimeInfo.get "slm_quantization").getD (.str "none")
    slmDecodingSeed := session.lastDecodingSeed.getD 0
    payloadSignature := (env.sign policy).1
    signatureKeyId := (env.sign policy).2 }

/-- An audit write as a call to the registry; building its arguments may already raise. -/
def auditCall (k : Nat) (event : Except String AuditEvent) (rows : Rows) : Except String Rows := do
  let event ← event
  match write rows.tenants rows.audits event (env.eventId k) env.now with
  | .ok (audits, _) => .ok { rows with audits := audits }
  | .error error => .error (error.message env.driver)

def insertPolicy (policy : Dict) (rows : Rows) : Except String Rows := do
  let row ← policyRow env.converters session.tenantId policy (auditMeta env session policy) env.now
  (insertPolicyRow rows row).mapError env.driver

def insertDeployment (record : DeploymentRecord) (rows : Rows) : Except String Rows := do
  let policyId ← env.converters.text record.policyId
  let version ← env.converters.text record.version
  let row : DeploymentRow := {
    deploymentId := record.deploymentId
    tenantId := session.tenantId
    policyId := policyId
    version := version
    environment := "dev"
    vehicleScope := record.vehicleScope
    status := record.status
    downstreamResponse := record.downstreamResponse
    requestedAt := env.now
    acceptedAt := some record.deployedAt
    expiresAt := record.expiresAt }
  (insertDeploymentRow rows row).mapError env.driver

/-- The telemetry simulation writes no row that is modelled here, but may raise. -/
def simulateCall (policy : Dict) (record : DeploymentRecord) (rows : Rows) : Except String Rows :=
  (env.simulate policy record.deploymentId).map fun _ => rows

/-- The calls of `_run` after the graph has ended, in order. -/
def calls (run : GraphRun) : List (Rows → Except String Rows) :=
  let session := run.session
  let policy := session.generatedPolicy.getD []
  let generated := match session.generatedPolicy with
    | some policy => [auditCall env 0 (generatedEvent env session policy)]
    | none => []
  let settled := match run.finalState with
    | .deadLetter => [auditCall env 1 (deadLetterEvent env session)]
    | .completed =>
      let deployment := match session.deploymentRecord with
        | some record => [insertDeployment env session record,
            auditCall env 2 (.ok (deployedEvent env session policy record)),
            simulateCall env policy record]
        | none => []
      [insertPolicy env session policy,
        auditCall env 1 (.ok (validatedEvent env session policy))] ++ deployment
  generated ++ settled

/-- `GraphRunner._run`: the registry after it, and what it raises. -/
def runOnce (fates : Nat → Fate String) (rows : Rows) : Rows × Option String :=
  match (run env.graph session).outcome with
  | .error message => (rows, some message)
  | .ok result => sequence fates 0 (calls env result) rows

/-- `GraphRunner.run_async`, whose handler makes the last call under `last`. -/
def runAsync (fates : Nat → Fate String) (last : Fate String) (rows : Rows) :
    Rows × Option String :=
  match runOnce env session fates rows with
  | (next, none) => (next, none)
  | (next, some message) => call last (auditCall env 3 (.ok (runnerErrorEvent session message))) next

section AuditChain

variable {env session}

/-- The policy that the session's run generated last. -/
def SessionPolicy (env : RunnerEnv) (session : PolicyGenerationSession) (policy : Dict) : Prop :=
  ∃ result, (run env.graph session).outcome = .ok result ∧
    result.session.generatedPolicy = some policy

/-- The policy's name and version as its dictionary has them. -/
def Named (policy : Dict) (policyId version : String) : Prop :=
  policy.get "policy_id" = some (.str policyId) ∧ policy.get "version" = some (.str version)

/-- The row of `collection_policies` for the session's policy. -/
def PolicyStored (env : RunnerEnv) (session : PolicyGenerationSession) (rows : Rows) : Prop :=
  ∃ policy, SessionPolicy env session policy ∧ ∃ stored ∈ rows.policies,
    stored.tenantId = session.tenantId ∧ Named policy stored.policyId stored.version

/-- A row of `deployment_targets` for the session's policy, accepted, with the deployment
that an audit row names. -/
def TargetStored (env : RunnerEnv) (session : PolicyGenerationSession) (rows : Rows)
    (deploymentRef : Option Dict) : Prop :=
  ∃ policy, SessionPolicy env session policy ∧ ∃ target ∈ rows.deployments,
    target.status = "accepted" ∧ target.tenantId = session.tenantId ∧
    Named policy target.policyId target.version ∧
    deploymentRef = some [("deployment_id", .str target.deploymentId)]

/-- The audit rows written for a session since `before`, by kind, and the registry rows that
stand behind them. -/
structure Chain (env : RunnerEnv) (session : PolicyGenerationSession) (before rows : Rows)
    (kinds : List AuditKind) : Prop where
  written : ∃ new, rows.audits = before.audits ++ new ∧ new.map (·.kind) = kinds ∧
    ∀ row ∈ new, row.correlationId = session.correlationId ∧ row.tenantId = session.tenantId
  validated : ∀ row ∈ rows.audits, row.correlationId = session.correlationId →
    row.kind = .validated → PolicyStored env session rows
  deployed : ∀ row ∈ rows.audits, row.correlationId = session.correlationId →
    row.kind = .deployed → TargetStored env session rows row.deploymentRef

/-- The kinds that a runner writes. -/
def runnerKinds : List AuditKind := [.generated, .validated, .deployed, .rejected]

/-- No other session has written under this session's correlation id. -/
def Unused (session : PolicyGenerationSession) (rows : Rows) : Prop :=
  ∀ row ∈ rows.audits, row.correlationId = session.correlationId → row.kind ∉ runnerKinds

theorem Chain.start (env : RunnerEnv) {rows : Rows} (unused : Unused session rows) :
    Chain env session rows rows [] where
  written := ⟨[], by simp, rfl, by simp⟩
  validated row member same kind := by
    have foreign := unused row member same
    rw [kind] at foreign
    exact absurd (by decide) foreign
  deployed row member same kind := by
    have foreign := unused row member same
    rw [kind] at foreign
    exact absurd (by decide) foreign

/-- What an audit call that takes effect does: add its row, or nothing if the event is
there. -/
theorem auditCall_ok {k : Nat} {event : Except String AuditEvent} {rows next : Rows}
    (success : auditCall env k event rows = .ok next) :
    ∃ sent, event = .ok sent ∧
      ((next = { rows with audits := rows.audits ++ [sent.row (env.eventId k) env.now] } ∧
          ∀ row ∈ rows.audits, row.correlationId = sent.correlationId → row.kind ≠ sent.kind) ∨
        (next = rows ∧ ∃ row ∈ rows.audits,
          row.correlationId = sent.correlationId ∧ row.kind = sent.kind)) := by
  rw [auditCall, Checked.bind_ok_iff] at success
  obtain ⟨sent, built, success⟩ := success
  refine ⟨sent, built, ?_⟩
  split at success
  · rename_i audits stored outcome
    cases success
    obtain ⟨_, _, ⟨free, appended, _⟩ | ⟨existing, member, same, kind, _, unchanged, _⟩⟩ :=
      write_ok outcome
    · refine Or.inl ⟨by rw [appended], ?_⟩
      intro row member same kind
      have clash := List.any_eq_false.mp free row member
      exact clash (sameEvent_iff.mpr ⟨same, kind⟩)
    · exact Or.inr ⟨by rw [unchanged], existing, member, same, kind⟩
  · cases success

/-- An event that a runner sends for its session. -/
structure Ours (session : PolicyGenerationSession) (kind : AuditKind) (event : AuditEvent) : Prop
    where
  tenantId : event.tenantId = session.tenantId
  correlationId : event.correlationId = session.correlationId
  kind : event.kind = kind

/-- A new row of the session extends the chain, if the registry backs it. -/
theorem Chain.append {before rows : Rows} {kinds : List AuditKind} {row : AuditRow}
    (chain : Chain env session before rows kinds)
    (mine : row.correlationId = session.correlationId ∧ row.tenantId = session.tenantId)
    (policyStored : row.kind = .validated → PolicyStored env session rows)
    (targetStored : row.kind = .deployed → TargetStored env session rows row.deploymentRef) :
    Chain env session before { rows with audits := rows.audits ++ [row] } (kinds ++ [row.kind]) := by
  obtain ⟨new, rows_eq, kinds_eq, written⟩ := chain.written
  refine ⟨⟨new ++ [row], by simp [rows_eq], by simp [kinds_eq], ?_⟩, ?_, ?_⟩
  · exact List.forall_mem_append.mpr ⟨written, by simpa using mine⟩
  · intro other member same kind
    rcases List.mem_append.mp member with earlier | last
    · exact chain.validated other earlier same kind
    · rw [List.mem_singleton.mp last] at kind
      exact policyStored kind
  · intro other member same kind
    rcases List.mem_append.mp member with earlier | last
    · exact chain.deployed other earlier same kind
    · rw [List.mem_singleton.mp last] at kind ⊢
      exact targetStored kind

/-- The session's rows of the runner's kinds are those of the chain. -/
theorem Chain.mem_kinds {before rows : Rows} {kinds : List AuditKind} {kind : AuditKind}
    (chain : Chain env session before rows kinds) (unused : Unused session before)
    (known : kind ∈ runnerKinds) :
    kind ∈ kinds ↔ ∃ row ∈ rows.audits, row.correlationId = session.correlationId ∧ row.kind = kind := by
  obtain ⟨new, rows_eq, kinds_eq, written⟩ := chain.written
  rw [← kinds_eq, rows_eq, List.mem_map]
  constructor
  · rintro ⟨row, inside, same⟩
    exact ⟨row, List.mem_append_right _ inside, (written row inside).1, same⟩
  · rintro ⟨row, member, same, kind_eq⟩
    rcases List.mem_append.mp member with earlier | inside
    · exact absurd (kind_eq ▸ known) (unused row earlier same)
    · exact ⟨row, inside, kind_eq⟩

/-- An audit call extends the chain by its kind, unless the chain has it already. -/
theorem Chain.audit {before rows next : Rows} {kinds : List AuditKind} {k : Nat}
    {event : Except String AuditEvent} (chain : Chain env session before rows kinds)
    (unused : Unused session before) (kind : AuditKind) (known : kind ∈ runnerKinds)
    (ours : ∀ sent, event = .ok sent → Ours session kind sent ∧
      (kind = .validated → PolicyStored env session rows) ∧
      (kind = .deployed → TargetStored env session rows (jsonColumn sent.deploymentRef)))
    (success : auditCall env k event rows = .ok next) :
    Chain env session before next (if kind ∈ kinds then kinds else kinds ++ [kind]) := by
  obtain ⟨sent, built, outcome⟩ := auditCall_ok success
  obtain ⟨⟨tenantId, correlationId, rfl⟩, policyStored, targetStored⟩ := ours sent built
  rw [correlationId] at outcome
  rcases outcome with ⟨appended, free⟩ | ⟨unchanged, clash⟩
  · have fresh : sent.kind ∉ kinds := by
      rw [chain.mem_kinds unused known]
      rintro ⟨row, member, same, kind⟩
      exact free row member same kind
    rw [if_neg fresh, appended]
    exact chain.append ⟨correlationId, tenantId⟩ policyStored targetStored
  · rw [if_pos ((chain.mem_kinds unused known).mpr clash), unchanged]
    exact chain

theorem generatedEvent_ours {policy : Dict} {sent : AuditEvent}
    (built : generatedEvent env session policy = .ok sent) : Ours session .generated sent := by
  rw [generatedEvent] at built
  iterate 8 obtain ⟨_, _, built⟩ := (Checked.bind_ok_iff _ _ _).mp built
  cases built
  exact ⟨rfl, rfl, rfl⟩

theorem deadLetterEvent_ours {sent : AuditEvent} (built : deadLetterEvent env session = .ok sent) :
    Ours session .rejected sent := by
  rw [deadLetterEvent] at built
  iterate 2 obtain ⟨_, _, built⟩ := (Checked.bind_ok_iff _ _ _).mp built
  cases built
  exact ⟨rfl, rfl, rfl⟩

/-- A policy's insert adds one row, with the policy's own key. -/
theorem insertPolicy_ok {ended : PolicyGenerationSession} {policy : Dict} {rows next : Rows}
    (success : insertPolicy env ended policy rows = .ok next) :
    ∃ row : PolicyRow, next = { rows with policies := rows.policies ++ [row] } ∧
      row.tenantId = ended.tenantId ∧ Named policy row.policyId row.version := by
  rw [insertPolicy, Checked.bind_ok_iff] at success
  obtain ⟨row, built, inserted⟩ := success
  have columns := policyRow_ok built
  exact ⟨row.stored, insertPolicyRow_ok (Checked.mapError_ok inserted), columns.tenantId,
    columns.policyId, columns.version⟩

/-- A deployment's insert adds one row, with the record's ids. -/
theorem insertDeployment_ok {ended : PolicyGenerationSession} {record : DeploymentRecord}
    {rows next : Rows} (success : insertDeployment env ended record rows = .ok next) :
    ∃ row : DeploymentRow, next = { rows with deployments := rows.deployments ++ [row] } ∧
      row.deploymentId = record.deploymentId ∧ row.tenantId = ended.tenantId ∧
      record.policyId = .str row.policyId ∧ record.version = .str row.version ∧
      row.status = record.status := by
  rw [insertDeployment, Checked.bind_ok_iff] at success
  obtain ⟨policyId, asId, success⟩ := success
  rw [Checked.bind_ok_iff] at success
  obtain ⟨version, asVersion, inserted⟩ := success
  exact ⟨_, insertDeploymentRow_ok (Checked.mapError_ok inserted), rfl, rfl, text_ok asId,
    text_ok asVersion, rfl⟩

/-- A policy's insert keeps the chain and stores the policy. -/
theorem Chain.policy {before rows next : Rows} {kinds : List AuditKind} {policy : Dict}
    {ended : PolicyGenerationSession} (chain : Chain env session before rows kinds)
    (generated : SessionPolicy env session policy) (tenantId : ended.tenantId = session.tenantId)
    (success : insertPolicy env ended policy rows = .ok next) :
    Chain env session before next kinds ∧ ∃ stored ∈ next.policies,
      stored.tenantId = session.tenantId ∧ Named policy stored.policyId stored.version := by
  obtain ⟨row, effect, tenant, named⟩ := insertPolicy_ok success
  subst effect
  have stored : ∃ stored ∈ rows.policies ++ [row],
      stored.tenantId = session.tenantId ∧ Named policy stored.policyId stored.version :=
    ⟨row, by simp, tenant.trans tenantId, named⟩
  exact ⟨⟨chain.written, fun _ _ _ _ => ⟨policy, generated, stored⟩, chain.deployed⟩, stored⟩

/-- A deployment's insert keeps the chain and stores the target. -/
theorem Chain.deployment {before rows next : Rows} {kinds : List AuditKind} {policy : Dict}
    {policyId version : String} {ended : PolicyGenerationSession} {record : DeploymentRecord}
    (chain : Chain env session before rows kinds) (generated : SessionPolicy env session policy)
    (named : Named policy policyId version) (tenantId : ended.tenantId = session.tenantId)
    (recordId : record.policyId = .str policyId) (recordVersion : record.version = .str version)
    (accepted : record.status = "accepted")
    (success : insertDeployment env ended record rows = .ok next) :
    Chain env session before next kinds ∧
      TargetStored env session next (some [("deployment_id", .str record.deploymentId)]) := by
  obtain ⟨row, effect, deploymentId, tenant, rowId, rowVersion, status⟩ :=
    insertDeployment_ok success
  have sameId : policyId = row.policyId := Json.str.inj (recordId.symm.trans rowId)
  have sameVersion : version = row.version := Json.str.inj (recordVersion.symm.trans rowVersion)
  rw [sameId, sameVersion] at named
  subst effect
  refine ⟨⟨chain.written, chain.validated, ?_⟩, ?_⟩
  · intro row member same kind
    obtain ⟨owner, known, target, stored, facts⟩ := chain.deployed row member same kind
    exact ⟨owner, known, target, List.mem_append_left _ stored, facts⟩
  · exact ⟨policy, generated, row, List.mem_append_right _ (List.mem_singleton.mpr rfl),
      status.trans accepted, tenant.trans tenantId, named, by rw [deploymentId]⟩

/-- The kinds in the order that an audit chain has them. -/
def WellOrdered (kinds : List AuditKind) : Prop :=
  ∃ steps rejections, kinds = steps ++ rejections ∧
    steps <+: [AuditKind.generated, .validated, .deployed] ∧
    (rejections = [] ∨ rejections = [AuditKind.rejected])

theorem wellOrdered_of_prefix {kinds : List AuditKind}
    (initial : kinds <+: [AuditKind.generated, .validated, .deployed]) : WellOrdered kinds :=
  ⟨kinds, [], (List.append_nil kinds).symm, initial, Or.inl rfl⟩

theorem WellOrdered.reject {kinds : List AuditKind} (ordered : WellOrdered kinds) :
    WellOrdered (if .rejected ∈ kinds then kinds else kinds ++ [.rejected]) := by
  split
  · exact ordered
  · rename_i fresh
    obtain ⟨steps, rejections, rfl, initial, none | one⟩ := ordered
    · exact ⟨steps, [.rejected], by rw [none, List.append_nil], initial, Or.inr rfl⟩
    · rw [one] at fresh
      exact absurd (by simp) fresh

theorem Ended.ours {result : GraphRun} {kind : AuditKind} {event : AuditEvent}
    (ended : Ended env.graph session result) (ours : Ours result.session kind event) :
    Ours session kind event :=
  ⟨ours.tenantId.trans ended.tenantId, ours.correlationId.trans ended.correlationId, ours.kind⟩

theorem deployCall_named {call : DeployCall} {tenantId : String} {policy : Dict}
    {policyId version : String} (listed : deployCall env.graph tenantId policy = some call)
    (named : Named policy policyId version) :
    call.policyId = .str policyId ∧ call.version = .str version := by
  rw [deployCall, Option.map_eq_some_iff] at listed
  obtain ⟨scope, _, rfl⟩ := listed
  simp only [named.1, named.2, Option.getD_some, and_self]

theorem simulateCall_ok {policy : Dict} {record : DeploymentRecord} {rows next : Rows}
    (success : simulateCall env policy record rows = .ok next) : next = rows := by
  rw [simulateCall] at success
  cases simulated : env.simulate policy record.deploymentId with
  | error message =>
      rw [simulated] at success
      cases success
  | ok done =>
      rw [simulated] at success
      cases success
      rfl

/-- After a dead letter one more row is due. -/
theorem deadLetter_chain {result : GraphRun} {before rows final : Rows}
    (unused : Unused session before) (ended : Ended env.graph session result)
    (chain : Chain env session before rows [.generated])
    (reached : Reaches [auditCall env 1 (deadLetterEvent env result.session)] rows final) :
    ∃ kinds, WellOrdered kinds ∧ Chain env session before final kinds := by
  have ordered : WellOrdered [.generated] := wellOrdered_of_prefix (by decide)
  rcases reached with rfl | ⟨next, called, stopped⟩
  · exact ⟨_, ordered, chain⟩
  · have rejected := chain.audit unused .rejected (by decide)
      (fun sent built => ⟨ended.ours (deadLetterEvent_ours built), nofun, nofun⟩) called
    rw [stopped]
    exact ⟨_, ordered.reject, rejected⟩

/-- After a completed run: the policy and its row, then the deployment and its row. -/
theorem completed_chain {result : GraphRun} {before rows final : Rows} {policy : Dict}
    {call : DeployCall} {response : DeployResponse} (unused : Unused session before)
    (ended : Ended env.graph session result) (generated : SessionPolicy env session policy)
    (listed : deployCall env.graph session.tenantId policy = some call)
    (accepted : response.status = "accepted")
    (chain : Chain env session before rows [.generated])
    (reached : Reaches [insertPolicy env result.session policy,
        auditCall env 1 (.ok (validatedEvent env result.session policy)),
        insertDeployment env result.session (deploymentRecord env.graph call response),
        auditCall env 2 (.ok (deployedEvent env result.session policy
          (deploymentRecord env.graph call response))),
        simulateCall env policy (deploymentRecord env.graph call response)] rows final) :
    ∃ kinds, WellOrdered kinds ∧ Chain env session before final kinds := by
  -- Each call is either not reached, and the chain stands, or takes effect.
  rcases reached with rfl | ⟨withPolicy, inserted, reached⟩
  · exact ⟨_, wellOrdered_of_prefix (by decide), chain⟩
  obtain ⟨chain, stored⟩ := chain.policy generated ended.tenantId inserted
  rcases reached with rfl | ⟨withValidated, called, reached⟩
  · exact ⟨_, wellOrdered_of_prefix (by decide), chain⟩
  have chain := chain.audit unused .validated (by decide) (fun sent built => by
    cases built
    exact ⟨ended.ours ⟨rfl, rfl, rfl⟩, fun _ => ⟨policy, generated, stored⟩, nofun⟩) called
  obtain ⟨row, _, _, named⟩ := stored
  rcases reached with rfl | ⟨withTarget, inserted, reached⟩
  · exact ⟨_, wellOrdered_of_prefix (by decide), chain⟩
  obtain ⟨callId, callVersion⟩ := deployCall_named listed named
  obtain ⟨chain, target⟩ := chain.deployment generated named ended.tenantId callId callVersion
    accepted inserted
  rcases reached with rfl | ⟨withDeployed, called, reached⟩
  · exact ⟨_, wellOrdered_of_prefix (by decide), chain⟩
  have chain := chain.audit unused .deployed (by decide) (fun sent built => by
    cases built
    exact ⟨ended.ours ⟨rfl, rfl, rfl⟩, nofun, fun _ => target⟩) called
  rcases reached with rfl | ⟨simulated, called, stopped⟩
  · exact ⟨_, wellOrdered_of_prefix (by decide), chain⟩
  rw [stopped, simulateCall_ok called]
  exact ⟨_, wellOrdered_of_prefix (by decide), chain⟩

/-- However far the calls of a run get, the chain they leave is in order. -/
theorem calls_chain {result : GraphRun} {before final : Rows} (unused : Unused session before)
    (success : (run env.graph session).outcome = .ok result)
    (reached : Reaches (calls env result) before final) :
    ∃ kinds, WellOrdered kinds ∧ Chain env session before final kinds := by
  have ended := run_ended success
  have start := Chain.start env unused
  obtain ⟨policy, generated⟩ := Option.ne_none_iff_exists'.mp ended.generated
  rw [calls, generated] at reached
  rcases reached with rfl | ⟨rows, called, reached⟩
  · exact ⟨[], wellOrdered_of_prefix (by simp), start⟩
  have chain := start.audit unused .generated (by decide)
    (fun sent built => ⟨ended.ours (generatedEvent_ours built), nofun, nofun⟩) called
  cases final_eq : result.finalState with
  | deadLetter =>
      rw [final_eq] at reached
      exact deadLetter_chain unused ended chain reached
  | completed =>
      obtain ⟨deployed, call, response, same, listed, _, accepted, record⟩ :=
        ended.completed final_eq
      have sent : deployed = policy := Option.some.inj (same.symm.trans generated)
      rw [sent] at listed
      rw [final_eq, record] at reached
      exact completed_chain unused ended ⟨result, success, generated⟩ listed accepted chain reached

theorem runOnce_chain (env : RunnerEnv) (fates : Nat → Fate String) {rows : Rows}
    (unused : Unused session rows) :
    ∃ kinds, WellOrdered kinds ∧ Chain env session rows (runOnce env session fates rows).1 kinds := by
  unfold runOnce
  split
  · exact ⟨[], wellOrdered_of_prefix (by simp), Chain.start env unused⟩
  · rename_i result success
    exact calls_chain unused success (sequence_reaches fates 0 (calls env result) rows)

/-- Whichever calls fail, and on whichever side of their commit, the rows that `run_async`
writes are in order, and each is backed by the registry row it speaks of. -/
theorem runAsync_chain (env : RunnerEnv) (session : PolicyGenerationSession)
    (fates : Nat → Fate String) (last : Fate String) (rows : Rows)
    (unused : Unused session rows) :
    ∃ kinds, WellOrdered kinds ∧
      Chain env session rows (runAsync env session fates last rows).1 kinds := by
  obtain ⟨kinds, ordered, chain⟩ := runOnce_chain env fates unused
  unfold runAsync
  split
  · rename_i next outcome
    rw [outcome] at chain
    exact ⟨kinds, ordered, chain⟩
  · rename_i next message outcome
    rw [outcome] at chain
    rcases call_cases last (auditCall env 3 (.ok (runnerErrorEvent session message))) next with
      ⟨failure, kept⟩ | ⟨final, raised, effect, called⟩
    · rw [kept]
      exact ⟨kinds, ordered, chain⟩
    · rw [called]
      refine ⟨_, ordered.reject, chain.audit unused .rejected (by decide) ?_ effect⟩
      intro sent built
      cases built
      exact ⟨⟨rfl, rfl, rfl⟩, nofun, nofun⟩

/-- A runner around the sample graph. -/
def sampleRunner : RunnerEnv where
  graph := sampleEnv (samplePolicy "vehicle-1" "tenant-a" "finding-1" "session-1")
  converters := ⟨fun _ => none, fun _ => none, fun _ => "", fun _ => "", fun _ => "expected str"⟩
  driver _ := "constraint"
  repr _ := "value"
  sign _ := ("signature", "key")
  simulate _ _ := .ok ()
  factor := 1
  eventId k := ["event-0", "event-1", "event-2", "event-3"].getD k "event-4"
  now := 0

def sampleRows : Rows := ⟨["tenant-a"], [], [], []⟩

/-- The commit of the `deployed` row is reported as an error, so a fourth row follows it. -/
def lateFailure (k : Nat) : Fate String := if k = 4 then .commitsThenRaises "lost" else .runs

theorem runAsync_chain_late_failure :
    (runAsync sampleRunner sampleSession lateFailure .runs sampleRows).1.audits.map (·.kind) =
      [.generated, .validated, .deployed, .rejected] ∧
    ∃ kinds, WellOrdered kinds ∧ Chain sampleRunner sampleSession sampleRows
      (runAsync sampleRunner sampleSession lateFailure .runs sampleRows).1 kinds := by
  refine ⟨by decide +kernel, ?_⟩
  exact runAsync_chain sampleRunner sampleSession lateFailure .runs sampleRows
    (fun row member => by cases member)

end AuditChain

end CollectMind.Graph
