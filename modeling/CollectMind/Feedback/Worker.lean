import CollectMind.Registry.Repository

set_option autoImplicit false

/- `FeedbackWorker.tick` of feedback/worker.py with the rule of feedback/evaluator.py. Each
database call is a transaction of its own, in the context of the tenant it names. -/
namespace CollectMind.Feedback

open Python RowSecurity Registry

/-- A row of `telemetry_observations`, as far as the worker reads it. -/
structure ObservationRow where
  tenantId : String
  vehicleId : String
  value : PyFloat
  observedAt : Nat
  policyRef : Option Json

structure Tables where
  rows : Rows
  outcomes : List OutcomeRow
  telemetry : List ObservationRow

structure HypothesisOutcome where
  hypothesisState : String
  signalsCollectedCount : Nat
  dataQualityScore : Rat
  evidenceSummary : Dict

/-- `value >= threshold` on floats; no comparison with NaN holds. -/
def atLeast : PyFloat → PyFloat → Bool
  | .finite value, .finite threshold => decide (threshold ≤ value)
  | .posInf, .finite _ | .posInf, .posInf | .posInf, .negInf => true
  | .finite _, .negInf | .negInf, .negInf => true
  | _, _ => false

/-- `BrakeWearHypothesisRule.evaluate`. -/
def evaluate (observations : List PyFloat) (expectedThreshold : PyFloat) : HypothesisOutcome :=
  let count := observations.length
  if count = 0 then ⟨"no_data", 0, 0, []⟩
  else
    let above := observations.countP fun value => atLeast value expectedThreshold
    let below := count - above
    { hypothesisState := if above ≥ below ∧ above > 0 then "confirmed" else "ruled_out"
      signalsCollectedCount := count
      dataQualityScore := min 1 ((count : Rat) / 10)
      evidenceSummary := [("above_threshold", .int above), ("below_threshold", .int below)] }

/-- What the worker is given: the drivers' conversions and texts, its clock, and the ids it
generates for the `k`-th deployment of a tick. -/
structure Env where
  converters : Converters
  driver : Fault → String
  toDict : Json → Except String Dict
  factor : Rat
  now : Nat
  outcomeId : Nat → String
  eventId : Nat → String

def observationTable : Table Settings ObservationRow :=
  table ⟨fun row => some row.tenantId, fun _ => none, fun _ => none⟩ .telemetryObservations

/-- `policy_ref @> jsonb_build_object('policy_id', ..., 'version', ...)`. -/
def refersTo (policyId version : String) : Option Json → Bool
  | some (.obj fields) =>
    (Dict.get fields "policy_id" >>= parseStr) == some policyId &&
      (Dict.get fields "version" >>= parseStr) == some version
  | _ => false

/-- `_collect_telemetry`; the vehicles are bound to a `TEXT[]`. -/
def collectTelemetry (env : Env) (tables : Tables) (deployment : DeploymentRow) :
    Except String (List PyFloat) := do
  let vehicles ← deployment.vehicleScope.mapM env.converters.text
  let rows := (visible observationTable (tenantAccess deployment.tenantId) tables.telemetry).filter
    fun row => row.tenantId == deployment.tenantId && vehicles.contains row.vehicleId &&
      refersTo deployment.policyId deployment.version row.policyRef
  let latest := (rows.insertionSort fun first second => second.observedAt ≤ first.observedAt).take 1000
  return latest.map ObservationRow.value

def outcomeRow (env : Env) (k : Nat) (deployment : DeploymentRow) (policy : PolicyRow)
    (outcome : HypothesisOutcome) : OutcomeRow where
  outcomeId := env.outcomeId k
  tenantId := deployment.tenantId
  originatingFinding := policy.originatingFinding
  policyId := deployment.policyId
  version := deployment.version
  hypothesisState := outcome.hypothesisState
  evaluatedAt := env.now
  evidenceSummary := outcome.evidenceSummary
  signalsCollectedCount := outcome.signalsCollectedCount
  dataQualityScore := outcome.dataQualityScore

/-- `dict(originating_finding or {})`. -/
def findingDict (env : Env) : Json → Except String Dict
  | .obj fields => .ok fields
  | value => if value.truthy then env.toDict value else .ok []

/-- The audit event of an outcome. A deployment has no correlation id of its own, so its
deployment id stands for it. -/
def outcomeEvent (env : Env) (k : Nat) (deployment : DeploymentRow) (finding : Dict) : AuditEvent where
  tenantId := deployment.tenantId
  kind := .outcome
  correlationId := deployment.deploymentId
  principalSubject := "feedback-worker"
  originatingFinding := some finding
  policyRef := some [("tenant_id", .str deployment.tenantId), ("policy_id", .str deployment.policyId),
    ("version", .str deployment.version)]
  outcomeRef := some [("outcome_id", .str (env.outcomeId k))]
  timeAccelerationFactor := some env.factor

def auditOutcome (env : Env) (k : Nat) (deployment : DeploymentRow) (policy : PolicyRow)
    (rows : Rows) : Except String Rows := do
  let finding ← findingDict env policy.originatingFinding
  let (audits, _) ← (write rows.tenants rows.audits (outcomeEvent env k deployment finding)
    (env.eventId k) env.now).mapError (AuditError.message env.driver)
  return { rows with audits := audits }

/-- `_process` on the `k`-th deployment of a tick: the tables it leaves, and what it raises. -/
def process (env : Env) (k : Nat) (tables : Tables) (deployment : DeploymentRow) :
    Tables × Option String :=
  match getPolicy tables.rows deployment.tenantId deployment.policyId deployment.version with
  | none =>
    match markExpired tables.rows deployment.deploymentId with
    | .error fault => (tables, some (env.driver fault))
    | .ok rows => ({ tables with rows := rows }, none)
  | some policy =>
    match collectTelemetry env tables deployment with
    | .error message => (tables, some message)
    | .ok observations =>
      let outcome := evaluate observations policy.confidenceThreshold
      match insertOutcomeRow tables.rows tables.outcomes
          (outcomeRow env k deployment policy outcome) with
      | .error fault => (tables, some (env.driver fault))
      | .ok outcomes =>
        let evaluated := { tables with outcomes := outcomes }
        match markExpired tables.rows deployment.deploymentId with
        | .error fault => (evaluated, some (env.driver fault))
        | .ok rows =>
          match auditOutcome env k deployment policy rows with
          | .error message => ({ evaluated with rows := rows }, some message)
          | .ok rows => ({ evaluated with rows := rows }, none)

/-- The loop of `tick`, from its `k`-th deployment on. -/
def processAll (env : Env) : Nat → Tables → List DeploymentRow → Tables × Option String
  | _, tables, [] => (tables, none)
  | k, tables, deployment :: rest =>
    match process env k tables deployment with
    | (next, some message) => (next, some message)
    | (next, none) => processAll env (k + 1) next rest

/-- `FeedbackWorker.tick`: the tables, and the number it returns or what it raises. -/
def tick (env : Env) (tables : Tables) : Tables × Except String Nat :=
  let due := listDue tables.rows env.now
  match processAll env 0 tables due with
  | (next, some message) => (next, .error message)
  | (next, none) => (next, .ok due.length)

/-- The deployments that are due, whoever they belong to. -/
def due (env : Env) (tables : Tables) : List DeploymentRow :=
  tables.rows.deployments.filter (DeploymentRow.isDue env.now)

/-- Each due deployment gets one outcome row under its own tenant, and is expired. -/
structure ServesAll (env : Env) (before after : Tables) : Prop where
  outcomes : ∃ new, after.outcomes = before.outcomes ++ new ∧
    (new.map OutcomeRow.policyKey).Perm ((due env before).map DeploymentRow.policyKey)
  expired : ∀ deployment ∈ due env before,
    { deployment with status := "expired" } ∈ after.rows.deployments

/-- What processing deployments does when nothing raises. -/
structure Processed (before after : Tables) (deployments : List DeploymentRow) : Prop where
  outcomes : ∃ new, after.outcomes = before.outcomes ++ new ∧
    new.map OutcomeRow.policyKey = deployments.map DeploymentRow.policyKey
  deployments : after.rows.deployments =
    before.rows.deployments.map (expire (deployments.map DeploymentRow.deploymentId))
  policies : after.rows.policies = before.rows.policies

theorem auditOutcome_ok {env : Env} {k : Nat} {deployment : DeploymentRow} {policy : PolicyRow}
    {rows next : Rows} (success : auditOutcome env k deployment policy rows = .ok next) :
    next.deployments = rows.deployments ∧ next.policies = rows.policies := by
  rw [auditOutcome, Checked.bind_ok_iff] at success
  obtain ⟨finding, _, success⟩ := success
  obtain ⟨⟨audits, stored⟩, _, settled⟩ := (Checked.bind_ok_iff _ _ _).mp success
  cases settled
  exact ⟨rfl, rfl⟩

/-- What `_process` has done to a deployment whose policy is found, if nothing stops it. -/
theorem process_quiet {env : Env} {k : Nat} {tables next : Tables} {deployment : DeploymentRow}
    {policy : PolicyRow}
    (found : getPolicy tables.rows deployment.tenantId deployment.policyId deployment.version =
      some policy)
    (quiet : process env k tables deployment = (next, none)) :
    ∃ observations, collectTelemetry env tables deployment = .ok observations ∧
      next.outcomes = tables.outcomes ++
        [outcomeRow env k deployment policy (evaluate observations policy.confidenceThreshold)] ∧
      next.rows.deployments = tables.rows.deployments.map (expire [deployment.deploymentId]) ∧
      next.rows.policies = tables.rows.policies := by
  unfold process at quiet
  rw [found] at quiet
  dsimp only at quiet
  split at quiet
  · cases quiet
  · rename_i observations collected
    split at quiet
    · cases quiet
    · rename_i outcomes inserted
      rw [markExpired_eq] at quiet
      dsimp only at quiet
      split at quiet
      · cases quiet
      · rename_i rows recorded
        cases quiet
        obtain ⟨deployments, policies⟩ := auditOutcome_ok recorded
        exact ⟨observations, collected, insertOutcomeRow_ok inserted, deployments, policies⟩

/-- A deployment whose policy is found and that nothing stops. -/
theorem process_ok {env : Env} {k : Nat} {tables next : Tables} {deployment : DeploymentRow}
    (found : (getPolicy tables.rows deployment.tenantId deployment.policyId
      deployment.version).isSome = true)
    (quiet : process env k tables deployment = (next, none)) :
    Processed tables next [deployment] := by
  obtain ⟨policy, found⟩ := Option.isSome_iff_exists.mp found
  obtain ⟨observations, _, appended, deployments, policies⟩ := process_quiet found quiet
  exact ⟨⟨_, appended, rfl⟩, deployments, policies⟩

theorem expire_expire (first second : List String) (row : DeploymentRow) :
    expire second (expire first row) = expire (first ++ second) row := by
  unfold expire
  by_cases owner : row.tenantId = publicTenant
  · by_cases early : row.deploymentId ∈ first
    · simp [owner, early]
    · simp [owner, early]
  · simp [owner]

theorem map_expire_nil (rows : List DeploymentRow) : rows.map (expire []) = rows := by
  have same : expire [] = id := funext fun row => if_neg (by simp)
  rw [same, List.map_id]

theorem Processed.cons {before middle after : Tables} {deployment : DeploymentRow}
    {rest : List DeploymentRow} (first : Processed before middle [deployment])
    (others : Processed middle after rest) : Processed before after (deployment :: rest) := by
  obtain ⟨new, appended, key⟩ := first.outcomes
  obtain ⟨later, extended, keys⟩ := others.outcomes
  refine ⟨⟨new ++ later, ?_, ?_⟩, ?_, others.policies.trans first.policies⟩
  · rw [extended, appended, List.append_assoc]
  · rw [List.map_append, key, keys]
    rfl
  · rw [others.deployments, first.deployments, List.map_map]
    apply List.map_congr_left
    intro row _
    exact expire_expire _ _ row

theorem processAll_ok {env : Env} (deployments : List DeploymentRow) {k : Nat}
    {tables next : Tables}
    (found : ∀ deployment ∈ deployments, deployment.tenantId ≠ "" ∧
      ∃ row ∈ tables.rows.policies, row.key = deployment.policyKey)
    (quiet : processAll env k tables deployments = (next, none)) :
    Processed tables next deployments := by
  induction deployments generalizing k tables with
  | nil =>
      cases quiet
      refine ⟨⟨[], (List.append_nil _).symm, rfl⟩, ?_, rfl⟩
      rw [List.map_nil, map_expire_nil]
  | cons deployment rest ih =>
      rw [processAll] at quiet
      split at quiet
      · cases quiet
      · rename_i middle here
        have mine := found deployment (by simp)
        have first := process_ok (getPolicy_isSome mine.1 mine.2) here
        refine first.cons (ih ?_ quiet)
        intro later member
        rw [first.policies]
        exact found later (by simp [member])

/-- A tick that raises nothing has processed what it listed. -/
theorem tick_processed {env : Env} {tables : Tables} {count : Nat}
    (stored : ∀ deployment ∈ backlog tables.rows env.now, ∃ row ∈ tables.rows.policies,
      row.key = deployment.policyKey)
    (quiet : (tick env tables).2 = .ok count) :
    Processed tables (tick env tables).1 (listDue tables.rows env.now) := by
  rw [tick] at quiet ⊢
  split at quiet
  · cases quiet
  · rename_i next done
    apply processAll_ok _ _ done
    intro deployment member
    have waits := mem_backlog_of_listDue member
    refine ⟨?_, stored deployment waits⟩
    rw [(mem_backlog.mp waits).2.2]
    decide

/-- A tick serves every due deployment exactly if all of them belong to the public tenant, in
whose context the worker polls. -/
theorem servesAll_iff_public (env : Env) (tables : Tables) (count : Nat)
    (few : (due env tables).length ≤ 100)
    (stored : ∀ deployment ∈ due env tables, ∃ row ∈ tables.rows.policies,
      row.key = deployment.policyKey)
    (quiet : (tick env tables).2 = .ok count) :
    ServesAll env tables (tick env tables).1 ↔
      ∀ deployment ∈ due env tables, deployment.tenantId = publicTenant := by
  have listed := listDue_perm tables.rows env.now few
  have known : ∀ deployment ∈ backlog tables.rows env.now, ∃ row ∈ tables.rows.policies,
      row.key = deployment.policyKey := by
    intro deployment waits
    have found := mem_backlog.mp waits
    exact stored deployment (List.mem_filter.mpr ⟨found.1, found.2.1⟩)
  have processed := tick_processed known quiet
  obtain ⟨new, appended, keys⟩ := processed.outcomes
  constructor
  · intro serves
    obtain ⟨others, extended, perm⟩ := serves.outcomes
    have same : new = others := List.append_cancel_left (appended.symm.trans extended)
    have total := perm.length_eq
    have mine := congrArg List.length keys
    have polled := listed.length_eq
    simp only [List.length_map] at total mine
    rw [← same, mine, polled] at total
    have all := List.length_filter_eq_length_iff.mp total
    intro deployment member
    exact beq_iff_eq.mp (all deployment member)
  · intro mine
    have whole : (due env tables).filter (fun row => row.tenantId == publicTenant) = due env tables :=
      List.filter_eq_self.mpr fun deployment member => beq_iff_eq.mpr (mine deployment member)
    have everyone : (listDue tables.rows env.now).Perm (due env tables) := by
      rw [← whole]
      exact listed
    refine ⟨⟨new, appended, ?_⟩, ?_⟩
    · rw [keys]
      exact everyone.map _
    · intro deployment member
      have polled : deployment.deploymentId ∈
          (listDue tables.rows env.now).map DeploymentRow.deploymentId :=
        List.mem_map_of_mem (everyone.mem_iff.mpr member)
      have hit : expire ((listDue tables.rows env.now).map DeploymentRow.deploymentId) deployment =
          { deployment with status := "expired" } := if_pos ⟨mine deployment member, polled⟩
      rw [processed.deployments, ← hit]
      exact List.mem_map_of_mem (List.mem_filter.mp member).1

def sampleWorker : Env where
  converters := ⟨fun _ => none, fun _ => none, fun _ => "", fun _ => "", fun _ => "expected str"⟩
  driver _ := "database error"
  toDict _ := .error "not a dictionary"
  factor := 1
  now := 10
  outcomeId _ := "outcome-1"
  eventId _ := "event-1"

/-- One policy of a tenant, and one deployment of it whose window has closed. -/
def sampleTables (tenantId : String) : Tables where
  rows :=
    { tenants := [tenantId]
      audits := []
      policies := [
        { tenantId := tenantId
          policyId := "policy-1"
          version := "1.0.0"
          signalSpec := .arr [.str "Vehicle.Speed"]
          triggerConditions := .arr []
          collectionWindowHoursLogical := 1
          vehicleScope := .arr [.str "vehicle-1"]
          hypothesisStatement := "brake wear"
          dataGovernanceFlags := .obj []
          confidenceThreshold := .finite 1
          generatedFromSessionId := "session-1"
          originatingFinding := .obj [("finding_id", .str "finding-1")]
          promptTemplateVersion := "1.0.0"
          slmRepo := "repo"
          slmRevisionSha := "0123456789012345678901234567890123456789"
          slmRuntime := "stub"
          slmRuntimeVersion := "1"
          slmQuantization := "none"
          slmDecodingSeed := 0
          payloadSignature := "signature"
          signatureKeyId := "key"
          createdAt := 0 }]
      deployments := [
        { deploymentId := "deployment-1"
          tenantId := tenantId
          policyId := "policy-1"
          version := "1.0.0"
          environment := "dev"
          vehicleScope := [.str "vehicle-1"]
          status := "accepted"
          downstreamResponse := .null
          requestedAt := 0
          acceptedAt := some 0
          expiresAt := some 5 }] }
  outcomes := []
  telemetry := []

/-- Three policies with a deployment each, one of them still open, and not in the order in which
they expire. -/
def backlogTables : Tables :=
  { sampleTables publicTenant with
    rows := { (sampleTables publicTenant).rows with
      policies := ["1.0.0", "1.1.0", "1.2.0"].flatMap fun version =>
        (sampleTables publicTenant).rows.policies.map fun row => { row with version := version }
      deployments := [("late", "1.0.0", 8), ("early", "1.1.0", 3), ("open", "1.2.0", 20)].flatMap
        fun (deploymentId, version, expiresAt) =>
          (sampleTables publicTenant).rows.deployments.map fun row =>
            { row with deploymentId := deploymentId, version := version, expiresAt := some expiresAt } } }

/-- A worker that draws ids of its own for every deployment. -/
def backlogWorker (name : String) (now : Nat) : Env :=
  { sampleWorker with
    now := now
    outcomeId := fun k => name ++ toString k
    eventId := fun k => name ++ toString k }

theorem backlogTables_stored : ∀ deployment ∈ backlogTables.rows.deployments,
    ∃ row ∈ backlogTables.rows.policies, row.key = deployment.policyKey := by
  intro deployment member
  rw [← List.mem_map]
  have versions : deployment.policyKey ∈ backlogTables.rows.deployments.map DeploymentRow.policyKey :=
    List.mem_map_of_mem member
  have same : backlogTables.rows.deployments.map DeploymentRow.policyKey =
      backlogTables.rows.policies.map PolicyRow.key := by decide
  rwa [same] at versions

theorem servesAll_iff_public_two :
    (due (backlogWorker "first-" 10) backlogTables).length = 2 ∧
      ServesAll (backlogWorker "first-" 10) backlogTables
        (tick (backlogWorker "first-" 10) backlogTables).1 := by
  refine ⟨by decide, ?_⟩
  apply (servesAll_iff_public (backlogWorker "first-" 10) backlogTables 2 (by decide)
    (fun deployment member => backlogTables_stored deployment (List.mem_filter.mp member).1)
    (by decide +kernel)).mpr
  intro deployment member
  have owner : deployment.tenantId ∈ backlogTables.rows.deployments.map DeploymentRow.tenantId :=
    List.mem_map_of_mem (List.mem_filter.mp member).1
  simpa [backlogTables, sampleTables] using owner

/-- The due deployment of another tenant is not even listed: the tick returns 0 and leaves it
accepted, with no outcome. -/
theorem servesAll_fails_for_other_tenant :
    (tick sampleWorker (sampleTables "tenant-a")).2 = .ok 0 ∧
    (due sampleWorker (sampleTables "tenant-a")).length = 1 ∧
    ¬ ServesAll sampleWorker (sampleTables "tenant-a")
      (tick sampleWorker (sampleTables "tenant-a")).1 := by
  refine ⟨by decide +kernel, by decide, ?_⟩
  intro serves
  obtain ⟨new, appended, perm⟩ := serves.outcomes
  have none_written : (tick sampleWorker (sampleTables "tenant-a")).1.outcomes.length = 0 := by
    decide +kernel
  have one_due : (due sampleWorker (sampleTables "tenant-a")).length = 1 := by decide
  have total := perm.length_eq
  rw [appended, List.length_append] at none_written
  simp only [List.length_map, one_due] at total
  omega

end CollectMind.Feedback
