import CollectMind.Erasure.Frame
import CollectMind.Erasure.OperatorRecords
import CollectMind.Feedback.Interleaving
import CollectMind.Feedback.Simulation
import CollectMind.Graph.Runner

set_option autoImplicit false

/- The background tasks of the application over its one database: sessions (`run_async`), feedback
workers and erasure requests. Each turn is one transaction of one task; the tasks' turns come in
any order, and each may fail before its commit or after it. -/
namespace CollectMind.Loop

open Python RowSecurity Registry Feedback Erasure CollectMind.Graph

/-- The tables that the tasks share. -/
structure Database where
  rows : Rows
  outcomes : List OutcomeRow
  telemetry : List ObservationRow
  requests : List ErasureRow

/-- What a worker sees of the database. -/
def Database.tables (db : Database) : Tables := ⟨db.rows, db.outcomes, db.telemetry⟩

/-- What the erasure dispatcher sees of the database. -/
def Database.stores (db : Database) : Stores := ⟨db.rows, db.telemetry, db.requests⟩

def Database.withTables (db : Database) (tables : Tables) : Database :=
  ⟨tables.rows, tables.outcomes, tables.telemetry, db.requests⟩

def Database.withStores (db : Database) (stores : Stores) : Database :=
  ⟨stores.rows, db.outcomes, stores.telemetry, stores.requests⟩

/-- A call to the registry as one to the database. -/
def onRows (call : Rows → Except String Rows) (db : Database) : Except String Database :=
  (call db.rows).map fun rows => { db with rows := rows }

/-- A session that `run_async` is called for, with what is around the runner. -/
structure SessionTask where
  env : RunnerEnv
  simulator : Simulator
  directive : Option String
  session : PolicyGenerationSession

/-- How far `run_async` has come: the graph has ended and `k` calls have been made, or a call has
raised and its handler is to write the last event. -/
inductive SessionStage where
  | running (run : GraphRun) (k : Nat)
  | failing (message : String)
  | ended

/-- `run_async` when the graph has ended. -/
def SessionTask.start (task : SessionTask) : SessionStage :=
  match (run task.env.graph task.session).outcome with
  | .error message => .failing message
  | .ok result => .running result 0

/-- The runner at a turn. The rows of the simulation have a call of their own below. -/
def SessionTask.during (task : SessionTask) (turn : Turn) : RunnerEnv :=
  { task.env with
    simulate := fun _ _ => .ok ()
    eventId := fun _ => turn.eventId
    now := turn.now }

/-- The call of `simulate` that follows an audited deployment. -/
def SessionTask.simulates (task : SessionTask) (turn : Turn) (run : GraphRun) :
    List (Database → Except String Database) :=
  match run.finalState, run.session.deploymentRecord with
  | .completed, some _ => [fun db => do
      let (telemetry, _) ← simulate { task.simulator with now := turn.now } db.rows.tenants
        db.telemetry run.session.tenantId (run.session.generatedPolicy.getD []) task.directive
      return { db with telemetry := telemetry }]
  | _, _ => []

/-- The calls of `_run` after the graph has ended. -/
def SessionTask.calls (task : SessionTask) (turn : Turn) (run : GraphRun) :
    List (Database → Except String Database) :=
  (Graph.calls (task.during turn) run).map onRows ++ task.simulates turn run

/-- The next call of `run_async`. -/
def SessionTask.act (task : SessionTask) (db : Database) (stage : SessionStage) (turn : Turn) :
    Database × SessionStage :=
  match stage with
  | .running run k =>
    match (task.calls turn run)[k]? with
    | none => (db, .ended)
    | some operation =>
      match Calls.call turn.fate operation db with
      | (next, none) => (next, .running run (k + 1))
      | (next, some message) => (next, .failing message)
  | .failing message =>
    ((Calls.call turn.fate (onRows (auditCall (task.during turn) 3
      (.ok (runnerErrorEvent task.session message)))) db).1, .ended)
  | .ended => (db, .ended)

/-- A request of an authenticated tenant, whose id is not empty. -/
structure ErasureTask where
  submission : Submission
  named : submission.tenantId ≠ ""
  jsonText : Json → String
  driver : Fault → String

/-- How far a request has come, from `submit` to the end of `_dispatch`. -/
inductive ErasureStage where
  | inserting
  | auditing
  | registry
  | telemetry (registry : StoreStatus)
  | redacting (registry telemetry : StoreStatus)
  | recording (perStore : PerStoreStatus)
  | ended

/-- The transaction of a stage. -/
def ErasureTask.operation (task : ErasureTask) (now : Nat) (stage : ErasureStage)
    (stores : Stores) : Except String Stores :=
  let submission := task.submission
  match stage with
  | .inserting => (insertRequest submission stores).mapError (AuditError.message task.driver)
  | .auditing => (auditRequest submission stores).mapError (AuditError.message task.driver)
  | .registry =>
    (eraseRegistry submission.tenantId submission.payload stores).mapError task.driver
  | .telemetry _ =>
    (eraseTelemetry submission.tenantId submission.payload stores).mapError task.driver
  | .redacting _ _ =>
    (redactAudit task.jsonText submission.tenantId submission.payload stores).mapError task.driver
  | .recording perStore =>
    (recordStatus submission.tenantId submission.requestId perStore now stores).mapError task.driver
  | .ended => .ok stores

/-- The stage after a transaction. `submit` creates no task if it raises; `_dispatch` notes a store
that raises and goes on to the next. -/
def ErasureTask.next (task : ErasureTask) (raised : Bool) : ErasureStage → ErasureStage
  | .inserting => if raised then .ended else .auditing
  | .auditing => if raised then .ended else .registry
  | .registry => .telemetry (if raised then .failed
      else if task.submission.payload.mode = .erased then .erased else .redacted)
  | .telemetry registry => .redacting registry (if raised then .failed else .erased)
  | .redacting registry telemetry =>
    .recording ⟨registry, telemetry, if raised then .failed else .redacted⟩
  | .recording _ | .ended => .ended

/-- The table that an erasure has swept for a tenant's vehicle. -/
inductive Swept where
  | scopes
  | telemetry
  deriving DecidableEq, Repr

structure Sweep where
  swept : Swept
  tenantId : String
  vehicle : String
  deriving DecidableEq, Repr

/-- The sweep that the transaction of a stage makes if it commits. -/
def ErasureTask.sweep (task : ErasureTask) (stage : ErasureStage) : Option Sweep :=
  let payload := task.submission.payload
  if payload.subjectKind = .vehicle then
    match stage with
    | .registry => some ⟨.scopes, task.submission.tenantId, payload.subjectIdentifier⟩
    | .telemetry _ => some ⟨.telemetry, task.submission.tenantId, payload.subjectIdentifier⟩
    | _ => none
  else none

def ErasureTask.act (task : ErasureTask) (db : Database) (stage : ErasureStage) (turn : Turn) :
    Database × ErasureStage × Option Sweep :=
  let operation := task.operation turn.now stage
  let called := Calls.call turn.fate operation db.stores
  (db.withStores called.1, task.next called.2.isSome stage,
    if turn.fate.commits && (operation db.stores).isOk then task.sweep stage else none)

inductive Task where
  | session (task : SessionTask) (stage : SessionStage)
  | worker (env : Feedback.Env) (worker : Worker)
  | erasure (task : ErasureTask) (stage : ErasureStage)

/-- The task has not had a turn yet. -/
def Task.Fresh : Task → Prop
  | .session task stage => stage = task.start
  | .worker _ state => state = .idle
  | .erasure _ stage => stage = .inserting

/-- One turn of a task: the database after it, and the sweep that it committed, if any. -/
def act (db : Database) (task : Task) (turn : Turn) : Database × Task × Option Sweep :=
  match task with
  | .session task stage =>
    let acted := task.act db stage turn
    (acted.1, .session task acted.2, none)
  | .worker env worker =>
    let acted := Feedback.act env db.tables worker turn
    (db.withTables acted.1, .worker env acted.2.1, none)
  | .erasure task stage =>
    let acted := task.act db stage turn
    (acted.1, .erasure task acted.2.1, acted.2.2)

abbrev Tasks (n : Nat) := Processes.System Database Task n

/-- The tasks after a run. -/
def after {n : Nat} (tasks : Tasks n) (schedule : List (Fin n × Turn)) : Tasks n :=
  Runs.final (Processes.step act) tasks schedule

/-- The sweeps that a run has committed, in order. -/
def sweeps {n : Nat} (tasks : Tasks n) (schedule : List (Fin n × Turn)) : List Sweep :=
  (Runs.outputs (Processes.step act) tasks schedule).filterMap id

theorem after_append {n : Nat} (tasks : Tasks n) (first second : List (Fin n × Turn)) :
    after tasks (first ++ second) = after (after tasks first) second :=
  Runs.final_append _ tasks first second

/-- The outcome row is the one that a worker is about to insert. -/
def Task.Evaluates : Task → OutcomeRow → Prop
  | .worker _ (.busy deployment (.collected policy _) _), new =>
    new.policyKey = deployment.policyKey ∧ new.originatingFinding = policy.originatingFinding
  | _, _ => False

/-- What a turn of a task may do to the database, with the sweep that it commits. -/
inductive Effect (task : Task) (db : Database) : Database → Option Sweep → Prop
  | quiet (audits : List AuditRow) (requests : List ErasureRow) :
      Effect task db { db with rows := { db.rows with audits := audits }, requests := requests } none
  | policy (new : PolicyRow) (rows : Rows) (inserted : insertPolicyRow db.rows new = .ok rows) :
      Effect task db { db with rows := rows } none
  | deployment (new : DeploymentRow) (rows : Rows)
      (inserted : insertDeploymentRow db.rows new = .ok rows) :
      Effect task db { db with rows := rows } none
  | outcome (new : OutcomeRow) (outcomes : List OutcomeRow) (evaluates : task.Evaluates new)
      (inserted : insertOutcomeRow db.rows db.outcomes new = .ok outcomes) :
      Effect task db { db with outcomes := outcomes } none
  | expired (deploymentId : String) :
      Effect task db (db.withTables (db.tables.expire deploymentId)) none
  | observed (telemetry : List ObservationRow) :
      Effect task db { db with telemetry := db.telemetry ++ telemetry } none
  | scopes (tenantId vehicle : String) :
      Effect task db (db.withStores (db.stores.eraseScopes tenantId vehicle))
        (some ⟨.scopes, tenantId, vehicle⟩)
  | telemetry (tenantId vehicle : String) :
      Effect task db (db.withStores (db.stores.eraseTelemetry tenantId vehicle))
        (some ⟨.telemetry, tenantId, vehicle⟩)

theorem Effect.none (task : Task) (db : Database) : Effect task db db none :=
  .quiet db.rows.audits db.requests

section Sessions

variable {env : RunnerEnv} {task : Task} {db next : Database} {rows : Rows}

theorem auditCall_effect {k : Nat} {event : Except String AuditEvent}
    (success : auditCall env k event db.rows = .ok rows) :
    Effect task db { db with rows := rows } none := by
  obtain ⟨sent, _, ⟨appended, _⟩ | ⟨kept, _⟩⟩ := auditCall_ok success
  · rw [appended]
    exact .quiet _ db.requests
  · rw [kept]
    exact .none task db

theorem insertPolicy_effect {session : PolicyGenerationSession} {policy : Dict}
    (success : insertPolicy env session policy db.rows = .ok rows) :
    Effect task db { db with rows := rows } none := by
  rw [insertPolicy, Checked.bind_ok_iff] at success
  obtain ⟨row, _, inserted⟩ := success
  exact .policy row rows (Checked.mapError_ok inserted)

theorem insertDeployment_effect {session : PolicyGenerationSession} {record : DeploymentRecord}
    (success : insertDeployment env session record db.rows = .ok rows) :
    Effect task db { db with rows := rows } none := by
  rw [insertDeployment, Checked.bind_ok_iff] at success
  obtain ⟨policyId, _, success⟩ := success
  obtain ⟨version, _, inserted⟩ := (Checked.bind_ok_iff _ _ _).mp success
  exact .deployment _ rows (Checked.mapError_ok inserted)

theorem simulateCall_effect {policy : Dict} {record : DeploymentRecord}
    (success : simulateCall env policy record db.rows = .ok rows) :
    Effect task db { db with rows := rows } none := by
  unfold simulateCall at success
  cases simulated : env.simulate policy record.deploymentId with
  | error message =>
      rw [simulated] at success
      cases success
  | ok _ =>
      rw [simulated] at success
      cases success
      exact .none task db

/-- Every call of `_run` to the registry writes the audit log, or inserts a policy or a
deployment. -/
theorem graphCalls_effect {run : GraphRun} {call : Rows → Except String Rows}
    (member : call ∈ Graph.calls env run) (success : call db.rows = .ok rows) :
    Effect task db { db with rows := rows } none := by
  unfold Graph.calls at member
  rcases List.mem_append.mp member with generated | settled
  · cases policy : run.session.generatedPolicy with
    | none =>
        rw [policy] at generated
        cases generated
    | some policy =>
        simp only [policy, List.mem_singleton] at generated
        rw [generated] at success
        exact auditCall_effect success
  · cases state : run.finalState with
    | deadLetter =>
        simp only [state, List.mem_singleton] at settled
        rw [settled] at success
        exact auditCall_effect success
    | completed =>
        simp only [state] at settled
        rcases List.mem_append.mp settled with stored | deployed
        · rcases List.mem_cons.mp stored with rfl | stored
          · exact insertPolicy_effect success
          · rw [List.mem_singleton.mp stored] at success
            exact auditCall_effect success
        · cases record : run.session.deploymentRecord with
          | none =>
              rw [record] at deployed
              cases deployed
          | some record =>
              simp only [record, List.mem_cons, List.not_mem_nil, or_false] at deployed
              rcases deployed with rfl | rfl | rfl
              · exact insertDeployment_effect success
              · exact auditCall_effect success
              · exact simulateCall_effect success

theorem insertObservation_appends {tenants : List String} {telemetry result : List ObservationRow}
    {new : ObservationRow × String} (success : insertObservation tenants telemetry new = .ok result) :
    result = telemetry ++ [new.1] := by
  rw [insertObservation, Checked.bind_ok_iff] at success
  obtain ⟨inserted, appended, settled⟩ := success
  split at settled
  · cases settled
  · cases settled
    exact insertRow_fail_ok appended

/-- A simulation adds rows and leaves those that are there. -/
theorem simulate_appends {simulator : Simulator} {tenants : List String}
    {telemetry result : List ObservationRow} {tenantId : String} {policy : Dict}
    {directive : Option String} {count : Nat}
    (success : simulate simulator tenants telemetry tenantId policy directive =
      .ok (result, count)) : ∃ rows, result = telemetry ++ rows := by
  unfold simulate at success
  obtain ⟨scope, _, success⟩ := (Checked.bind_ok_iff _ _ _).mp success
  obtain ⟨items, _, success⟩ := (Checked.bind_ok_iff _ _ _).mp success
  obtain ⟨signals, _, success⟩ := (Checked.bind_ok_iff _ _ _).mp success
  split at success
  · cases success
    exact ⟨[], (List.append_nil _).symm⟩
  · obtain ⟨threshold, _, success⟩ := (Checked.bind_ok_iff _ _ _).mp success
    obtain ⟨sent, _, success⟩ := (Checked.bind_ok_iff _ _ _).mp success
    obtain ⟨stored, inserted, settled⟩ := (Checked.bind_ok_iff _ _ _).mp success
    cases settled
    refine Checked.foldlM_ok_invariant (insertObservation tenants)
      (fun state => ∃ rows, state = telemetry ++ rows) sent ?_ telemetry result
      ⟨[], (List.append_nil _).symm⟩ (Checked.mapError_ok inserted)
    rintro state new next _ step ⟨rows, rfl⟩
    exact ⟨rows ++ [new.1], by rw [insertObservation_appends step, List.append_assoc]⟩

theorem simulates_effect {session : SessionTask} {turn : Turn} {run : GraphRun}
    {operation : Database → Except String Database} (member : operation ∈ session.simulates turn run)
    (success : operation db = .ok next) : Effect task db next none := by
  unfold SessionTask.simulates at member
  split at member
  · rw [List.mem_singleton.mp member, Checked.bind_ok_iff] at success
    obtain ⟨⟨telemetry, count⟩, simulated, settled⟩ := success
    cases settled
    obtain ⟨rows, appended⟩ := simulate_appends simulated
    rw [appended]
    exact .observed rows
  · cases member

theorem onRows_ok {call : Rows → Except String Rows} (success : onRows call db = .ok next) :
    ∃ rows, call db.rows = .ok rows ∧ next = { db with rows := rows } := by
  unfold onRows at success
  cases called : call db.rows with
  | error message =>
      rw [called] at success
      cases success
  | ok rows =>
      rw [called] at success
      cases success
      exact ⟨rows, rfl, rfl⟩

theorem sessionCalls_effect {session : SessionTask} {turn : Turn} {run : GraphRun}
    {operation : Database → Except String Database} (member : operation ∈ session.calls turn run)
    (success : operation db = .ok next) : Effect task db next none := by
  rcases List.mem_append.mp member with called | simulated
  · obtain ⟨call, listed, rfl⟩ := List.mem_map.mp called
    obtain ⟨rows, written, rfl⟩ := onRows_ok success
    exact graphCalls_effect listed written
  · exact simulates_effect simulated success

/-- A call leaves the database alone or has its operation's effect. -/
theorem call_effect {fate : Calls.Fate String} {operation : Database → Except String Database}
    (each : ∀ next, operation db = .ok next → Effect task db next none) :
    Effect task db (Calls.call fate operation db).1 none := by
  rcases Calls.call_store fate operation db with kept | effect
  · rw [kept]
    exact .none task db
  · exact each _ effect

theorem SessionTask.act_effect (session : SessionTask) (db : Database) (stage : SessionStage)
    (turn : Turn) : Effect task db (session.act db stage turn).1 none := by
  unfold SessionTask.act
  split
  · rename_i run k
    split
    · exact .none task db
    · rename_i operation found
      have effect : Effect task db (Calls.call turn.fate operation db).1 none :=
        call_effect fun _ => sessionCalls_effect (List.mem_of_getElem? found)
      split <;> rename_i called <;> rw [called] at effect <;> exact effect
  · rename_i message
    apply call_effect
    intro next success
    obtain ⟨rows, written, rfl⟩ := onRows_ok success
    exact auditCall_effect written
  · exact .none task db

end Sessions

section Workers

variable {env : Feedback.Env} {deployment : DeploymentRow} {db : Database} {tables : Tables}
  {rest : List DeploymentRow}

theorem auditOutcome_effect {task : Task} {k : Nat} {policy : PolicyRow} {rows : Rows}
    (success : auditOutcome env k deployment policy db.rows = .ok rows) :
    Effect task db { db with rows := rows } none := by
  rw [auditOutcome, Checked.bind_ok_iff] at success
  obtain ⟨finding, _, success⟩ := success
  obtain ⟨⟨audits, stored⟩, _, settled⟩ := (Checked.bind_ok_iff _ _ _).mp success
  cases settled
  exact .quiet audits db.requests

theorem advance_effect {during : Feedback.Env} {stage later : Stage}
    (success : advance during deployment (db.tables, stage) = .ok (tables, later)) :
    Effect (.worker env (.busy deployment stage rest)) db (db.withTables tables) none := by
  cases stage with
  | listed =>
      cases found : getPolicy db.rows deployment.tenantId deployment.policyId deployment.version with
      | none =>
          simp only [advance, Database.tables, found] at success
          cases success
          exact .none _ db
      | some policy =>
          simp only [advance, Database.tables, found] at success
          cases success
          exact .none _ db
  | missing =>
      rw [advance_missing] at success
      cases success
      exact .expired deployment.deploymentId
  | found policy =>
      obtain ⟨observations, _, settled⟩ := (Checked.bind_ok_iff _ _ _).mp success
      cases settled
      exact .none _ db
  | collected policy outcome =>
      obtain ⟨outcomes, inserted, settled⟩ := (Checked.bind_ok_iff _ _ _).mp success
      cases settled
      exact .outcome _ outcomes ⟨rfl, rfl⟩ (Checked.mapError_ok inserted)
  | inserted policy outcomeId =>
      rw [advance_inserted] at success
      cases success
      exact .expired deployment.deploymentId
  | expired policy outcomeId =>
      obtain ⟨rows, audited, settled⟩ := (Checked.bind_ok_iff _ _ _).mp success
      cases settled
      exact auditOutcome_effect audited
  | done =>
      cases success
      exact .none _ db

theorem worker_effect (env : Feedback.Env) (db : Database) (worker : Worker) (turn : Turn) :
    Effect (.worker env worker) db (db.withTables (Feedback.act env db.tables worker turn).1)
      none := by
  cases worker with
  | idle =>
      unfold Feedback.act
      split
      · split <;> exact .none _ db
      · rename_i impossible
        cases impossible
  | busy deployment stage rest =>
      rcases Calls.call_store turn.fate (advance (env.during turn) deployment) (db.tables, stage) with
        kept | effect
      · have same : (Feedback.act env db.tables (.busy deployment stage rest) turn).1 = db.tables :=
          congrArg Prod.fst kept
        rw [same]
        exact .none _ db
      · exact advance_effect effect

end Workers

section Erasures

variable {task : ErasureTask} {whole : Task} {db : Database} {stores : Stores}

section Alone

/- A request whose turns nothing comes between is the one of the dispatcher's own model. -/
variable {call : ErasureCall}

/-- One turn of a request. -/
def ErasureTask.step (task : ErasureTask) (state : Database × ErasureStage) (turn : Turn) :
    (Database × ErasureStage) × Option Sweep :=
  let acted := task.act state.1 state.2 turn
  ((acted.1, acted.2.1), acted.2.2)

/-- The six turns of a request, with the fates of a call. -/
def ErasureTask.turns (task : ErasureTask) (call : ErasureCall) : List Turn :=
  [(call.submitFates 0).map (AuditError.message task.driver),
    (call.submitFates 1).map (AuditError.message task.driver),
    call.fates.registry.map task.driver, call.fates.telemetry.map task.driver,
    call.fates.audit.map task.driver, call.fates.record.map task.driver].map
      fun fate => ⟨fate, call.now, "", ""⟩

theorem step_ended (db : Database) (turns : List Turn) :
    (Runs.final task.step (db, .ended) turns).1.stores = db.stores := by
  induction turns with
  | nil => rfl
  | cons turn rest ih =>
      rw [Runs.final_cons]
      have still : (task.step (db, .ended) turn).1 = (db, .ended) := by
        unfold ErasureTask.step ErasureTask.act
        cases turn.fate <;> rfl
      rw [still, ih]

theorem step_mapped {δ : Type} {render : δ → String} {fate : Calls.Fate δ} {now : Nat}
    {stage : ErasureStage} {operation : Stores → Except δ Stores}
    (mapped : task.operation now stage = fun stores => (operation stores).mapError render) :
    (task.step (db, stage) ⟨fate.map render, now, "", ""⟩).1 =
      (db.withStores (Calls.call fate operation db.stores).1,
        task.next (Calls.call fate operation db.stores).2.isSome stage) := by
  unfold ErasureTask.step ErasureTask.act
  dsimp only
  rw [mapped, Calls.call_mapError]
  simp

/-- The last four turns are `_dispatch`. -/
theorem alone_eq_dispatch (db : Database) :
    (Runs.final task.step (db, .registry) ((task.turns call).drop 2)).1.stores =
      (dispatch task.jsonText call.fates call.now task.submission.tenantId
        task.submission.requestId task.submission.payload db.stores).stores := by
  simp only [ErasureTask.turns, List.map_cons, List.map_nil, List.drop_succ_cons, List.drop_zero,
    Runs.final_cons, Runs.final_nil]
  rw [@step_mapped task db Fault task.driver call.fates.registry call.now .registry
    (eraseRegistry task.submission.tenantId task.submission.payload) rfl]
  simp only [ErasureTask.next]
  rw [@step_mapped task _ Fault task.driver call.fates.telemetry call.now (.telemetry _)
    (eraseTelemetry task.submission.tenantId task.submission.payload) rfl]
  simp only [ErasureTask.next]
  rw [@step_mapped task _ Fault task.driver call.fates.audit call.now (.redacting _ _)
    (redactAudit task.jsonText task.submission.tenantId task.submission.payload) rfl]
  simp only [ErasureTask.next]
  rw [@step_mapped task _ Fault task.driver call.fates.record call.now (.recording _)
    (recordStatus task.submission.tenantId task.submission.requestId _ call.now) rfl]
  rfl

theorem alone_eq_request (same : call.submission = task.submission) (db : Database) :
    (Runs.final task.step (db, .inserting) (task.turns call)).1.stores =
      request task.jsonText db.stores call := by
  -- The turns after `submit` stay folded: they are those of `_dispatch`, or do nothing.
  have split : task.turns call =
      ⟨(call.submitFates 0).map (AuditError.message task.driver), call.now, "", ""⟩ ::
        ⟨(call.submitFates 1).map (AuditError.message task.driver), call.now, "", ""⟩ ::
          (task.turns call).drop 2 := rfl
  rw [split, request, submit, same, Runs.final_cons, Runs.final_cons, Calls.sequence,
    @step_mapped task db AuditError (AuditError.message task.driver) (call.submitFates 0) call.now
      .inserting (insertRequest task.submission) rfl]
  rcases Calls.call (call.submitFates 0) (insertRequest task.submission) db.stores with
    ⟨inserted, _ | failure⟩
  · dsimp only [ErasureTask.next, Option.isSome_none]
    rw [if_neg Bool.false_ne_true, Calls.sequence,
      @step_mapped task _ AuditError (AuditError.message task.driver) (call.submitFates 1) call.now
        .auditing (auditRequest task.submission) rfl]
    dsimp only [Database.withStores, Database.stores]
    rcases Calls.call (call.submitFates 1) (auditRequest task.submission) inserted with
      ⟨audited, _ | failure⟩
    · exact alone_eq_dispatch (db.withStores audited)
    · exact step_ended _ _
  · exact step_ended (db.withStores inserted)
      (⟨(call.submitFates 1).map (AuditError.message task.driver), call.now, "", ""⟩ ::
        (task.turns call).drop 2)

end Alone

/-- The tenant of a request. -/
def ErasureTask.tenant (task : ErasureTask) : TenantId := ⟨task.submission.tenantId, task.named⟩

theorem eraseRegistry_effect
    (success : eraseRegistry task.submission.tenantId task.submission.payload db.stores = .ok stores) :
    Effect whole db (db.withStores stores) (task.sweep .registry) := by
  unfold ErasureTask.sweep
  by_cases vehicle : task.submission.payload.subjectKind = .vehicle
  · have removed := @eraseRegistry_removes task.tenant _ _ _ vehicle success
    rw [removed, if_pos vehicle]
    exact .scopes task.submission.tenantId task.submission.payload.subjectIdentifier
  · unfold eraseRegistry at success
    rw [if_pos vehicle] at success
    cases success
    rw [if_neg vehicle]
    exact .none whole db

theorem eraseTelemetry_effect {registry : StoreStatus}
    (success : eraseTelemetry task.submission.tenantId task.submission.payload db.stores = .ok stores) :
    Effect whole db (db.withStores stores) (task.sweep (.telemetry registry)) := by
  unfold ErasureTask.sweep
  by_cases vehicle : task.submission.payload.subjectKind = .vehicle
  · have removed := @eraseTelemetry_removes task.tenant _ _ _ vehicle success
    rw [removed, if_pos vehicle]
    exact .telemetry task.submission.tenantId task.submission.payload.subjectIdentifier
  · unfold eraseTelemetry at success
    rw [if_pos vehicle] at success
    cases success
    rw [if_neg vehicle]
    exact .none whole db

theorem auditRequest_ok {submission : Submission} {before next : Stores}
    (success : auditRequest submission before = .ok next) :
    ∃ audits, next = { before with rows := { before.rows with audits := audits } } := by
  rw [auditRequest, Checked.bind_ok_iff] at success
  obtain ⟨⟨audits, stored⟩, _, settled⟩ := success
  cases settled
  exact ⟨audits, rfl⟩

theorem operation_effect {now : Nat} {stage : ErasureStage}
    (success : task.operation now stage db.stores = .ok stores) :
    Effect whole db (db.withStores stores) (task.sweep stage) := by
  cases stage with
  | registry => exact eraseRegistry_effect (Checked.mapError_ok success)
  | telemetry registry => exact eraseTelemetry_effect (Checked.mapError_ok success)
  | inserting =>
      have silent : task.sweep .inserting = none := ite_self none
      rw [silent, (insertRequest_ok (Checked.mapError_ok success)).2]
      exact .quiet db.rows.audits _
  | auditing =>
      have silent : task.sweep .auditing = none := ite_self none
      obtain ⟨audits, rfl⟩ := auditRequest_ok (Checked.mapError_ok success)
      rw [silent]
      exact .quiet audits db.requests
  | redacting registry telemetry =>
      have silent : task.sweep (.redacting registry telemetry) = none := ite_self none
      rw [silent, @redactAudit_ok _ task.tenant _ _ _ (Checked.mapError_ok success)]
      exact .quiet _ db.requests
  | recording perStore =>
      have silent : task.sweep (.recording perStore) = none := ite_self none
      obtain ⟨requests, _, settled⟩ := (Checked.bind_ok_iff _ _ _).mp (Checked.mapError_ok success)
      cases settled
      rw [silent]
      exact .quiet db.rows.audits requests
  | ended =>
      have silent : task.sweep .ended = none := ite_self none
      cases success
      rw [silent]
      exact .none whole db

theorem ErasureTask.act_effect (task : ErasureTask) (db : Database) (stage : ErasureStage)
    (turn : Turn) :
    Effect whole db (task.act db stage turn).1 (task.act db stage turn).2.2 := by
  unfold ErasureTask.act
  dsimp only
  by_cases commits : (turn.fate.commits && (task.operation turn.now stage db.stores).isOk) = true
  · rw [if_pos commits]
    obtain ⟨committed, succeeds⟩ := Bool.and_eq_true_iff.mp commits
    cases effect : task.operation turn.now stage db.stores with
    | error message =>
        rw [effect] at succeeds
        cases succeeds
    | ok stores =>
        rw [Calls.call_commits effect committed]
        exact operation_effect effect
  · have refused : ¬ ((∃ next, task.operation turn.now stage db.stores = .ok next) ∧
        turn.fate.commits = true) := by
      rintro ⟨⟨next, effect⟩, committed⟩
      rw [committed, effect] at commits
      exact commits rfl
    obtain ⟨failure, kept⟩ := Calls.call_not_commits refused
    rw [if_neg commits, kept]
    exact .none whole db

end Erasures

/-- What a turn of any task does. -/
theorem act_effect (db : Database) (task : Task) (turn : Turn) :
    Effect task db (act db task turn).1 (act db task turn).2.2 := by
  cases task with
  | session task stage => exact task.act_effect db stage turn
  | worker env worker => exact worker_effect env db worker turn
  | erasure task stage => exact task.act_effect db stage turn

end CollectMind.Loop
