import CollectMind.Feedback.Worker
import CollectMind.Library.Calls
import CollectMind.Library.Processes

set_option autoImplicit false

/- Any number of `FeedbackWorker`s over one database. `_process` is cut into its transactions,
those of different workers come in any order, and each may fail; a worker whose tick raises
polls again. Nothing reserves a deployment, so what a pass writes depends on the others. -/
namespace CollectMind.Feedback

open Python Registry

/-- How far a pass over a deployment has come. -/
inductive Stage where
  | listed
  | missing
  | found (policy : PolicyRow)
  | collected (policy : PolicyRow) (outcome : HypothesisOutcome)
  | inserted (policy : PolicyRow) (outcomeId : String)
  | expired (policy : PolicyRow) (outcomeId : String)
  | done

/-- One transaction of `_process`. -/
def advance (env : Env) (deployment : DeploymentRow) :
    Tables × Stage → Except String (Tables × Stage)
  | (tables, .listed) =>
    match getPolicy tables.rows deployment.tenantId deployment.policyId deployment.version with
    | none => .ok (tables, .missing)
    | some policy => .ok (tables, .found policy)
  | (tables, .missing) => do
    let rows ← (markExpired tables.rows deployment.deploymentId).mapError env.driver
    return ({ tables with rows := rows }, .done)
  | (tables, .found policy) => do
    let observations ← collectTelemetry env tables deployment
    return (tables, .collected policy (evaluate observations policy.confidenceThreshold))
  | (tables, .collected policy outcome) => do
    let outcomes ← (insertOutcomeRow tables.rows tables.outcomes
      (outcomeRow env 0 deployment policy outcome)).mapError env.driver
    return ({ tables with outcomes := outcomes }, .inserted policy (env.outcomeId 0))
  | (tables, .inserted policy outcomeId) => do
    let rows ← (markExpired tables.rows deployment.deploymentId).mapError env.driver
    return ({ tables with rows := rows }, .expired policy outcomeId)
  | (tables, .expired policy outcomeId) => do
    let rows ← auditOutcome { env with outcomeId := fun _ => outcomeId } 0 deployment policy
      tables.rows
    return ({ tables with rows := rows }, .done)
  | (tables, .done) => .ok (tables, .done)

/-- The transactions of a pass one after the other, with nothing in between. -/
def drive (env : Env) (deployment : DeploymentRow) : Nat → Tables × Stage → Tables × Option String
  | 0, (tables, _) => (tables, none)
  | fuel + 1, (tables, stage) =>
    match advance env deployment (tables, stage) with
    | .error message => (tables, some message)
    | .ok next => drive env deployment fuel next

/-- What `mark_expired` leaves. -/
def Tables.expire (tables : Tables) (deploymentId : String) : Tables :=
  { tables with rows := { tables.rows with
      deployments := tables.rows.deployments.map (Registry.expire [deploymentId]) } }

section Alone

variable {env : Env} {deployment : DeploymentRow} {tables : Tables} {stage : Stage}

theorem drive_ok {next : Tables × Stage} (fuel : Nat)
    (success : advance env deployment (tables, stage) = .ok next) :
    drive env deployment (fuel + 1) (tables, stage) = drive env deployment fuel next := by
  rw [drive, success]

theorem drive_error {message : String} (fuel : Nat)
    (failure : advance env deployment (tables, stage) = .error message) :
    drive env deployment (fuel + 1) (tables, stage) = (tables, some message) := by
  rw [drive, failure]

theorem drive_done (fuel : Nat) : drive env deployment fuel (tables, .done) = (tables, none) := by
  induction fuel with
  | zero => rfl
  | succ fuel ih => exact ih

theorem advance_missing : advance env deployment (tables, .missing) =
    .ok (tables.expire deployment.deploymentId, .done) := by
  rw [advance, markExpired_eq]
  rfl

theorem advance_inserted (policy : PolicyRow) (outcomeId : String) :
    advance env deployment (tables, .inserted policy outcomeId) =
      .ok (tables.expire deployment.deploymentId, .expired policy outcomeId) := by
  rw [advance, markExpired_eq]
  rfl

end Alone

/-- A pass that is left alone is `_process`. -/
theorem drive_eq_process (env : Env) (deployment : DeploymentRow) (tables : Tables) :
    drive env deployment 5 (tables, .listed) = process env 0 tables deployment := by
  unfold process
  cases found : getPolicy tables.rows deployment.tenantId deployment.policyId deployment.version with
  | none =>
      have looked : advance env deployment (tables, .listed) = .ok (tables, .missing) := by
        rw [advance, found]
      rw [drive_ok 4 looked, drive_ok 3 advance_missing, drive_done, markExpired_eq]
      rfl
  | some policy =>
      have looked : advance env deployment (tables, .listed) = .ok (tables, .found policy) := by
        rw [advance, found]
      rw [drive_ok 4 looked]
      cases collected : collectTelemetry env tables deployment with
      | error message =>
          apply drive_error
          rw [advance, collected]
          rfl
      | ok observations =>
          have evaluated : advance env deployment (tables, .found policy) = .ok (tables,
              .collected policy (evaluate observations policy.confidenceThreshold)) := by
            rw [advance, collected]
            rfl
          rw [drive_ok 3 evaluated]
          dsimp only
          cases inserted : insertOutcomeRow tables.rows tables.outcomes
              (outcomeRow env 0 deployment policy
                (evaluate observations policy.confidenceThreshold)) with
          | error fault =>
              apply drive_error
              rw [advance, inserted]
              rfl
          | ok outcomes =>
              have stored : advance env deployment (tables, .collected policy
                  (evaluate observations policy.confidenceThreshold)) =
                  .ok ({ tables with outcomes := outcomes },
                    .inserted policy (env.outcomeId 0)) := by
                rw [advance, inserted]
                rfl
              rw [drive_ok 2 stored, drive_ok 1 (advance_inserted _ _), markExpired_eq]
              dsimp only
              cases audited : auditOutcome env 0 deployment policy { tables.rows with
                  deployments :=
                    tables.rows.deployments.map (Registry.expire [deployment.deploymentId]) } with
              | error message =>
                  apply drive_error
                  exact congrArg (· >>= _) audited
              | ok rows =>
                  have recorded : advance env deployment
                      (({ tables with outcomes := outcomes } : Tables).expire deployment.deploymentId,
                        .expired policy (env.outcomeId 0)) =
                      .ok ({ tables with outcomes := outcomes, rows := rows }, .done) :=
                    (Checked.bind_ok_iff _ _ _).mpr ⟨rows, audited, rfl⟩
                  rw [drive_ok 0 recorded]
                  rfl

/-- A worker between two ticks, or in `_process` on a deployment with the rest of its tick's
list still to come. -/
inductive Worker where
  | idle
  | busy (deployment : DeploymentRow) (stage : Stage) (rest : List DeploymentRow)

/-- The loop of `tick` comes to the next deployment. -/
def Worker.next : List DeploymentRow → Worker
  | [] => .idle
  | deployment :: rest => .busy deployment .listed rest

/-- One turn of a worker: what becomes of its transaction, the clock, and the ids it draws. -/
structure Turn where
  fate : Calls.Fate String
  now : Nat
  outcomeId : String
  eventId : String

def Env.during (env : Env) (turn : Turn) : Env :=
  { env with
    now := turn.now
    outcomeId := fun _ => turn.outcomeId
    eventId := fun _ => turn.eventId }

/-- The rows that a turn of a busy worker has written, and the deployment it was busy with. -/
structure Report where
  deploymentId : String
  outcome : Option OutcomeRow
  audit : Option AuditRow

def Stage.isDone : Stage → Bool
  | .done => true
  | _ => false

/-- The next transaction of a worker. What a tick raises, `run_forever` catches. -/
def act (env : Env) (tables : Tables) (worker : Worker) (turn : Turn) :
    Tables × Worker × Option Report :=
  match worker with
  | .idle =>
    match turn.fate with
    | .runs => (tables, .next (listDue tables.rows turn.now), none)
    | _ => (tables, .idle, none)
  | .busy deployment stage rest =>
    let called := Calls.call turn.fate (advance (env.during turn) deployment) (tables, stage)
    (called.1.1,
      if called.2.isSome then .idle
      else if called.1.2.isDone then .next rest
      else .busy deployment called.1.2 rest,
      some ⟨deployment.deploymentId, called.1.1.outcomes[tables.outcomes.length]?,
        called.1.1.rows.audits[tables.rows.audits.length]?⟩)

abbrev Workers (n : Nat) := Processes.System Tables Worker n

/-- `n` workers before their first tick. -/
def Workers.start (n : Nat) (tables : Tables) : Workers n := ⟨tables, fun _ => .idle⟩

/-- What the turns of a run have done, one by one. -/
def reports {n : Nat} (env : Env) (tables : Tables) (schedule : List (Fin n × Turn)) :
    List (Option Report) :=
  Runs.outputs (Processes.step (act env)) (Workers.start n tables) schedule

def after {n : Nat} (env : Env) (tables : Tables) (schedule : List (Fin n × Turn)) : Workers n :=
  Runs.final (Processes.step (act env)) (Workers.start n tables) schedule

/-- The turn was one of a pass over the deployment, with the property. -/
def concerning (deploymentId : String) (property : Report → Bool) (report : Option Report) : Bool :=
  report.any fun report => report.deploymentId == deploymentId && property report

/-- Exactly one outcome row and exactly one audit row have been written for the deployment. -/
def ExactlyOne (deploymentId : String) (reports : List (Option Report)) : Prop :=
  reports.countP (concerning deploymentId fun report => report.outcome.isSome) = 1 ∧
    reports.countP (concerning deploymentId fun report => report.audit.isSome) = 1

def Worker.processes (deploymentId : String) : Worker → Bool
  | .idle => false
  | .busy deployment _ _ => deployment.deploymentId == deploymentId

/-- The deployment is not due, and no worker is processing it. -/
def Settled {n : Nat} (now : Nat) (deploymentId : String) (workers : Workers n) : Prop :=
  (∀ row ∈ workers.store.rows.deployments, row.deploymentId = deploymentId → row.isDue now = false) ∧
    ∀ i, (workers.process i).processes deploymentId = false

section Turns

variable {env : Env} {deployment : DeploymentRow} {tables next : Tables} {stage later : Stage}

/-- A transaction only adds rows to the two logs, one at most. -/
structure Appends (tables next : Tables) (outcome : Option OutcomeRow) (audit : Option AuditRow) :
    Prop where
  outcomes : next.outcomes = tables.outcomes ++ outcome.toList
  audits : next.rows.audits = tables.rows.audits ++ audit.toList

theorem Appends.silent (outcomes : next.outcomes = tables.outcomes)
    (audits : next.rows.audits = tables.rows.audits) : Appends tables next none none :=
  ⟨outcomes.trans (List.append_nil _).symm, audits.trans (List.append_nil _).symm⟩

theorem auditOutcome_audits {k : Nat} {policy : PolicyRow} {rows result : Rows}
    (success : auditOutcome env k deployment policy rows = .ok result) :
    ∃ audit : Option AuditRow, result.audits = rows.audits ++ audit.toList := by
  rw [auditOutcome, Checked.bind_ok_iff] at success
  obtain ⟨finding, _, success⟩ := success
  obtain ⟨⟨audits, stored⟩, written, settled⟩ := (Checked.bind_ok_iff _ _ _).mp success
  cases settled
  obtain ⟨_, _, ⟨_, appended, _⟩ | ⟨_, _, _, _, _, same, _⟩⟩ :=
    write_ok (Checked.mapError_ok written)
  · exact ⟨some _, appended⟩
  · exact ⟨none, by simpa using same⟩

theorem advance_appends (success : advance env deployment (tables, stage) = .ok (next, later)) :
    ∃ outcome audit, Appends tables next outcome audit := by
  cases stage with
  | listed =>
      rw [advance] at success
      split at success
      · cases success
        exact ⟨none, none, .silent rfl rfl⟩
      · cases success
        exact ⟨none, none, .silent rfl rfl⟩
  | missing =>
      rw [advance_missing] at success
      cases success
      exact ⟨none, none, .silent rfl rfl⟩
  | found policy =>
      rw [advance, Checked.bind_ok_iff] at success
      obtain ⟨observations, _, settled⟩ := success
      cases settled
      exact ⟨none, none, .silent rfl rfl⟩
  | collected policy outcome =>
      rw [advance, Checked.bind_ok_iff] at success
      obtain ⟨outcomes, inserted, settled⟩ := success
      cases settled
      have appended := insertOutcomeRow_ok (Checked.mapError_ok inserted)
      exact ⟨some (outcomeRow env 0 deployment policy outcome), none, appended,
        (List.append_nil _).symm⟩
  | inserted policy outcomeId =>
      rw [advance_inserted] at success
      cases success
      exact ⟨none, none, .silent rfl rfl⟩
  | expired policy outcomeId =>
      rw [advance, Checked.bind_ok_iff] at success
      obtain ⟨rows, recorded, settled⟩ := success
      cases settled
      obtain ⟨audit, appended⟩ := auditOutcome_audits recorded
      exact ⟨none, audit, (List.append_nil _).symm, appended⟩
  | done =>
      cases success
      exact ⟨none, none, .silent rfl rfl⟩

theorem getElem?_append_toList {α : Type} (rows : List α) (row : Option α) :
    (rows ++ row.toList)[rows.length]? = row := by
  cases row <;> simp

end Turns

section Grounding

variable {n : Nat} (env : Env) (tables : Tables) (schedule : List (Fin n × Turn))

/-- A turn appends to the logs the rows of its report. -/
theorem act_logs (worker : Worker) (turn : Turn) :
    Appends tables (act env tables worker turn).1
      ((act env tables worker turn).2.2.bind Report.outcome)
      ((act env tables worker turn).2.2.bind Report.audit) := by
  cases worker with
  | idle =>
      unfold act
      dsimp only
      split
      · exact .silent rfl rfl
      · exact .silent rfl rfl
  | busy deployment stage rest =>
      have appends : ∃ outcome audit, Appends tables
          (Calls.call turn.fate (advance (env.during turn) deployment) (tables, stage)).1.1
          outcome audit := by
        rcases Calls.call_store turn.fate (advance (env.during turn) deployment) (tables, stage) with
          kept | effect
        · rw [kept]
          exact ⟨none, none, .silent rfl rfl⟩
        · exact advance_appends effect
      obtain ⟨outcome, audit, appends⟩ := appends
      simp only [act, Option.bind_some]
      rw [appends.outcomes, appends.audits, getElem?_append_toList, getElem?_append_toList]
      exact appends

/-- The rows of the reports are the rows that the run has added to the tables. -/
theorem after_rows :
    (after env tables schedule).store.outcomes =
        tables.outcomes ++ (reports env tables schedule).filterMap (·.bind Report.outcome) ∧
      (after env tables schedule).store.rows.audits =
        tables.rows.audits ++ (reports env tables schedule).filterMap (·.bind Report.audit) := by
  constructor
  · apply Runs.final_log (Processes.step (act env)) (fun workers => workers.store.outcomes)
    intro workers turn
    exact (act_logs env workers.store (workers.process turn.1) turn.2).outcomes
  · apply Runs.final_log (Processes.step (act env)) (fun workers => workers.store.rows.audits)
    intro workers turn
    exact (act_logs env workers.store (workers.process turn.1) turn.2).audits

end Grounding

end CollectMind.Feedback
