import CollectMind.Loop.Provenance

set_option autoImplicit false

/- What the status of an erasure request says about the database while the other tasks run. A
request is reported as completed only after its sweeps have been committed; what is there of the
vehicle then has been inserted since. -/
namespace CollectMind.Loop

open Python RowSecurity Registry Feedback Erasure Query

/-- What a request has noted about its stores so far. -/
def ErasureStage.noted : ErasureStage → PerStoreStatus
  | .telemetry first => { registry := first }
  | .redacting first second => { registry := first, telemetry := second }
  | .recording perStore => perStore
  | .inserting | .auditing | .registry | .ended => {}

/-- The sweeps of a request about a vehicle. -/
def ErasureTask.scopesSweep (task : ErasureTask) : Sweep :=
  ⟨.scopes, task.submission.tenantId, task.submission.payload.subjectIdentifier⟩

def ErasureTask.telemetrySweep (task : ErasureTask) : Sweep :=
  ⟨.telemetry, task.submission.tenantId, task.submission.payload.subjectIdentifier⟩

/-- What a request has noted, and what its row says, is true of the sweeps so far. -/
structure Truthful (task : ErasureTask) (log : List Sweep) (requests : List ErasureRow)
    (stage : ErasureStage) : Prop where
  registry : stage.noted.registry.settled = true → task.scopesSweep ∈ log
  telemetry : stage.noted.telemetry.settled = true → task.telemetrySweep ∈ log
  completed : ∀ row ∈ requests, row.requestId = task.submission.requestId →
    row.status = .completed → task.scopesSweep ∈ log ∧ task.telemetrySweep ∈ log

/-- No other task is a request under the same id. -/
def Alone {n : Nat} (process : Fin n → Task) (i : Fin n) (requestId : String) : Prop :=
  ∀ j task stage, process j = .erasure task stage → j ≠ i → task.submission.requestId ≠ requestId

section Steps

variable {task : ErasureTask} {log : List Sweep} {db : Database} {stage : ErasureStage}

theorem Truthful.more {requests : List ErasureRow} (truthful : Truthful task log requests stage)
    (more : List Sweep) : Truthful task (log ++ more) requests stage where
  registry settled := List.mem_append_left _ (truthful.registry settled)
  telemetry settled := List.mem_append_left _ (truthful.telemetry settled)
  completed row listed named completed :=
    let both := truthful.completed row listed named completed
    ⟨List.mem_append_left _ both.1, List.mem_append_left _ both.2⟩

theorem settleRow_other {tenantId requestId other : String} {perStore : PerStoreStatus} {now : Nat}
    {row : ErasureRow} (named : (settleRow tenantId other perStore now row).requestId = requestId)
    (apart : other ≠ requestId) : settleRow tenantId other perStore now row = row := by
  unfold settleRow at named ⊢
  split
  · rename_i hit
    rw [if_pos hit] at named
    exact absurd (hit.2.symm.trans named) apart
  · rfl

/-- What a transaction of a request does to the table of requests. -/
theorem operation_requests {now : Nat} {stores next : Stores}
    (success : task.operation now stage stores = .ok next) :
    next.requests = stores.requests ∨
      stage = .inserting ∧ next.requests = stores.requests ++ [task.submission.row] ∨
      ∃ perStore, stage = .recording perStore ∧ next.requests = stores.requests.map
        (settleRow task.submission.tenantId task.submission.requestId perStore now) := by
  cases stage with
  | inserting =>
      right; left
      rw [(insertRequest_ok (Checked.mapError_ok success)).2]
      exact ⟨rfl, rfl⟩
  | auditing =>
      left
      obtain ⟨audits, rfl⟩ := auditRequest_ok (Checked.mapError_ok success)
      rfl
  | registry =>
      left
      have swept := @eraseRegistry_ok task.tenant _ _ _ (Checked.mapError_ok success)
      rw [swept]
  | telemetry status =>
      left
      rw [Except.ok.inj ((Checked.mapError_ok success).symm.trans
        (eraseTelemetry_eq task.tenant task.submission.payload stores))]
  | redacting first second =>
      left
      rw [@redactAudit_ok _ task.tenant _ _ _ (Checked.mapError_ok success)]
  | recording perStore =>
      right; right
      exact ⟨perStore, rfl, @recordStatus_ok _ _ task.tenant _ _ _ (Checked.mapError_ok success)⟩
  | ended =>
      left
      cases success
      rfl

/-- A turn of another request leaves the rows under this one's id alone. -/
theorem act_requests_other {other : ErasureTask} (turn : Turn)
    (apart : other.submission.requestId ≠ task.submission.requestId) :
    ∀ row ∈ (other.act db stage turn).1.requests, row.requestId = task.submission.requestId →
      row ∈ db.requests := by
  intro row listed named
  rcases Calls.call_store turn.fate (other.operation turn.now stage) db.stores with kept | effect
  · have same : (other.act db stage turn).1.requests = db.requests := by
      unfold ErasureTask.act
      dsimp only
      rw [kept]
      rfl
    rw [same] at listed
    exact listed
  · rcases operation_requests effect with kept | ⟨_, added⟩ | ⟨perStore, _, settled⟩
    · have listed : row ∈ db.stores.requests := kept ▸ listed
      exact listed
    · have listed : row ∈ db.requests ++ [other.submission.row] := added ▸ listed
      rcases List.mem_append.mp listed with before | new
      · exact before
      · rw [List.mem_singleton.mp new] at named
        exact absurd named apart
    · have listed : row ∈ db.requests.map (settleRow other.submission.tenantId
          other.submission.requestId perStore turn.now) := settled ▸ listed
      obtain ⟨before, member, rfl⟩ := List.mem_map.mp listed
      rw [settleRow_other named apart]
      exact member

/-- A turn that does not raise has committed, with the sweep of its stage. -/
theorem act_returns {turn : Turn}
    (quiet : (Calls.call turn.fate (task.operation turn.now stage) db.stores).2.isSome = false) :
    (task.act db stage turn).2.2 = task.sweep stage := by
  have effect := Calls.call_returns (Option.not_isSome_iff_eq_none.mp (by rw [quiet]; decide))
  have commits : turn.fate.commits = true := by
    cases fate : turn.fate with
    | runs => rfl
    | commitsThenRaises failure => rfl
    | rollsBack failure =>
        rw [fate] at quiet
        cases quiet
  unfold ErasureTask.act
  dsimp only
  rw [commits, effect]
  rfl

/-- A stage that notes a store as settled follows one that has noted it, or the sweep of it. -/
theorem next_noted_registry {raised : Bool}
    (settled : (task.next raised stage).noted.registry.settled = true) :
    stage.noted.registry.settled = true ∨ stage = .registry ∧ raised = false := by
  cases stage with
  | registry =>
      cases raised with
      | true => cases settled
      | false => exact .inr ⟨rfl, rfl⟩
  | inserting => cases raised <;> cases settled
  | auditing => cases raised <;> cases settled
  | telemetry first => exact .inl settled
  | redacting first second => exact .inl settled
  | recording perStore => cases settled
  | ended => cases settled

theorem next_noted_telemetry {raised : Bool}
    (settled : (task.next raised stage).noted.telemetry.settled = true) :
    stage.noted.telemetry.settled = true ∨ (∃ first, stage = .telemetry first) ∧ raised = false := by
  cases stage with
  | telemetry first =>
      cases raised with
      | true => cases settled
      | false => exact .inr ⟨⟨first, rfl⟩, rfl⟩
  | inserting => cases raised <;> cases settled
  | auditing => cases raised <;> cases settled
  | registry => cases settled
  | redacting first second => exact .inl settled
  | recording perStore => cases settled
  | ended => cases settled

/-- A turn of the request itself. -/
theorem act_truthful (vehicle : task.submission.payload.subjectKind = .vehicle) (turn : Turn)
    (truthful : Truthful task log db.requests stage) :
    Truthful task (log ++ (task.act db stage turn).2.2.toList) (task.act db stage turn).1.requests
      (task.act db stage turn).2.1 := by
  have kept := truthful.more (task.act db stage turn).2.2.toList
  constructor
  · intro settled
    rcases next_noted_registry settled with before | ⟨rfl, quiet⟩
    · exact kept.registry before
    · rw [act_returns quiet, show task.sweep .registry = some task.scopesSweep from if_pos vehicle]
      exact List.mem_append_right _ (List.mem_singleton.mpr rfl)
  · intro settled
    rcases next_noted_telemetry settled with before | ⟨⟨first, rfl⟩, quiet⟩
    · exact kept.telemetry before
    · rw [act_returns quiet,
        show task.sweep (.telemetry first) = some task.telemetrySweep from if_pos vehicle]
      exact List.mem_append_right _ (List.mem_singleton.mpr rfl)
  · intro row listed named completed
    rcases Calls.call_store turn.fate (task.operation turn.now stage) db.stores with same | effect
    · have listed : row ∈ db.stores.requests := same ▸ listed
      exact kept.completed row listed named completed
    · rcases operation_requests effect with same | ⟨_, added⟩ | ⟨perStore, rfl, settled⟩
      · have listed : row ∈ db.stores.requests := same ▸ listed
        exact kept.completed row listed named completed
      · have listed : row ∈ db.requests ++ [task.submission.row] := added ▸ listed
        rcases List.mem_append.mp listed with before | new
        · exact kept.completed row before named completed
        · rw [List.mem_singleton.mp new] at completed
          cases completed
      · have listed : row ∈ db.requests.map (settleRow task.submission.tenantId
            task.submission.requestId perStore turn.now) := settled ▸ listed
        obtain ⟨before, member, rfl⟩ := List.mem_map.mp listed
        unfold settleRow at named completed
        split at completed
        · have settled := status_completed_iff.mp completed
          exact ⟨kept.registry settled.1, kept.telemetry settled.2.1⟩
        · rename_i missed
          rw [if_neg missed] at named
          exact kept.completed before member named completed

end Steps

section Runs

variable {n : Nat} {i : Fin n} {task : ErasureTask}

/-- The request is one of the tasks, the only one under its id, and truthful. -/
structure Reports (i : Fin n) (task : ErasureTask) (log : List Sweep) (tasks : Tasks n) : Prop where
  alone : Alone tasks.process i task.submission.requestId
  truthful : ∃ stage, tasks.process i = .erasure task stage ∧
    Truthful task log tasks.store.requests stage

theorem step_alone {tasks : Tasks n} {turn : Fin n × Turn} {requestId : String}
    (alone : Alone tasks.process i requestId) :
    Alone (Processes.step act tasks turn).1.process i requestId := by
  intro j later stage acting apart
  by_cases here : j = turn.1
  · subst here
    have acted : (act tasks.store (tasks.process turn.1) turn.2).2.1 = .erasure later stage :=
      (Function.update_self ..).symm.trans acting
    obtain ⟨earlier, before⟩ := act_keeps_request acted
    exact alone turn.1 later earlier before apart
  · exact alone j later stage ((Function.update_of_ne here ..).symm.trans acting) apart

theorem onRows_requests (call : Rows → Except String Rows) :
    Calls.Keeps Database.requests (onRows call) := by
  intro db next success
  obtain ⟨rows, _, rfl⟩ := onRows_ok success
  rfl

theorem sessionCalls_requests {session : SessionTask} {turn : Turn} {run : Graph.GraphRun}
    {operation : Database → Except String Database}
    (member : operation ∈ session.calls turn run) : Calls.Keeps Database.requests operation := by
  rcases List.mem_append.mp member with called | simulated
  · obtain ⟨call, _, rfl⟩ := List.mem_map.mp called
    exact onRows_requests call
  · unfold SessionTask.simulates at simulated
    split at simulated
    · rw [List.mem_singleton.mp simulated]
      intro db next success
      obtain ⟨⟨telemetry, count⟩, _, settled⟩ := (Checked.bind_ok_iff _ _ _).mp success
      cases settled
      rfl
    · cases simulated

theorem session_requests (session : SessionTask) (db : Database) (stage : SessionStage)
    (turn : Turn) : (session.act db stage turn).1.requests = db.requests := by
  unfold SessionTask.act
  split
  · split
    · rfl
    · rename_i operation found
      have kept := (sessionCalls_requests (List.mem_of_getElem? found)).call turn.fate db
      split <;> rename_i called <;> rw [called] at kept <;> exact kept
  · exact (onRows_requests _).call turn.fate db
  · rfl

/-- A turn of another task leaves the rows under the request's id alone. -/
theorem act_requests {db : Database} {other : Task} (turn : Turn)
    (apart : ∀ later stage, other = .erasure later stage →
      later.submission.requestId ≠ task.submission.requestId) :
    ∀ row ∈ (act db other turn).1.requests, row.requestId = task.submission.requestId →
      row ∈ db.requests := by
  cases other with
  | erasure later stage => exact act_requests_other turn (apart later stage rfl)
  | worker env worker =>
      intro row listed _
      exact listed
  | session session stage =>
      intro row listed _
      have same := session_requests session db stage turn
      exact same ▸ listed

theorem step_reports (vehicle : task.submission.payload.subjectKind = .vehicle) {log : List Sweep}
    {tasks : Tasks n} (turn : Fin n × Turn) (reports : Reports i task log tasks) :
    Reports i task (log ++ (Processes.step act tasks turn).2.toList)
      (Processes.step act tasks turn).1 := by
  obtain ⟨alone, stage, acting, truthful⟩ := reports
  refine ⟨step_alone alone, ?_⟩
  by_cases here : i = turn.1
  · subst here
    have acted : (Processes.step act tasks turn).1.process turn.1 =
        .erasure task (task.act tasks.store stage turn.2).2.1 := by
      refine (Function.update_self ..).trans ?_
      rw [acting]
      rfl
    refine ⟨_, acted, ?_⟩
    have own := act_truthful vehicle turn.2 truthful
    unfold Processes.step
    dsimp only
    rw [acting]
    exact own
  · refine ⟨stage, (Function.update_of_ne here ..).trans acting, ?_⟩
    have kept := truthful.more (Processes.step act tasks turn).2.toList
    refine ⟨kept.registry, kept.telemetry, ?_⟩
    intro row listed named completed
    refine kept.completed row (act_requests turn.2 ?_ row listed named) named completed
    intro later earlier other
    exact alone turn.1 later earlier other (Ne.symm here)

theorem run_reports (vehicle : task.submission.payload.subjectKind = .vehicle) (tasks : Tasks n)
    (schedule : List (Fin n × Turn)) (reports : Reports i task [] tasks) :
    Reports i task (sweeps tasks schedule) (after tasks schedule) := by
  have told := Runs.final_related (Processes.step act) id
    (fun marks early late => ∀ log, Reports i task log early → Reports i task (log ++ marks) late)
    (fun state log held => by rw [List.append_nil]; exact held)
    (fun first second early middle late sooner later log held => by
      rw [← List.append_assoc]
      exact later _ (sooner log held))
    (fun state turn log held => step_reports vehicle turn held) schedule tasks
  exact told [] reports

/-- What there is of a vehicle at the end of a run, in a tenant's scopes and telemetry, has been
inserted during the run. -/
structure OnlySince (tenantId vehicle : String) (before after : Database) : Prop where
  scopes : ∀ row ∈ after.rows.policies, row.tenantId = tenantId →
    scopeContains vehicle row.vehicleScope = true →
    row ∈ after.rows.policies.drop before.rows.policies.length
  telemetry : ∃ kept new, after.telemetry = kept ++ new ∧ kept.Sublist before.telemetry ∧
    ∀ row ∈ kept, ¬ (row.tenantId = tenantId ∧ row.vehicleId = vehicle)

theorem Continues.onlySince {log : List Sweep} {tenantId vehicle : String} {before after : Database}
    (history : Continues log before after) (scopes : (⟨.scopes, tenantId, vehicle⟩ : Sweep) ∈ log)
    (telemetry : (⟨.telemetry, tenantId, vehicle⟩ : Sweep) ∈ log) :
    OnlySince tenantId vehicle before after := by
  constructor
  · intro row stored own contains
    exact history.named_since scopes stored own contains
  · obtain ⟨new, observed⟩ := history.telemetry
    refine ⟨_, new, observed, List.filter_sublist, ?_⟩
    rintro row kept ⟨own, about⟩
    have spared := (List.mem_filter.mp kept).2
    rw [Loop.spared, Bool.not_eq_true', List.any_eq_false] at spared
    refine spared _ telemetry ?_
    simp [own, about]

/-- However the tasks interleave and fail: once the status route reports a vehicle's erasure as
completed, its two sweeps have been committed, and all there is of the vehicle in the tenant's
scopes and telemetry was inserted after the request. -/
theorem completed_leaves_only_newer (tasks : Tasks n) (i : Fin n) (task : ErasureTask)
    (acting : tasks.process i = .erasure task .inserting)
    (vehicle : task.submission.payload.subjectKind = .vehicle)
    (alone : Alone tasks.process i task.submission.requestId)
    (unused : ∀ row ∈ tasks.store.requests, row.requestId ≠ task.submission.requestId)
    (schedule : List (Fin n × Turn)) (row : ErasureRow)
    (reported : getRequest (after tasks schedule).store.stores task.submission.tenantId
      task.submission.requestId = some row)
    (completed : row.status = .completed) :
    task.scopesSweep ∈ sweeps tasks schedule ∧ task.telemetrySweep ∈ sweeps tasks schedule ∧
      OnlySince task.submission.tenantId task.submission.payload.subjectIdentifier tasks.store
        (after tasks schedule).store := by
  have start : Reports i task [] tasks := by
    refine ⟨alone, .inserting, acting, nofun, nofun, ?_⟩
    intro row listed named
    exact absurd named (unused row listed)
  obtain ⟨_, stage, _, truthful⟩ := run_reports vehicle tasks schedule start
  rw [getRequest] at reported
  have matched := List.find?_some reported
  have listed := List.mem_of_mem_filter (List.mem_of_find?_eq_some reported)
  rw [Bool.and_eq_true, beq_iff_eq, beq_iff_eq] at matched
  obtain ⟨scopes, telemetry⟩ := truthful.completed row listed matched.2 completed
  exact ⟨scopes, telemetry, (run_continues tasks schedule).onlySince scopes telemetry⟩

/-- A request about one of the two vehicles of a policy. -/
def oneErasure : Tasks 1 where
  store := ⟨sampleStores.rows, [], sampleStores.telemetry, []⟩
  process _ := .erasure (sampleErasure publicTenant (by decide)) .inserting

theorem completed_leaves_only_newer_alone :
    ((getRequest (after oneErasure (turnsAt 10 6)).store.stores publicTenant "request-1").map
        ErasureRow.status = some .completed) ∧
      (⟨.telemetry, publicTenant, "vehicle-1"⟩ : Sweep) ∈ sweeps oneErasure (turnsAt 10 6) ∧
      OnlySince publicTenant "vehicle-1" oneErasure.store (after oneErasure (turnsAt 10 6)).store := by
  have alone : Alone oneErasure.process 0 "request-1" := by
    intro j _ _ _ apart
    exact absurd (Subsingleton.elim j 0) apart
  refine ⟨rfl, ?_⟩
  exact (completed_leaves_only_newer oneErasure 0 (sampleErasure publicTenant (by decide)) rfl rfl
    alone (List.forall_mem_nil _) (turnsAt 10 6) _ rfl rfl).2

end Runs

end CollectMind.Loop
