import CollectMind.Loop.Database

set_option autoImplicit false

/- What has become of a row by the end of a run: policies lose the vehicles that were swept and
change in nothing else, telemetry loses what was swept, outcomes stay, and a deployment can only
expire, which the workers can do for one tenant alone. -/
namespace CollectMind.Loop

open Python RowSecurity Registry Feedback Erasure

/-- A scope of a tenant with the vehicles taken out that were swept from it. -/
def remainingScope (sweeps : List Sweep) (tenantId : String) : Json → Json
  | .arr items => .arr (items.filter fun item => !sweeps.any fun sweep =>
      sweep.swept == .scopes && sweep.tenantId == tenantId && item.isStr sweep.vehicle)
  | scope => scope

/-- What the sweeps leave of a policy. -/
def remaining (sweeps : List Sweep) (row : PolicyRow) : PolicyRow :=
  { row with vehicleScope := remainingScope sweeps row.tenantId row.vehicleScope }

/-- The row of telemetry was not swept. -/
def spared (sweeps : List Sweep) (row : ObservationRow) : Bool :=
  !sweeps.any fun sweep =>
    sweep.swept == .telemetry && sweep.tenantId == row.tenantId && sweep.vehicle == row.vehicleId

/-- The database after some sweeps: the rows that were there, in their places, as far as they have
not been swept, and the rows inserted since. -/
structure Continues (sweeps : List Sweep) (before after : Database) : Prop where
  policies : ∃ new, after.rows.policies = before.rows.policies.map (remaining sweeps) ++ new
  deployments : ∃ expired new,
    after.rows.deployments = before.rows.deployments.map (expire expired) ++ new
  outcomes : ∃ new, after.outcomes = before.outcomes ++ new
  telemetry : ∃ new, after.telemetry = before.telemetry.filter (spared sweeps) ++ new
  tenants : after.rows.tenants = before.rows.tenants

section Sweeps

variable {sweeps : List Sweep} {row : PolicyRow}

theorem remainingScope_untouched {tenantId : String} (untouched : ∀ sweep ∈ sweeps,
    sweep.swept = .scopes → sweep.tenantId ≠ tenantId) (scope : Json) :
    remainingScope sweeps tenantId scope = scope := by
  cases scope with
  | arr items =>
      refine congrArg Json.arr (List.filter_eq_self.mpr ?_)
      intro item _
      rw [Bool.not_eq_true', List.any_eq_false]
      intro sweep member concerned
      simp only [Bool.and_eq_true, beq_iff_eq] at concerned
      exact untouched sweep member concerned.1.1 concerned.1.2
  | _ => rfl

theorem remainingScope_append (first second : List Sweep) (tenantId : String) (scope : Json) :
    remainingScope (first ++ second) tenantId scope =
      remainingScope second tenantId (remainingScope first tenantId scope) := by
  cases scope with
  | arr items => simp [remainingScope, List.filter_filter, Bool.and_comm]
  | _ => rfl

theorem remaining_untouched (untouched : ∀ sweep ∈ sweeps, sweep.swept = .scopes →
    sweep.tenantId ≠ row.tenantId) : remaining sweeps row = row := by
  rw [remaining, remainingScope_untouched untouched]

theorem remaining_append (first second : List Sweep) (row : PolicyRow) :
    remaining (first ++ second) row = remaining second (remaining first row) := by
  rw [remaining, remainingScope_append]
  rfl

theorem remaining_scopes (tenantId vehicle : String) (row : PolicyRow) :
    remaining [⟨.scopes, tenantId, vehicle⟩] row = removeFromScope tenantId vehicle row := by
  unfold removeFromScope
  split
  · rename_i own
    rw [remaining]
    congr 1
    cases row.vehicleScope <;> simp [remainingScope, removeVehicle, own]
  · rename_i foreign
    apply remaining_untouched
    intro sweep member _ same
    rw [List.mem_singleton.mp member] at same
    exact foreign same.symm

theorem map_remaining_untouched {policies : List PolicyRow} (untouched : ∀ sweep ∈ sweeps,
    sweep.swept ≠ .scopes) : policies.map (remaining sweeps) = policies := by
  have each : ∀ row ∈ policies, remaining sweeps row = row := fun row _ =>
    remaining_untouched fun sweep member scopes => absurd scopes (untouched sweep member)
  rw [List.map_congr_left each, List.map_id']

theorem filter_spared_untouched {telemetry : List ObservationRow} (untouched : ∀ sweep ∈ sweeps,
    sweep.swept ≠ .telemetry) : telemetry.filter (spared sweeps) = telemetry := by
  apply List.filter_eq_self.mpr
  intro row _
  rw [spared, Bool.not_eq_true', List.any_eq_false]
  intro sweep member concerned
  simp only [Bool.and_eq_true, beq_iff_eq] at concerned
  exact untouched sweep member concerned.1.1

theorem spared_append (first second : List Sweep) (row : ObservationRow) :
    spared (first ++ second) row = (spared first row && spared second row) := by
  simp [spared]

end Sweeps

section Continuation

variable {task : Task} {before middle after : Database} {first second : List Sweep}

/-- Nothing was swept, and rows may have been added. -/
theorem Continues.grown {policies : List PolicyRow} {deployments : List DeploymentRow}
    {outcomes : List OutcomeRow} {telemetry : List ObservationRow}
    (registered : after.rows.policies = before.rows.policies ++ policies)
    (deployed : after.rows.deployments = before.rows.deployments ++ deployments)
    (evaluated : after.outcomes = before.outcomes ++ outcomes)
    (observed : after.telemetry = before.telemetry ++ telemetry)
    (tenants : after.rows.tenants = before.rows.tenants) : Continues [] before after := by
  constructor
  · exact ⟨policies, by rw [registered, map_remaining_untouched (List.forall_mem_nil _)]⟩
  · exact ⟨[], deployments, by rw [deployed, map_expire_nil]⟩
  · exact ⟨outcomes, evaluated⟩
  · exact ⟨telemetry, by rw [observed, filter_spared_untouched (List.forall_mem_nil _)]⟩
  · exact tenants

theorem Continues.trans (early : Continues first before middle)
    (late : Continues second middle after) : Continues (first ++ second) before after := by
  constructor
  · obtain ⟨new, early⟩ := early.policies
    obtain ⟨newer, late⟩ := late.policies
    refine ⟨new.map (remaining second) ++ newer, ?_⟩
    rw [late, early, List.map_append, List.map_map, List.append_assoc]
    congr 1
    exact List.map_congr_left fun row _ => (remaining_append first second row).symm
  · obtain ⟨expired, new, early⟩ := early.deployments
    obtain ⟨further, newer, late⟩ := late.deployments
    refine ⟨expired ++ further, new.map (expire further) ++ newer, ?_⟩
    rw [late, early, List.map_append, List.map_map, List.append_assoc]
    congr 1
    exact List.map_congr_left fun row _ => expire_expire expired further row
  · obtain ⟨new, early⟩ := early.outcomes
    obtain ⟨newer, late⟩ := late.outcomes
    exact ⟨new ++ newer, by rw [late, early, List.append_assoc]⟩
  · obtain ⟨new, early⟩ := early.telemetry
    obtain ⟨newer, late⟩ := late.telemetry
    refine ⟨new.filter (spared second) ++ newer, ?_⟩
    rw [late, early, List.filter_append, List.filter_filter, List.append_assoc]
    congr 1
    apply List.filter_congr
    intro row _
    rw [spared_append, Bool.and_comm]
  · rw [late.tenants, early.tenants]

theorem Continues.refl (db : Database) : Continues [] db db :=
  .grown (List.append_nil _).symm (List.append_nil _).symm (List.append_nil _).symm
    (List.append_nil _).symm rfl

/-- What one turn leaves. -/
theorem Effect.continues {sweep : Option Sweep} (effect : Effect task before after sweep) :
    Continues sweep.toList before after := by
  have same {α : Type} (rows : List α) : rows = rows ++ [] := (List.append_nil rows).symm
  cases effect with
  | quiet audits requests => exact .grown (same _) (same _) (same _) (same _) rfl
  | policy new rows inserted =>
      rw [insertPolicyRow_ok inserted]
      exact .grown rfl (same _) (same _) (same _) rfl
  | deployment new rows inserted =>
      rw [insertDeploymentRow_ok inserted]
      exact .grown (same _) rfl (same _) (same _) rfl
  | outcome new outcomes evaluates inserted =>
      rw [insertOutcomeRow_ok inserted]
      exact .grown (same _) (same _) rfl (same _) rfl
  | observed telemetry => exact .grown (same _) (same _) (same _) rfl rfl
  | expired deploymentId =>
      exact { Continues.refl before with deployments := ⟨[deploymentId], [], same _⟩ }
  | scopes tenantId vehicle =>
      have other : ∀ sweep ∈ [Sweep.mk .scopes tenantId vehicle], sweep.swept ≠ .telemetry := by simp
      constructor
      · refine ⟨[], ?_⟩
        rw [List.append_nil]
        exact List.map_congr_left fun row _ => (remaining_scopes tenantId vehicle row).symm
      · exact ⟨[], [], by rw [map_expire_nil, List.append_nil]; rfl⟩
      · exact ⟨[], same _⟩
      · exact ⟨[], by rw [Option.toList_some, filter_spared_untouched other, List.append_nil]; rfl⟩
      · rfl
  | telemetry tenantId vehicle =>
      have other : ∀ sweep ∈ [Sweep.mk .telemetry tenantId vehicle], sweep.swept ≠ .scopes := by simp
      constructor
      · exact ⟨[], by rw [Option.toList_some, map_remaining_untouched other, List.append_nil]; rfl⟩
      · exact ⟨[], [], by rw [map_expire_nil, List.append_nil]; rfl⟩
      · exact ⟨[], same _⟩
      · refine ⟨[], ?_⟩
        rw [List.append_nil]
        apply List.filter_congr
        intro row _
        simp [spared, eq_comm, Bool.beq_eq_decide_eq]
      · rfl

end Continuation

section Runs

variable {n : Nat}

theorem run_continues (tasks : Tasks n) (schedule : List (Fin n × Turn)) :
    Continues (sweeps tasks schedule) tasks.store (after tasks schedule).store := by
  refine Runs.final_related (Processes.step act) id
    (fun marks early late => Continues marks early.store late.store) ?_ ?_ ?_ schedule tasks
  · intro state
    exact Continues.refl state.store
  · intro first second early middle late sooner later
    exact sooner.trans later
  · intro state turn
    exact (act_effect state.store (state.process turn.1) turn.2).continues

/-- The sweep that a turn commits is one of the run. -/
theorem mem_sweeps_cons {tasks : Tasks n} {turn : Fin n × Turn} {sweep : Sweep}
    (committed : (Processes.step act tasks turn).2 = some sweep) (rest : List (Fin n × Turn)) :
    sweep ∈ sweeps tasks (turn :: rest) := by
  rw [sweeps, Runs.outputs_cons, List.mem_filterMap]
  exact ⟨_, List.mem_cons_self, committed⟩

/-- One of the tasks is a request of the tenant about the vehicle. -/
def Asked (process : Fin n → Task) (sweep : Sweep) : Prop :=
  ∃ i task stage, process i = .erasure task stage ∧
    task.submission.payload.subjectKind = .vehicle ∧
    sweep.tenantId = task.submission.tenantId ∧
    sweep.vehicle = task.submission.payload.subjectIdentifier

theorem sweep_asked {task : ErasureTask} {stage : ErasureStage} {sweep : Sweep}
    (swept : task.sweep stage = some sweep) :
    task.submission.payload.subjectKind = .vehicle ∧
      sweep.tenantId = task.submission.tenantId ∧
      sweep.vehicle = task.submission.payload.subjectIdentifier := by
  obtain ⟨vehicle, named⟩ := Option.ite_none_right_eq_some.mp swept
  cases stage with
  | registry =>
      cases named
      exact ⟨vehicle, rfl, rfl⟩
  | telemetry status =>
      cases named
      exact ⟨vehicle, rfl, rfl⟩
  | _ => cases named

theorem act_asked {db : Database} {process : Fin n → Task} {i : Fin n} {turn : Turn}
    {sweep : Sweep} (swept : (act db (process i) turn).2.2 = some sweep) : Asked process sweep := by
  cases acting : process i with
  | session task stage =>
      rw [acting] at swept
      cases swept
  | worker env worker =>
      rw [acting] at swept
      cases swept
  | erasure task stage =>
      rw [acting] at swept
      have committed : task.sweep stage = some sweep := by
        have swept : (if _ then task.sweep stage else none) = some sweep := swept
        exact (Option.ite_none_right_eq_some.mp swept).2
      exact ⟨i, task, stage, acting, sweep_asked committed⟩

/-- A task stays the request that it is. -/
theorem act_keeps_request {db : Database} {before : Task} {turn : Turn} {later : ErasureTask}
    {stage : ErasureStage} (acted : (act db before turn).2.1 = .erasure later stage) :
    ∃ earlier, before = .erasure later earlier := by
  cases before with
  | session task stage => cases acted
  | worker env worker => cases acted
  | erasure task earlier =>
      injection acted with same
      exact ⟨earlier, by rw [same]⟩

theorem asked_step {tasks : Tasks n} {turn : Fin n × Turn} {sweep : Sweep}
    (asked : Asked (Processes.step act tasks turn).1.process sweep) :
    Asked tasks.process sweep := by
  obtain ⟨i, task, stage, acting, about⟩ := asked
  by_cases here : i = turn.1
  · subst here
    obtain ⟨earlier, before⟩ := act_keeps_request ((Function.update_self ..).symm.trans acting)
    exact ⟨turn.1, task, earlier, before, about⟩
  · exact ⟨i, task, stage, (Function.update_of_ne here ..).symm.trans acting, about⟩

theorem sweeps_asked (tasks : Tasks n) (schedule : List (Fin n × Turn)) :
    ∀ sweep ∈ sweeps tasks schedule, Asked tasks.process sweep := by
  induction schedule generalizing tasks with
  | nil => exact List.forall_mem_nil _
  | cons turn rest ih =>
      intro sweep member
      rw [sweeps, Runs.outputs_cons, List.mem_filterMap] at member
      obtain ⟨output, listed, marked⟩ := member
      rcases List.mem_cons.mp listed with first | later
      · exact act_asked (first ▸ marked)
      · exact asked_step (ih _ sweep (List.mem_filterMap.mpr ⟨output, later, marked⟩))

/-- However the tasks' transactions interleave and fail, every row is at the end what it was, in
its place, but for vehicles that a request of its own tenant has asked to erase and for
deployments of the public tenant that have expired. -/
theorem run_keeps_but_swept (tasks : Tasks n) (schedule : List (Fin n × Turn)) :
    Continues (sweeps tasks schedule) tasks.store (after tasks schedule).store ∧
      ∀ sweep ∈ sweeps tasks schedule, Asked tasks.process sweep :=
  ⟨run_continues tasks schedule, sweeps_asked tasks schedule⟩

end Runs

end CollectMind.Loop
