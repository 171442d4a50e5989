import CollectMind.Feedback.Worker
import CollectMind.Library.BatchQueue

set_option autoImplicit false

/- Tick after tick of one `FeedbackWorker`: how the backlog of due deployments is worked off. -/
namespace CollectMind.Feedback

open Registry BatchQueue

/-- The keys of migration 006: `deployment_id` is unique, and a deployment has its policy. -/
structure Keyed (tables : Tables) : Prop where
  distinct : (tables.rows.deployments.map DeploymentRow.deploymentId).Nodup
  stored : ∀ deployment ∈ tables.rows.deployments, ∃ row ∈ tables.rows.policies,
    row.key = deployment.policyKey

/-- What the worker can see is due at the one time exactly if it is at the other. -/
def SameDue (tables : Tables) (now later : Nat) : Prop :=
  ∀ row ∈ tables.rows.deployments, row.tenantId = publicTenant → row.isDue later = row.isDue now

/-- The rows of `deployment_targets` in another order. -/
def Rearranged (tables arranged : Tables) : Prop :=
  ∃ deployments, deployments.Perm tables.rows.deployments ∧
    arranged = { tables with rows := { tables.rows with deployments := deployments } }

/-- Ticks that raise nothing. `ORDER BY expires_at` leaves the order of rows that expire at the
same time to the database, which may find them in another order at every tick. -/
inductive Ticks : List Env → Tables → Tables → Prop where
  | none (tables : Tables) : Ticks [] tables tables
  | tick {env : Env} {envs : List Env} {before arranged after : Tables} {count : Nat}
      (order : Rearranged before arranged) (quiet : (tick env arranged).2 = .ok count)
      (later : Ticks envs (tick env arranged).1 after) : Ticks (env :: envs) before after

section Expiring

variable {ids : List String} {row : DeploymentRow}

@[simp] theorem expire_deploymentId (ids : List String) (row : DeploymentRow) :
    (expire ids row).deploymentId = row.deploymentId := by
  unfold expire
  split
  · rfl
  · rfl

@[simp] theorem expire_policyKey (ids : List String) (row : DeploymentRow) :
    (expire ids row).policyKey = row.policyKey := by
  unfold expire
  split
  · rfl
  · rfl

@[simp] theorem expire_tenantId (ids : List String) (row : DeploymentRow) :
    (expire ids row).tenantId = row.tenantId := by
  unfold expire
  split
  · rfl
  · rfl

theorem expire_of_mem (owner : row.tenantId = publicTenant) (listed : row.deploymentId ∈ ids) :
    expire ids row = { row with status := "expired" } := if_pos ⟨owner, listed⟩

theorem expire_of_not_mem (unlisted : row.deploymentId ∉ ids) : expire ids row = row :=
  if_neg fun hit => unlisted hit.2

theorem isDue_expired (row : DeploymentRow) (now : Nat) :
    ({ row with status := "expired" } : DeploymentRow).isDue now = false := rfl

/-- Expired deployments are no longer waiting, and the others still are. -/
theorem backlog_expire (rows : Rows) (now : Nat) (ids : List String) :
    backlog { rows with deployments := rows.deployments.map (expire ids) } now =
      (backlog rows now).filter fun row => decide (row.deploymentId ∉ ids) := by
  unfold backlog
  dsimp only
  induction rows.deployments with
  | nil => rfl
  | cons row rest ih =>
      rw [List.map_cons, List.filter_cons, List.filter_cons, ih]
      by_cases owner : row.tenantId = publicTenant
      · by_cases listed : row.deploymentId ∈ ids
        · rw [expire_of_mem owner listed, isDue_expired]
          cases row.isDue now with
          | true => simp [owner, listed]
          | false => simp
        · rw [expire_of_not_mem listed]
          cases row.isDue now with
          | true => simp [owner, listed]
          | false => simp
      · simp [owner]

theorem backlog_of_expired {before after : Tables}
    (deployments : after.rows.deployments = before.rows.deployments.map (expire ids)) (now : Nat) :
    backlog after.rows now =
      (backlog before.rows now).filter fun row => decide (row.deploymentId ∉ ids) := by
  rw [← backlog_expire]
  unfold backlog
  rw [deployments]

end Expiring

theorem Keyed.backlog_distinct {tables : Tables} (keyed : Keyed tables) (now : Nat) :
    ((backlog tables.rows now).map DeploymentRow.deploymentId).Nodup :=
  keyed.distinct.sublist (List.filter_sublist.map _)

theorem SameDue.backlog_eq {tables : Tables} {now later : Nat} (same : SameDue tables now later) :
    backlog tables.rows later = backlog tables.rows now := by
  apply List.filter_congr
  intro row member
  by_cases owner : row.tenantId = publicTenant
  · rw [same row member owner]
  · have unseen : (row.tenantId == publicTenant) = false := beq_eq_false_iff_ne.mpr owner
    rw [unseen, Bool.and_false, Bool.and_false]

section Kept

variable {before after : Tables} {ids : List String}

/-- Expiring deployments keeps the keys. -/
theorem Keyed.expired (keyed : Keyed before)
    (deployments : after.rows.deployments.Perm (before.rows.deployments.map (expire ids)))
    (policies : after.rows.policies = before.rows.policies) : Keyed after where
  distinct := by
    rw [(deployments.map DeploymentRow.deploymentId).nodup_iff, List.map_map]
    simpa [Function.comp_def] using keyed.distinct
  stored deployment member := by
    obtain ⟨row, found, same⟩ := List.mem_map.mp (deployments.mem_iff.mp member)
    rw [policies, ← same, expire_policyKey]
    exact keyed.stored row found

theorem SameDue.expired {now later : Nat} (same : SameDue before now later)
    (deployments : after.rows.deployments.Perm (before.rows.deployments.map (expire ids))) :
    SameDue after now later := by
  intro deployment member owner
  obtain ⟨row, found, moved⟩ := List.mem_map.mp (deployments.mem_iff.mp member)
  rw [← moved, expire_tenantId] at owner
  rw [← moved]
  by_cases listed : row.deploymentId ∈ ids
  · rw [expire_of_mem owner listed]
    rfl
  · rw [expire_of_not_mem listed]
    exact same row found owner

end Kept

/-- What processing deployments does, up to the order of the table. -/
structure Served (before after : Tables) (deployments : List DeploymentRow) : Prop where
  outcomes : ∃ new, after.outcomes = before.outcomes ++ new ∧
    new.map OutcomeRow.policyKey = deployments.map DeploymentRow.policyKey
  deployments : after.rows.deployments.Perm
    (before.rows.deployments.map (expire (deployments.map DeploymentRow.deploymentId)))
  policies : after.rows.policies = before.rows.policies

theorem Served.append {before middle after : Tables} {first second : List DeploymentRow}
    (early : Served before middle first) (late : Served middle after second) :
    Served before after (first ++ second) := by
  obtain ⟨new, appended, keys⟩ := early.outcomes
  obtain ⟨more, extended, others⟩ := late.outcomes
  refine ⟨⟨new ++ more, ?_, ?_⟩, ?_, late.policies.trans early.policies⟩
  · rw [extended, appended, List.append_assoc]
  · rw [List.map_append, List.map_append, keys, others]
  · have moved := late.deployments.trans (early.deployments.map _)
    rw [List.map_map] at moved
    rw [List.map_append]
    have twice : expire (second.map DeploymentRow.deploymentId) ∘
        expire (first.map DeploymentRow.deploymentId) =
          expire (first.map DeploymentRow.deploymentId ++ second.map DeploymentRow.deploymentId) :=
      funext fun row => expire_expire _ _ row
    rw [twice] at moved
    exact moved

section Ticks

variable {before arranged after : Tables}

theorem Rearranged.served (order : Rearranged before arranged) {deployments : List DeploymentRow}
    (processed : Processed arranged after deployments) : Served before after deployments := by
  obtain ⟨rows, perm, same⟩ := order
  subst same
  refine ⟨processed.outcomes, ?_, processed.policies⟩
  rw [processed.deployments]
  exact perm.map _

theorem Rearranged.keyed (order : Rearranged before arranged) (keyed : Keyed before) :
    Keyed arranged := by
  obtain ⟨rows, perm, same⟩ := order
  subst same
  refine ⟨(perm.map _).nodup_iff.mpr keyed.distinct, ?_⟩
  intro deployment member
  exact keyed.stored deployment (perm.mem_iff.mp member)

theorem Rearranged.backlog (order : Rearranged before arranged) (now : Nat) :
    (Registry.backlog arranged.rows now).Perm (Registry.backlog before.rows now) := by
  obtain ⟨rows, perm, same⟩ := order
  subst same
  exact perm.filter _

/-- After a tick the rest of the list is waiting. -/
theorem tick_backlog {env : Env} (keyed : Keyed arranged)
    (processed : Processed arranged after (listDue arranged.rows env.now)) :
    (Registry.backlog after.rows env.now).Perm
      ((sort DeploymentRow.expiry (Registry.backlog arranged.rows env.now)).drop 100) := by
  have sorted := sort_perm DeploymentRow.expiry (Registry.backlog arranged.rows env.now)
  have distinct := (sorted.map DeploymentRow.deploymentId).nodup_iff.mpr
    (keyed.backlog_distinct env.now)
  rw [backlog_of_expired processed.deployments,
    ← filter_eq_drop DeploymentRow.deploymentId distinct 100, listDue_eq]
  exact (sorted.filter _).symm

/-- A run of ticks takes the deployments from the backlog in batches of a hundred. -/
theorem ticks_drain {now : Nat} {envs : List Env} (ran : Ticks envs before after)
    (keyed : Keyed before) (steady : ∀ env ∈ envs, SameDue before now env.now) :
    ∃ processed waiting,
      Drains 100 DeploymentRow.expiry envs.length (Registry.backlog before.rows now) processed
        waiting ∧
      Served before after processed := by
  induction ran with
  | none tables =>
      refine ⟨[], _, .none _, ⟨[], (List.append_nil _).symm, rfl⟩, ?_, rfl⟩
      rw [List.map_nil, map_expire_nil]
  | @tick env envs before arranged after count order quiet later ih =>
      have known : ∀ deployment ∈ Registry.backlog arranged.rows env.now,
          ∃ row ∈ arranged.rows.policies, row.key = deployment.policyKey := fun deployment waits =>
        (order.keyed keyed).stored deployment (mem_backlog.mp waits).1
      have processed := tick_processed known quiet
      have served := order.served processed
      have stillSame : ∀ other ∈ env :: envs, SameDue (tick env arranged).1 now other.now :=
        fun other member => (steady other member).expired served.deployments
      obtain ⟨others, waiting, drains, rest⟩ := ih (keyed.expired served.deployments served.policies)
        fun other member => stillSame other (List.mem_cons_of_mem _ member)
      have first := steady env List.mem_cons_self
      have queue := sort_perm DeploymentRow.expiry (Registry.backlog arranged.rows env.now)
      have left := tick_backlog (order.keyed keyed) processed
      rw [(stillSame env List.mem_cons_self).backlog_eq] at left
      refine ⟨listDue arranged.rows env.now ++ others, waiting, ?_, served.append rest⟩
      rw [listDue_eq]
      apply Drains.batch _ (sort_sorted _ _) left drains
      rw [← first.backlog_eq]
      exact queue.trans (order.backlog env.now)

end Ticks

/-- What has become of the backlog: `processed` is expired, with one outcome for each, and
`waiting` is as it was; nothing that is waiting expires before anything that is processed. -/
structure Drained (now ticks : Nat) (before after : Tables)
    (processed waiting : List DeploymentRow) : Prop where
  split : (processed ++ waiting).Perm (backlog before.rows now)
  count : processed.length = min (100 * ticks) (backlog before.rows now).length
  expired : ∀ deployment ∈ processed,
    { deployment with status := "expired" } ∈ after.rows.deployments
  accepted : ∀ deployment ∈ waiting,
    deployment ∈ after.rows.deployments ∧ deployment.status = "accepted"
  table : after.rows.deployments.Perm
    (before.rows.deployments.map (expire (processed.map DeploymentRow.deploymentId)))
  outcomes : ∃ new, after.outcomes = before.outcomes ++ new ∧
    new.map OutcomeRow.policyKey = processed.map DeploymentRow.policyKey
  ordered : ∀ first ∈ processed, ∀ second ∈ waiting, ∀ early ∈ first.expiresAt,
    ∀ late ∈ second.expiresAt, early ≤ late

/-- After `k` quiet ticks of one worker, in which nothing else becomes due, the first `100 k`
deployments of the backlog are processed. -/
theorem backlog_drains (now : Nat) (envs : List Env) (before after : Tables) (keyed : Keyed before)
    (steady : ∀ env ∈ envs, SameDue before now env.now) (ran : Ticks envs before after) :
    ∃ processed waiting, Drained now envs.length before after processed waiting := by
  obtain ⟨processed, waiting, drains, served⟩ := ticks_drain ran keyed steady
  have split := drains.perm
  have distinct := (split.map DeploymentRow.deploymentId).nodup_iff.mpr (keyed.backlog_distinct now)
  rw [List.map_append] at distinct
  have apart := (List.nodup_append.mp distinct).2.2
  refine ⟨processed, waiting, split, drains.length_processed, ?_, ?_, served.deployments,
    served.outcomes, ?_⟩
  · intro deployment member
    obtain ⟨stored, _, owner⟩ := mem_backlog.mp (split.mem_iff.mp (List.mem_append_left _ member))
    have hit := expire_of_mem owner (List.mem_map_of_mem (f := DeploymentRow.deploymentId) member)
    rw [served.deployments.mem_iff, ← hit]
    exact List.mem_map_of_mem stored
  · intro deployment member
    obtain ⟨stored, isDue, _⟩ := mem_backlog.mp (split.mem_iff.mp (List.mem_append_right _ member))
    have missed : deployment.deploymentId ∉ processed.map DeploymentRow.deploymentId :=
      fun taken => apart _ taken _ (List.mem_map_of_mem member) rfl
    have status : deployment.status = "accepted" := by
      rw [DeploymentRow.isDue, Bool.and_eq_true, beq_iff_eq] at isDue
      exact isDue.1
    refine ⟨?_, status⟩
    rw [served.deployments.mem_iff, ← expire_of_not_mem missed]
    exact List.mem_map_of_mem stored
  · intro first taken second kept early ofFirst late ofSecond
    have order := drains.ordered first taken second kept
    rw [DeploymentRow.expiry, DeploymentRow.expiry, ofFirst, ofSecond] at order
    exact order

theorem backlogTables_keyed : Keyed backlogTables where
  distinct := by decide
  stored := backlogTables_stored

/-- Two ticks: the first takes the two deployments that are due, the earlier one first, and the
second finds nothing left. -/
theorem backlog_drains_two_ticks :
    ∃ after processed waiting,
      Ticks [backlogWorker "first-" 10, backlogWorker "second-" 12] backlogTables after ∧
        Drained 10 2 backlogTables after processed waiting ∧ processed.length = 2 ∧
        after.outcomes.map OutcomeRow.version = ["1.1.0", "1.0.0"] := by
  let first := tick (backlogWorker "first-" 10) backlogTables
  let second := tick (backlogWorker "second-" 12) first.1
  have counted : first.2 = .ok 2 ∧ second.2 = .ok 0 := by decide +kernel
  have ran : Ticks [backlogWorker "first-" 10, backlogWorker "second-" 12] backlogTables second.1 :=
    .tick ⟨_, List.Perm.refl _, rfl⟩ counted.1 (.tick ⟨_, List.Perm.refl _, rfl⟩ counted.2 (.none _))
  have steady : ∀ env ∈ [backlogWorker "first-" 10, backlogWorker "second-" 12],
      SameDue backlogTables 10 env.now := by
    have open_ : ∀ now ∈ [10, 12], backlogTables.rows.deployments.map (·.isDue now) =
        backlogTables.rows.deployments.map (·.isDue 10) := by decide
    intro env member row stored _
    have now : env.now ∈ [10, 12] := List.mem_map_of_mem (f := Env.now) member
    exact List.map_inj_left.mp (open_ env.now now) row stored
  obtain ⟨processed, waiting, drained⟩ := backlog_drains 10 _ backlogTables _ backlogTables_keyed
    steady ran
  refine ⟨second.1, processed, waiting, ran, drained, ?_, by decide +kernel⟩
  rw [drained.count]
  decide

end CollectMind.Feedback
