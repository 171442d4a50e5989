import CollectMind.Loop.History
import CollectMind.Query.Policies

set_option autoImplicit false

/- What the routes of the query API answer while sessions, workers and erasures run: a policy as it
was inserted, an outcome with the policy that it is about, and an active policy. -/
namespace CollectMind.Loop

open Python RowSecurity Registry Feedback Erasure Query

/-- The database's references: every policy has its own key, every deployment a policy, and every
outcome a policy that was made for the same finding. -/
structure Consistent (db : Database) : Prop where
  keys : (db.rows.policies.map PolicyRow.key).Nodup
  deployed : ∀ deployment ∈ db.rows.deployments,
    ∃ policy ∈ db.rows.policies, policy.key = deployment.policyKey
  evaluated : ∀ outcome ∈ db.outcomes, ∃ policy ∈ db.rows.policies,
    policy.key = outcome.policyKey ∧ policy.originatingFinding = outcome.originatingFinding

/-- The policy that a pass over a deployment has read. -/
def heldPolicy : Stage → Option PolicyRow
  | .found policy | .collected policy _ | .inserted policy _ | .expired policy _ => some policy
  | .listed | .missing | .done => none

/-- What a worker has read is still what the registry says. -/
def Holds (db : Database) : Task → Prop
  | .worker _ (.busy deployment stage _) => ∀ policy, heldPolicy stage = some policy →
    ∃ row ∈ db.rows.policies, row.key = deployment.policyKey ∧
      row.originatingFinding = policy.originatingFinding
  | _ => True

section Effects

variable {task : Task} {db next : Database} {sweep : Option Sweep}

/-- A policy stays under its key, for its finding. -/
theorem Effect.policy_stays (effect : Effect task db next sweep) {policy : PolicyRow}
    (stored : policy ∈ db.rows.policies) :
    ∃ row ∈ next.rows.policies, row.key = policy.key ∧
      row.originatingFinding = policy.originatingFinding := by
  obtain ⟨new, grown⟩ := effect.continues.policies
  refine ⟨remaining sweep.toList policy, ?_, rfl, rfl⟩
  rw [grown]
  exact List.mem_append_left _ (List.mem_map_of_mem stored)

theorem Effect.holds (effect : Effect task db next sweep) {other : Task} (held : Holds db other) :
    Holds next other := by
  cases other with
  | worker env worker =>
      cases worker with
      | idle => trivial
      | busy deployment stage rest =>
          intro policy read
          obtain ⟨row, stored, key, finding⟩ := held policy read
          obtain ⟨later, kept, sameKey, sameFinding⟩ := effect.policy_stays stored
          exact ⟨later, kept, sameKey.trans key, sameFinding.trans finding⟩
  | session task stage => trivial
  | erasure task stage => trivial

theorem Effect.keys (effect : Effect task db next sweep)
    (distinct : (db.rows.policies.map PolicyRow.key).Nodup) :
    (next.rows.policies.map PolicyRow.key).Nodup := by
  cases effect with
  | policy new rows inserted =>
      obtain ⟨_, _, fresh⟩ := insertPolicyRow_checked inserted
      rw [insertPolicyRow_ok inserted, List.map_append, List.nodup_append]
      refine ⟨distinct, List.nodup_singleton _, ?_⟩
      intro key listed other added same
      obtain ⟨row, stored, rfl⟩ := List.mem_map.mp listed
      exact fresh row stored (same.trans (List.mem_singleton.mp added))
  | deployment new rows inserted =>
      rw [insertDeploymentRow_ok inserted]
      exact distinct
  | scopes tenantId vehicle =>
      have same : ∀ row ∈ db.rows.policies,
          (PolicyRow.key ∘ removeFromScope tenantId vehicle) row = row.key := by
        intro row _
        rw [Function.comp_apply, ← remaining_scopes]
        rfl
      rw [Database.withStores, Stores.eraseScopes, Database.stores, List.map_map,
        List.map_congr_left same]
      exact distinct
  | quiet audits requests => exact distinct
  | outcome new outcomes evaluates inserted => exact distinct
  | expired deploymentId => exact distinct
  | observed telemetry => exact distinct
  | telemetry tenantId vehicle => exact distinct

/-- The deployments of a turn are those before it, perhaps expired, or refer to a policy. -/
theorem Effect.deployed (effect : Effect task db next sweep)
    (referring : ∀ deployment ∈ db.rows.deployments,
      ∃ policy ∈ db.rows.policies, policy.key = deployment.policyKey) :
    ∀ deployment ∈ next.rows.deployments,
      ∃ policy ∈ next.rows.policies, policy.key = deployment.policyKey := by
  have kept : ∀ policy ∈ db.rows.policies, ∃ row ∈ next.rows.policies, row.key = policy.key := by
    intro policy stored
    obtain ⟨row, still, key, _⟩ := effect.policy_stays stored
    exact ⟨row, still, key⟩
  have old : ∀ key, (∃ policy ∈ db.rows.policies, policy.key = key) →
      ∃ policy ∈ next.rows.policies, policy.key = key := by
    rintro key ⟨policy, stored, rfl⟩
    exact kept policy stored
  intro deployment listed
  apply old
  cases effect with
  | deployment new rows inserted =>
      rw [insertDeploymentRow_ok inserted] at listed
      rcases List.mem_append.mp listed with before | added
      · exact referring deployment before
      · rw [List.mem_singleton.mp added]
        exact (insertDeploymentRow_iff.mp inserted).2.2.2.2.1
  | policy new rows inserted =>
      rw [insertPolicyRow_ok inserted] at listed
      exact referring deployment listed
  | expired deploymentId =>
      obtain ⟨before, member, rfl⟩ := List.mem_map.mp listed
      have key : (Registry.expire [deploymentId] before).policyKey = before.policyKey := by
        unfold Registry.expire
        split <;> rfl
      rw [key]
      exact referring before member
  | quiet audits requests => exact referring deployment listed
  | outcome new outcomes evaluates inserted => exact referring deployment listed
  | observed telemetry => exact referring deployment listed
  | scopes tenantId vehicle => exact referring deployment listed
  | telemetry tenantId vehicle => exact referring deployment listed

/-- A new outcome is about the policy that its worker holds. -/
theorem Holds.evaluates {new : OutcomeRow} (held : Holds db task) (evaluates : task.Evaluates new) :
    ∃ policy ∈ db.rows.policies, policy.key = new.policyKey ∧
      policy.originatingFinding = new.originatingFinding := by
  cases task with
  | worker env worker =>
      cases worker with
      | idle => cases evaluates
      | busy deployment stage rest =>
          cases stage with
          | collected policy outcome =>
              obtain ⟨row, stored, key, finding⟩ := held policy rfl
              exact ⟨row, stored, key.trans evaluates.1.symm, finding.trans evaluates.2.symm⟩
          | _ => cases evaluates
  | session task stage => cases evaluates
  | erasure task stage => cases evaluates

theorem Effect.evaluated (effect : Effect task db next sweep) (held : Holds db task)
    (about : ∀ outcome ∈ db.outcomes, ∃ policy ∈ db.rows.policies,
      policy.key = outcome.policyKey ∧ policy.originatingFinding = outcome.originatingFinding) :
    ∀ outcome ∈ next.outcomes, ∃ policy ∈ next.rows.policies,
      policy.key = outcome.policyKey ∧ policy.originatingFinding = outcome.originatingFinding := by
  have old : ∀ outcome : OutcomeRow, (∃ policy ∈ db.rows.policies, policy.key = outcome.policyKey ∧
        policy.originatingFinding = outcome.originatingFinding) →
      ∃ policy ∈ next.rows.policies, policy.key = outcome.policyKey ∧
        policy.originatingFinding = outcome.originatingFinding := by
    rintro outcome ⟨policy, stored, key, finding⟩
    obtain ⟨row, still, sameKey, sameFinding⟩ := effect.policy_stays stored
    exact ⟨row, still, sameKey.trans key, sameFinding.trans finding⟩
  intro outcome listed
  apply old
  cases effect with
  | outcome new outcomes evaluates inserted =>
      rw [insertOutcomeRow_ok inserted] at listed
      rcases List.mem_append.mp listed with before | added
      · exact about outcome before
      · rw [List.mem_singleton.mp added]
        exact held.evaluates evaluates
  | quiet audits requests => exact about outcome listed
  | policy new rows inserted => exact about outcome listed
  | deployment new rows inserted => exact about outcome listed
  | expired deploymentId => exact about outcome listed
  | observed telemetry => exact about outcome listed
  | scopes tenantId vehicle => exact about outcome listed
  | telemetry tenantId vehicle => exact about outcome listed

theorem Effect.consistent (effect : Effect task db next sweep) (held : Holds db task)
    (consistent : Consistent db) : Consistent next where
  keys := effect.keys consistent.keys
  deployed := effect.deployed consistent.deployed
  evaluated := effect.evaluated held consistent.evaluated

end Effects

section Turns

variable {db : Database}

/-- A worker learns of a policy by reading it, and keeps it to the end of its pass. -/
theorem advance_holds {during : Feedback.Env} {deployment : DeploymentRow} {stage later : Stage}
    {tables : Tables} (success : advance during deployment (db.tables, stage) = .ok (tables, later))
    {policy : PolicyRow} (read : heldPolicy later = some policy) :
    heldPolicy stage = some policy ∨
      policy ∈ db.rows.policies ∧ policy.key = deployment.policyKey := by
  cases stage with
  | listed =>
      cases found : getPolicy db.rows deployment.tenantId deployment.policyId deployment.version with
      | none =>
          simp only [advance, Database.tables, found] at success
          cases success
          cases read
      | some row =>
          simp only [advance, Database.tables, found] at success
          cases success
          cases read
          exact .inr (getPolicy_found found)
  | missing =>
      rw [advance_missing] at success
      cases success
      cases read
  | found row =>
      obtain ⟨observations, _, settled⟩ := (Checked.bind_ok_iff _ _ _).mp success
      cases settled
      exact .inl read
  | collected row outcome =>
      obtain ⟨outcomes, _, settled⟩ := (Checked.bind_ok_iff _ _ _).mp success
      cases settled
      exact .inl read
  | inserted row outcomeId =>
      rw [advance_inserted] at success
      cases success
      exact .inl read
  | expired row outcomeId =>
      obtain ⟨rows, _, settled⟩ := (Checked.bind_ok_iff _ _ _).mp success
      cases settled
      cases read
  | done =>
      cases success
      cases read

theorem holds_next (env : Feedback.Env) (rest : List DeploymentRow) :
    Holds db (.worker env (.next rest)) := by
  cases rest with
  | nil => trivial
  | cons deployment rest =>
      intro policy read
      cases read

/-- A busy worker after its turn holds what is in the registry then. -/
theorem busy_holds {env : Feedback.Env} {deployment : DeploymentRow} {stage : Stage}
    {rest : List DeploymentRow} (turn : Turn)
    (held : Holds db (.worker env (.busy deployment stage rest))) :
    Holds (db.withTables (Feedback.act env db.tables (.busy deployment stage rest) turn).1)
      (.worker env (Feedback.act env db.tables (.busy deployment stage rest) turn).2.1) := by
  have effect := worker_effect env db (.busy deployment stage rest) turn
  have still := effect.holds held
  unfold Feedback.act at effect still ⊢
  dsimp only at effect still ⊢
  rcases Calls.call_cases turn.fate (advance (env.during turn) deployment) (db.tables, stage) with
    ⟨failure, kept⟩ | ⟨⟨tables, later⟩, raised, success, outcome⟩
  · rw [kept]
    trivial
  · rw [outcome] at effect still ⊢
    cases raised with
    | some failure => trivial
    | none =>
        simp only [Option.isSome_none, Bool.false_eq_true, if_false]
        split
        · exact holds_next env rest
        · intro policy read
          rcases advance_holds success read with earlier | ⟨stored, key⟩
          · exact still policy earlier
          · obtain ⟨row, kept, sameKey, sameFinding⟩ := effect.policy_stays stored
            exact ⟨row, kept, sameKey.trans key, sameFinding⟩

/-- The task that has had the turn holds what is in the registry after it. -/
theorem act_holds (db : Database) (task : Task) (turn : Turn) (held : Holds db task) :
    Holds (act db task turn).1 (act db task turn).2.1 := by
  cases task with
  | session task stage => trivial
  | erasure task stage => trivial
  | worker env worker =>
      cases worker with
      | idle =>
          cases fate : turn.fate with
          | runs =>
              simp only [act, Feedback.act, fate]
              exact holds_next env _
          | rollsBack failure =>
              simp only [act, Feedback.act, fate]
              trivial
          | commitsThenRaises failure =>
              simp only [act, Feedback.act, fate]
              trivial
      | busy deployment stage rest => exact busy_holds turn held

end Turns

section Runs

variable {n : Nat}

/-- The database is consistent, and every task holds what the registry says. -/
structure Sound (tasks : Tasks n) : Prop where
  consistent : Consistent tasks.store
  held : ∀ i, Holds tasks.store (tasks.process i)

theorem step_sound (tasks : Tasks n) (turn : Fin n × Turn) (sound : Sound tasks) :
    Sound (Processes.step act tasks turn).1 := by
  have effect := act_effect tasks.store (tasks.process turn.1) turn.2
  refine ⟨effect.consistent (sound.held turn.1) sound.consistent, ?_⟩
  intro i
  by_cases here : i = turn.1
  · subst here
    have same : (Processes.step act tasks turn).1.process turn.1 =
        (act tasks.store (tasks.process turn.1) turn.2).2.1 := Function.update_self ..
    rw [same]
    exact act_holds tasks.store (tasks.process turn.1) turn.2 (sound.held turn.1)
  · have same : (Processes.step act tasks turn).1.process i = tasks.process i :=
      Function.update_of_ne here ..
    rw [same]
    exact effect.holds (sound.held i)

theorem run_sound (tasks : Tasks n) (schedule : List (Fin n × Turn)) (sound : Sound tasks) :
    Sound (after tasks schedule) :=
  Runs.final_invariant (Processes.step act) Sound (fun _ => True)
    (fun state input _ => step_sound state input) schedule tasks sound (fun _ _ => trivial)

theorem fresh_holds {db : Database} {task : Task} (fresh : task.Fresh) : Holds db task := by
  cases task with
  | worker env worker =>
      rw [show worker = .idle from fresh]
      trivial
  | session task stage => trivial
  | erasure task stage => trivial

theorem fresh_sound {tasks : Tasks n} (consistent : Consistent tasks.store)
    (fresh : ∀ i, (tasks.process i).Fresh) : Sound tasks :=
  ⟨consistent, fun i => fresh_holds (fresh i)⟩

end Runs

/-- A key whose rows are one row finds that row. -/
theorem getPolicy_of_mem {rows : Rows} (distinct : (rows.policies.map PolicyRow.key).Nodup)
    {policy : PolicyRow} (stored : policy ∈ rows.policies) (named : policy.tenantId ≠ "") :
    getPolicy rows policy.tenantId policy.policyId policy.version = some policy := by
  obtain ⟨before, later, split⟩ := List.append_of_mem stored
  refine getPolicy_first split named ?_
  intro row earlier same
  rw [split, List.map_append, List.nodup_append] at distinct
  exact distinct.2.2 row.key (List.mem_map_of_mem earlier) policy.key
    (List.mem_map_of_mem List.mem_cons_self) same

section Outcomes

variable {n : Nat}

/-- In every state of every run, an outcome that the route returns for a finding names a policy
version of the caller that the registry has, made for that finding. -/
theorem outcome_names_its_policy (tasks : Tasks n) (consistent : Consistent tasks.store)
    (fresh : ∀ i, (tasks.process i).Fresh) (schedule : List (Fin n × Turn))
    (isoformat : Nat → String) (tenantId findingId : String) (content : Json)
    (answered : outcomeForFinding isoformat (after tasks schedule).store.outcomes tenantId findingId =
      .body content) :
    ∃ outcome policy, content = .obj (rowToOutcome isoformat outcome) ∧
      outcome.tenantId = tenantId ∧
      getPolicy (after tasks schedule).store.rows tenantId outcome.policyId outcome.version =
        some policy ∧
      policy.originatingFinding = outcome.originatingFinding ∧
      namesFinding findingId policy.originatingFinding = true ∧
      (findByFinding (after tasks schedule).store.rows tenantId findingId).isSome = true := by
  have sound := run_sound tasks schedule (fresh_sound consistent fresh)
  obtain ⟨_, fields, looked, rfl⟩ := lookedUp_body_iff.mp answered
  obtain ⟨outcome, found, rfl⟩ := Option.map_eq_some_iff.mp looked
  obtain ⟨listed, named, own, names⟩ := getByFinding_some found
  obtain ⟨policy, stored, key, finding⟩ := sound.consistent.evaluated outcome listed
  have tenant : policy.tenantId = tenantId := (congrArg Prod.fst key).trans own
  have about : namesFinding findingId policy.originatingFinding = true := by
    rw [finding]
    exact names
  refine ⟨outcome, policy, rfl, own, ?_, finding, about, ?_⟩
  · have same := getPolicy_of_mem sound.consistent.keys stored (tenant.symm ▸ named)
    have rest : (policy.policyId, policy.version) = (outcome.policyId, outcome.version) :=
      congrArg Prod.snd key
    injection rest with policyId version
    rw [tenant, policyId, version] at same
    exact same
  · obtain ⟨first, returned, _⟩ := findByFinding_isSome stored (tenant.symm ▸ named) about
    rw [tenant] at returned
    rw [returned]
    rfl

/-- One worker over one due deployment. -/
def oneWorker (tenantId : String) : Tasks 1 where
  store := ⟨(sampleTables tenantId).rows, [], [], []⟩
  process _ := .worker sampleWorker .idle

/-- Some turns of the worker, none of which fails. -/
def turnsAt (now : Nat) (count : Nat) : List (Fin 1 × Turn) :=
  List.replicate count (0, ⟨.runs, now, "outcome-1", "event-1"⟩)

theorem outcome_names_its_policy_after_pass :
    ∃ outcome policy, outcomeForFinding (fun _ => "")
        (after (oneWorker publicTenant) (turnsAt 10 4)).store.outcomes publicTenant "finding-1" =
          .body (.obj (rowToOutcome (fun _ => "") outcome)) ∧
      getPolicy (after (oneWorker publicTenant) (turnsAt 10 4)).store.rows publicTenant
        outcome.policyId outcome.version = some policy ∧
      namesFinding "finding-1" policy.originatingFinding = true := by
  have consistent : Consistent (oneWorker publicTenant).store := by
    refine ⟨List.nodup_singleton _, ?_, List.forall_mem_nil _⟩
    exact List.forall_mem_singleton.mpr ⟨_, List.mem_singleton.mpr rfl, rfl⟩
  obtain ⟨outcome, policy, answered, _, found, _, names, _⟩ :=
    outcome_names_its_policy (oneWorker publicTenant) consistent (fun _ => rfl) (turnsAt 10 4)
      (fun _ => "") publicTenant "finding-1" _ rfl
  exact ⟨outcome, policy, congrArg Reply.body answered, found, names⟩

end Outcomes

section Active

variable {n : Nat}

theorem scopeContains_arr {vehicle : String} {items : List Json} :
    scopeContains vehicle (.arr items) = true ↔ .str vehicle ∈ items := by
  rw [scopeContains, List.any_eq_true]
  constructor
  · rintro ⟨item, member, named⟩
    cases item with
    | str value =>
        rw [← beq_iff_eq.mp named]
        exact member
    | _ => cases named
  · intro member
    exact ⟨_, member, beq_iff_eq.mpr rfl⟩

/-- A vehicle is in what is left of a scope if it was there and was not swept. -/
theorem scopeContains_remaining {sweeps : List Sweep} {tenantId vehicle : String} {scope : Json} :
    scopeContains vehicle (remainingScope sweeps tenantId scope) = true ↔
      scopeContains vehicle scope = true ∧ (⟨.scopes, tenantId, vehicle⟩ : Sweep) ∉ sweeps := by
  cases scope with
  | arr items =>
      rw [remainingScope, scopeContains_arr, List.mem_filter, scopeContains_arr]
      refine and_congr_right fun _ => ?_
      rw [Bool.not_eq_true', List.any_eq_false]
      constructor
      · intro none listed
        refine none _ listed ?_
        simp [Json.isStr]
      · intro unlisted sweep member concerned
        simp only [Json.isStr, Bool.and_eq_true, beq_iff_eq] at concerned
        obtain ⟨⟨scopes, tenant⟩, named⟩ := concerned
        obtain ⟨swept, owner, about⟩ := sweep
        subst scopes tenant named
        exact unlisted member
  | _ => simp [remainingScope, scopeContains]

/-- A deployment of another tenant than the public one does not expire. -/
theorem expire_foreign {expired : List String} {row : DeploymentRow}
    (foreign : row.tenantId ≠ publicTenant) : expire expired row = row :=
  if_neg fun listed => foreign listed.1

section Swept

variable {tasks : Tasks n} {schedule : List (Fin n × Turn)} {tenantId vehicleId : String}
  {policy : PolicyRow}

/-- An active policy of a tenant other than the public one stays active until its vehicle is
swept. -/
theorem active_unswept (active : policy ∈ activePolicies tasks.store.rows tenantId vehicleId)
    (foreign : tenantId ≠ publicTenant)
    (unswept : (⟨.scopes, tenantId, vehicleId⟩ : Sweep) ∉ sweeps tasks schedule) :
    remaining (sweeps tasks schedule) policy ∈
      activePolicies (after tasks schedule).store.rows tenantId vehicleId := by
  obtain ⟨stored, named, own, covers, deployment, deployed, joined, accepted⟩ :=
    mem_activePolicies.mp active
  have history := run_continues tasks schedule
  obtain ⟨new, policies⟩ := history.policies
  obtain ⟨expired, added, deployments⟩ := history.deployments
  have tenant : deployment.tenantId = tenantId := (congrArg Prod.fst joined).trans own
  refine mem_activePolicies.mpr ⟨?_, named, own, ?_, deployment, ?_, joined, accepted⟩
  · rw [policies]
    exact List.mem_append_left _ (List.mem_map_of_mem stored)
  · refine scopeContains_remaining.mpr ⟨covers, ?_⟩
    rw [own]
    exact unswept
  · rw [deployments]
    apply List.mem_append_left
    rw [← @expire_foreign expired deployment (tenant.symm ▸ foreign)]
    exact List.mem_map_of_mem deployed

/-- What names a vehicle that has been swept is a policy inserted since the run began. -/
theorem Continues.named_since {log : List Sweep} {before after : Database}
    (history : Continues log before after)
    (swept : (⟨.scopes, tenantId, vehicleId⟩ : Sweep) ∈ log)
    (stored : policy ∈ after.rows.policies) (own : policy.tenantId = tenantId)
    (covers : scopeContains vehicleId policy.vehicleScope = true) :
    policy ∈ after.rows.policies.drop before.rows.policies.length := by
  obtain ⟨new, policies⟩ := history.policies
  rw [policies] at stored ⊢
  rcases List.mem_append.mp stored with old | fresh
  · obtain ⟨row, _, rfl⟩ := List.mem_map.mp old
    have unswept := (scopeContains_remaining.mp covers).2
    have tenant : row.tenantId = tenantId := own
    rw [tenant] at unswept
    exact absurd swept unswept
  · rw [List.drop_left' (List.length_map _)]
    exact fresh

end Swept

theorem activePolicyForGroup_body_iff {isoformat : Nat → String} {rows : Rows}
    {tenantId groupId : String} {content : Json} :
    activePolicyForGroup isoformat rows tenantId groupId = .body content ↔
      safeId groupId = true ∧ ∃ policy, findActiveForVehicle rows tenantId groupId = some policy ∧
        content = .obj (rowToPolicy isoformat policy) := by
  rw [activePolicyForGroup, lookedUp_body_iff]
  refine and_congr_right fun _ => ?_
  constructor
  · rintro ⟨fields, looked, rfl⟩
    obtain ⟨policy, found, rfl⟩ := Option.map_eq_some_iff.mp looked
    exact ⟨policy, found, rfl⟩
  · rintro ⟨policy, found, rfl⟩
    exact ⟨_, Option.map_eq_some_iff.mpr ⟨policy, found, rfl⟩, rfl⟩

/-- What the route answers once it has answered with a policy of a tenant other than the public
one: as long as the vehicle is not swept, one that is no older, however long ago the window of the
deployment has closed. And whatever it answers after a sweep of the vehicle, for any tenant, is a
policy inserted after that sweep. -/
theorem active_until_erased (tasks : Tasks n) (isoformat : Nat → String)
    (tenantId vehicleId : String) :
    (∀ content, activePolicyForGroup isoformat tasks.store.rows tenantId vehicleId = .body content →
      tenantId ≠ publicTenant →
      ∃ policy, content = .obj (rowToPolicy isoformat policy) ∧
        ∀ schedule, (⟨.scopes, tenantId, vehicleId⟩ : Sweep) ∉ sweeps tasks schedule →
          ∃ later, activePolicyForGroup isoformat (after tasks schedule).store.rows tenantId
              vehicleId = .body (.obj (rowToPolicy isoformat later)) ∧
            policy.createdAt ≤ later.createdAt) ∧
    ∀ earlier turn rest,
      (Processes.step act (after tasks earlier) turn).2 = some ⟨.scopes, tenantId, vehicleId⟩ →
      ∀ content, activePolicyForGroup isoformat (after tasks (earlier ++ turn :: rest)).store.rows
          tenantId vehicleId = .body content →
        ∃ policy ∈ (after tasks (earlier ++ turn :: rest)).store.rows.policies.drop
            (after tasks earlier).store.rows.policies.length,
          content = .obj (rowToPolicy isoformat policy) := by
  constructor
  · intro content answered foreign
    obtain ⟨safe, policy, found, rfl⟩ := activePolicyForGroup_body_iff.mp answered
    refine ⟨policy, rfl, fun schedule unswept => ?_⟩
    have still := active_unswept (newestFirst_head found).1 foreign unswept
    obtain ⟨later, first, newer⟩ := @newestFirst_head_exists _ PolicyRow.createdAt _ _ still
    exact ⟨later, activePolicyForGroup_body_iff.mpr ⟨safe, later, first, rfl⟩, newer⟩
  · intro earlier turn rest committed content answered
    obtain ⟨_, policy, found, rfl⟩ := activePolicyForGroup_body_iff.mp answered
    refine ⟨policy, ?_, rfl⟩
    obtain ⟨stored, _, own, covers, _⟩ := mem_activePolicies.mp (newestFirst_head found).1
    rw [after_append] at stored ⊢
    exact (run_continues (after tasks earlier) (turn :: rest)).named_since
      (mem_sweeps_cons committed rest) stored own covers

/-- A tenant's request about a vehicle. -/
def sampleErasure (tenantId : String) (named : tenantId ≠ "") : ErasureTask where
  submission := ⟨"request-1", tenantId, "operator-1", 10, 20, sampleRequest, "event-1"⟩
  named := named
  jsonText _ := ""
  driver _ := "database error"

/-- The erasure of a vehicle, and a session that makes a policy for the same vehicle. -/
def erasureAndSession : Tasks 2 where
  store := ⟨Graph.sampleRows, [], [], []⟩
  process i :=
    match i.val with
    | 0 => .erasure (sampleErasure "tenant-a" (by decide)) .inserting
    | _ =>
      let task : SessionTask :=
        ⟨Graph.sampleRunner, sampleSimulator (1 / 5), none, Graph.sampleSession⟩
      .session task task.start

def erasureTurn (i : Fin 2) : Fin 2 × Turn := (i, ⟨.runs, 10, "", ""⟩)

def sessionTurns (i : Fin 2) : List (Fin 2 × Turn) :=
  ["event-2", "event-3", "event-4", "event-5", "event-6", "event-7"].map fun eventId =>
    (i, ⟨.runs, 11, "", eventId⟩)

theorem active_after_expiry_and_sweep :
    (∃ later, activePolicyForGroup (fun _ => "")
      (after (oneWorker "tenant-a") (turnsAt 10 4)).store.rows "tenant-a" "vehicle-1" =
        .body (.obj (rowToPolicy (fun _ => "") later))) ∧
    ∃ policy ∈ (after erasureAndSession
        ([erasureTurn 0, erasureTurn 0] ++ erasureTurn 0 :: sessionTurns 1)).store.rows.policies.drop
          (after erasureAndSession [erasureTurn 0, erasureTurn 0]).store.rows.policies.length,
      activePolicyForGroup (fun _ => "") (after erasureAndSession
        ([erasureTurn 0, erasureTurn 0] ++ erasureTurn 0 :: sessionTurns 1)).store.rows "tenant-a"
          "vehicle-1" = .body (.obj (rowToPolicy (fun _ => "") policy)) := by
  constructor
  · have unswept : (⟨.scopes, "tenant-a", "vehicle-1"⟩ : Sweep) ∉
        sweeps (oneWorker "tenant-a") (turnsAt 10 4) := by
      rw [show sweeps (oneWorker "tenant-a") (turnsAt 10 4) = [] from rfl]
      exact List.not_mem_nil
    obtain ⟨policy, _, stays⟩ := (active_until_erased (oneWorker "tenant-a") (fun _ => "")
      "tenant-a" "vehicle-1").1 _ rfl (by decide)
    obtain ⟨later, answered, _⟩ := stays (turnsAt 10 4) unswept
    exact ⟨later, answered⟩
  · obtain ⟨active, found⟩ := Option.isSome_iff_exists.mp
      (show (findActiveForVehicle (after erasureAndSession
        ([erasureTurn 0, erasureTurn 0] ++ erasureTurn 0 :: sessionTurns 1)).store.rows "tenant-a"
          "vehicle-1").isSome = true by decide +kernel)
    have answered := (@activePolicyForGroup_body_iff (fun _ => "") _ _ _ _).mpr
      ⟨by decide, active, found, rfl⟩
    obtain ⟨policy, since, same⟩ := (active_until_erased erasureAndSession (fun _ => "")
      "tenant-a" "vehicle-1").2 [erasureTurn 0, erasureTurn 0] (erasureTurn 0) (sessionTurns 1)
        (by decide +kernel) _ answered
    rw [same] at answered
    exact ⟨policy, since, answered⟩

end Active

section RoundTrip

variable {n : Nat}

end RoundTrip

end CollectMind.Loop
