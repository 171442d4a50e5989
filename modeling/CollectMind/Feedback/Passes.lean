import CollectMind.Feedback.Interleaving
import CollectMind.Library.Passes

set_option autoImplicit false

/- Which turns of the workers are transactions of which pass is decided by the list of due
deployments, the order of the turns and their fates, and so is what the passes over a deployment
write. The tables only have to be as the schema has them, and the ids that are drawn new. -/
namespace CollectMind.Feedback

open Python Registry

/-- The deployments that the worker may list. -/
structure Waiting (tables : Tables) (row : DeploymentRow) : Prop where
  stored : row ∈ tables.rows.deployments
  tenant : row.tenantId = publicTenant
  accepted : row.status = "accepted"

/-- What the schema and the writers before the worker say of the tables. -/
structure Schema (env : Env) (tables : Tables) : Prop where
  known : publicTenant ∈ tables.rows.tenants
  checked : ∀ row, Waiting tables row → row.deploymentId ≠ "" ∧ postgresSemver row.version = true
  textual : ∀ row, Waiting tables row → ∀ vehicle ∈ row.vehicleScope, ∃ text, vehicle = .str text
  unaudited : ∀ row, Waiting tables row → ∀ audit ∈ tables.rows.audits, audit.kind = .outcome →
    audit.correlationId ≠ row.deploymentId
  findings : ∀ policy ∈ tables.rows.policies, ∃ finding,
    findingDict env policy.originatingFinding = .ok finding

/-- Every turn to come has ids of its own, and new ones. -/
structure Fresh (store : Tables) (turns : List Turn) : Prop where
  named : ∀ turn ∈ turns, turn.outcomeId ≠ "" ∧ turn.eventId ≠ ""
  outcomeIds : (store.outcomes.map OutcomeRow.outcomeId ++ turns.map Turn.outcomeId).Nodup
  eventIds : (store.rows.audits.map AuditRow.eventId ++ turns.map Turn.eventId).Nodup

structure Healthy {n : Nat} (env : Env) (tables : Tables) (schedule : List (Fin n × Turn)) :
    Prop where
  schema : Schema env tables
  fresh : Fresh tables (schedule.map Prod.snd)

def hasPolicy (tables : Tables) (row : DeploymentRow) : Bool :=
  (getPolicy tables.rows row.tenantId row.policyId row.version).isSome

/-- The deployments as a queue: a pass reads the policy, collects, inserts the outcome, marks the
deployment expired and writes the audit row, or only marks it expired if there is no policy. -/
def dueQueue (tables : Tables) : Passes.Queue String Nat DeploymentRow where
  poll closed now :=
    listDue { tables.rows with deployments := tables.rows.deployments.map (expire closed) } now
  key := DeploymentRow.deploymentId
  length row := if hasPolicy tables row then 5 else 2
  closing row := if hasPolicy tables row then 3 else 1

/-- The order of the turns, their fates and their clocks. -/
def inputs {n : Nat} (schedule : List (Fin n × Turn)) :
    List (Fin n × (Calls.Fate String × Nat)) :=
  schedule.map fun turn => (turn.1, turn.2.fate, turn.2.now)

/-- The deployment is the one meant, and its policy is there. -/
def meant (tables : Tables) (deploymentId : String) (row : DeploymentRow) : Bool :=
  row.deploymentId == deploymentId && hasPolicy tables row

/-- Of the passes over the deployment one gets its outcome committed, and it gets its audit row
committed too; all others are stopped before. The outcome's insert is at position 2 of a pass, the
audit row at position 4, and a pass that fails at 3 does not get there. -/
def OnePass {n : Nat} (tables : Tables) (schedule : List (Fin n × Turn)) (deploymentId : String) :
    Prop :=
  ∃ pass, (Passes.passes (dueQueue tables) (inputs schedule)).filter
      (fun pass => meant tables deploymentId pass.job && pass.commits 2) = [pass] ∧
    pass.commits 4 = true

/-- The stages of a pass by position, given the policy. -/
inductive At : Option PolicyRow → Nat → Stage → Prop where
  | listed (policy : Option PolicyRow) : At policy 0 .listed
  | missing : At none 1 .missing
  | found (policy : PolicyRow) : At (some policy) 1 (.found policy)
  | collected (policy : PolicyRow) (observations : List PyFloat) :
    At (some policy) 2 (.collected policy (evaluate observations policy.confidenceThreshold))
  | inserted (policy : PolicyRow) (outcomeId : String) :
    At (some policy) 3 (.inserted policy outcomeId)
  | expired (policy : PolicyRow) (outcomeId : String) :
    At (some policy) 4 (.expired policy outcomeId)

/-- A worker and its place in the queue. -/
inductive Follows (tables : Tables) : Worker → Passes.Worker DeploymentRow → Prop where
  | idle : Follows tables .idle .idle
  | busy {deployment : DeploymentRow} {stage : Stage} {position : Nat} {rest : List DeploymentRow}
      (waiting : ∀ row ∈ deployment :: rest, Waiting tables row)
      (reached : At (getPolicy tables.rows deployment.tenantId deployment.policyId
        deployment.version) position stage) :
    Follows tables (.busy deployment stage rest) (.busy deployment position rest)

/-- The outcome audit row of the deployment is there. -/
def audited (deploymentId : String) (store : Tables) : Bool :=
  store.rows.audits.any fun row => row.kind == .outcome && row.correlationId == deploymentId

/-- The tables of a run in which some deployments have been closed. -/
structure Reached (tables : Tables) (closed : List String) (store : Tables) : Prop where
  tenants : store.rows.tenants = tables.rows.tenants
  policies : store.rows.policies = tables.rows.policies
  deployments : store.rows.deployments = tables.rows.deployments.map (expire closed)
  own : ∀ audit ∈ store.rows.audits, audit.kind = .outcome → ∀ row, Waiting tables row →
    audit.correlationId = row.deploymentId → audit.tenantId = publicTenant

section Transactions

variable {env : Env} {tables store next : Tables} {closed : List String}
  {deployment : DeploymentRow} {turn : Turn}

theorem evaluate_checked (observations : List PyFloat) (threshold : PyFloat) :
    (["confirmed", "ruled_out", "no_data"].contains (evaluate observations threshold).hypothesisState =
        true) ∧
      0 ≤ (evaluate observations threshold).dataQualityScore ∧
      (evaluate observations threshold).dataQualityScore ≤ 1 := by
  unfold evaluate
  dsimp only
  split
  · exact ⟨rfl, by norm_num, by norm_num⟩
  · refine ⟨?_, ?_, min_le_left _ _⟩
    · split <;> rfl
    · apply le_min
      · norm_num
      · positivity

theorem collectTelemetry_textual (env : Env) (store : Tables)
    (textual : ∀ vehicle ∈ deployment.vehicleScope, ∃ text, vehicle = .str text) :
    ∃ observations, collectTelemetry env store deployment = .ok observations := by
  have texts : ∃ vehicles, deployment.vehicleScope.mapM env.converters.text = .ok vehicles := by
    generalize deployment.vehicleScope = scope at textual
    induction scope with
    | nil => exact ⟨[], rfl⟩
    | cons vehicle rest ih =>
        obtain ⟨text, rfl⟩ := textual vehicle List.mem_cons_self
        obtain ⟨others, read⟩ := ih fun other member => textual other (List.mem_cons_of_mem _ member)
        refine ⟨text :: others, ?_⟩
        rw [List.mapM_cons, read]
        rfl
  obtain ⟨vehicles, read⟩ := texts
  rw [collectTelemetry, read]
  exact ⟨_, rfl⟩

theorem getPolicy_congr {rows other : Rows} (same : rows.policies = other.policies)
    (tenantId policyId version : String) :
    getPolicy rows tenantId policyId version = getPolicy other tenantId policyId version := by
  rw [getPolicy, same]
  rfl

/-- What a transaction at a position of a pass does when it commits. -/
structure Moved (tables store next : Tables) (deployment : DeploymentRow) (position : Nat)
    (turn : Turn) (later : Stage) (outcome : Option OutcomeRow) (audit : Option AuditRow) : Prop where
  appends : Appends store next outcome audit
  tenants : next.rows.tenants = store.rows.tenants
  policies : next.rows.policies = store.rows.policies
  deployments : next.rows.deployments =
    if position = (dueQueue tables).closing deployment then
      store.rows.deployments.map (expire [deployment.deploymentId])
    else store.rows.deployments
  inserts : outcome.isSome = (hasPolicy tables deployment && position == 2)
  outcomeId : ∀ row ∈ outcome, row.outcomeId = turn.outcomeId
  audits : audit.isSome = (hasPolicy tables deployment && position == 4 &&
    !audited deployment.deploymentId store)
  event : ∀ row ∈ audit, row.eventId = turn.eventId ∧ row.tenantId = publicTenant ∧
    row.kind = .outcome ∧ row.correlationId = deployment.deploymentId
  ends : position + 1 = (dueQueue tables).length deployment → later = .done
  onwards : position + 1 ≠ (dueQueue tables).length deployment → later.isDone = false ∧
    At (getPolicy tables.rows deployment.tenantId deployment.policyId deployment.version)
      (position + 1) later

/-- A transaction that writes nothing and is not the last of its pass. -/
theorem Moved.reads {position : Nat} {later : Stage}
    (open_ : position ≠ (dueQueue tables).closing deployment) (before : position ≠ 2)
    (early : position ≠ 4) (more : position + 1 ≠ (dueQueue tables).length deployment)
    (unfinished : later.isDone = false)
    (reached : At (getPolicy tables.rows deployment.tenantId deployment.policyId
      deployment.version) (position + 1) later) :
    Moved tables store store deployment position turn later none none where
  appends := .silent rfl rfl
  tenants := rfl
  policies := rfl
  deployments := by rw [if_neg open_]
  inserts := by simp [before]
  outcomeId row member := absurd member (Option.not_mem_none row)
  audits := by simp [early]
  event row member := absurd member (Option.not_mem_none row)
  ends last := absurd last more
  onwards _ := ⟨unfinished, reached⟩

/-- The transaction that marks the deployment expired. -/
theorem Moved.closes {position : Nat} {later : Stage}
    (closing : position = (dueQueue tables).closing deployment) (before : position ≠ 2)
    (early : position ≠ 4)
    (ends : position + 1 = (dueQueue tables).length deployment → later = .done)
    (onwards : position + 1 ≠ (dueQueue tables).length deployment → later.isDone = false ∧
      At (getPolicy tables.rows deployment.tenantId deployment.policyId deployment.version)
        (position + 1) later) :
    Moved tables store (store.expire deployment.deploymentId) deployment position turn later
      none none where
  appends := .silent rfl rfl
  tenants := rfl
  policies := rfl
  deployments := by
    rw [if_pos closing]
    rfl
  inserts := by simp [before]
  outcomeId row member := absurd member (Option.not_mem_none row)
  audits := by simp [early]
  event row member := absurd member (Option.not_mem_none row)
  ends := ends
  onwards := onwards

variable {policy : PolicyRow}

theorem outcome_stored (schema : Schema env tables) (reached : Reached tables closed store)
    (waiting : Waiting tables deployment)
    (found : getPolicy tables.rows deployment.tenantId deployment.policyId deployment.version =
      some policy)
    (named : turn.outcomeId ≠ "") (new : ∀ row ∈ store.outcomes, row.outcomeId ≠ turn.outcomeId)
    (observations : List PyFloat) :
    insertOutcomeRow store.rows store.outcomes (outcomeRow (env.during turn) 0 deployment policy
        (evaluate observations policy.confidenceThreshold)) =
      .ok (store.outcomes ++ [outcomeRow (env.during turn) 0 deployment policy
        (evaluate observations policy.confidenceThreshold)]) := by
  obtain ⟨stored, key⟩ := getPolicy_found found
  obtain ⟨state, lower, upper⟩ := evaluate_checked observations policy.confidenceThreshold
  have owned : (outcomeRow (env.during turn) 0 deployment policy
      (evaluate observations policy.confidenceThreshold)).tenantId = publicTenant := waiting.tenant
  refine insertOutcomeRow_iff.mpr ⟨?_, ?_, ?_, new, ⟨policy, ?_, key⟩, rfl⟩
  · rw [owned]
    decide
  · rw [owned, reached.tenants]
    exact schema.known
  · simp only [OutcomeRow.checked, outcomeRow, Bool.and_eq_true, bne_iff_ne]
    exact ⟨⟨⟨named, (schema.checked deployment waiting).2⟩, state⟩, decide_eq_true lower,
      decide_eq_true upper⟩
  · rw [reached.policies]
    exact stored

theorem audited_iff {deploymentId : String} :
    audited deploymentId store = true ↔ ∃ row ∈ store.rows.audits,
      row.kind = .outcome ∧ row.correlationId = deploymentId := by
  simp only [audited, List.any_eq_true, Bool.and_eq_true, beq_iff_eq]

/-- The audit row of a pass is written, unless there is one of an earlier pass. -/
theorem audit_stored (schema : Schema env tables) (reached : Reached tables closed store)
    (waiting : Waiting tables deployment)
    (found : getPolicy tables.rows deployment.tenantId deployment.policyId deployment.version =
      some policy)
    (named : turn.eventId ≠ "") (new : ∀ row ∈ store.rows.audits, row.eventId ≠ turn.eventId)
    (outcomeId : String) :
    ∃ audit : Option AuditRow,
      auditOutcome { env.during turn with outcomeId := fun _ => outcomeId } 0 deployment policy
          store.rows = .ok { store.rows with audits := store.rows.audits ++ audit.toList } ∧
        audit.isSome = !audited deployment.deploymentId store ∧
        ∀ row ∈ audit, row.eventId = turn.eventId ∧ row.tenantId = publicTenant ∧
          row.kind = .outcome ∧ row.correlationId = deployment.deploymentId := by
  obtain ⟨finding, read⟩ := schema.findings policy (getPolicy_found found).1
  obtain ⟨during, same⟩ : ∃ during, during =
      { env.during turn with outcomeId := fun _ => outcomeId } := ⟨_, rfl⟩
  have read : findingDict during policy.originatingFinding = .ok finding := by
    rw [same]
    exact read
  have eventId : during.eventId 0 = turn.eventId := by rw [same]; rfl
  have complete : (outcomeEvent during 0 deployment finding).missing = [] := rfl
  have tenant : (outcomeEvent during 0 deployment finding).tenantId = publicTenant := waiting.tenant
  have checked : ((outcomeEvent during 0 deployment finding).row turn.eventId during.now).checked =
      true :=
    (row_checked_iff complete _ _).mpr
      ⟨named, (by decide : "feedback-worker" ≠ ""), (schema.checked deployment waiting).1⟩
  rw [← same]
  cases already : audited deployment.deploymentId store with
  | false =>
      have free : store.rows.audits.any
          (sameEvent ((outcomeEvent during 0 deployment finding).row turn.eventId during.now)) =
          false := by
        rw [List.any_eq_false]
        intro row member clash
        obtain ⟨correlation, kind⟩ := sameEvent_iff.mp clash
        have present := audited_iff.mpr ⟨row, member, kind, correlation⟩
        exact Bool.false_ne_true (already.symm.trans present)
      have known : (outcomeEvent during 0 deployment finding).tenantId ∈ store.rows.tenants := by
        rw [tenant, reached.tenants]
        exact schema.known
      refine ⟨some ((outcomeEvent during 0 deployment finding).row turn.eventId during.now), ?_, rfl, ?_⟩
      · rw [auditOutcome, read, eventId]
        simp only [bind, Except.bind,
          write_fresh complete checked (by rw [tenant]; decide) known new free]
        rfl
      · intro row member
        cases member
        exact ⟨rfl, tenant, rfl, rfl⟩
  | true =>
      obtain ⟨row, member, kind, correlation⟩ := audited_iff.mp already
      obtain ⟨stored, written⟩ : ∃ stored, write store.rows.tenants store.rows.audits
          (outcomeEvent during 0 deployment finding) turn.eventId during.now =
            .ok (store.rows.audits, stored) :=
        write_coalesces complete checked (by rw [tenant]; decide)
          ⟨row, member, sameEvent_iff.mpr ⟨correlation, kind⟩,
            (reached.own row member kind deployment waiting correlation).trans tenant.symm⟩
      refine ⟨none, ?_, rfl, fun row member => absurd member (Option.not_mem_none row)⟩
      rw [auditOutcome, read, eventId]
      simp only [bind, Except.bind, written, Option.toList_none, List.append_nil]
      rfl

/-- Every transaction of a pass goes through unless the connection fails. -/
theorem advance_moves {position : Nat} {stage : Stage} (schema : Schema env tables)
    (reached : Reached tables closed store) (waiting : Waiting tables deployment)
    (place : At (getPolicy tables.rows deployment.tenantId deployment.policyId deployment.version)
      position stage)
    (named : turn.outcomeId ≠ "" ∧ turn.eventId ≠ "")
    (newOutcome : ∀ row ∈ store.outcomes, row.outcomeId ≠ turn.outcomeId)
    (newEvent : ∀ row ∈ store.rows.audits, row.eventId ≠ turn.eventId) :
    ∃ next later outcome audit,
      advance (env.during turn) deployment (store, stage) = .ok (next, later) ∧
        Moved tables store next deployment position turn later outcome audit := by
  generalize found : getPolicy tables.rows deployment.tenantId deployment.policyId
    deployment.version = policy at place
  have present : hasPolicy tables deployment = policy.isSome := by rw [hasPolicy, found]
  have read : getPolicy store.rows deployment.tenantId deployment.policyId deployment.version =
      policy := (getPolicy_congr reached.policies _ _ _).trans found
  cases place with
  | listed =>
      cases policy with
      | none =>
          refine ⟨store, .missing, none, none, by rw [advance, read], ?_⟩
          apply Moved.reads <;> simp [dueQueue, present, Stage.isDone, found, At.missing]
      | some policy =>
          refine ⟨store, .found policy, none, none, by rw [advance, read], ?_⟩
          apply Moved.reads <;> simp [dueQueue, present, Stage.isDone, found, At.found]
  | missing =>
      refine ⟨_, _, none, none, advance_missing, ?_⟩
      apply Moved.closes <;> simp [dueQueue, present]
  | found policy =>
      obtain ⟨observations, collected⟩ := collectTelemetry_textual (env.during turn) store
        (schema.textual deployment waiting)
      refine ⟨store, .collected policy (evaluate observations policy.confidenceThreshold), none, none,
        by rw [advance, collected]; rfl, ?_⟩
      apply Moved.reads <;> simp [dueQueue, present, Stage.isDone, found, At.collected]
  | collected policy observations =>
      have inserted := outcome_stored schema reached waiting found named.1 newOutcome observations
      refine ⟨{ store with outcomes := store.outcomes ++ [outcomeRow (env.during turn) 0 deployment
          policy (evaluate observations policy.confidenceThreshold)] },
        .inserted policy turn.outcomeId, some (outcomeRow (env.during turn) 0 deployment
          policy (evaluate observations policy.confidenceThreshold)), none,
        by rw [advance, inserted]; rfl, ?_⟩
      constructor
      case appends => exact ⟨rfl, (List.append_nil _).symm⟩
      case tenants => rfl
      case policies => rfl
      case deployments => simp [dueQueue, present]
      case inserts => simp [present]
      case outcomeId =>
        intro row member
        cases member
        rfl
      case audits => simp
      case event => exact fun row member => absurd member (Option.not_mem_none row)
      case ends => simp [dueQueue, present]
      case onwards => simp [Stage.isDone, found, At.inserted]
  | inserted policy outcomeId =>
      refine ⟨_, _, none, none, advance_inserted policy outcomeId, ?_⟩
      apply Moved.closes <;> simp [dueQueue, present, Stage.isDone, found, At.expired]
  | expired policy outcomeId =>
      obtain ⟨audit, recorded, isNew, event⟩ := audit_stored schema reached waiting found named.2
        newEvent outcomeId
      refine ⟨{ store with rows := { store.rows with
          audits := store.rows.audits ++ audit.toList } }, .done, none, audit,
        by rw [advance, recorded]; rfl, ?_⟩
      constructor
      case appends => exact ⟨(List.append_nil _).symm, rfl⟩
      case tenants => rfl
      case policies => rfl
      case deployments => simp [dueQueue, present]
      case inserts => simp
      case outcomeId => exact fun row member => absurd member (Option.not_mem_none row)
      case audits => simp [present, isNew]
      case event => exact event
      case ends => exact fun _ => rfl
      case onwards => simp [dueQueue, present]

end Transactions

section Turns

variable {env : Env} {tables store next : Tables} {closed : List String}
  {deployment : DeploymentRow} {turn : Turn} {turns : List Turn} {position : Nat} {later : Stage}
  {outcome : Option OutcomeRow} {audit : Option AuditRow} {rest : List DeploymentRow}

theorem Reached.moves (reached : Reached tables closed store)
    (moved : Moved tables store next deployment position turn later outcome audit) :
    Reached tables (if position == (dueQueue tables).closing deployment then
      closed ++ [deployment.deploymentId] else closed) next where
  tenants := moved.tenants.trans reached.tenants
  policies := moved.policies.trans reached.policies
  deployments := by
    rw [moved.deployments, reached.deployments]
    by_cases closing : position = (dueQueue tables).closing deployment
    · rw [if_pos closing, if_pos (beq_iff_eq.mpr closing), List.map_map]
      apply List.map_congr_left
      intro row _
      exact expire_expire closed [deployment.deploymentId] row
    · rw [if_neg closing, if_neg (by simpa using closing)]
  own := by
    intro row member kind other waiting correlation
    rw [moved.appends.audits] at member
    rcases List.mem_append.mp member with earlier | added
    · exact reached.own row earlier kind other waiting correlation
    · exact (moved.event row (Option.mem_toList.mp added)).2.1

/-- What is added under the next id of a list of new ones leaves the others new. -/
theorem nodup_append_drawn {α β : Type} {key : α → β} {rows : List α} {added : Option α} {id : β}
    {rest : List β} (distinct : (rows.map key ++ id :: rest).Nodup)
    (drawn : ∀ row ∈ added, key row = id) : ((rows ++ added.toList).map key ++ rest).Nodup := by
  cases added with
  | none =>
      rw [Option.toList_none, List.append_nil]
      exact distinct.sublist ((List.sublist_cons_self id rest).append_left _)
  | some row =>
      rw [Option.toList_some, List.map_append, List.append_assoc, List.map_singleton,
        drawn row rfl]
      exact distinct

theorem Fresh.appends (fresh : Fresh store (turn :: turns)) (appends : Appends store next outcome audit)
    (outcomeId : ∀ row ∈ outcome, row.outcomeId = turn.outcomeId)
    (eventId : ∀ row ∈ audit, row.eventId = turn.eventId) : Fresh next turns where
  named other member := fresh.named other (List.mem_cons_of_mem _ member)
  outcomeIds := by
    rw [appends.outcomes]
    exact nodup_append_drawn fresh.outcomeIds outcomeId
  eventIds := by
    rw [appends.audits]
    exact nodup_append_drawn fresh.eventIds eventId

theorem Fresh.skip (fresh : Fresh store (turn :: turns)) : Fresh store turns :=
  fresh.appends (.silent rfl rfl) (fun row member => absurd member (Option.not_mem_none row))
    (fun row member => absurd member (Option.not_mem_none row))

theorem Fresh.moves (fresh : Fresh store (turn :: turns))
    (moved : Moved tables store next deployment position turn later outcome audit) :
    Fresh next turns :=
  fresh.appends moved.appends moved.outcomeId fun row member => (moved.event row member).1

theorem listDue_eq_poll (reached : Reached tables closed store) (now : Nat) :
    listDue store.rows now = (dueQueue tables).poll closed now := by
  rw [listDue, reached.deployments]
  rfl

/-- What is listed has not been closed, and is as it was in the beginning. -/
theorem waiting_of_poll {now : Nat} :
    ∀ row ∈ (dueQueue tables).poll closed now, Waiting tables row := by
  intro row listed
  obtain ⟨stored, due, tenant⟩ := mem_backlog.mp (mem_backlog_of_listDue listed)
  obtain ⟨original, member, rfl⟩ := List.mem_map.mp stored
  have accepted : (expire closed original).status = "accepted" := by
    rw [DeploymentRow.isDue, Bool.and_eq_true, beq_iff_eq] at due
    exact due.1
  by_cases changed : original.tenantId = publicTenant ∧ original.deploymentId ∈ closed
  · rw [expire, if_pos changed] at accepted
    exact absurd accepted (by decide : "expired" ≠ "accepted")
  · rw [expire, if_neg changed] at accepted tenant ⊢
    exact ⟨member, tenant, accepted⟩

theorem follows_next {rows : List DeploymentRow} (waiting : ∀ row ∈ rows, Waiting tables row) :
    Follows tables (.next rows) (.next rows) := by
  cases rows with
  | nil => exact .idle
  | cons first rest => exact .busy waiting (.listed _)

/-- Where a worker goes from a transaction that leads to the stage. -/
def Worker.leaves (deployment : DeploymentRow) (later : Stage) (rest : List DeploymentRow) :
    Calls.Fate String → Worker
  | .runs => if later.isDone then .next rest else .busy deployment later rest
  | _ => .idle

/-- A turn of a busy worker whose transaction can take effect. -/
theorem act_busy {stage : Stage} (rest : List DeploymentRow)
    (success : advance (env.during turn) deployment (store, stage) = .ok (next, later))
    (appends : Appends store next outcome audit) :
    act env store (.busy deployment stage rest) turn =
      if turn.fate.commits then
        (next, .leaves deployment later rest turn.fate,
          some ⟨deployment.deploymentId, outcome, audit⟩)
      else (store, .idle, some ⟨deployment.deploymentId, none, none⟩) := by
  have outcomeRead : next.outcomes[store.outcomes.length]? = outcome := by
    rw [appends.outcomes, getElem?_append_toList]
  have auditRead : next.rows.audits[store.rows.audits.length]? = audit := by
    rw [appends.audits, getElem?_append_toList]
  cases fate : turn.fate with
  | runs =>
      simp [act, fate, Calls.call, success, Calls.Fate.commits, Worker.leaves, outcomeRead, auditRead]
  | rollsBack failure => simp [act, fate, Calls.call, Calls.Fate.commits]
  | commitsThenRaises failure =>
      simp [act, fate, Calls.call, success, Calls.Fate.commits, Worker.leaves, outcomeRead, auditRead]

/-- What a turn writes for a deployment, and what its place in the queue says of that. -/
structure Agrees (tables store next : Tables) (deploymentId : String) (report : Option Report)
    (place : Option (Passes.Turn DeploymentRow String)) : Prop where
  outcome : concerning deploymentId (fun report => report.outcome.isSome) report =
    Passes.commitsAt (meant tables deploymentId) 2 place
  audit : concerning deploymentId (fun report => report.audit.isSome) report =
    (Passes.commitsAt (meant tables deploymentId) 4 place && !audited deploymentId store)
  audited : audited deploymentId next =
    (audited deploymentId store || Passes.commitsAt (meant tables deploymentId) 4 place)
  waiting : Passes.commitsAt (meant tables deploymentId) 4 place = true →
    ∃ row, Waiting tables row ∧ row.deploymentId = deploymentId

theorem Agrees.silent (tables store : Tables) (deploymentId : String) :
    Agrees tables store store deploymentId none none where
  outcome := rfl
  audit := rfl
  audited := (Bool.or_false _).symm
  waiting := by
    intro none
    cases none

theorem audited_append (appends : Appends store next outcome audit) (deploymentId : String) :
    audited deploymentId next = (audited deploymentId store ||
      audit.any fun row => row.kind == .outcome && row.correlationId == deploymentId) := by
  rw [audited, appends.audits, List.any_append]
  cases audit <;> simp [audited]

/-- A transaction that commits writes what its place says. -/
theorem Moved.agrees (moved : Moved tables store next deployment position turn later outcome audit)
    (waiting : Waiting tables deployment) (commits : turn.fate.commits = true)
    (deploymentId : String) :
    Agrees tables store next deploymentId (some ⟨deployment.deploymentId, outcome, audit⟩)
      (some ⟨deployment, position, turn.fate⟩) := by
  have added : (audit.any fun row => row.kind == .outcome && row.correlationId == deploymentId) =
      (audit.isSome && deployment.deploymentId == deploymentId) := by
    cases written : audit with
    | none => rfl
    | some row =>
        obtain ⟨_, _, kind, correlation⟩ := moved.event row written
        simp [kind, correlation]
  constructor
  · simp only [concerning, Option.any_some, Passes.commitsAt, meant, moved.inserts, commits,
      Bool.and_true, Bool.and_assoc]
  · simp only [concerning, Option.any_some, Passes.commitsAt, meant, moved.audits, commits,
      Bool.and_true]
    by_cases same : deployment.deploymentId = deploymentId
    · simp [same, Bool.and_assoc]
    · rw [beq_eq_false_iff_ne.mpr same]
      rfl
  · rw [audited_append moved.appends, added, moved.audits]
    simp only [Passes.commitsAt, Option.any_some, meant, commits, Bool.and_true]
    by_cases same : deployment.deploymentId = deploymentId
    · rw [same]
      cases Feedback.audited deploymentId store <;> simp
    · rw [beq_eq_false_iff_ne.mpr same, Bool.and_false]
      rfl
  · intro there
    simp only [Passes.commitsAt, Option.any_some, meant, Bool.and_eq_true, beq_iff_eq] at there
    exact ⟨deployment, waiting, there.1.1⟩

/-- One that is rolled back writes nothing. -/
theorem Agrees.rolledBack (tables store : Tables) (deployment : DeploymentRow) (position : Nat)
    (failure deploymentId : String) :
    Agrees tables store store deploymentId (some ⟨deployment.deploymentId, none, none⟩)
      (some ⟨deployment, position, .rollsBack failure⟩) := by
  constructor <;> simp [concerning, Passes.commitsAt, Calls.Fate.commits]

theorem follows_after (waiting : ∀ row ∈ deployment :: rest, Waiting tables row)
    (moved : Moved tables store next deployment position turn later outcome audit) :
    Follows tables (.leaves deployment later rest turn.fate)
      (.after (dueQueue tables) deployment position rest turn.fate) := by
  cases turn.fate with
  | rollsBack failure => exact .idle
  | commitsThenRaises failure => exact .idle
  | runs =>
      rw [Worker.leaves, Passes.Worker.after]
      by_cases last : position + 1 = (dueQueue tables).length deployment
      · rw [if_pos last, moved.ends last]
        exact follows_next fun row member => waiting row (List.mem_cons_of_mem _ member)
      · obtain ⟨unfinished, reached⟩ := moved.onwards last
        rw [if_neg last, unfinished]
        exact .busy waiting reached

theorem forall_ne_of_nodup {α β : Type} {key : α → β} {rows : List α} {id : β} {rest : List β}
    (distinct : (rows.map key ++ id :: rest).Nodup) : ∀ row ∈ rows, key row ≠ id := by
  intro row member
  exact (List.nodup_append.mp distinct).2.2 _ (List.mem_map_of_mem member) id List.mem_cons_self

/-- Each turn of a worker is the turn of its place in the queue. -/
theorem act_follows {worker : Worker} {place : Passes.Worker DeploymentRow}
    (schema : Schema env tables) (reached : Reached tables closed store)
    (follows : Follows tables worker place) (fresh : Fresh store (turn :: turns)) :
    Reached tables (Passes.act (dueQueue tables) closed place (turn.fate, turn.now)).1
        (act env store worker turn).1 ∧
      Follows tables (act env store worker turn).2.1
        (Passes.act (dueQueue tables) closed place (turn.fate, turn.now)).2.1 ∧
      Fresh (act env store worker turn).1 turns ∧
      ∀ deploymentId, Agrees tables store (act env store worker turn).1 deploymentId
        (act env store worker turn).2.2
        (Passes.act (dueQueue tables) closed place (turn.fate, turn.now)).2.2 := by
  cases follows with
  | idle =>
      cases fate : turn.fate with
      | runs =>
          simp only [act, Passes.act, fate]
          refine ⟨reached, ?_, fresh.skip, fun deploymentId => .silent _ _ _⟩
          rw [listDue_eq_poll reached]
          exact follows_next waiting_of_poll
      | rollsBack failure =>
          simp only [act, Passes.act, fate]
          exact ⟨reached, .idle, fresh.skip, fun deploymentId => .silent _ _ _⟩
      | commitsThenRaises failure =>
          simp only [act, Passes.act, fate]
          exact ⟨reached, .idle, fresh.skip, fun deploymentId => .silent _ _ _⟩
  | @busy deployment stage position rest waiting place =>
      have mine := waiting deployment List.mem_cons_self
      obtain ⟨next, later, outcome, audit, success, moved⟩ := advance_moves schema reached mine place
        (fresh.named turn List.mem_cons_self) (forall_ne_of_nodup fresh.outcomeIds)
        (forall_ne_of_nodup fresh.eventIds)
      rw [act_busy rest success moved.appends, Passes.act]
      by_cases commits : turn.fate.commits = true
      · simp only [commits, ↓reduceIte, Bool.true_and]
        exact ⟨reached.moves moved, follows_after waiting moved, fresh.moves moved,
          fun deploymentId => moved.agrees mine commits deploymentId⟩
      · cases fate : turn.fate with
        | rollsBack failure =>
            exact ⟨reached, .idle, fresh.skip,
              fun deploymentId => .rolledBack tables store deployment position failure deploymentId⟩
        | runs => exact absurd (by rw [fate]; rfl) commits
        | commitsThenRaises failure => exact absurd (by rw [fate]; rfl) commits

end Turns

section Runs

variable {n : Nat} {env : Env} {tables : Tables} {deploymentId : String}

/-- A run of the workers follows the queue, turn by turn. -/
theorem run_follows (schema : Schema env tables) (deploymentId : String)
    (schedule : List (Fin n × Turn)) (workers : Workers n)
    (places : Passes.System String DeploymentRow n)
    (reached : Reached tables places.store workers.store)
    (follows : ∀ i, Follows tables (workers.process i) (places.process i))
    (fresh : Fresh workers.store (schedule.map Prod.snd)) :
    (Runs.outputs (Processes.step (act env)) workers schedule).countP
        (concerning deploymentId fun report => report.outcome.isSome) =
      (Runs.outputs (Processes.step (Passes.act (dueQueue tables))) places (inputs schedule)).countP
        (Passes.commitsAt (meant tables deploymentId) 2) ∧
    (Runs.outputs (Processes.step (act env)) workers schedule).countP
        (concerning deploymentId fun report => report.audit.isSome) =
      (!audited deploymentId workers.store &&
        (Runs.outputs (Processes.step (Passes.act (dueQueue tables))) places (inputs schedule)).any
          (Passes.commitsAt (meant tables deploymentId) 4)).toNat ∧
    ((Runs.outputs (Processes.step (Passes.act (dueQueue tables))) places (inputs schedule)).any
        (Passes.commitsAt (meant tables deploymentId) 4) = true →
      ∃ row, Waiting tables row ∧ row.deploymentId = deploymentId) ∧
    ∀ i, Follows tables ((Runs.final (Processes.step (act env)) workers schedule).process i)
      ((Runs.final (Processes.step (Passes.act (dueQueue tables))) places
        (inputs schedule)).process i) := by
  induction schedule generalizing workers places with
  | nil =>
      refine ⟨rfl, (congrArg Bool.toNat (Bool.and_false _)).symm, ?_, follows⟩
      intro absent
      cases absent
  | cons turn rest ih =>
      obtain ⟨i, turn⟩ := turn
      have fresh : Fresh workers.store (turn :: rest.map Prod.snd) := fresh
      obtain ⟨later, moved, remaining, agrees⟩ := act_follows schema reached (follows i) fresh
      have here := agrees deploymentId
      have others : ∀ j, Follows tables
          ((Processes.step (act env) workers (i, turn)).1.process j)
          ((Processes.step (Passes.act (dueQueue tables)) places
            (i, turn.fate, turn.now)).1.process j) := by
        intro j
        by_cases same : j = i
        · subst same
          simpa only [Processes.step, Function.update_self] using moved
        · simpa only [Processes.step, Function.update_of_ne same] using follows j
      obtain ⟨outcomes, audits, waiting, final⟩ :=
        ih (Processes.step (act env) workers (i, turn)).1
          (Processes.step (Passes.act (dueQueue tables)) places (i, turn.fate, turn.now)).1
          later others remaining
      have added : audited deploymentId (Processes.step (act env) workers (i, turn)).1.store = _ :=
        here.audited
      rw [inputs, List.map_cons, ← inputs, Runs.outputs_cons, Runs.outputs_cons,
        Processes.countP_cons_toNat, Processes.countP_cons_toNat, Processes.countP_cons_toNat,
        List.any_cons, outcomes, audits, added]
      refine ⟨?_, ?_, ?_, final⟩
      · exact congrArg (·.toNat + _) here.outcome
      · -- The first transaction that commits writes the row, and no later one does.
        refine (congrArg (·.toNat + _) here.audit).trans ?_
        have counted : ∀ written here later : Bool, (here && !written).toNat +
            (!(written || here) && later).toNat = (!written && (here || later)).toNat := by
          decide
        exact counted _ _ _
      · intro there
        rcases Bool.or_eq_true_iff.mp there with now | afterwards
        · exact here.waiting now
        · exact waiting afterwards

theorem reached_start (schema : Schema env tables) : Reached tables [] tables where
  tenants := rfl
  policies := rfl
  deployments := (map_expire_nil _).symm
  own audit member kind row waiting correlation :=
    absurd correlation (schema.unaudited row waiting audit member kind)

theorem not_audited (schema : Schema env tables)
    (waiting : ∃ row, Waiting tables row ∧ row.deploymentId = deploymentId) :
    audited deploymentId tables = false := by
  obtain ⟨row, waiting, rfl⟩ := waiting
  rw [Bool.eq_false_iff, ne_eq, audited_iff]
  rintro ⟨audit, member, kind, correlation⟩
  exact schema.unaudited row waiting audit member kind correlation

theorem not_beyond {worker : Worker} {place : Passes.Worker DeploymentRow}
    (follows : Follows tables worker place) (free : worker.processes deploymentId = false)
    (position : Nat) : place.beyond (meant tables deploymentId) position = false := by
  cases follows with
  | idle => rfl
  | busy waiting reached =>
      rw [Worker.processes] at free
      rw [Passes.busy_beyond, meant, free, Bool.false_and, Bool.false_and]

/-- One pass has got its outcome committed and one its audit row: they are the same. -/
theorem onePass_iff (schedule : List (Fin n × Turn)) :
    OnePass tables schedule deploymentId ↔
      (Passes.passes (dueQueue tables) (inputs schedule)).countP
          (fun pass => meant tables deploymentId pass.job && pass.commits 2) = 1 ∧
        0 < (Passes.passes (dueQueue tables) (inputs schedule)).countP
          (fun pass => meant tables deploymentId pass.job && pass.commits 4) := by
  unfold OnePass
  generalize Passes.passes (dueQueue tables) (inputs schedule) = passes
  rw [List.countP_eq_length_filter, List.length_eq_one_iff, List.countP_pos_iff]
  constructor
  · rintro ⟨pass, only, audited⟩
    have member : pass ∈ passes.filter
        (fun pass => meant tables deploymentId pass.job && pass.commits 2) := by
      rw [only]
      exact List.mem_singleton.mpr rfl
    obtain ⟨listed, mine⟩ := List.mem_filter.mp member
    rw [Bool.and_eq_true] at mine
    exact ⟨⟨pass, only⟩, pass, listed, by rw [mine.1, audited]; rfl⟩
  · rintro ⟨⟨pass, only⟩, other, listed, mine⟩
    rw [Bool.and_eq_true] at mine
    have inserted : other ∈ passes.filter
        (fun pass => meant tables deploymentId pass.job && pass.commits 2) := by
      refine List.mem_filter.mpr ⟨listed, ?_⟩
      rw [mine.1, Passes.Turn.commits_of_later (by decide) mine.2]
      rfl
    rw [only, List.mem_singleton] at inserted
    exact ⟨pass, only, inserted ▸ mine.2⟩

/-- Once no worker is on the deployment, what has been written for it is what the passes say. -/
theorem exactlyOne_iff_passes {schedule : List (Fin n × Turn)} (healthy : Healthy env tables schedule)
    (free : ∀ i, ((after env tables schedule).process i).processes deploymentId = false) :
    ExactlyOne deploymentId (reports env tables schedule) ↔
      OnePass tables schedule deploymentId := by
  obtain ⟨outcomes, audits, waiting, follows⟩ := run_follows healthy.schema deploymentId schedule
    (Workers.start n tables) (Passes.System.start String DeploymentRow n)
    (reached_start healthy.schema) (fun _ => .idle) healthy.fresh
  have committed : ∀ position, (Passes.turns (dueQueue tables) (inputs schedule)).countP
      (Passes.commitsAt (meant tables deploymentId) position) = _ :=
    fun position => Passes.commits_eq_passes (dueQueue tables) (inputs schedule)
      (meant tables deploymentId) position fun i => not_beyond (follows i) (free i) position
  have recorded : (!audited deploymentId (Workers.start n tables).store &&
      (Passes.turns (dueQueue tables) (inputs schedule)).any
        (Passes.commitsAt (meant tables deploymentId) 4)).toNat = 1 ↔
      0 < (Passes.turns (dueQueue tables) (inputs schedule)).countP
        (Passes.commitsAt (meant tables deploymentId) 4) := by
    rw [List.countP_pos_iff, ← List.any_eq_true]
    cases there : (Passes.turns (dueQueue tables) (inputs schedule)).any
        (Passes.commitsAt (meant tables deploymentId) 4) with
    | false => simp
    | true =>
        have none : audited deploymentId (Workers.start n tables).store = false :=
          not_audited healthy.schema (waiting there)
        simp [none]
  rw [onePass_iff, ← committed, ← committed, ← recorded]
  unfold ExactlyOne
  exact and_congr (by rw [reports, outcomes]; rfl) (by rw [reports, audits]; rfl)

end Runs

/-- A deployment that is settled has its one outcome row and its one audit row exactly if one pass
over it goes through to the end and every other pass is stopped before its outcome commits. -/
theorem exactlyOne_iff_onePass {n : Nat} (env : Env) (tables : Tables)
    (schedule : List (Fin n × Turn)) (now : Nat) (deploymentId : String)
    (healthy : Healthy env tables schedule) :
    (Settled now deploymentId (after env tables schedule) →
        ExactlyOne deploymentId (reports env tables schedule)) ↔
      (Settled now deploymentId (after env tables schedule) →
        OnePass tables schedule deploymentId) := by
  apply forall_congr'
  intro settled
  exact exactlyOne_iff_passes healthy settled.2

/-- Turns of the workers in this order, each with ids of its own. -/
def inOrder (turns : List (Fin 2 × Calls.Fate String)) : List (Fin 2 × Turn) :=
  turns.zipIdx.map fun turn =>
    (turn.1.1, ⟨turn.1.2, 10, "outcome-" ++ toString turn.2, "event-" ++ toString turn.2⟩)

def sampleTurns (worker : Fin 2) (count : Nat) : List (Fin 2 × Calls.Fate String) :=
  List.replicate count (worker, .runs)

theorem sample_schema : Schema sampleWorker (sampleTables publicTenant) where
  known := by decide
  checked row waiting := by
    rw [List.mem_singleton.mp waiting.stored]
    decide +kernel
  textual row waiting vehicle member := by
    rw [List.mem_singleton.mp waiting.stored, List.mem_singleton] at member
    exact ⟨_, member⟩
  unaudited row waiting audit member := by cases member
  findings policy member := by
    rw [List.mem_singleton.mp member]
    exact ⟨_, rfl⟩

/-- The first worker's insert is rolled back, and the second lists the deployment after that. -/
def retried : List (Fin 2 × Turn) :=
  inOrder (sampleTurns 0 3 ++ [(0, .rollsBack "lost")] ++ sampleTurns 1 6)

theorem exactlyOne_iff_onePass_retried :
    Settled 10 "deployment-1" (after sampleWorker (sampleTables publicTenant) retried) ∧
      ExactlyOne "deployment-1" (reports sampleWorker (sampleTables publicTenant) retried) := by
  have healthy : Healthy sampleWorker (sampleTables publicTenant) retried :=
    ⟨sample_schema, by decide +kernel, by decide +kernel, by decide +kernel⟩
  have settled : Settled 10 "deployment-1"
      (after sampleWorker (sampleTables publicTenant) retried) := by
    unfold Settled
    decide +kernel
  have once : OnePass (sampleTables publicTenant) retried "deployment-1" :=
    (onePass_iff retried).mpr (by decide +kernel)
  exact ⟨settled, (exactlyOne_iff_onePass sampleWorker (sampleTables publicTenant) retried 10
    "deployment-1" healthy).mpr (fun _ => once) settled⟩

/-- Both workers poll before either of them processes the deployment. -/
def bothPoll : List (Fin 2 × Turn) :=
  inOrder (sampleTurns 0 1 ++ sampleTurns 1 1 ++ sampleTurns 0 5 ++ sampleTurns 1 5)

/-- Without any failure, the deployment has two outcome rows in the end. -/
theorem exactlyOne_fails_for_two_workers :
    Settled 10 "deployment-1" (after sampleWorker (sampleTables publicTenant) bothPoll) ∧
    (after sampleWorker (sampleTables publicTenant) bothPoll).store.outcomes.length = 2 ∧
    ¬ ExactlyOne "deployment-1" (reports sampleWorker (sampleTables publicTenant) bothPoll) := by
  have settled : Settled 10 "deployment-1"
      (after sampleWorker (sampleTables publicTenant) bothPoll) := by
    unfold Settled
    decide +kernel
  refine ⟨settled, by decide +kernel, ?_⟩
  intro once
  have twice : (reports sampleWorker (sampleTables publicTenant) bothPoll).countP
      (concerning "deployment-1" fun report => report.outcome.isSome) = 2 := by
    decide +kernel
  rw [once.1] at twice
  cases twice

end CollectMind.Feedback
