import CollectMind.Feedback.Backlog
import CollectMind.Library.Forever

set_option autoImplicit false

/- `FeedbackWorker.run_forever` when the processing of some deployments raises at every attempt:
the exception ends the tick, is logged, and the next tick begins with the same query. -/
namespace CollectMind.Feedback

open Registry BatchQueue Forever

/-- The operations of `_process` that may raise. -/
inductive Point where
  | policyRead
  | telemetry
  | outcomeInsert
  | markExpired
  | auditWrite
  deriving DecidableEq, Repr

/-- What a tick raises: a failure that is given, or any other. -/
inductive Raised where
  | injected (point : Point)
  | other (message : String)
  deriving DecidableEq, Repr

/-- Which deployments fail at every attempt, and where. -/
abbrev Faults := String → Option Point

def inject {α : Type} (fault : Option Point) (point : Point) (result : Except String α) :
    Except Raised α :=
  if fault = some point then .error (.injected point) else result.mapError .other

/-- `_process` with a failure. -/
def attempt (fault : Option Point) (env : Env) (k : Nat) (tables : Tables)
    (deployment : DeploymentRow) : Tables × Option Raised :=
  match inject fault .policyRead (.ok (getPolicy tables.rows deployment.tenantId
      deployment.policyId deployment.version)) with
  | .error raised => (tables, some raised)
  | .ok none =>
    match inject fault .markExpired
        ((markExpired tables.rows deployment.deploymentId).mapError env.driver) with
    | .error raised => (tables, some raised)
    | .ok rows => ({ tables with rows := rows }, none)
  | .ok (some policy) =>
    match inject fault .telemetry (collectTelemetry env tables deployment) with
    | .error raised => (tables, some raised)
    | .ok observations =>
      let outcome := evaluate observations policy.confidenceThreshold
      match inject fault .outcomeInsert ((insertOutcomeRow tables.rows tables.outcomes
          (outcomeRow env k deployment policy outcome)).mapError env.driver) with
      | .error raised => (tables, some raised)
      | .ok outcomes =>
        let evaluated := { tables with outcomes := outcomes }
        match inject fault .markExpired
            ((markExpired tables.rows deployment.deploymentId).mapError env.driver) with
        | .error raised => (evaluated, some raised)
        | .ok rows =>
          match inject fault .auditWrite (auditOutcome env k deployment policy rows) with
          | .error raised => ({ evaluated with rows := rows }, some raised)
          | .ok rows => ({ evaluated with rows := rows }, none)

/-- The loop of `tick`, from its `k`-th deployment on. -/
def attemptAll (faults : Faults) (env : Env) :
    Nat → Tables → List DeploymentRow → Tables × Option Raised
  | _, tables, [] => (tables, none)
  | k, tables, deployment :: rest =>
    match attempt (faults deployment.deploymentId) env k tables deployment with
    | (next, some raised) => (next, some raised)
    | (next, none) => attemptAll faults env (k + 1) next rest

/-- `tick` with these failures. -/
def tickWith (faults : Faults) (env : Env) (tables : Tables) : Tables × Except Raised Nat :=
  let due := listDue tables.rows env.now
  match attemptAll faults env 0 tables due with
  | (next, some raised) => (next, .error raised)
  | (next, none) => (next, .ok due.length)

/-- One turn of the loop of `run_forever`, which catches what the tick raises. -/
def turn (faults : Faults) (tables : Tables) (env : Env) : Tables := (tickWith faults env tables).1

/-- The tables before the tick with this number. -/
def tablesAt (faults : Faults) (start : Tables) (envs : Nat → Env) (n : Nat) : Tables :=
  stateAt (turn faults) start envs n

/-- The processing raises while the deployment is still accepted, so that it stays due. -/
def Blocks (faults : Faults) (deployment : DeploymentRow) : Prop :=
  ∃ point, faults deployment.deploymentId = some point ∧ point ≠ .auditWrite

/-- The outcome is written and the deployment is expired. -/
def Completed (start tables : Tables) (deployment : DeploymentRow) : Prop :=
  { deployment with status := "expired" } ∈ tables.rows.deployments ∧
    ∃ new, tables.outcomes = start.outcomes ++ new ∧
      ∃ outcome ∈ new, outcome.policyKey = deployment.policyKey

/-- Everything that is waiting, in the order of `list_due`. -/
def queue (now : Nat) (tables : Tables) : List DeploymentRow :=
  sort DeploymentRow.expiry (backlog tables.rows now)

section Attempts

variable {α : Type} {fault : Option Point} {point : Point} {env : Env} {k : Nat} {tables : Tables}
  {deployment : DeploymentRow}

theorem inject_none (point : Point) (result : Except String α) :
    inject none point result = result.mapError .other := if_neg (by simp)

theorem inject_ok {result : Except String α} {value : α}
    (success : inject fault point result = .ok value) :
    fault ≠ some point ∧ result = .ok value := by
  unfold inject at success
  split at success
  · cases success
  · rename_i unfaulted
    cases result with
    | error message => cases success
    | ok found =>
        cases success
        exact ⟨unfaulted, rfl⟩

theorem inject_error {result : Except String α} {raised : Raised}
    (failed : inject fault point result = .error raised) :
    fault = some point ∧ raised = .injected point ∨ ∃ message, raised = .other message := by
  unfold inject at failed
  split at failed
  · rename_i faulted
    cases failed
    exact Or.inl ⟨faulted, rfl⟩
  · cases result with
    | error message =>
        cases failed
        exact Or.inr ⟨message, rfl⟩
    | ok found => cases failed

/-- Without a failure it is `_process`. -/
theorem attempt_none (env : Env) (k : Nat) (tables : Tables) (deployment : DeploymentRow) :
    attempt none env k tables deployment =
      ((process env k tables deployment).1,
        (process env k tables deployment).2.map Raised.other) := by
  unfold attempt process
  simp only [inject_none, markExpired_eq, Except.mapError]
  cases getPolicy tables.rows deployment.tenantId deployment.policyId deployment.version with
  | none => rfl
  | some policy =>
      dsimp only
      cases collectTelemetry env tables deployment with
      | error message => rfl
      | ok observations =>
          dsimp only
          cases insertOutcomeRow tables.rows tables.outcomes (outcomeRow env k deployment policy
            (evaluate observations policy.confidenceThreshold)) with
          | error fault => rfl
          | ok outcomes =>
              dsimp only
              cases auditOutcome env k deployment policy _ with
              | error message => rfl
              | ok rows => rfl

/-- What an attempt can come to. -/
inductive Attempted (fault : Option Point) (tables : Tables) (deployment : DeploymentRow) :
    Tables × Option Raised → Prop where
  | completes {next : Tables} (unfaulted : fault = none)
      (processed : Processed tables next [deployment]) :
      Attempted fault tables deployment (next, none)
  | unaudited {next : Tables} (faulted : fault = some .auditWrite)
      (processed : Processed tables next [deployment]) :
      Attempted fault tables deployment (next, some (.injected .auditWrite))
  | stuck {next : Tables} {point : Point} (faulted : fault = some point)
      (early : point ≠ .auditWrite) (rows : next.rows = tables.rows)
      (outcomes : ∃ new, next.outcomes = tables.outcomes ++ new) :
      Attempted fault tables deployment (next, some (.injected point))
  | fails {next : Tables} (message : String) :
      Attempted fault tables deployment (next, some (.other message))

/-- A failure before the deployment is expired leaves the rows as they are. -/
theorem attempted_of_error {result : Except String α} {raised : Raised} {next : Tables}
    (early : point ≠ .auditWrite) (failed : inject fault point result = .error raised)
    (rows : next.rows = tables.rows) (outcomes : ∃ new, next.outcomes = tables.outcomes ++ new) :
    Attempted fault tables deployment (next, some raised) := by
  rcases inject_error failed with ⟨faulted, same⟩ | ⟨message, same⟩
  · rw [same]
    exact .stuck faulted early rows outcomes
  · rw [same]
    exact .fails message

theorem attempt_attempted
    (found : (getPolicy tables.rows deployment.tenantId deployment.policyId
      deployment.version).isSome = true) :
    Attempted fault tables deployment (attempt fault env k tables deployment) := by
  have untouched : ∃ new, tables.outcomes = tables.outcomes ++ new := ⟨[], (List.append_nil _).symm⟩
  unfold attempt
  split
  · rename_i raised failed
    exact attempted_of_error (by decide) failed rfl untouched
  · rename_i missing
    rw [Except.ok.inj (inject_ok missing).2] at found
    cases found
  · rename_i policy read
    split
    · rename_i raised failed
      exact attempted_of_error (by decide) failed rfl untouched
    · rename_i observations collected
      dsimp only
      split
      · rename_i raised failed
        exact attempted_of_error (by decide) failed rfl untouched
      · rename_i outcomes inserted
        have appended := insertOutcomeRow_ok (Checked.mapError_ok (inject_ok inserted).2)
        split
        · rename_i raised failed
          exact attempted_of_error (by decide) failed rfl ⟨_, appended⟩
        · rename_i rows marked
          have expired := Checked.mapError_ok (inject_ok marked).2
          rw [markExpired_eq] at expired
          cases expired
          split
          · rename_i raised failed
            rcases inject_error failed with ⟨faulted, same⟩ | ⟨message, same⟩
            · rw [same]
              exact .unaudited faulted ⟨⟨_, appended, rfl⟩, rfl, rfl⟩
            · rw [same]
              exact .fails message
          · rename_i recorded audited
            have stored := auditOutcome_ok (inject_ok audited).2
            refine .completes ?_ ⟨⟨_, appended, rfl⟩, stored.1, stored.2⟩
            -- every point has been passed
            cases faulted : fault with
            | none => rfl
            | some point =>
                cases point with
                | policyRead => exact absurd faulted (inject_ok read).1
                | telemetry => exact absurd faulted (inject_ok collected).1
                | outcomeInsert => exact absurd faulted (inject_ok inserted).1
                | markExpired => exact absurd faulted (inject_ok marked).1
                | auditWrite => exact absurd faulted (inject_ok audited).1

end Attempts

/-- A tick has got through the first deployments of its list. -/
structure Settles (faults : Faults) (before after : Tables) (listed : List DeploymentRow)
    (settled : Nat) : Prop where
  deployments : after.rows.deployments =
    before.rows.deployments.map (expire ((listed.take settled).map DeploymentRow.deploymentId))
  policies : after.rows.policies = before.rows.policies
  outcomes : ∃ new, after.outcomes = before.outcomes ++ new ∧
    ∀ deployment ∈ listed.take settled, faults deployment.deploymentId = none →
      ∃ outcome ∈ new, outcome.policyKey = deployment.policyKey
  clear : ∀ deployment ∈ listed.take settled, ¬ Blocks faults deployment

section Ticking

variable {faults : Faults} {before middle after : Tables} {deployment : DeploymentRow}
  {rest : List DeploymentRow}

/-- Nothing is expired. -/
theorem Settles.zero (rows : after.rows = before.rows)
    (outcomes : ∃ new, after.outcomes = before.outcomes ++ new) (listed : List DeploymentRow) :
    Settles faults before after listed 0 where
  deployments := by
    rw [List.take_zero, List.map_nil, map_expire_nil, rows]
  policies := by rw [rows]
  outcomes := by
    obtain ⟨new, appended⟩ := outcomes
    exact ⟨new, appended, fun _ member => nomatch member⟩
  clear _ member := nomatch member

/-- A deployment that is expired, and then the others. -/
theorem Settles.cons (unblocked : ¬ Blocks faults deployment)
    (first : Processed before middle [deployment]) {settled : Nat}
    (others : Settles faults middle after rest settled) :
    Settles faults before after (deployment :: rest) (settled + 1) where
  deployments := by
    rw [others.deployments, first.deployments, List.map_map]
    apply List.map_congr_left
    intro row _
    exact expire_expire _ _ row
  policies := others.policies.trans first.policies
  outcomes := by
    obtain ⟨new, appended, key⟩ := first.outcomes
    obtain ⟨more, extended, keys⟩ := others.outcomes
    refine ⟨new ++ more, by rw [extended, appended, List.append_assoc], ?_⟩
    intro other member unfaulted
    rcases List.mem_cons.mp member with same | later
    · have written : other.policyKey ∈ new.map OutcomeRow.policyKey := by
        rw [key, same]
        exact List.mem_singleton.mpr rfl
      obtain ⟨outcome, inNew, matching⟩ := List.mem_map.mp written
      exact ⟨outcome, List.mem_append_left _ inNew, matching⟩
    · obtain ⟨outcome, inMore, matching⟩ := keys other later unfaulted
      exact ⟨outcome, List.mem_append_right _ inMore, matching⟩
  clear other member := by
    rcases List.mem_cons.mp member with same | later
    · rw [same]
      exact unblocked
    · exact others.clear other later

theorem not_blocks_of_none (unfaulted : faults deployment.deploymentId = none) :
    ¬ Blocks faults deployment := by
  intro blocks
  obtain ⟨point, faulted, _⟩ := blocks
  rw [unfaulted] at faulted
  cases faulted

theorem not_blocks_of_audit (faulted : faults deployment.deploymentId = some .auditWrite) :
    ¬ Blocks faults deployment := by
  intro blocks
  obtain ⟨point, same, early⟩ := blocks
  rw [faulted] at same
  cases same
  exact early rfl

/-- Unless something else goes wrong, a tick gets through its list up to a deployment that
raises: past it if it is expired by then, not past it otherwise. -/
theorem attemptAll_settles {env : Env} (listed : List DeploymentRow) {k : Nat} {tables : Tables}
    (found : ∀ deployment ∈ listed, deployment.tenantId ≠ "" ∧
      ∃ row ∈ tables.rows.policies, row.key = deployment.policyKey)
    (only : ∀ message, (attemptAll faults env k tables listed).2 ≠ some (.other message)) :
    ∃ settled, Settles faults tables (attemptAll faults env k tables listed).1 listed settled ∧
      ∀ first ∈ listed.head?, ¬ Blocks faults first → 0 < settled := by
  have untouched : ∀ tables : Tables, ∃ new, tables.outcomes = tables.outcomes ++ new :=
    fun tables => ⟨[], (List.append_nil _).symm⟩
  induction listed generalizing k tables with
  | nil => exact ⟨0, .zero rfl (untouched tables) [], fun _ head => nomatch head⟩
  | cons deployment rest ih =>
      have mine := found deployment List.mem_cons_self
      have attempted : Attempted (faults deployment.deploymentId) tables deployment
          (attempt (faults deployment.deploymentId) env k tables deployment) :=
        attempt_attempted (getPolicy_isSome mine.1 mine.2)
      rw [attemptAll] at only ⊢
      generalize attempt (faults deployment.deploymentId) env k tables deployment = result
        at attempted only ⊢
      cases attempted with
      | @completes next unfaulted processed =>
          have others : ∀ later ∈ rest, later.tenantId ≠ "" ∧
              ∃ row ∈ next.rows.policies, row.key = later.policyKey := by
            intro later member
            rw [processed.policies]
            exact found later (List.mem_cons_of_mem _ member)
          obtain ⟨settled, settles, _⟩ := ih others only
          exact ⟨settled + 1, settles.cons (not_blocks_of_none unfaulted) processed,
            fun _ _ _ => Nat.succ_pos settled⟩
      | @unaudited next faulted processed =>
          have none_else : Settles faults next next rest 0 := .zero rfl (untouched next) rest
          exact ⟨1, none_else.cons (not_blocks_of_audit faulted) processed,
            fun _ _ _ => Nat.one_pos⟩
      | stuck faulted early rows outcomes =>
          refine ⟨0, .zero rows outcomes _, ?_⟩
          intro first head unblocked
          cases head
          exact absurd ⟨_, faulted, early⟩ unblocked
      | fails message => exact absurd rfl (only message)

theorem attemptAll_none (env : Env) (k : Nat) (tables : Tables) (listed : List DeploymentRow) :
    attemptAll (fun _ => none) env k tables listed =
      ((processAll env k tables listed).1, (processAll env k tables listed).2.map Raised.other) := by
  induction listed generalizing k tables with
  | nil => rfl
  | cons deployment rest ih =>
      rw [attemptAll, attempt_none, processAll]
      cases process env k tables deployment with
      | mk next raised =>
          cases raised with
          | none => exact ih (k + 1) next
          | some message => rfl

/-- Without failures it is `tick`. -/
theorem tickWith_none (env : Env) (tables : Tables) :
    tickWith (fun _ => none) env tables =
      ((tick env tables).1, (tick env tables).2.mapError Raised.other) := by
  unfold tickWith tick
  dsimp only
  rw [attemptAll_none]
  cases processAll env 0 tables (listDue tables.rows env.now) with
  | mk next raised =>
      cases raised with
      | none => rfl
      | some message => rfl

/-- What one turn of the loop does to the queue: the first deployments leave it, none of which
blocks, and at least one if the first does not block. -/
structure Turned (faults : Faults) (now : Nat) (before after : Tables) (gone : Nat) : Prop where
  queue : queue now after = (queue now before).drop gone
  clear : ∀ deployment ∈ (Feedback.queue now before).take gone, ¬ Blocks faults deployment
  progress : ∀ first ∈ (Feedback.queue now before).head?, ¬ Blocks faults first → 0 < gone
  deployments : after.rows.deployments = before.rows.deployments.map
    (expire (((Feedback.queue now before).take gone).map DeploymentRow.deploymentId))
  policies : after.rows.policies = before.rows.policies
  outcomes : ∃ new, after.outcomes = before.outcomes ++ new ∧
    ∀ deployment ∈ (Feedback.queue now before).take gone, faults deployment.deploymentId = none →
      ∃ outcome ∈ new, outcome.policyKey = deployment.policyKey

theorem queue_distinct {tables : Tables} (keyed : Keyed tables) (now : Nat) :
    ((queue now tables).map DeploymentRow.deploymentId).Nodup :=
  ((sort_perm _ _).map _).nodup_iff.mpr (keyed.backlog_distinct now)

theorem mem_queue {tables : Tables} {now : Nat} :
    deployment ∈ queue now tables ↔ deployment ∈ backlog tables.rows now :=
  (sort_perm _ _).mem_iff

/-- The turn leaves what the loop over the deployments leaves. -/
theorem turn_eq (faults : Faults) (env : Env) (tables : Tables) :
    turn faults tables env = (attemptAll faults env 0 tables (listDue tables.rows env.now)).1 := by
  rw [turn, tickWith]
  cases attemptAll faults env 0 tables (listDue tables.rows env.now) with
  | mk next raised =>
      cases raised with
      | none => rfl
      | some raised => rfl

/-- The tick raises what the loop raises. -/
theorem tickWith_raises {env : Env} {tables : Tables} {raised : Raised}
    (stops : (attemptAll faults env 0 tables (listDue tables.rows env.now)).2 = some raised) :
    (tickWith faults env tables).2 = .error raised := by
  rw [tickWith]
  generalize attemptAll faults env 0 tables (listDue tables.rows env.now) = result at stops ⊢
  obtain ⟨next, other⟩ := result
  dsimp only at stops ⊢
  rw [stops]

/-- Taking deployments from the front of the queue and expiring them shortens it. -/
theorem queue_expire {now gone : Nat} (keyed : Keyed before)
    (deployments : after.rows.deployments = before.rows.deployments.map
      (expire (((queue now before).take gone).map DeploymentRow.deploymentId))) :
    queue now after = (queue now before).drop gone := by
  rw [queue, backlog_of_expired deployments, sort_filter]
  exact filter_eq_drop DeploymentRow.deploymentId (queue_distinct keyed now) gone

theorem turn_turned {env : Env} {tables : Tables} {now : Nat} (keyed : Keyed tables)
    (same : SameDue tables now env.now)
    (only : ∀ message, (tickWith faults env tables).2 ≠ .error (.other message)) :
    ∃ gone, Turned faults now tables (turn faults tables env) gone := by
  have listed : listDue tables.rows env.now = (queue now tables).take 100 := by
    rw [listDue_eq, same.backlog_eq]
    rfl
  have found : ∀ deployment ∈ listDue tables.rows env.now, deployment.tenantId ≠ "" ∧
      ∃ row ∈ tables.rows.policies, row.key = deployment.policyKey := by
    intro deployment member
    have waits := mem_backlog.mp (mem_backlog_of_listDue member)
    refine ⟨?_, keyed.stored deployment waits.1⟩
    rw [waits.2.2]
    decide
  have injected : ∀ message, (attemptAll faults env 0 tables (listDue tables.rows env.now)).2 ≠
      some (.other message) := by
    intro message stops
    exact only message (tickWith_raises stops)
  obtain ⟨settled, settles, progress⟩ := attemptAll_settles (listDue tables.rows env.now) found
    injected
  rw [← turn_eq, listed] at settles
  have taken : ((queue now tables).take 100).take settled = (queue now tables).take (min settled 100) :=
    List.take_take
  have deployments := settles.deployments
  rw [taken] at deployments
  refine ⟨min settled 100, queue_expire keyed deployments, ?_, ?_, deployments, settles.policies, ?_⟩
  · rw [← taken]
    exact settles.clear
  · intro first head unblocked
    have positive := progress first (by
      rw [listed, List.head?_take]
      simpa using head) unblocked
    omega
  · rw [← taken]
    exact settles.outcomes

end Ticking

/-- The loop runs on tables that keep their keys; what is due stays the same, and nothing raises
but the failures that are given. -/
structure Looping (faults : Faults) (start : Tables) (envs : Nat → Env) (now : Nat) : Prop where
  keyed : Keyed start
  steady : ∀ n, SameDue start now (envs n).now
  only : ∀ n message, (tickWith faults (envs n) (tablesAt faults start envs n)).2 ≠
    .error (.other message)

section Loop

variable {faults : Faults} {start : Tables} {envs : Nat → Env} {now : Nat}
  {deployment : DeploymentRow}

/-- What every turn keeps. -/
structure Along (start : Tables) (envs : Nat → Env) (now : Nat) (tables : Tables) : Prop where
  keyed : Keyed tables
  steady : ∀ n, SameDue tables now (envs n).now
  outcomes : ∃ more, tables.outcomes = start.outcomes ++ more

theorem Along.turned {before after : Tables} {gone : Nat} (along : Along start envs now before)
    (turned : Turned faults now before after gone) : Along start envs now after where
  keyed := along.keyed.expired (List.Perm.of_eq turned.deployments) turned.policies
  steady n := (along.steady n).expired (List.Perm.of_eq turned.deployments)
  outcomes := by
    obtain ⟨more, sofar⟩ := along.outcomes
    obtain ⟨new, appended, _⟩ := turned.outcomes
    exact ⟨more ++ new, by rw [appended, sofar, List.append_assoc]⟩

theorem along_at (looping : Looping faults start envs now) (n : Nat) :
    Along start envs now (tablesAt faults start envs n) := by
  induction n with
  | zero => exact ⟨looping.keyed, looping.steady, [], (List.append_nil _).symm⟩
  | succ n ih =>
      obtain ⟨gone, turned⟩ := turn_turned ih.keyed (ih.steady n) (looping.only n)
      exact ih.turned turned

theorem turned_at (looping : Looping faults start envs now) (n : Nat) :
    ∃ gone, Turned faults now (tablesAt faults start envs n) (tablesAt faults start envs (n + 1))
      gone := by
  have along := along_at looping n
  exact turn_turned along.keyed (along.steady n) (looping.only n)

/-- A deployment without failure that leaves the queue is completed. -/
theorem completed_of_leaves (looping : Looping faults start envs now) {n : Nat}
    (unfaulted : faults deployment.deploymentId = none)
    (waits : deployment ∈ queue now (tablesAt faults start envs n))
    (leaves : deployment ∉ queue now (tablesAt faults start envs (n + 1))) :
    Completed start (tablesAt faults start envs (n + 1)) deployment := by
  obtain ⟨gone, turned⟩ := turned_at looping n
  obtain ⟨more, sofar⟩ := (along_at looping n).outcomes
  have taken : deployment ∈ (queue now (tablesAt faults start envs n)).take gone := by
    rw [turned.queue] at leaves
    rw [← List.take_append_drop gone (queue now (tablesAt faults start envs n))] at waits
    exact (List.mem_append.mp waits).resolve_right leaves
  obtain ⟨stored, _, owner⟩ := mem_backlog.mp (mem_queue.mp waits)
  obtain ⟨new, appended, written⟩ := turned.outcomes
  obtain ⟨outcome, inNew, key⟩ := written deployment taken unfaulted
  refine ⟨?_, more ++ new, ?_, outcome, List.mem_append_right _ inNew, key⟩
  · rw [turned.deployments, ← expire_of_mem owner (List.mem_map_of_mem taken)]
    exact List.mem_map_of_mem stored
  · rw [appended, sofar, List.append_assoc]

/-- A deployment that waits is not completed. -/
theorem not_completed_of_waits {tables : Tables} (keyed : Keyed tables)
    (waits : deployment ∈ queue now tables) : ¬ Completed start tables deployment := by
  intro completed
  obtain ⟨stored, isDue, _⟩ := mem_backlog.mp (mem_queue.mp waits)
  have same := List.inj_on_of_nodup_map keyed.distinct stored completed.1 rfl
  rw [same, isDue_expired] at isDue
  cases isDue

/-- No deployment that blocks stands before one that does not fail. -/
def Unblocked (faults : Faults) (jobs : List DeploymentRow) : Prop :=
  jobs.Pairwise fun first second => Blocks faults first → faults second.deploymentId ≠ none

theorem unblocked_at (looping : Looping faults start envs now)
    (unblocked : Unblocked faults (queue now start)) (n : Nat) :
    Unblocked faults (queue now (tablesAt faults start envs n)) := by
  induction n with
  | zero => exact unblocked
  | succ n ih =>
      obtain ⟨gone, turned⟩ := turned_at looping n
      rw [turned.queue]
      exact ih.sublist (List.drop_sublist _ _)

/-- While such a deployment waits, the first one in the queue does not block, so that the queue
gets shorter. -/
theorem queue_shorter (looping : Looping faults start envs now)
    (unblocked : Unblocked faults (queue now start)) {n : Nat}
    (unfaulted : faults deployment.deploymentId = none)
    (waits : deployment ∈ queue now (tablesAt faults start envs n)) :
    (queue now (tablesAt faults start envs (n + 1))).length <
      (queue now (tablesAt faults start envs n)).length := by
  obtain ⟨gone, turned⟩ := turned_at looping n
  have order := unblocked_at looping unblocked n
  cases jobs : queue now (tablesAt faults start envs n) with
  | nil =>
      rw [jobs] at waits
      cases waits
  | cons first rest =>
      rw [jobs] at waits order
      have free : ¬ Blocks faults first := by
        rcases List.mem_cons.mp waits with same | later
        · rw [← same]
          exact not_blocks_of_none unfaulted
        · intro blocks
          exact (List.pairwise_cons.mp order).1 deployment later blocks unfaulted
      have positive := turned.progress first (by rw [jobs]; rfl) free
      rw [turned.queue, jobs, List.length_drop, List.length_cons]
      omega

theorem completed_of_unblocked (looping : Looping faults start envs now)
    (unblocked : Unblocked faults (queue now start)) (waits : deployment ∈ queue now start)
    (unfaulted : faults deployment.deploymentId = none) :
    ∃ n, Completed start (tablesAt faults start envs n) deployment := by
  have shorter : ∀ n, deployment ∈ queue now (tablesAt faults start envs n) →
      (queue now (tablesAt faults start envs (n + 1))).length <
        (queue now (tablesAt faults start envs n)).length :=
    fun n waits => queue_shorter looping unblocked unfaulted waits
  obtain ⟨last, _, left⟩ := reaches (turn faults) start envs
    (fun tables => deployment ∉ queue now tables) (fun tables => (queue now tables).length)
    (fun _ => True) (fun m => ⟨m, Nat.le_refl m, trivial⟩) 0
    (fun m _ waits => Or.inr (Nat.le_of_lt (shorter m (not_not.mp waits))))
    (fun m _ waits _ => Or.inr (shorter m (not_not.mp waits)))
  obtain ⟨n, _, _, here, gone⟩ := crosses (turn faults) start envs
    (fun tables => deployment ∉ queue now tables) (Nat.zero_le last) (not_not.mpr waits) left
  exact ⟨n + 1, completed_of_leaves looping unfaulted (not_not.mp here) gone⟩

/-- A deployment that blocks keeps everything behind it in the queue. -/
theorem waits_behind (looping : Looping faults start envs now) {first : DeploymentRow}
    (blocks : Blocks faults first) (order : [first, deployment].Sublist (queue now start)) (n : Nat) :
    [first, deployment].Sublist (queue now (tablesAt faults start envs n)) := by
  induction n with
  | zero => exact order
  | succ n ih =>
      obtain ⟨gone, turned⟩ := turned_at looping n
      rw [turned.queue]
      apply sublist_drop ih
      intro taken
      exact turned.clear first taken blocks

/-- Every deployment whose processing does not fail is completed after finitely many ticks exactly
if none that fails while it is still accepted stands before it in the order of the query. -/
theorem completes_iff_unblocked (faults : Faults) (start : Tables) (envs : Nat → Env) (now : Nat)
    (looping : Looping faults start envs now) :
    (∀ deployment ∈ backlog start.rows now, faults deployment.deploymentId = none →
      ∃ n, Completed start (tablesAt faults start envs n) deployment) ↔
      Unblocked faults (queue now start) := by
  constructor
  · intro completes
    apply List.pairwise_iff_forall_sublist.mpr
    intro first deployment order blocks unfaulted
    have waits := mem_queue.mp (order.subset (List.mem_cons_of_mem _ List.mem_cons_self))
    obtain ⟨n, completed⟩ := completes deployment waits unfaulted
    have still := (waits_behind looping blocks order n).subset
      (List.mem_cons_of_mem _ List.mem_cons_self)
    exact not_completed_of_waits (along_at looping n).keyed still completed
  · intro unblocked deployment waits unfaulted
    exact completed_of_unblocked looping unblocked (mem_queue.mpr waits) unfaulted

end Loop

section Samples

variable {faults : Faults} {start : Tables}

/-- A tick whose first deployment fails at once does nothing. -/
theorem tickWith_blocked {env : Env} {tables : Tables} {id : String} {ids : List String}
    (listed : (listDue tables.rows env.now).map DeploymentRow.deploymentId = id :: ids)
    (faulted : faults id = some .policyRead) :
    tickWith faults env tables = (tables, .error (.injected .policyRead)) := by
  obtain ⟨first, rest, jobs, same, _⟩ := List.map_eq_cons_iff.mp listed
  have attempted : attempt (some .policyRead) env 0 tables first =
      (tables, some (.injected .policyRead)) := rfl
  unfold tickWith
  dsimp only
  rw [jobs, attemptAll, same, faulted, attempted]

/-- Once a tick does nothing, the same tick does nothing for ever. -/
theorem tablesAt_blocked {env : Env} {k n : Nat} (later : k ≤ n)
    (blocked : turn faults (tablesAt faults start (fun _ => env) k) env =
      tablesAt faults start (fun _ => env) k) :
    tablesAt faults start (fun _ => env) n = tablesAt faults start (fun _ => env) k := by
  apply stays (turn faults) start (fun _ => env)
    (fun tables => tables = tablesAt faults start (fun _ => env) k) _ rfl later
  intro m _ held
  rw [stateAt_succ, held]
  exact blocked

def firstDeployment : DeploymentRow where
  deploymentId := "deployment-1"
  tenantId := publicTenant
  policyId := "policy-1"
  version := "1.0.0"
  environment := "dev"
  vehicleScope := [.str "vehicle-1"]
  status := "accepted"
  downstreamResponse := .null
  requestedAt := 0
  acceptedAt := some 0
  expiresAt := some 5

def secondDeployment : DeploymentRow :=
  { firstDeployment with deploymentId := "deployment-2", expiresAt := some 7 }

/-- Two deployments of one policy whose windows have closed, one after the other. -/
def twoTables : Tables :=
  { sampleTables publicTenant with
    rows := { (sampleTables publicTenant).rows with
      deployments := [firstDeployment, secondDeployment] } }

/-- The policy of this deployment cannot be read. -/
def unreadable (deploymentId : String) : Faults :=
  fun other => if other = deploymentId then some .policyRead else none

theorem twoTables_keyed : Keyed twoTables where
  distinct := by decide
  stored deployment member := by
    refine ⟨_, List.mem_singleton.mpr rfl, ?_⟩
    rcases List.mem_cons.mp member with same | later
    · rw [same]
      rfl
    · rw [List.mem_singleton.mp later]
      rfl

theorem twoTables_queue : (queue 10 twoTables).map DeploymentRow.deploymentId =
    ["deployment-1", "deployment-2"] := by
  decide +kernel

/-- The second deployment fails, and the first one is completed. -/
theorem completes_iff_unblocked_first :
    ∃ n, Completed twoTables
      (tablesAt (unreadable "deployment-2") twoTables (fun _ => sampleWorker) n)
      firstDeployment := by
  have stuck : (listDue (turn (unreadable "deployment-2") twoTables sampleWorker).rows 10).map
      DeploymentRow.deploymentId = ["deployment-2"] := by decide +kernel
  have blocked : tickWith (unreadable "deployment-2") sampleWorker
      (turn (unreadable "deployment-2") twoTables sampleWorker) =
        (turn (unreadable "deployment-2") twoTables sampleWorker, .error (.injected .policyRead)) :=
    tickWith_blocked stuck rfl
  have raises : (tickWith (unreadable "deployment-2") sampleWorker twoTables).2 =
      .error (.injected .policyRead) := by decide +kernel
  have looping : Looping (unreadable "deployment-2") twoTables (fun _ => sampleWorker) 10 := by
    refine ⟨twoTables_keyed, fun _ _ _ _ => rfl, ?_⟩
    intro n message
    cases n with
    | zero =>
        change (tickWith (unreadable "deployment-2") sampleWorker twoTables).2 ≠ _
        rw [raises]
        simp
    | succ n =>
        have still : tablesAt (unreadable "deployment-2") twoTables (fun _ => sampleWorker) (n + 1) =
            turn (unreadable "deployment-2") twoTables sampleWorker :=
          tablesAt_blocked (Nat.le_add_left 1 n) (congrArg Prod.fst blocked)
        rw [still, blocked]
        simp
  refine (completes_iff_unblocked _ twoTables _ 10 looping).mpr ?_ firstDeployment (by
    rw [mem_backlog]
    exact ⟨List.mem_cons_self, rfl, rfl⟩) rfl
  obtain ⟨first, rest, jobs, one, others⟩ := List.map_eq_cons_iff.mp twoTables_queue
  obtain ⟨second, nothing, last, two, empty⟩ := List.map_eq_cons_iff.mp others
  rw [Unblocked, jobs, last, List.map_eq_nil_iff.mp empty]
  apply List.pairwise_pair.mpr
  intro blocks
  exact absurd blocks (not_blocks_of_none (by rw [one]; rfl))

/-- The first deployment fails, and the second one waits for ever. -/
theorem completes_fails_behind_unreadable :
    Looping (unreadable "deployment-1") twoTables (fun _ => sampleWorker) 10 ∧
      secondDeployment ∈ backlog twoTables.rows 10 ∧
      unreadable "deployment-1" secondDeployment.deploymentId = none ∧
      ∀ n, ¬ Completed twoTables
        (tablesAt (unreadable "deployment-1") twoTables (fun _ => sampleWorker) n)
        secondDeployment := by
  have listed : (listDue twoTables.rows sampleWorker.now).map DeploymentRow.deploymentId =
      ["deployment-1", "deployment-2"] := by decide +kernel
  have blocked : tickWith (unreadable "deployment-1") sampleWorker twoTables =
      (twoTables, .error (.injected .policyRead)) := tickWith_blocked listed rfl
  have still : ∀ n, tablesAt (unreadable "deployment-1") twoTables (fun _ => sampleWorker) n =
      twoTables := fun n => tablesAt_blocked (Nat.zero_le n) (congrArg Prod.fst blocked)
  have waits : secondDeployment ∈ backlog twoTables.rows 10 := by
    rw [mem_backlog]
    exact ⟨List.mem_cons_of_mem _ List.mem_cons_self, rfl, rfl⟩
  refine ⟨⟨twoTables_keyed, fun _ _ _ _ => rfl, ?_⟩, waits, rfl, ?_⟩
  · intro n message
    rw [still n, blocked]
    simp
  · intro n
    rw [still n]
    exact not_completed_of_waits twoTables_keyed (mem_queue.mpr waits)

end Samples

end CollectMind.Feedback
