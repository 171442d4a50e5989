import CollectMind.Registry.Migrations

set_option autoImplicit false

/- `rollback_one` beside `apply_pending`: any number of processes of both kinds over one database,
and what the rows of `schema_migrations` say of the scripts that have run. -/
namespace CollectMind.Registry.Migrations

/-- A script whose transaction has committed. -/
inductive Script where
  | up (migration : Migration)
  | down (migration : Migration)
  deriving DecidableEq, Repr

def Script.migration : Script → Migration
  | .up migration | .down migration => migration

def Script.isUp : Script → Bool
  | .up _ => true
  | .down _ => false

/-- The database, and in order every script that has been committed to it. -/
structure Ledger where
  database : Database
  scripts : List Script
  deriving DecidableEq, Repr

/-- The scripts of one version. -/
def scriptsOf (version : String) (scripts : List Script) : List Script :=
  scripts.filter fun script => script.migration.version == version

/-- `{m.version: m for m in discover_migrations()}`: of the migrations of one version the last. -/
def findMigration (migrations : List Migration) (version : String) : Option Migration :=
  (migrations.filter fun migration => migration.version == version).getLast?

/-- The transaction of a rollback: the down script, and the `DELETE`, which may find no row. -/
def Ledger.rollBack (ledger : Ledger) (target : Migration) : Ledger where
  database := { ledger.database with
    rows := ledger.database.rows.filter fun row => row.1 != target.version }
  scripts := ledger.scripts ++ [.down target]

/-- Where a `rollback_one` process is. -/
inductive RollbackPhase where
  | idle
  | connected (target : Migration)
  | ensured (target : Migration)
  | rollingBack (target : Migration)
  | returned
  | failed
  deriving DecidableEq, Repr

/-- One turn of `rollback_one`. The file is looked for before the connection is opened; a version
that is not recorded ends the call. -/
def rollbackAct (migrations : List Migration) (version : String) (ledger : Ledger)
    (phase : RollbackPhase) (action : Action) : Ledger × RollbackPhase :=
  match phase, action with
  | .idle, .connect | .returned, .connect | .failed, .connect =>
    match findMigration migrations version with
    | none => (ledger, .failed)
    | some target =>
      if target.downPath.isSome then (ledger, .connected target) else (ledger, .failed)
  | .connected target, .ensureMigrationsTable => (ledger, .ensured target)
  | .ensured target, .appliedVersions =>
    if version ∈ ledger.database.versions then (ledger, .rollingBack target)
    else (ledger, .returned)
  | .rollingBack target, .advance => (ledger.rollBack target, .returned)
  | .rollingBack target, .commitThenStop => (ledger.rollBack target, .failed)
  | .connected _, .stop | .ensured _, .stop | .rollingBack _, .stop => (ledger, .failed)
  | phase, _ => (ledger, phase)

/-- What a process has been started for. -/
inductive Job where
  | applyPending
  | rollbackOne (version : String)
  deriving DecidableEq, Repr

inductive Process where
  | applyPending (phase : Phase)
  | rollbackOne (version : String) (phase : RollbackPhase)
  deriving DecidableEq, Repr

def Job.start : Job → Process
  | .applyPending => .applyPending .idle
  | .rollbackOne version => .rollbackOne version .idle

/-- One turn of a process. The files that `apply_pending` adds to those committed are up scripts. -/
def processAct (migrations : List Migration) (ledger : Ledger) (process : Process)
    (action : Action) : Ledger × Process × Unit :=
  match process with
  | .applyPending phase =>
    let acted := act migrations ledger.database phase action
    let added := acted.1.committed.drop ledger.database.committed.length
    (⟨acted.1, ledger.scripts ++ added.map .up⟩, .applyPending acted.2.1, ())
  | .rollbackOne version phase =>
    let acted := rollbackAct migrations version ledger phase action
    (acted.1, .rollbackOne version acted.2, ())

/-- The processes before their first run, over a database that has seen none. -/
def jobsStart {n : Nat} (jobs : Fin n → Job) : Processes.System Ledger Process n :=
  ⟨⟨⟨[], []⟩, []⟩, fun i => (jobs i).start⟩

/-- The state after some turns of the processes. -/
def jobsAfter (migrations : List Migration) {n : Nat} (jobs : Fin n → Job)
    (turns : List (Fin n × Action)) : Processes.System Ledger Process n :=
  Runs.final (Processes.step (processAct migrations)) (jobsStart jobs) turns

section Turns

variable {migrations : List Migration} {ledger next : Ledger}

/-- The migration of a version is found, and it has a down file. -/
def Targets (migrations : List Migration) (version : String) (target : Migration) : Prop :=
  findMigration migrations version = some target ∧ target.downPath.isSome = true

/-- All that a turn of `rollback_one` can do. -/
inductive RollbackTurn (migrations : List Migration) (version : String) (ledger : Ledger) :
    RollbackPhase → Ledger → RollbackPhase → Prop
  | keeps {phase : RollbackPhase} : RollbackTurn migrations version ledger phase ledger phase
  | returns {phase : RollbackPhase} : RollbackTurn migrations version ledger phase ledger .returned
  | fails {phase : RollbackPhase} : RollbackTurn migrations version ledger phase ledger .failed
  | opens {phase : RollbackPhase} {target : Migration} (found : Targets migrations version target) :
      RollbackTurn migrations version ledger phase ledger (.connected target)
  | ensures {target : Migration} :
      RollbackTurn migrations version ledger (.connected target) ledger (.ensured target)
  | reads {target : Migration} (recorded : version ∈ ledger.database.versions) :
      RollbackTurn migrations version ledger (.ensured target) ledger (.rollingBack target)
  | commits {target : Migration} {later : RollbackPhase}
      (ends : later = .returned ∨ later = .failed) :
      RollbackTurn migrations version ledger (.rollingBack target) (ledger.rollBack target) later

theorem connect_turn (migrations : List Migration) (version : String) (ledger : Ledger)
    (phase : RollbackPhase) :
    let acted := match findMigration migrations version with
      | none => (ledger, RollbackPhase.failed)
      | some target =>
        if target.downPath.isSome then (ledger, .connected target) else (ledger, .failed)
    RollbackTurn migrations version ledger phase acted.1 acted.2 := by
  cases found : findMigration migrations version with
  | none => exact .fails
  | some target =>
      by_cases has : target.downPath.isSome = true
      · simp only [has, if_true]
        exact .opens ⟨found, has⟩
      · simp only [has, if_false, Bool.false_eq_true]
        exact .fails

theorem rollbackAct_turn (migrations : List Migration) (version : String) (ledger : Ledger)
    (phase : RollbackPhase) (action : Action) :
    RollbackTurn migrations version ledger phase
      (rollbackAct migrations version ledger phase action).1
      (rollbackAct migrations version ledger phase action).2 := by
  unfold rollbackAct
  split
  · exact connect_turn migrations version ledger _
  · exact connect_turn migrations version ledger _
  · exact connect_turn migrations version ledger _
  · exact .ensures
  · split
    · rename_i recorded
      exact .reads recorded
    · exact .returns
  · exact .commits (Or.inl rfl)
  · exact .commits (Or.inr rfl)
  · exact .fails
  · exact .fails
  · exact .fails
  · exact .keeps

/-- All that a turn of a process can do to the ledger: nothing, an up script whose version was not
recorded, or the down script that the process was about to run. -/
inductive LedgerTurn (ledger : Ledger) : Process → Ledger → Prop
  | keeps {process : Process} : LedgerTurn ledger process ledger
  | up {phase : Phase} {migration : Migration} {database : Database}
      (effect : ledger.database.apply migration = some database) :
      LedgerTurn ledger (.applyPending phase) ⟨database, ledger.scripts ++ [.up migration]⟩
  | down {version : String} {target : Migration} :
      LedgerTurn ledger (.rollbackOne version (.rollingBack target)) (ledger.rollBack target)

theorem processAct_turn (migrations : List Migration) (ledger : Ledger) (process : Process)
    (action : Action) : LedgerTurn ledger process (processAct migrations ledger process action).1 := by
  cases process with
  | applyPending phase =>
      have turn := act_turn migrations ledger.database phase action
      simp only [processAct]
      cases acted : act migrations ledger.database phase action with
      | mk database rest =>
          rw [acted] at turn
          dsimp only at turn ⊢
          generalize rest.1 = later at turn
          cases turn with
          | commits effect _ =>
              rw [(apply_eq_some effect).2, List.drop_left, List.map_singleton,
                ← (apply_eq_some effect).2]
              exact .up effect
          | _ =>
              rw [List.drop_length, List.map_nil, List.append_nil]
              exact .keeps
  | rollbackOne version phase =>
      have turn := rollbackAct_turn migrations version ledger phase action
      simp only [processAct]
      generalize rollbackAct migrations version ledger phase action = acted at turn
      cases acted with
      | mk after later =>
          cases turn with
          | commits _ => exact .down
          | _ => exact .keeps

end Turns

section Recorded

variable {ledger : Ledger} {version : String}

theorem scriptsOf_append (version : String) (scripts : List Script) (script : Script) :
    scriptsOf version (scripts ++ [script]) =
      scriptsOf version scripts ++
        if script.migration.version = version then [script] else [] := by
  rw [scriptsOf, List.filter_append, List.filter_singleton, cond_eq_ite]
  simp only [beq_iff_eq]
  rfl

/-- What the rows say of the scripts: a version is recorded, under a name, if the last script of
the version is an up script of that name; and between two up scripts of a version there is a
down script. -/
structure Recorded (ledger : Ledger) : Prop where
  rows : ∀ version name, (version, name) ∈ ledger.database.rows ↔
    ∃ migration, (scriptsOf version ledger.scripts).getLast? = some (.up migration) ∧
      migration.name = name
  once : ledger.database.versions.Nodup
  apart : ∀ version, (scriptsOf version ledger.scripts).IsChain fun first second =>
    first.isUp = false ∨ second.isUp = false

theorem Recorded.mem_versions (recorded : Recorded ledger) :
    version ∈ ledger.database.versions ↔
      ∃ migration, (scriptsOf version ledger.scripts).getLast? = some (.up migration) := by
  rw [Database.versions, List.mem_map]
  constructor
  · rintro ⟨⟨listed, name⟩, member, rfl⟩
    obtain ⟨migration, last, _⟩ := (recorded.rows listed name).mp member
    exact ⟨migration, last⟩
  · rintro ⟨migration, last⟩
    exact ⟨(version, migration.name), (recorded.rows _ _).mpr ⟨migration, last, rfl⟩, rfl⟩

theorem Recorded.up {migration : Migration} {database : Database} (recorded : Recorded ledger)
    (effect : ledger.database.apply migration = some database) :
    Recorded ⟨database, ledger.scripts ++ [.up migration]⟩ := by
  obtain ⟨free, rfl⟩ := apply_eq_some effect
  constructor
  case rows =>
    intro version name
    rw [List.mem_append, List.mem_singleton, scriptsOf_append]
    by_cases same : migration.version = version
    · -- no row has the version yet, and its last script is the new one
      have absent : (version, name) ∉ ledger.database.rows := by
        intro member
        exact free (same ▸ List.mem_map_of_mem member)
      simp [Script.migration, same, absent, eq_comm]
    · have other : (version, name) ≠ (migration.version, migration.name) :=
        fun equal => same (Prod.mk.inj equal).1.symm
      simp [Script.migration, same, other, recorded.rows]
  case once =>
    rw [versions_apply effect, List.nodup_append_comm, List.singleton_append, List.nodup_cons]
    exact ⟨free, recorded.once⟩
  case apart =>
    intro version
    rw [scriptsOf_append]
    by_cases same : migration.version = version
    · rw [if_pos (by exact same), List.isChain_append]
      refine ⟨recorded.apart version, List.isChain_singleton _, ?_⟩
      intro last isLast next isNext
      rw [List.head?_cons, Option.mem_some_iff] at isNext
      cases last with
      | down target => exact Or.inl rfl
      | up earlier =>
          exact absurd (recorded.mem_versions.mpr ⟨earlier, isLast⟩) (same ▸ free)
    · rw [if_neg (by exact same), List.append_nil]
      exact recorded.apart version

theorem Recorded.rollBack (recorded : Recorded ledger) (target : Migration) :
    Recorded (ledger.rollBack target) := by
  constructor
  case rows =>
    intro version name
    rw [Ledger.rollBack, List.mem_filter, scriptsOf_append]
    by_cases same : target.version = version
    · simp [Script.migration, same]
    · simp [Script.migration, same, recorded.rows, Ne.symm same]
  case once =>
    exact recorded.once.sublist (List.filter_sublist.map Prod.fst)
  case apart =>
    intro version
    rw [Ledger.rollBack, scriptsOf_append]
    by_cases same : target.version = version
    · rw [if_pos (by exact same), List.isChain_append]
      refine ⟨recorded.apart version, List.isChain_singleton _, ?_⟩
      intro last isLast next isNext
      rw [List.head?_cons, Option.mem_some_iff] at isNext
      rw [← isNext]
      exact Or.inr rfl
    · rw [if_neg (by exact same), List.append_nil]
      exact recorded.apart version

theorem LedgerTurn.recorded {next : Ledger} {process : Process}
    (turn : LedgerTurn ledger process next) (recorded : Recorded ledger) : Recorded next := by
  cases turn with
  | keeps => exact recorded
  | up effect => exact recorded.up effect
  | down => exact recorded.rollBack _

theorem jobsStart_recorded {n : Nat} (jobs : Fin n → Job) : Recorded (jobsStart jobs).store where
  rows version name := by simp [jobsStart, scriptsOf]
  once := List.nodup_nil
  apart version := List.isChain_nil

theorem jobsAfter_recorded (migrations : List Migration) {n : Nat} (jobs : Fin n → Job)
    (turns : List (Fin n × Action)) : Recorded (jobsAfter migrations jobs turns).store :=
  Runs.final_invariant _ (fun system => Recorded system.store) (fun _ => True)
    (fun system turn _ recorded =>
      (processAct_turn migrations system.store (system.process turn.1) turn.2).recorded recorded)
    turns (jobsStart jobs) (jobsStart_recorded jobs) (fun _ _ => trivial)

/-- At every instant, whatever the processes apply and roll back and wherever they stop, the rows
of `schema_migrations` are the versions whose last committed script is an up script, each once and
with the name of that script, and no version has two up scripts without a down script between. -/
theorem recorded_iff_last_up (digit : Char → Bool) (directory : List String) (n : Nat)
    (jobs : Fin n → Job) (turns : List (Fin n × Action)) :
    let ledger := (jobsAfter (discoverMigrations digit directory) jobs turns).store
    (∀ version name, (version, name) ∈ ledger.database.rows ↔
      ∃ migration, (scriptsOf version ledger.scripts).getLast? = some (.up migration) ∧
        migration.name = name) ∧
    ledger.database.versions.Nodup ∧
    ∀ version, (scriptsOf version ledger.scripts).IsChain fun first second =>
      first.isUp = false ∨ second.isUp = false := by
  have recorded := jobsAfter_recorded (discoverMigrations digit directory) jobs turns
  exact ⟨recorded.rows, recorded.once, recorded.apart⟩

end Recorded

section Alternation

variable {migrations : List Migration} {ledger next : Ledger} {version : String} {n : Nat}

/-- Up and down scripts take turns, an up script first. -/
def Alternates (scripts : List Script) : Prop :=
  (∀ first, scripts.head? = some first → first.isUp = true) ∧
    scripts.IsChain fun first second => first.isUp ≠ second.isUp

theorem Alternates.append {scripts : List Script} {script : Script} (alternates : Alternates scripts)
    (turn : ∀ last, scripts.getLast? = some last → last.isUp ≠ script.isUp)
    (opens : scripts = [] → script.isUp = true) : Alternates (scripts ++ [script]) := by
  constructor
  · intro first isFirst
    cases scripts with
    | nil =>
        cases isFirst
        exact opens rfl
    | cons earlier rest => exact alternates.1 first isFirst
  · rw [List.isChain_append]
    refine ⟨alternates.2, List.isChain_singleton _, ?_⟩
    intro last isLast next isNext
    rw [List.head?_cons, Option.mem_some_iff] at isNext
    rw [← isNext]
    exact turn last isLast

/-- A down script run twice in a row. -/
theorem not_alternates_twice (scripts : List Script) (script : Script) :
    ¬ Alternates (scripts ++ [script] ++ [script]) := by
  intro alternates
  have chain := (List.isChain_append.mp alternates.2).2.2
  exact chain script (by simp) script (by simp) rfl

/-- What a process that has read the table relies on: its file has the version it was asked for,
and before it commits, that version is recorded. -/
def Armed (migrations : List Migration) (ledger : Ledger) : Process → Prop
  | .rollbackOne version (.connected target) => Targets migrations version target
  | .rollbackOne version (.ensured target) => Targets migrations version target
  | .rollbackOne version (.rollingBack target) =>
    Targets migrations version target ∧ version ∈ ledger.database.versions
  | _ => True

theorem Targets.mem_version {target : Migration} (found : Targets migrations version target) :
    target ∈ migrations ∧ target.version = version := by
  have listed := List.mem_filter.mp (List.mem_of_getLast? found.1)
  exact ⟨listed.1, beq_iff_eq.mp listed.2⟩

/-- The process has been started to roll the version back. -/
def Process.rollsBack (version : String) : Process → Prop
  | .rollbackOne other _ => other = version
  | .applyPending _ => False

theorem processAct_rollsBack (migrations : List Migration) (ledger : Ledger) (process : Process)
    (action : Action) (version : String) :
    (processAct migrations ledger process action).2.1.rollsBack version ↔
      process.rollsBack version := by
  cases process with
  | applyPending phase => rfl
  | rollbackOne other phase => rfl

/-- A turn arms the process that takes it. -/
theorem processAct_armed {process : Process} (armed : Armed migrations ledger process)
    (action : Action) :
    Armed migrations (processAct migrations ledger process action).1
      (processAct migrations ledger process action).2.1 := by
  cases process with
  | applyPending phase => trivial
  | rollbackOne version phase =>
      have turn := rollbackAct_turn migrations version ledger phase action
      simp only [processAct]
      generalize rollbackAct migrations version ledger phase action = acted at turn
      cases acted with
      | mk after later =>
          cases turn with
          | keeps => exact armed
          | returns => trivial
          | fails => trivial
          | opens found => exact found
          | ensures => exact armed
          | reads recorded => exact ⟨armed, recorded⟩
          | commits ends =>
              rcases ends with rfl | rfl
              · trivial
              · trivial

/-- A turn of one process leaves another one armed, unless both roll back one version. -/
theorem Armed.other {process other : Process} (armed : Armed migrations ledger other)
    (turn : LedgerTurn ledger process next) (mine : Armed migrations ledger process)
    (apart : ∀ version target, Targets migrations version target → process.rollsBack version →
      ¬ other.rollsBack version) : Armed migrations next other := by
  have keeps : ∀ version, other.rollsBack version → version ∈ ledger.database.versions →
      version ∈ next.database.versions := by
    intro version owned recorded
    cases turn with
    | keeps => exact recorded
    | up effect => exact apply_grows effect version recorded
    | @down gone target =>
        have differ : version ≠ target.version := by
          intro same
          have named := mine.1.mem_version.2
          exact apart gone target mine.1 rfl (by rw [← named, ← same]; exact owned)
        obtain ⟨row, member, rfl⟩ := List.mem_map.mp recorded
        exact List.mem_map_of_mem (List.mem_filter.mpr ⟨member, bne_iff_ne.mpr differ⟩)
  match other, armed with
  | .applyPending _, _ => trivial
  | .rollbackOne _ .idle, _ => trivial
  | .rollbackOne _ (.connected _), armed => exact armed
  | .rollbackOne _ (.ensured _), armed => exact armed
  | .rollbackOne version (.rollingBack _), armed => exact ⟨armed.1, keeps version rfl armed.2⟩
  | .rollbackOne _ .returned, _ => trivial
  | .rollbackOne _ .failed, _ => trivial

/-- With the version recorded, the down script comes after an up script. -/
theorem LedgerTurn.alternates {process : Process} (turn : LedgerTurn ledger process next)
    (recorded : Recorded ledger) (armed : Armed migrations ledger process)
    (alternates : ∀ version, Alternates (scriptsOf version ledger.scripts)) (version : String) :
    Alternates (scriptsOf version next.scripts) := by
  cases turn with
  | keeps => exact alternates version
  | @up phase migration database effect =>
      rw [scriptsOf_append]
      by_cases same : migration.version = version
      · rw [if_pos (by exact same)]
        refine (alternates version).append ?_ (fun _ => rfl)
        intro last isLast
        cases last with
        | down target => exact Bool.false_ne_true
        | up earlier =>
            have free := (apply_eq_some effect).1
            exact absurd (recorded.mem_versions.mpr ⟨earlier, isLast⟩) (same ▸ free)
      · rw [if_neg (by exact same), List.append_nil]
        exact alternates version
  | @down own target =>
      rw [Ledger.rollBack, scriptsOf_append]
      by_cases same : target.version = version
      · obtain ⟨migration, isLast⟩ := recorded.mem_versions.mp armed.2
        rw [← armed.1.mem_version.2, same] at isLast
        rw [if_pos (by exact same)]
        refine (alternates version).append ?_ ?_
        · intro last equal
          rw [isLast] at equal
          cases equal
          exact Bool.false_ne_true.symm
        · intro empty
          rw [empty] at isLast
          cases isLast
      · rw [if_neg (by exact same), List.append_nil]
        exact alternates version

/-- No two processes roll back one version that has a down file. -/
def OneRollback (migrations : List Migration) (jobs : Fin n → Job) : Prop :=
  ∀ i j version target, Targets migrations version target → jobs i = .rollbackOne version →
    jobs j = .rollbackOne version → i = j

/-- What such processes keep. -/
structure Alternating (migrations : List Migration) (jobs : Fin n → Job)
    (system : Processes.System Ledger Process n) : Prop where
  recorded : Recorded system.store
  armed : ∀ i, Armed migrations system.store (system.process i)
  jobs : ∀ i version, (system.process i).rollsBack version ↔ jobs i = .rollbackOne version
  alternates : ∀ version, Alternates (scriptsOf version system.store.scripts)

theorem jobsStart_alternating (migrations : List Migration) (jobs : Fin n → Job) :
    Alternating migrations jobs (jobsStart jobs) where
  recorded := jobsStart_recorded jobs
  armed i := by
    simp only [jobsStart]
    cases jobs i <;> trivial
  jobs i version := by
    simp only [jobsStart]
    cases jobs i with
    | applyPending => simp [Job.start, Process.rollsBack]
    | rollbackOne other => simp [Job.start, Process.rollsBack]
  alternates version := by
    refine ⟨?_, List.isChain_nil⟩
    intro first isFirst
    cases isFirst

theorem step_alternating {jobs : Fin n → Job} (one : OneRollback migrations jobs)
    (system : Processes.System Ledger Process n) (turn : Fin n × Action)
    (alternating : Alternating migrations jobs system) :
    Alternating migrations jobs (Processes.step (processAct migrations) system turn).1 := by
  have acted := processAct_turn migrations system.store (system.process turn.1) turn.2
  have mine := alternating.armed turn.1
  constructor
  case recorded => exact acted.recorded alternating.recorded
  case alternates => exact acted.alternates alternating.recorded mine alternating.alternates
  case armed =>
    intro i
    by_cases own : i = turn.1
    · rw [own]
      simp only [Processes.step, Function.update_self]
      exact processAct_armed mine turn.2
    · simp only [Processes.step, Function.update_of_ne own]
      refine (alternating.armed i).other acted mine ?_
      intro version target found first second
      exact own (one i turn.1 version target found ((alternating.jobs i version).mp second)
        ((alternating.jobs turn.1 version).mp first))
  case jobs =>
    intro i version
    by_cases own : i = turn.1
    · rw [own]
      simp only [Processes.step, Function.update_self]
      rw [processAct_rollsBack]
      exact alternating.jobs turn.1 version
    · simp only [Processes.step, Function.update_of_ne own]
      exact alternating.jobs i version

theorem jobsAfter_alternating {jobs : Fin n → Job} (one : OneRollback migrations jobs)
    (turns : List (Fin n × Action)) :
    Alternating migrations jobs (jobsAfter migrations jobs turns) :=
  Runs.final_invariant _ (Alternating migrations jobs) (fun _ => True)
    (fun system turn _ alternating => step_alternating one system turn alternating) turns
    (jobsStart jobs) (jobsStart_alternating migrations jobs) (fun _ _ => trivial)

end Alternation

section Twice

variable {migrations : List Migration} {n : Nat}

/-- While only process `k` takes turns, it does what it does alone. -/
theorem applyPending_alone (migrations : List Migration) (k : Fin n) (actions : List Action)
    (alone : Processes.System Database Phase 1) (system : Processes.System Ledger Process n)
    (same : system.store.database = alone.store)
    (phase : system.process k = .applyPending (alone.process 0)) :
    let after := Runs.final (Processes.step (act migrations)) alone
      (actions.map fun action => (0, action))
    let final := Runs.final (Processes.step (processAct migrations)) system
      (actions.map fun action => (k, action))
    final.store.database = after.store ∧ final.process k = .applyPending (after.process 0) ∧
      ∀ i, i ≠ k → final.process i = system.process i := by
  induction actions generalizing alone system with
  | nil => exact ⟨same, phase, fun i _ => rfl⟩
  | cons action rest ih =>
      have onward := ih (Processes.step (act migrations) alone (0, action)).1
        (Processes.step (processAct migrations) system (k, action)).1
        (by simp only [Processes.step, phase, processAct, same])
        (by simp only [Processes.step, phase, processAct, same, Function.update_self])
      refine ⟨onward.1, onward.2.1, ?_⟩
      intro i other
      rw [List.map_cons, Runs.final_cons, onward.2.2 i other]
      simp only [Processes.step, Function.update_of_ne other]

/-- An `apply_pending` process that nobody disturbs records every version. -/
theorem exists_all_recorded (migrations : List Migration) (jobs : Fin n → Job) {k : Fin n}
    (applies : jobs k = .applyPending) :
    ∃ turns, (∀ migration ∈ migrations,
        migration.version ∈ (jobsAfter migrations jobs turns).store.database.versions) ∧
      ∀ i, i ≠ k → (jobsAfter migrations jobs turns).process i = (jobs i).start := by
  obtain ⟨turns, returned⟩ := exists_returned migrations (0 : Fin 1)
  have mine : (turns.map Prod.snd).map (fun action => ((0 : Fin 1), action)) = turns := by
    have same : ∀ turn ∈ turns, ((0 : Fin 1), turn.2) = id turn := by
      intro turn _
      exact Prod.ext (Subsingleton.elim _ _) rfl
    rw [List.map_map]
    exact (List.map_congr_left same).trans (List.map_id turns)
  have alone := applyPending_alone migrations k (turns.map Prod.snd) (fresh 1)
    (jobsStart jobs) rfl (by simp only [jobsStart, applies]; rfl)
  rw [mine] at alone
  refine ⟨(turns.map Prod.snd).map fun action => (k, action), ?_, alone.2.2⟩
  intro migration listed
  have follows := (after_sound migrations turns).follows 0
  rw [returned] at follows
  have recorded := follows migration listed
  rw [jobsAfter, Database.versions, alone.1]
  exact recorded

variable {version : String} {target : Migration} {i : Fin n}

/-- A rollback of a recorded version comes as far as its transaction. -/
theorem rollback_opens (system : Processes.System Ledger Process n)
    (idle : system.process i = .rollbackOne version .idle)
    (found : Targets migrations version target)
    (recorded : version ∈ system.store.database.versions) :
    Runs.final (Processes.step (processAct migrations)) system
        [(i, .connect), (i, .ensureMigrationsTable), (i, .appliedVersions)] =
      ⟨system.store, Function.update system.process i
        (.rollbackOne version (.rollingBack target))⟩ := by
  simp only [Runs.final_cons, Runs.final_nil, Processes.step, idle, processAct, rollbackAct,
    found.1, found.2, if_true, recorded, Function.update_self, Function.update_idem]

theorem rollback_commits (system : Processes.System Ledger Process n)
    (ready : system.process i = .rollbackOne version (.rollingBack target)) :
    Runs.final (Processes.step (processAct migrations)) system [(i, .advance)] =
      ⟨system.store.rollBack target,
        Function.update system.process i (.rollbackOne version .returned)⟩ := by
  simp only [Runs.final_cons, Runs.final_nil, Processes.step, ready, processAct, rollbackAct]

/-- Two rollbacks of one version that both read the table before either commits run its down
script twice. -/
theorem rollback_twice (system : Processes.System Ledger Process n) {j : Fin n} (apart : i ≠ j)
    (first : system.process i = .rollbackOne version .idle)
    (second : system.process j = .rollbackOne version .idle)
    (found : Targets migrations version target)
    (recorded : version ∈ system.store.database.versions) :
    ∃ turns, (Runs.final (Processes.step (processAct migrations)) system turns).store =
      (system.store.rollBack target).rollBack target := by
  refine ⟨[(i, .connect), (i, .ensureMigrationsTable), (i, .appliedVersions)] ++
    ([(j, .connect), (j, .ensureMigrationsTable), (j, .appliedVersions)] ++
      ([(i, .advance)] ++ [(j, .advance)])), ?_⟩
  -- both have read the table, and each still has its transaction before it
  let ready := Function.update system.process i (.rollbackOne version (.rollingBack target))
  let both := Function.update ready j (.rollbackOne version (.rollingBack target))
  have waiting : ready j = .rollbackOne version .idle := by
    simp only [ready, Function.update_of_ne apart.symm, second]
  have readyFirst : both i = .rollbackOne version (.rollingBack target) := by
    simp only [both, ready, Function.update_of_ne apart, Function.update_self]
  have readySecond : Function.update both i (.rollbackOne version .returned) j =
      .rollbackOne version (.rollingBack target) := by
    simp only [both, Function.update_of_ne apart.symm, Function.update_self]
  rw [Runs.final_append, rollback_opens system first found recorded, Runs.final_append,
    rollback_opens ⟨system.store, ready⟩ waiting found recorded, Runs.final_append,
    rollback_commits ⟨system.store, both⟩ readyFirst,
    rollback_commits ⟨system.store.rollBack target, _⟩ readySecond]

/-- Next to a process that applies migrations, the scripts of every version alternate in every run
exactly when no two processes roll back one version that has a down file. -/
theorem rollbacks_alternate_iff (digit : Char → Bool) (directory : List String) (n : Nat)
    (jobs : Fin n → Job) (applies : ∃ k, jobs k = .applyPending) :
    (∀ turns version, Alternates (scriptsOf version
        (jobsAfter (discoverMigrations digit directory) jobs turns).store.scripts)) ↔
      OneRollback (discoverMigrations digit directory) jobs := by
  constructor
  · intro alternate i j version target found first second
    by_contra apart
    obtain ⟨k, applies⟩ := applies
    obtain ⟨turns, recorded, others⟩ :=
      exists_all_recorded (discoverMigrations digit directory) jobs applies
    have idle : ∀ other, jobs other = .rollbackOne version →
        (jobsAfter (discoverMigrations digit directory) jobs turns).process other =
          .rollbackOne version .idle := by
      intro other job
      rw [others other (by rintro rfl; rw [applies] at job; cases job), job]
      rfl
    obtain ⟨listed, named⟩ := found.mem_version
    obtain ⟨more, twice⟩ := rollback_twice _ apart (idle i first) (idle j second) found
      (named ▸ recorded target listed)
    apply not_alternates_twice (scriptsOf version
      (jobsAfter (discoverMigrations digit directory) jobs turns).store.scripts) (.down target)
    have run := alternate (turns ++ more) version
    rw [jobsAfter, Runs.final_append, ← jobsAfter, twice, Ledger.rollBack, Ledger.rollBack,
      scriptsOf_append, scriptsOf_append, if_pos (by exact named)] at run
    exact run
  · intro one turns
    exact (jobsAfter_alternating one turns).alternates

end Twice

/-- One process to apply a migration and one to roll it back. -/
def applyAndRollback : Fin 2 → Job
  | 0 => .applyPending
  | 1 => .rollbackOne "020"

theorem rollbacks_alternate_one :
    OneRollback (discoverMigrations Char.isDigit ["020_a.up.sql", "020_a.down.sql"])
        applyAndRollback ∧
      ∀ turns version, Alternates (scriptsOf version
        (jobsAfter (discoverMigrations Char.isDigit ["020_a.up.sql", "020_a.down.sql"])
          applyAndRollback turns).store.scripts) := by
  have one : OneRollback (discoverMigrations Char.isDigit ["020_a.up.sql", "020_a.down.sql"])
      applyAndRollback := by
    intro i j version target _ first second
    match i, j, first, second with
    | 0, _, first, _ => cases first
    | 1, 0, _, second => cases second
    | 1, 1, _, _ => rfl
  exact ⟨one, (rollbacks_alternate_iff Char.isDigit ["020_a.up.sql", "020_a.down.sql"] 2
    applyAndRollback ⟨0, rfl⟩).mpr one⟩

end CollectMind.Registry.Migrations
