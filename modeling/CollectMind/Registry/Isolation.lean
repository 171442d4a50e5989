import CollectMind.Registry.Pool

set_option autoImplicit false

/- Tenant isolation at the database boundary: what the policies of the schema let a
caller of `acquire` see and change. -/
namespace CollectMind.Registry

open Sql RowSecurity Session

variable {ρ : Type}

section Policies

variable {columns : Columns ρ} {settings : Settings} {tenantId : String}

theorem tenantMatches_holds {column : ρ → Option String} {row : ρ}
    (present : settings "app.tenant_id" = some tenantId)
    (matched : tenantMatches column settings row = some true) : column row = some tenantId := by
  rw [tenantMatches, and_eq_true, eq_eq_true] at matched
  obtain ⟨_, value, owner, current⟩ := matched
  rw [owner, ← current, present]

theorem policies_tenantScoped {name : TableName} (own : name.tenantScoped = true) :
    policies columns name = [permissiveBaseline none, restrictiveAll columns.tenantId] := by
  cases name <;> first | rfl | cases own

theorem policies_serviceWritten {name : TableName} (service : name.serviceWritten = true) :
    policies columns name =
      [permissiveBaseline (some .select), restrictiveSelect (tenantMatches columns.tenantId)] := by
  cases name <;> first | rfl | cases service

theorem confines (columns : Columns ρ) (name : TableName) (own : name.tenantScoped = true) {access : Access Settings}
    (enforced : access.enforced = true)
    (present : access.context "app.tenant_id" = some tenantId) :
    Confines (table columns name) access (fun row => columns.tenantId row == some tenantId) := by
  have restricted : restrictiveAll columns.tenantId ∈ (table columns name).policies := by
    simp [table, policies_tenantScoped own]
  constructor
  · exact enforced
  · intro command row admitted
    rw [beq_iff_eq]
    exact tenantMatches_holds present (admits_restrictive admitted restricted rfl rfl)
  · intro command row admitted
    rw [beq_iff_eq]
    exact tenantMatches_holds present (admits_restrictive admitted restricted rfl rfl)

theorem denies (columns : Columns ρ) (name : TableName) (service : name.serviceWritten = true) (command : Command)
    (writes : command ≠ .select) : Denies (table columns name) command := by
  intro policy member permissive
  rw [table, policies_serviceWritten service] at member
  simp only [List.mem_cons, List.not_mem_nil, or_false] at member
  rcases member with rfl | rfl
  · simpa [Policy.applies, permissiveBaseline] using fun same => writes same.symm
  · cases permissive

/-- What a session sees of a tenant's tables is that tenant's. -/
theorem visible_own (name : TableName)
    (filtered : (name.tenantScoped || name.serviceWritten) = true) {access : Access Settings}
    (enforced : access.enforced = true)
    (present : access.context "app.tenant_id" = some tenantId) (rows : List ρ) :
    ∀ row ∈ visible (table columns name) access rows, columns.tenantId row = some tenantId := by
  intro row member
  cases own : name.tenantScoped with
  | true =>
      have mine := (confines columns name own enforced present).visible_mine rows row member
      exact beq_iff_eq.mp mine
  | false =>
      rw [visible, List.mem_filter, enforced, Bool.not_true, Bool.false_or] at member
      rw [own, Bool.false_or] at filtered
      have restricted : restrictiveSelect (tenantMatches columns.tenantId) ∈
          (table columns name).policies := by
        simp [table, policies_serviceWritten filtered]
      exact tenantMatches_holds present (admits_restrictive member.2 restricted rfl rfl)

end Policies

section Statements

variable {columns : Columns ρ} {engine : Engine ρ} {access : Access Settings} {db next : Db ρ}
  {name : TableName} {answer : List ρ}

theorem Db.set_other (rows : List ρ) {other : TableName} (apart : other ≠ name) :
    db.set name rows other = db other := if_neg apart

@[simp] theorem Db.set_same (rows : List ρ) : db.set name rows name = rows := if_pos rfl

theorem Db.set_unchanged : db.set name (db name) = db := by
  funext other
  by_cases same : other = name
  · rw [same, Db.set_same]
  · exact Db.set_other _ same

theorem settle_quiet {statement : Statement ρ} {touched : Bool} {rows : List ρ}
    (quiet : (name.serviceWritten && touched) = false)
    (success : settle engine db statement name touched rows = .ok next) :
    next = db.set name rows := by
  rw [settle, quiet] at success
  simp only [Bool.false_eq_true, ↓reduceIte, Checked.bind_ok_iff] at success
  obtain ⟨written, same, checked⟩ := success
  cases same
  split at checked
  · cases checked
    rfl
  · cases checked

theorem execute_update_ok {reads : Bool} {clause : Db ρ → ρ → Truth} {set : Db ρ → ρ → ρ}
    (success : execute columns engine access db (.update name reads clause set) =
      .ok (next, answer)) :
    ∃ rows touched statement,
      update (table columns name) access reads (clause (view columns access db))
        (set (view columns access db)) (db name) = .ok rows ∧
      touched = (db name).any
        (targeted (table columns name) access .update reads (clause (view columns access db))) ∧
      settle engine db statement name touched rows = .ok next := by
  simp only [execute, Checked.bind_ok_iff] at success
  obtain ⟨rows, updated, written, settled, same⟩ := success
  cases same
  exact ⟨rows, _, _, updated, rfl, settled⟩

theorem execute_delete_ok {reads : Bool} {clause : Db ρ → ρ → Truth}
    (success : execute columns engine access db (.delete name reads clause) = .ok (next, answer)) :
    ∃ rows touched statement,
      delete (table columns name) access reads (clause (view columns access db)) (db name) =
        .ok rows ∧
      touched = (db name).any
        (targeted (table columns name) access .delete reads (clause (view columns access db))) ∧
      settle engine db statement name touched rows = .ok next := by
  simp only [execute, Checked.bind_ok_iff] at success
  obtain ⟨rows, deleted, written, settled, same⟩ := success
  cases same
  exact ⟨rows, _, _, deleted, rfl, settled⟩

theorem execute_insert_ok {onConflict : OnConflict ρ} {news : Db ρ → List ρ}
    (success : execute columns engine access db (.insert name onConflict news) =
      .ok (next, answer)) :
    ∃ rows statement,
      insert (table columns name) access onConflict (db name) (news (view columns access db)) =
        .ok rows ∧
      settle engine db statement name (!(news (view columns access db)).isEmpty) rows = .ok next := by
  simp only [execute, Checked.bind_ok_iff] at success
  obtain ⟨rows, inserted, written, settled, same⟩ := success
  cases same
  exact ⟨rows, _, inserted, settled⟩

/-- What a statement can do to the database: nothing, or what its execution did. -/
theorem issue_cases (roles : Roles) (columns : Columns ρ) (engine : Engine ρ)
    (session : Session.State) (db : Db ρ) (statement : Statement ρ) :
    (∃ fault, issue roles columns engine session db statement = (db, .error fault)) ∨
    ∃ next answer, issue roles columns engine session db statement = (next, .ok answer) ∧
      execute columns engine (accessOf roles session) db statement = .ok (next, answer) := by
  unfold issue
  split
  · exact Or.inl ⟨_, rfl⟩
  · split
    · rename_i next answer executed
      exact Or.inr ⟨next, answer, rfl, executed⟩
    · exact Or.inl ⟨_, rfl⟩

/-- Whatever holds of the database before a statement and after its execution holds after
it is issued, failed or not. -/
theorem issue_keeps {roles : Roles} {session : Session.State} {statement : Statement ρ}
    (property : Db ρ → Prop) (before : property db)
    (executes : ∀ next answer,
      execute columns engine (accessOf roles session) db statement = .ok (next, answer) →
        property next) :
    property (issue roles columns engine session db statement).1 := by
  rcases issue_cases roles columns engine session db statement with
    ⟨fault, issued⟩ | ⟨next, answer, issued, executed⟩
  · rw [issued]
    exact before
  · rw [issued]
    exact executes next answer executed

end Statements

/-- A caller confined to one tenant: `send` is what a statement does to `db`. -/
structure Isolates (columns : Columns ρ) (tenantId : String) (db : Db ρ)
    (send : Statement ρ → Db ρ × Except Fault (List ρ)) : Prop where
  selects : ∀ name clause rows, (name.tenantScoped || name.serviceWritten) = true →
    (send (.select name clause)).2 = .ok rows → ∀ row ∈ rows, columns.tenantId row = some tenantId
  updates : ∀ name reads clause set, name.tenantScoped = true →
    (∀ other ≠ name, (send (.update name reads clause set)).1 other = db other) ∧
    List.Forall₂ (fun row new => new = row ∨
        columns.tenantId row = some tenantId ∧ columns.tenantId new = some tenantId)
      (db name) ((send (.update name reads clause set)).1 name)
  deletes : ∀ name reads clause, name.tenantScoped = true →
    (∀ other ≠ name, (send (.delete name reads clause)).1 other = db other) ∧
    ((send (.delete name reads clause)).1 name).Sublist (db name) ∧
    ((send (.delete name reads clause)).1 name).filter (columns.tenantId · != some tenantId) =
      (db name).filter (columns.tenantId · != some tenantId)
  inserts : ∀ name onConflict news, name.tenantScoped = true →
    (∀ other ≠ name, (send (.insert name onConflict news)).1 other = db other) ∧
    ((send (.insert name onConflict news)).1 name).filter (columns.tenantId · != some tenantId) =
      (db name).filter (columns.tenantId · != some tenantId)
  rejects : ∀ name onConflict rows, (name.tenantScoped || name.serviceWritten) = true →
    (∃ row ∈ rows, columns.tenantId row ≠ some tenantId) →
    ∃ fault, send (.insert name onConflict fun _ => rows) = (db, .error fault)
  denies : ∀ name, name.serviceWritten = true →
    (∀ reads clause set, (send (.update name reads clause set)).1 = db) ∧
    (∀ reads clause, (send (.delete name reads clause)).1 = db) ∧
    ∀ onConflict news, (send (.insert name onConflict news)).1 = db

section Assembly

variable {columns : Columns ρ} {engine : Engine ρ} {access : Access Settings} {db next : Db ρ}
  {name : TableName} {answer : List ρ} {tenantId : String}

theorem tenantScoped_quiet (own : name.tenantScoped = true) (touched : Bool) :
    (name.serviceWritten && touched) = false := by
  cases name <;> first | rfl | cases own

theorem execute_update_frame {reads : Bool} {clause : Db ρ → ρ → Truth} {set : Db ρ → ρ → ρ}
    (own : name.tenantScoped = true) (enforced : access.enforced = true)
    (present : access.context "app.tenant_id" = some tenantId)
    (success : execute columns engine access db (.update name reads clause set) =
      .ok (next, answer)) :
    (∀ other ≠ name, next other = db other) ∧
    List.Forall₂ (fun row new => new = row ∨
        columns.tenantId row = some tenantId ∧ columns.tenantId new = some tenantId)
      (db name) (next name) := by
  obtain ⟨rows, touched, statement, updated, _, settled⟩ := execute_update_ok success
  rw [settle_quiet (tenantScoped_quiet own touched) settled]
  refine ⟨fun other apart => Db.set_other rows apart, ?_⟩
  have frame := (confines columns name own enforced present).update_frame updated
  simpa only [Db.set_same, beq_iff_eq] using frame

theorem execute_delete_frame {reads : Bool} {clause : Db ρ → ρ → Truth}
    (own : name.tenantScoped = true) (enforced : access.enforced = true)
    (present : access.context "app.tenant_id" = some tenantId)
    (success : execute columns engine access db (.delete name reads clause) = .ok (next, answer)) :
    (∀ other ≠ name, next other = db other) ∧ (next name).Sublist (db name) ∧
    (next name).filter (columns.tenantId · != some tenantId) =
      (db name).filter (columns.tenantId · != some tenantId) := by
  obtain ⟨rows, touched, statement, deleted, _, settled⟩ := execute_delete_ok success
  rw [settle_quiet (tenantScoped_quiet own touched) settled, Db.set_same]
  exact ⟨fun other apart => Db.set_other rows apart,
    (confines columns name own enforced present).delete_frame deleted⟩

theorem execute_insert_frame {onConflict : OnConflict ρ} {news : Db ρ → List ρ}
    (own : name.tenantScoped = true) (enforced : access.enforced = true)
    (present : access.context "app.tenant_id" = some tenantId)
    (success : execute columns engine access db (.insert name onConflict news) =
      .ok (next, answer)) :
    ((∀ other ≠ name, next other = db other) ∧
    (next name).filter (columns.tenantId · != some tenantId) =
      (db name).filter (columns.tenantId · != some tenantId)) ∧
    ∀ row ∈ news (view columns access db), columns.tenantId row = some tenantId := by
  obtain ⟨rows, statement, inserted, settled⟩ := execute_insert_ok success
  rw [settle_quiet (tenantScoped_quiet own _) settled, Db.set_same]
  have guarded := confines columns name own enforced present
  refine ⟨⟨fun other apart => Db.set_other rows apart, guarded.insert_foreign inserted⟩, ?_⟩
  intro row member
  exact beq_iff_eq.mp (guarded.insert_mine inserted row member)

theorem execute_update_denied {reads : Bool} {clause : Db ρ → ρ → Truth} {set : Db ρ → ρ → ρ}
    (service : name.serviceWritten = true) (enforced : access.enforced = true)
    (success : execute columns engine access db (.update name reads clause set) =
      .ok (next, answer)) : next = db := by
  obtain ⟨rows, touched, statement, updated, rfl, settled⟩ := execute_update_ok success
  have denied := denies columns name service .update (by decide)
  rw [update_of_denies enforced denied] at updated
  cases updated
  have untouched := targeted_false_of_denies enforced denied reads
    (clause (view columns access db))
  rw [settle_quiet (by simp [untouched]) settled, Db.set_unchanged]

theorem execute_delete_denied {reads : Bool} {clause : Db ρ → ρ → Truth}
    (service : name.serviceWritten = true) (enforced : access.enforced = true)
    (success : execute columns engine access db (.delete name reads clause) = .ok (next, answer)) :
    next = db := by
  obtain ⟨rows, touched, statement, deleted, rfl, settled⟩ := execute_delete_ok success
  have denied := denies columns name service .delete (by decide)
  rw [delete_of_denies enforced denied] at deleted
  cases deleted
  have untouched := targeted_false_of_denies enforced denied reads
    (clause (view columns access db))
  rw [settle_quiet (by simp [untouched]) settled, Db.set_unchanged]

theorem execute_insert_denied {onConflict : OnConflict ρ} {news : Db ρ → List ρ}
    (service : name.serviceWritten = true) (enforced : access.enforced = true)
    (success : execute columns engine access db (.insert name onConflict news) =
      .ok (next, answer)) : news (view columns access db) = [] ∧ next = db := by
  obtain ⟨rows, statement, inserted, settled⟩ := execute_insert_ok success
  have denied := denies columns name service .insert (by decide)
  obtain ⟨empty, rfl⟩ := insert_of_denies enforced denied inserted
  rw [settle_quiet (by simp [empty]) settled, Db.set_unchanged]
  exact ⟨empty, rfl⟩

end Assembly

section Issued

variable {roles : Roles} {columns : Columns ρ} {engine : Engine ρ} {session : Session.State}
  {db : Db ρ} {name : TableName} {tenantId : String}
  (enforced : (accessOf roles session).enforced = true)
  (present : (accessOf roles session).context "app.tenant_id" = some tenantId)
include enforced present

theorem issue_select_own (filtered : (name.tenantScoped || name.serviceWritten) = true)
    {clause : Db ρ → ρ → Truth} {rows : List ρ}
    (answered : (issue roles columns engine session db (.select name clause)).2 = .ok rows) :
    ∀ row ∈ rows, columns.tenantId row = some tenantId := by
  intro row member
  rcases issue_cases roles columns engine session db (.select name clause) with
    ⟨fault, issued⟩ | ⟨next, answer, issued, executed⟩
  · rw [issued] at answered
    cases answered
  · rw [issued] at answered
    cases answered
    cases executed
    exact visible_own name filtered enforced present _ row (List.mem_of_mem_filter member)

theorem issue_insert_rejects (filtered : (name.tenantScoped || name.serviceWritten) = true)
    (onConflict : OnConflict ρ) {rows : List ρ} {row : ρ} (member : row ∈ rows)
    (foreign : columns.tenantId row ≠ some tenantId) :
    ∃ fault, issue roles columns engine session db (.insert name onConflict fun _ => rows) =
      (db, .error fault) := by
  rcases issue_cases roles columns engine session db (.insert name onConflict fun _ => rows) with
    rejected | ⟨next, answer, issued, executed⟩
  · exact rejected
  · cases own : name.tenantScoped with
    | true =>
        have mine := (execute_insert_frame own enforced present executed).2 row member
        exact absurd mine foreign
    | false =>
        rw [own, Bool.false_or] at filtered
        have empty := (execute_insert_denied filtered enforced executed).1
        rw [empty] at member
        cases member

end Issued

/-- Whatever a pooled connection went through before, a caller of `acquire(tenantId)`
that leaves role and tenant alone sees and changes its tenant's rows only. -/
theorem acquire_isolates (roles : Roles) (loginRole : String) (columns : Columns ρ)
    (engine : Engine ρ) (uses : List Use) (tenantId : String) (body : List Op)
    (keeps : ∀ op ∈ body, keepsContext op = true) (db : Db ρ) :
    Isolates columns tenantId db
      (issue roles columns engine (insideAcquire roles loginRole uses tenantId body) db) := by
  have inForce := (insideAcquire_scoped roles loginRole uses tenantId body keeps).values
  generalize insideAcquire roles loginRole uses tenantId body = session at inForce ⊢
  have enforced : (accessOf roles session).enforced = true := by
    rw [accessOf, inForce.1, roles.tenantRole_subject, Bool.not_false]
  have present : (accessOf roles session).context "app.tenant_id" = some tenantId := inForce.2
  constructor
  case selects =>
    intro name clause rows filtered answered
    exact issue_select_own enforced present filtered answered
  case updates =>
    intro name reads clause set own
    apply issue_keeps (fun next => (∀ other ≠ name, next other = db other) ∧
      List.Forall₂ (fun row new => new = row ∨
        columns.tenantId row = some tenantId ∧ columns.tenantId new = some tenantId)
        (db name) (next name))
    · exact ⟨fun _ _ => rfl, List.forall₂_same.mpr fun _ _ => Or.inl rfl⟩
    · exact fun next answer executed => execute_update_frame own enforced present executed
  case deletes =>
    intro name reads clause own
    apply issue_keeps (fun next => (∀ other ≠ name, next other = db other) ∧
      (next name).Sublist (db name) ∧ (next name).filter (columns.tenantId · != some tenantId) =
        (db name).filter (columns.tenantId · != some tenantId))
    · exact ⟨fun _ _ => rfl, List.Sublist.refl _, rfl⟩
    · exact fun next answer executed => execute_delete_frame own enforced present executed
  case inserts =>
    intro name onConflict news own
    apply issue_keeps (fun next => (∀ other ≠ name, next other = db other) ∧
      (next name).filter (columns.tenantId · != some tenantId) =
        (db name).filter (columns.tenantId · != some tenantId))
    · exact ⟨fun _ _ => rfl, rfl⟩
    · exact fun next answer executed => (execute_insert_frame own enforced present executed).1
  case rejects =>
    rintro name onConflict rows filtered ⟨row, member, foreign⟩
    exact issue_insert_rejects enforced present filtered onConflict member foreign
  case denies =>
    intro name service
    refine ⟨?_, ?_, ?_⟩
    · intro reads clause set
      apply issue_keeps (· = db) rfl
      exact fun next answer executed => execute_update_denied service enforced executed
    · intro reads clause
      apply issue_keeps (· = db) rfl
      exact fun next answer executed => execute_delete_denied service enforced executed
    · intro onConflict news
      apply issue_keeps (· = db) rfl
      exact fun next answer executed => (execute_insert_denied service enforced executed).2

/-- A connection last used for tenant-b and by a service principal that left its own
setting behind still shows tenant-a nothing but its row, even after a failed statement. -/
theorem acquire_isolates_reused :
    let columns : Columns String := ⟨some, fun _ => none, fun _ => none⟩
    let engine : Engine String := ⟨fun _ => true, fun _ _ next => .ok next⟩
    let db : Db String := fun _ => ["tenant-a", "tenant-b"]
    let session := insideAcquire defaultRoles "collectmind"
      [.acquire "tenant-b" 3 [.statement true] true,
        .acquireServicePrincipal [.begin, .setConfig "app.tenant_id" "tenant-b" false, .commit]]
      "tenant-a" [.savepoint, .statement true, .rollbackTo 0]
    (issue defaultRoles columns engine session db
      (.select .auditEvents fun _ _ => some true)).2 = .ok ["tenant-a"] ∧
    Isolates columns "tenant-a" db (issue defaultRoles columns engine session db) :=
  ⟨rfl, acquire_isolates defaultRoles "collectmind" _ _ _ "tenant-a" _ (by decide) _⟩

section Exactness

/- Under `acquire` the policies of the tenant-scoped tables decide by the tenant alone. -/
variable {columns : Columns ρ} {name : TableName} {access : Access Settings} {tenantId : String}

theorem tenantMatches_iff {column : ρ → Option String} {settings : Settings} {row : ρ}
    (present : settings "app.tenant_id" = some tenantId) :
    tenantMatches column settings row = some true ↔ tenantId ≠ "" ∧ column row = some tenantId := by
  simp [tenantMatches, tenantPresent, present, and_comm]

theorem admitsUsing_iff (own : name.tenantScoped = true) {settings : Settings}
    (present : settings "app.tenant_id" = some tenantId) (command : Command) (row : ρ) :
    admitsUsing (table columns name).policies command settings row = true ↔
      tenantId ≠ "" ∧ columns.tenantId row = some tenantId := by
  rw [← tenantMatches_iff present, table, policies_tenantScoped own]
  simp [admitsUsing, admits, permissiveBaseline, restrictiveAll, Policy.applies]

theorem admitsCheck_iff (own : name.tenantScoped = true) {settings : Settings}
    (present : settings "app.tenant_id" = some tenantId) (command : Command) (row : ρ) :
    admitsCheck (table columns name).policies command settings row = true ↔
      tenantId ≠ "" ∧ columns.tenantId row = some tenantId := by
  rw [← tenantMatches_iff present, table, policies_tenantScoped own]
  simp [admitsCheck, admits, permissiveBaseline, restrictiveAll, Policy.applies,
    Policy.checkClause]

/-- Of a tenant's own rows, an `UPDATE` or `DELETE` acts on those that its clause accepts. -/
theorem targeted_iff (own : name.tenantScoped = true) (enforced : access.enforced = true)
    (present : access.context "app.tenant_id" = some tenantId)
    (command : Command) (reads : Bool) (clause : ρ → Truth) (row : ρ) :
    targeted (table columns name) access command reads clause row = true ↔
      (tenantId ≠ "" ∧ columns.tenantId row = some tenantId) ∧ clause row = some true := by
  rw [targeted, enforced, Bool.not_true, Bool.false_or, Bool.and_eq_true, Bool.and_eq_true,
    Bool.or_eq_true, holds_iff, admitsUsing_iff own present, admitsUsing_iff own present]
  constructor
  · intro hit
    exact ⟨hit.1.1, hit.2⟩
  · intro hit
    exact ⟨⟨hit.1, Or.inr hit.1⟩, hit.2⟩

theorem accepted_iff (own : name.tenantScoped = true) (enforced : access.enforced = true)
    (present : access.context "app.tenant_id" = some tenantId) (reads : Bool) (row : ρ) :
    accepted (table columns name) access reads row = true ↔
      tenantId ≠ "" ∧ columns.tenantId row = some tenantId := by
  rw [accepted, enforced, Bool.not_true, Bool.false_or, Bool.and_eq_true, Bool.or_eq_true,
    admitsUsing_iff own present, admitsCheck_iff own present]
  constructor
  · exact And.left
  · intro mine
    exact ⟨mine, Or.inr mine⟩

section Sweeps

variable {reads : Bool} {clause : ρ → Truth} {rows results : List ρ}

/-- The effect of an `UPDATE` inside `acquire` on each row: it sets the tenant's own rows that
its clause accepts, and moves none to another tenant. -/
structure Sweeps (columns : Columns ρ) (name : TableName) (access : Access Settings)
    (tenantId : String) (clause : ρ → Truth) (set sweep : ρ → ρ) : Prop where
  keeps : ∀ row, (table columns name).beforeUpdate access.context row (set row) = .keep (set row)
  stays : ∀ row, columns.tenantId (set row) = columns.tenantId row
  hits : ∀ row, columns.tenantId row = some tenantId ∧ clause row = some true → sweep row = set row
  misses : ∀ row, ¬ (columns.tenantId row = some tenantId ∧ clause row = some true) →
    sweep row = row

theorem updateRow_sweep (own : name.tenantScoped = true) (enforced : access.enforced = true)
    (present : access.context "app.tenant_id" = some tenantId) (named : tenantId ≠ "")
    {set sweep : ρ → ρ} (sweeps : Sweeps columns name access tenantId clause set sweep)
    (reads : Bool) (row : ρ) :
    updateRow (table columns name) access reads clause set row = .ok (sweep row) := by
  have target : targeted (table columns name) access .update reads clause row = true ↔ _ :=
    targeted_iff own enforced present .update reads clause row
  by_cases hit : columns.tenantId row = some tenantId ∧ clause row = some true
  · have kept : accepted (table columns name) access reads (set row) = true :=
      (accepted_iff own enforced present reads (set row)).mpr
        ⟨named, (sweeps.stays row).trans hit.1⟩
    rw [updateRow, if_pos (target.mpr ⟨⟨named, hit.1⟩, hit.2⟩), sweeps.keeps, sweeps.hits row hit]
    exact if_pos kept
  · rw [updateRow, if_neg fun reached => hit ⟨(target.mp reached).1.2, (target.mp reached).2⟩,
      sweeps.misses row hit]

theorem update_sweep (own : name.tenantScoped = true) (enforced : access.enforced = true)
    (present : access.context "app.tenant_id" = some tenantId) (named : tenantId ≠ "")
    {set sweep : ρ → ρ} (sweeps : Sweeps columns name access tenantId clause set sweep)
    (reads : Bool) (rows : List ρ) :
    update (table columns name) access reads clause set rows = .ok (rows.map sweep) := by
  rw [update, Checked.mapM_ok_iff, List.forall₂_map_right_iff, List.forall₂_same]
  exact fun row _ => updateRow_sweep own enforced present named sweeps reads row

/-- An `UPDATE` inside `acquire` succeeds exactly if every row that it stores meets the
constraints. -/
theorem updateChecked_sweep_iff (own : name.tenantScoped = true) (enforced : access.enforced = true)
    (present : access.context "app.tenant_id" = some tenantId) (named : tenantId ≠ "")
    {checked : ρ → Bool} {set sweep : ρ → ρ}
    (sweeps : Sweeps columns name access tenantId clause set sweep) :
    updateChecked (table columns name) access checked reads clause set rows = .ok results ↔
      results = rows.map sweep ∧ ∀ row ∈ rows,
        columns.tenantId row = some tenantId ∧ clause row = some true → checked (set row) = true := by
  have refused : (rows.any fun row => targeted (table columns name) access .update reads clause row &&
      !checked (set row)) = true ↔ ¬ ∀ row ∈ rows,
        columns.tenantId row = some tenantId ∧ clause row = some true → checked (set row) = true := by
    simp only [List.any_eq_true, Bool.and_eq_true, targeted_iff own enforced present,
      Bool.not_eq_true', not_forall, Bool.not_eq_true, ne_eq, named, not_false_eq_true, true_and,
      exists_prop]
  rw [updateChecked, update_sweep own enforced present named sweeps, Checked.bind_ok_iff]
  constructor
  · intro success
    obtain ⟨next, updated, settled⟩ := success
    cases updated
    split at settled
    · cases settled
    · rename_i met
      cases settled
      exact ⟨rfl, not_not.mp fun unmet => met (refused.mpr unmet)⟩
  · intro success
    refine ⟨rows.map sweep, rfl, ?_⟩
    rw [if_neg fun unmet => refused.mp unmet success.2, success.1]
    rfl

theorem updateChecked_sweep (own : name.tenantScoped = true) (enforced : access.enforced = true)
    (present : access.context "app.tenant_id" = some tenantId) (named : tenantId ≠ "")
    {checked : ρ → Bool} {set sweep : ρ → ρ}
    (sweeps : Sweeps columns name access tenantId clause set sweep)
    (success : updateChecked (table columns name) access checked reads clause set rows =
      .ok results) : results = rows.map sweep :=
  ((updateChecked_sweep_iff own enforced present named sweeps).mp success).1

/-- A `DELETE` inside `acquire` leaves the rows of others and those its clause does not accept. -/
theorem delete_sweep (own : name.tenantScoped = true) (enforced : access.enforced = true)
    (present : access.context "app.tenant_id" = some tenantId) (named : tenantId ≠ "")
    (keeps : ∀ row, (table columns name).beforeDelete access.context row = .keep row) :
    delete (table columns name) access reads clause rows = .ok (rows.filter fun row =>
      decide (¬ (columns.tenantId row = some tenantId ∧ clause row = some true))) := by
  rw [delete_eq_filter keeps]
  apply congrArg Except.ok
  apply List.filter_congr
  intro row _
  rw [Bool.eq_iff_iff, Bool.not_eq_true', ← Bool.not_eq_true, targeted_iff own enforced present,
    decide_eq_true_eq]
  simp [named]

end Sweeps

/-- The access of a caller of `acquire(tenantId)` on a fresh connection. -/
def tenantAccess (tenantId : String) : Access Settings :=
  accessOf defaultRoles (insideAcquire defaultRoles "collectmind" [] tenantId [])

@[simp] theorem tenantAccess_enforced (tenantId : String) :
    (tenantAccess tenantId).enforced = true := rfl

@[simp] theorem tenantAccess_tenant (tenantId : String) :
    (tenantAccess tenantId).context "app.tenant_id" = some tenantId :=
  (insideAcquire_scoped defaultRoles "collectmind" [] tenantId [] (by simp)).values.2

theorem mem_visible_tenantAccess (columns : Columns ρ) (own : name.tenantScoped = true) {rows : List ρ} {row : ρ} :
    row ∈ visible (table columns name) (tenantAccess tenantId) rows ↔
      row ∈ rows ∧ tenantId ≠ "" ∧ columns.tenantId row = some tenantId := by
  rw [visible, List.mem_filter, tenantAccess_enforced, Bool.not_true, Bool.false_or,
    admitsUsing_iff own (tenantAccess_tenant tenantId)]

end Exactness

end CollectMind.Registry
