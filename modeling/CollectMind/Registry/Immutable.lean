import CollectMind.Registry.Isolation

set_option autoImplicit false

/- Immutability of `collection_policies` and `audit_events`: what the trigger
`reject_mutation_unless_erasure` makes of the session's history of the setting
`collectmind.erasure`. -/
namespace CollectMind.Registry

open Sql RowSecurity Session

variable {ρ : Type}

/-- The tables that carry the trigger. -/
def TableName.guarded : TableName → Bool
  | .collectionPolicies | .auditEvents => true
  | _ => false

/-- An `UPDATE` or `DELETE` of a row that exists in one of the two tables. -/
def Reaches (columns : Columns ρ) (access : Access Settings) (db : Db ρ) : Statement ρ → Prop
  | .update name reads clause _ => name.guarded = true ∧ ∃ row ∈ db name,
    targeted (table columns name) access .update reads (clause (view columns access db)) row = true
  | .delete name reads clause => name.guarded = true ∧ ∃ row ∈ db name,
    targeted (table columns name) access .delete reads (clause (view columns access db)) row = true
  | _ => False

/-- Every mutation of an existing row fails and leaves the database alone. -/
def Immutable (roles : Roles) (columns : Columns ρ) (engine : Engine ρ) (session : State)
    (db : Db ρ) : Prop :=
  ∀ statement, Reaches columns (accessOf roles session) db statement →
    ∃ fault, issue roles columns engine session db statement = (db, .error fault)

/-- Only transactions of their own ever set `collectmind.erasure`. -/
def setsErasureLocally : Op → Bool
  | .setConfig name _ isLocal => isLocal || name != "collectmind.erasure"
  | _ => true

/-- Goes on in the open transaction and does not switch erasure on. -/
def leavesErasureOff : Op → Bool
  | .commit | .rollback => false
  | .setConfig name value _ => !(name == "collectmind.erasure" && value == "on")
  | _ => true

/-- A transaction in course on a pooled connection. -/
def inTransaction (roles : Roles) (loginRole : String) (uses : List Use) (during : List Op) : State :=
  run (pooled roles loginRole uses) (.begin :: during)

def ErasureOff (values : Values) : Prop := values.settings "collectmind.erasure" ≠ some "on"

theorem erasureOff_reverts : Reverts ErasureOff := by
  intro values target off
  unfold ErasureOff
  cases found : target.settings "collectmind.erasure" with
  | some value =>
      rw [values.revertTo_some found, ← found]
      exact off
  | none =>
      rw [values.revertTo_none found]
      cases values.settings "collectmind.erasure" <;> simp

theorem erasureOff_resetAll (values : Values) : ErasureOff values.resetAll := by
  unfold ErasureOff Values.resetAll
  cases values.settings "collectmind.erasure" <;> simp

theorem erasureOff_setConfig {name value : String}
    (off : ¬ (name = "collectmind.erasure" ∧ value = "on")) (values : Values)
    (start : ErasureOff values) : ErasureOff (values.setConfig name value) := by
  unfold ErasureOff
  by_cases same : "collectmind.erasure" = name
  · subst same
    rw [Values.setConfig_same]
    intro on
    exact off ⟨rfl, Option.some.inj on⟩
  · rw [values.setConfig_other value same]
    exact start

theorem preservesKept_of_locally {op : Op} (locally : setsErasureLocally op = true) :
    op.PreservesKept ErasureOff := by
  cases op with
  | setRole role isLocal =>
      cases isLocal with
      | true => trivial
      | false => exact fun _ start => start
  | setConfig name value isLocal =>
      cases isLocal with
      | true => trivial
      | false =>
          apply erasureOff_setConfig
          rintro ⟨rfl, _⟩
          cases locally
  | resetAll => exact fun values _ => erasureOff_resetAll values
  | _ => trivial

theorem preserves_of_leavesErasureOff {op : Op} (off : leavesErasureOff op = true) :
    op.ends = false ∧ op.Preserves ErasureOff := by
  cases op with
  | setRole role isLocal => exact ⟨rfl, fun _ start => start⟩
  | setConfig name value isLocal =>
      refine ⟨rfl, erasureOff_setConfig ?_⟩
      rintro ⟨rfl, rfl⟩
      cases off
  | resetAll => exact ⟨rfl, fun values _ => erasureOff_resetAll values⟩
  | commit => cases off
  | rollback => cases off
  | _ => exact ⟨rfl, trivial⟩

theorem pooled_kept {roles : Roles} (loginRole : String) {uses : List Use}
    (locally : ∀ use ∈ uses, ∀ op ∈ use.ops roles, setsErasureLocally op = true) :
    Kept ErasureOff (pooled roles loginRole uses) := by
  unfold pooled
  have start : Kept ErasureOff (fresh loginRole) := by
    simp [Kept, fresh, ErasureOff]
  generalize fresh loginRole = session at start ⊢
  induction uses generalizing session with
  | nil => exact start
  | cons first rest ih =>
      apply ih (fun next member => locally next (by simp [member]))
      apply run_kept erasureOff_reverts _ _ _ start
      intro op member
      apply preservesKept_of_locally
      rcases List.mem_append.mp member with own | released
      · exact locally first (by simp) op own
      · simp only [release, List.mem_cons, List.not_mem_nil, or_false] at released
        rcases released with rfl | rfl <;> rfl

/-- A transaction that has not switched erasure on does not find it on. -/
theorem inTransaction_erasureOff {roles : Roles} (loginRole : String) {uses : List Use}
    {during : List Op}
    (locally : ∀ use ∈ uses, ∀ op ∈ use.ops roles, setsErasureLocally op = true)
    (off : ∀ op ∈ during, leavesErasureOff op = true) :
    ErasureOff (inTransaction roles loginRole uses during).values := by
  obtain ⟨values, idle⟩ := pooled_idle roles loginRole uses
  have kept := pooled_kept loginRole locally
  rw [idle] at kept
  rw [inTransaction, idle]
  apply InForce.values
  apply run_inForce erasureOff_reverts during
  · intro op member
    exact preserves_of_leavesErasureOff (off op member)
  · exact ⟨kept, by simp⟩

section Trigger

variable {columns : Columns ρ} {engine : Engine ρ} {roles : Roles} {session : State} {db : Db ρ}

theorem rejectMutation_raises {settings : Settings} {value : String}
    (present : settings "collectmind.erasure" = some value) (off : value ≠ "on") (new : Option ρ) :
    rejectMutationUnlessErasure settings new =
      .raise "collection_policies are immutable; mutation rejected" := by
  apply if_pos
  rw [holds_iff, ne_eq_true]
  exact ⟨value, "on", present, rfl, off⟩

/-- `NULL <> 'on'` is NULL, so the guard lets the mutation through. -/
theorem rejectMutation_passes {settings : Settings} (unset : settings "collectmind.erasure" = none)
    (new : Option ρ) :
    rejectMutationUnlessErasure settings new = new.elim .skip .keep := by
  unfold rejectMutationUnlessErasure
  rw [unset]
  cases new <;> rfl

theorem guarded_beforeUpdate {name : TableName} (guard : name.guarded = true) (settings : Settings)
    (row new : ρ) :
    (table columns name).beforeUpdate settings row new =
      rejectMutationUnlessErasure settings (some new) := by
  cases name <;> first | rfl | cases guard

theorem guarded_beforeDelete {name : TableName} (guard : name.guarded = true) (settings : Settings)
    (row : ρ) :
    (table columns name).beforeDelete settings row = rejectMutationUnlessErasure settings none := by
  cases name <;> first | rfl | cases guard

theorem issue_of_execute_error {statement : Statement ρ}
    (failed : ∃ fault,
      execute columns engine (accessOf roles session) db statement = .error fault) :
    ∃ fault, issue roles columns engine session db statement = (db, .error fault) := by
  obtain ⟨fault, failed⟩ := failed
  unfold issue
  split
  · exact ⟨_, rfl⟩
  · rw [failed]
    exact ⟨fault, rfl⟩

/-- Once the setting is no longer NULL the trigger raises on every row it meets. -/
theorem immutable_of_present {value : String}
    (present : session.values.settings "collectmind.erasure" = some value) (off : value ≠ "on") :
    Immutable roles columns engine session db := by
  intro statement reaches
  apply issue_of_execute_error
  cases statement with
  | select name clause => exact reaches.elim
  | insert name onConflict rows => exact reaches.elim
  | update name reads clause set =>
      obtain ⟨guard, hit⟩ := reaches
      obtain ⟨fault, raised⟩ := update_raises (set (view columns (accessOf roles session) db))
        (fun row new => (guarded_beforeUpdate guard _ row new).trans
          (rejectMutation_raises present off (some new))) hit
      simp only [execute, raised]
      exact ⟨fault, rfl⟩
  | delete name reads clause =>
      obtain ⟨guard, hit⟩ := reaches
      obtain ⟨fault, raised⟩ := delete_raises
        (fun row => (guarded_beforeDelete guard _ row).trans
          (rejectMutation_raises present off none)) hit
      simp only [execute, raised]
      exact ⟨fault, rfl⟩

/-- While it is NULL, a `DELETE` is answered without an error. -/
theorem delete_passes (unset : session.values.settings "collectmind.erasure" = none)
    (live : session.failed = false) (valid : engine.constraints db = true) {name : TableName}
    (guard : name.guarded = true) (reads : Bool) (clause : Db ρ → ρ → Truth) :
    issue roles columns engine session db (.delete name reads clause) = (db, .ok []) := by
  have skips : ∀ row, (table columns name).beforeDelete (accessOf roles session).context row = .skip :=
    fun row => (guarded_beforeDelete guard _ row).trans (rejectMutation_passes unset none)
  have kept := delete_skips skips reads (clause (view columns (accessOf roles session) db)) (db name)
  have quiet : name.serviceWritten = false := by
    cases name <;> first | rfl | cases guard
  simp [issue, live, execute, kept, settle, quiet, Db.set_unchanged, valid, bind, Except.bind]

theorem guarded_tenantScoped {name : TableName} (guard : name.guarded = true) :
    name.tenantScoped = true := by
  cases name <;> first | rfl | cases guard

/-- Their policies are `FOR ALL`: a row is seen if and only if it can be targeted. -/
theorem admitsUsing_command {name : TableName} (own : name.tenantScoped = true)
    (command other : Command) (settings : Settings) (row : ρ) :
    admitsUsing (table columns name).policies command settings row =
      admitsUsing (table columns name).policies other settings row := by
  rw [table, policies_tenantScoped own]
  rfl

theorem mem_view_of_targeted {access : Access Settings} {name : TableName}
    (own : name.tenantScoped = true) {command : Command} {reads : Bool} {clause : ρ → Truth}
    {row : ρ} (member : row ∈ db name)
    (hit : targeted (table columns name) access command reads clause row = true) :
    row ∈ view columns access db name := by
  rw [view, visible, List.mem_filter, admitsUsing_command own .select command]
  refine ⟨member, ?_⟩
  simp only [targeted, Bool.and_eq_true, Bool.or_eq_true] at hit ⊢
  exact hit.1.imp id And.left

theorem targeted_of_mem_view {access : Access Settings} {name : TableName}
    (own : name.tenantScoped = true) {row : ρ} (seen : row ∈ view columns access db name)
    (command : Command) :
    targeted (table columns name) access command false (fun _ => some true) row = true := by
  rw [view, visible, List.mem_filter, admitsUsing_command own .select command] at seen
  simpa [targeted] using seen.2

theorem immutable_of_unseen
    (unseen : ∀ name : TableName, name.guarded = true →
      view columns (accessOf roles session) db name = []) :
    Immutable roles columns engine session db := by
  intro statement reaches
  cases statement with
  | select name clause => exact reaches.elim
  | insert name onConflict rows => exact reaches.elim
  | update name reads clause set =>
      obtain ⟨guard, row, member, hit⟩ := reaches
      have seen := mem_view_of_targeted (guarded_tenantScoped guard) member hit
      rw [unseen name guard] at seen
      cases seen
  | delete name reads clause =>
      obtain ⟨guard, row, member, hit⟩ := reaches
      have seen := mem_view_of_targeted (guarded_tenantScoped guard) member hit
      rw [unseen name guard] at seen
      cases seen

theorem not_immutable (unset : session.values.settings "collectmind.erasure" = none)
    (live : session.failed = false) (valid : engine.constraints db = true) {name : TableName}
    (guard : name.guarded = true) {row : ρ}
    (seen : row ∈ view columns (accessOf roles session) db name) :
    ¬ Immutable roles columns engine session db := by
  intro immutable
  have reaches : Reaches columns (accessOf roles session) db
      (.delete name false fun _ _ => some true) :=
    ⟨guard, row, List.mem_of_mem_filter seen,
      targeted_of_mem_view (guarded_tenantScoped guard) seen .delete⟩
  obtain ⟨fault, failed⟩ := immutable _ reaches
  rw [delete_passes unset live valid guard] at failed
  cases failed

end Trigger

/-- The tables are immutable exactly in the sessions whose setting `collectmind.erasure`
is no longer NULL, apart from aborted transactions and callers that see no row at all. -/
theorem immutable_iff_erasure_known (roles : Roles) (loginRole : String) (columns : Columns ρ)
    (engine : Engine ρ) (uses : List Use) (during : List Op)
    (locally : ∀ use ∈ uses, ∀ op ∈ use.ops roles, setsErasureLocally op = true)
    (off : ∀ op ∈ during, leavesErasureOff op = true) (db : Db ρ)
    (valid : engine.constraints db = true) :
    Immutable roles columns engine (inTransaction roles loginRole uses during) db ↔
      (inTransaction roles loginRole uses during).values.settings "collectmind.erasure" ≠ none ∨
      (inTransaction roles loginRole uses during).failed = true ∨
      ∀ name : TableName, name.guarded = true →
        view columns (accessOf roles (inTransaction roles loginRole uses during)) db name = [] := by
  have erasureOff := inTransaction_erasureOff loginRole locally off
  generalize inTransaction roles loginRole uses during = session at erasureOff ⊢
  constructor
  · intro immutable
    by_contra vulnerable
    simp only [not_or, not_not, Bool.not_eq_true, not_forall] at vulnerable
    obtain ⟨unset, live, name, guard, seen⟩ := vulnerable
    obtain ⟨row, member⟩ := List.exists_mem_of_ne_nil _ seen
    exact not_immutable unset live valid guard member immutable
  · rintro (present | failed | unseen)
    · obtain ⟨value, found⟩ := Option.ne_none_iff_exists'.mp present
      exact immutable_of_present found fun on => erasureOff (found.trans (congrArg some on))
    · intro statement _
      exact ⟨.aborted, by rw [issue, if_pos failed]⟩
    · exact immutable_of_unseen unseen

/-- On a connection that has already served an erasure, tenant-a's policies are safe. -/
theorem immutable_after_erasure :
    let columns : Columns String := ⟨some, fun _ => none, fun _ => none⟩
    let engine : Engine String := ⟨fun _ => true, fun _ _ next => .ok next⟩
    let db : Db String := fun _ => ["tenant-a", "tenant-b"]
    let session := inTransaction defaultRoles "collectmind"
      [.acquire "tenant-a" 3 [.setConfig "collectmind.erasure" "on" true, .statement false] true]
      [.setRole "collectmind_tenant" true, .setConfig "app.tenant_id" "tenant-a" true]
    view columns (accessOf defaultRoles session) db .collectionPolicies = ["tenant-a"] ∧
    Immutable defaultRoles columns engine session db :=
  ⟨rfl, (immutable_iff_erasure_known defaultRoles "collectmind" _ _ _ _ (by decide) (by decide) _
    rfl).mpr (Or.inl (by decide))⟩

/-- On a fresh connection the first caller of `acquire("tenant-a")` rewrites a policy row,
and is told that deleting it succeeded. -/
theorem immutable_fails_on_fresh_connection :
    let columns : Columns (String × Nat) := ⟨fun row => some row.1, fun _ => none, fun _ => none⟩
    let engine : Engine (String × Nat) := ⟨fun _ => true, fun _ _ next => .ok next⟩
    let db : Db (String × Nat) := fun _ => [("tenant-a", 1)]
    let session := inTransaction defaultRoles "collectmind" []
      [.setRole "collectmind_tenant" true, .setConfig "app.tenant_id" "tenant-a" true]
    let rewrite : Statement (String × Nat) :=
      .update .collectionPolicies true (fun _ _ => some true) (fun _ row => (row.1, 2))
    ¬ Immutable defaultRoles columns engine session db ∧
    (issue defaultRoles columns engine session db rewrite).2 = .ok [] ∧
    (issue defaultRoles columns engine session db rewrite).1 .collectionPolicies = [("tenant-a", 2)] ∧
    (issue defaultRoles columns engine session db
      (.delete .collectionPolicies true fun _ _ => some true)).2 = .ok [] := by
  refine ⟨?_, rfl, rfl, rfl⟩
  exact not_immutable rfl rfl rfl (show TableName.collectionPolicies.guarded = true from rfl)
    (show ("tenant-a", 1) ∈ [("tenant-a", 1)] by simp)

end CollectMind.Registry
