import CollectMind.Library.RowSecurity
import CollectMind.Library.Session

set_option autoImplicit false

/- The tables of the registry as its migrations leave them: row-level security
policies (012, 014, 015), row triggers (005, 008, 015), and the statements a
connection issues against them. Rows are of any type with the columns that the
policies read. -/
namespace CollectMind.Registry

open Sql RowSecurity

variable {ρ : Type}

inductive TableName where
  | tenants
  | diagnosticFindings
  | vehicleGroups
  | collectionPolicies
  | deploymentTargets
  | policyOutcomes
  | auditEvents
  | telemetryObservations
  | erasureRequests
  | tenantConfig
  | tenantVehicles
  | tenantVehiclesHistory
  deriving DecidableEq, Repr

/-- The nine tables of migration 012. -/
def TableName.tenantScoped : TableName → Bool
  | .tenantConfig | .tenantVehicles | .tenantVehiclesHistory => false
  | _ => true

/-- The tables only the service principal writes. -/
def TableName.serviceWritten : TableName → Bool
  | .tenantConfig | .tenantVehicles => true
  | _ => false

/-- The text columns that policies compare; a column the table lacks reads NULL. -/
structure Columns (ρ : Type) where
  tenantId : ρ → Option String
  prevTenantId : ρ → Option String
  newTenantId : ρ → Option String

/-- Maps a name to `current_setting(name, true)`. -/
abbrev Settings := String → Option String

/-- `current_setting('app.tenant_id', true) IS NOT NULL AND ... <> ''`. -/
def tenantPresent (settings : Settings) : Truth :=
  (isNotNull (settings "app.tenant_id")).and (ne (settings "app.tenant_id") (some ""))

def tenantMatches (column : ρ → Option String) (settings : Settings) (row : ρ) : Truth :=
  (tenantPresent settings).and (eq (column row) (settings "app.tenant_id"))

def permissiveBaseline (command : Option Command) : Policy Settings ρ where
  permissive := true
  command := command
  usingClause _ _ := some true
  withCheck := command.elim (some fun _ _ => some true) fun _ => none

def restrictiveAll (column : ρ → Option String) : Policy Settings ρ where
  permissive := false
  command := none
  usingClause := tenantMatches column
  withCheck := some (tenantMatches column)

def restrictiveSelect (clause : Settings → ρ → Truth) : Policy Settings ρ where
  permissive := false
  command := some .select
  usingClause := clause
  withCheck := none

/-- Either owner of a transfer sees its history row. -/
def historyMatches (columns : Columns ρ) (settings : Settings) (row : ρ) : Truth :=
  (tenantPresent settings).and
    ((eq (columns.prevTenantId row) (settings "app.tenant_id")).or
      (eq (columns.newTenantId row) (settings "app.tenant_id")))

def policies (columns : Columns ρ) : TableName → List (Policy Settings ρ)
  | .tenantConfig | .tenantVehicles =>
    [permissiveBaseline (some .select), restrictiveSelect (tenantMatches columns.tenantId)]
  | .tenantVehiclesHistory =>
    [permissiveBaseline (some .select), restrictiveSelect (historyMatches columns)]
  | _ => [permissiveBaseline none, restrictiveAll columns.tenantId]

/-- `reject_mutation_unless_erasure()`. `IF` takes a NULL condition for false, and a
`DELETE` has no NEW row to return, so returning NEW skips the row. -/
def rejectMutationUnlessErasure (settings : Settings) (new : Option ρ) : Fired ρ :=
  if (ne (settings "collectmind.erasure") (some "on")).holds then
    .raise "collection_policies are immutable; mutation rejected"
  else
    match new with
    | some row => .keep row
    | none => .skip

/-- `tenant_vehicles_history_immutable_fn()`. -/
def tenantVehiclesHistoryImmutable : Fired ρ :=
  .raise "tenant_vehicles_history is append-only; UPDATE and DELETE not permitted"

def table (columns : Columns ρ) (name : TableName) : Table Settings ρ where
  policies := policies columns name
  beforeUpdate settings _ new :=
    match name with
    | .collectionPolicies | .auditEvents => rejectMutationUnlessErasure settings (some new)
    | .tenantVehiclesHistory => tenantVehiclesHistoryImmutable
    | _ => .keep new
  beforeDelete settings old :=
    match name with
    | .collectionPolicies | .auditEvents => rejectMutationUnlessErasure settings none
    | .tenantVehiclesHistory => tenantVehiclesHistoryImmutable
    | _ => .keep old

abbrev Db (ρ : Type) := TableName → List ρ

def Db.set (db : Db ρ) (name : TableName) (rows : List ρ) : Db ρ :=
  fun other => if other = name then rows else db other

/-- A statement on one table. Its clauses may read whatever its session sees of the
whole database; `reads` says that an `UPDATE` or `DELETE` refers to columns. -/
inductive Statement (ρ : Type) where
  | select (name : TableName) (clause : Db ρ → ρ → Truth)
  | update (name : TableName) (reads : Bool) (clause : Db ρ → ρ → Truth) (set : Db ρ → ρ → ρ)
  | delete (name : TableName) (reads : Bool) (clause : Db ρ → ρ → Truth)
  | insert (name : TableName) (onConflict : OnConflict ρ) (rows : Db ρ → List ρ)

/-- The rest of the schema: key, foreign-key and check constraints, and whatever the
`AFTER` triggers of the service-written tables do. -/
structure Engine (ρ : Type) where
  constraints : Db ρ → Bool
  afterWrite : Statement ρ → Db ρ → Db ρ → Except Fault (Db ρ)

section Execution

variable (columns : Columns ρ) (engine : Engine ρ) (access : Access Settings) (db : Db ρ)

def view : Db ρ := fun name => visible (table columns name) access (db name)

/-- Row triggers fire only if the statement came to a row. -/
def settle (statement : Statement ρ) (name : TableName) (touched : Bool) (rows : List ρ) :
    Except Fault (Db ρ) := do
  let next ←
    if name.serviceWritten && touched then engine.afterWrite statement db (db.set name rows)
    else .ok (db.set name rows)
  if engine.constraints next then .ok next else .error .constraint

def execute (statement : Statement ρ) : Except Fault (Db ρ × List ρ) :=
  let seen := view columns access db
  match statement with
  | .select name clause => .ok (db, (seen name).filter fun row => (clause seen row).holds)
  | .update name reads clause set => do
    let rows ← update (table columns name) access reads (clause seen) (set seen) (db name)
    let touched := (db name).any (targeted (table columns name) access .update reads (clause seen))
    let next ← settle engine db statement name touched rows
    .ok (next, [])
  | .delete name reads clause => do
    let rows ← delete (table columns name) access reads (clause seen) (db name)
    let touched := (db name).any (targeted (table columns name) access .delete reads (clause seen))
    let next ← settle engine db statement name touched rows
    .ok (next, [])
  | .insert name onConflict news => do
    let rows ← insert (table columns name) access onConflict (db name) (news seen)
    let next ← settle engine db statement name (!(news seen).isEmpty) rows
    .ok (next, [])

end Execution

/-- The tenant role, and the roles exempt from row-level security. -/
structure Roles where
  tenantRole : String
  bypassesRls : String → Bool
  tenantRole_subject : bypassesRls tenantRole = false

/-- Migration 017: the login role is a superuser, the tenant role has no BYPASSRLS. -/
def defaultRoles : Roles := ⟨"collectmind_tenant", (· == "collectmind"), by decide⟩

def accessOf (roles : Roles) (session : Session.State) : Access Settings where
  enforced := !roles.bypassesRls session.values.role
  context := session.values.settings

/-- Send one statement: a failed statement, or one sent in a failed transaction,
leaves the database as it was. -/
def issue (roles : Roles) (columns : Columns ρ) (engine : Engine ρ) (session : Session.State)
    (db : Db ρ) (statement : Statement ρ) : Db ρ × Except Fault (List ρ) :=
  if session.failed then (db, .error .aborted)
  else
    match execute columns engine (accessOf roles session) db statement with
    | .ok (next, rows) => (next, .ok rows)
    | .error fault => (db, .error fault)

end CollectMind.Registry
