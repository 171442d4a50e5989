import CollectMind.Registry.Schema

set_option autoImplicit false

/- `Database` of registry/db.py: what a pooled connection goes through between two
uses, and the session that `acquire` hands to its caller. -/
namespace CollectMind.Registry

open Session

/-- What `acquire` sends before it yields: the transaction, the role, the tenant. -/
def acquirePreamble (roles : Roles) (tenantId : String) : List Op :=
  [.begin, .setRole roles.tenantRole true, .setConfig "app.tenant_id" tenantId true]

/-- One use of a connection. `reached` counts the statements of the preamble that
went through before an error; the caller's code is arbitrary. -/
inductive Use where
  | acquire (tenantId : String) (reached : Nat) (body : List Op) (commits : Bool)
  | acquireServicePrincipal (body : List Op)

def Use.ops (roles : Roles) : Use → List Op
  | .acquire tenantId reached body commits =>
    (acquirePreamble roles tenantId).take reached ++ body ++ [if commits then .commit else .rollback]
  | .acquireServicePrincipal body => body

/-- Returning a connection to the pool rolls an open transaction back and resets it. -/
def release : List Op := [.rollback, .resetAll]

def use (roles : Roles) (session : State) (use : Use) : State :=
  run session (use.ops roles ++ release)

def pooled (roles : Roles) (loginRole : String) (uses : List Use) : State :=
  uses.foldl (use roles) (fresh loginRole)

/-- The session in which the caller of `acquire(tenantId)` stands after `body`. -/
def insideAcquire (roles : Roles) (loginRole : String) (uses : List Use) (tenantId : String)
    (body : List Op) : State :=
  run (pooled roles loginRole uses) (acquirePreamble roles tenantId ++ body)

/-- The caller leaves the transaction, the role and the tenant alone. -/
def keepsContext : Op → Bool
  | .commit | .rollback | .resetAll => false
  | .setRole _ _ => false
  | .setConfig name _ _ => name != "app.tenant_id"
  | _ => true

theorem release_idle (session : State) : ∃ values, run session release = .idle values := by
  cases session with
  | idle values => exact ⟨_, rfl⟩
  | active before frame savepoints failed => exact ⟨_, rfl⟩

theorem pooled_idle (roles : Roles) (loginRole : String) (uses : List Use) :
    ∃ values, pooled roles loginRole uses = .idle values := by
  unfold pooled
  generalize start : fresh loginRole = session
  have idle : ∃ values, session = .idle values := ⟨_, start.symm⟩
  clear start
  induction uses generalizing session with
  | nil => exact idle
  | cons first rest ih =>
      apply ih
      rw [use, run_append]
      exact release_idle _

/-- The values a caller of `acquire(tenantId)` runs under. -/
def Scoped (roles : Roles) (tenantId : String) (values : Values) : Prop :=
  values.role = roles.tenantRole ∧ values.settings "app.tenant_id" = some tenantId

theorem scoped_reverts (roles : Roles) (tenantId : String) : Reverts (Scoped roles tenantId) := by
  intro values target held
  exact ⟨held.1, values.revertTo_some held.2⟩

theorem preserves_of_keepsContext {roles : Roles} {tenantId : String} {op : Op}
    (keeps : keepsContext op = true) :
    op.ends = false ∧ op.Preserves (Scoped roles tenantId) := by
  cases op with
  | setConfig name value isLocal =>
      have apart : "app.tenant_id" ≠ name := by
        intro same
        simp [keepsContext, same] at keeps
      exact ⟨rfl, fun values held => ⟨held.1, (values.setConfig_other value apart).trans held.2⟩⟩
  | commit => cases keeps
  | rollback => cases keeps
  | resetAll => cases keeps
  | setRole role isLocal => cases keeps
  | _ => exact ⟨rfl, trivial⟩

/-- Whatever the connection went through before, the caller stands in a transaction
under the tenant role with its tenant set, until it changes that itself. -/
theorem insideAcquire_scoped (roles : Roles) (loginRole : String) (uses : List Use)
    (tenantId : String) (body : List Op) (keeps : ∀ op ∈ body, keepsContext op = true) :
    InForce (Scoped roles tenantId) (insideAcquire roles loginRole uses tenantId body) := by
  obtain ⟨values, idle⟩ := pooled_idle roles loginRole uses
  rw [insideAcquire, idle, run_append]
  apply run_inForce (scoped_reverts roles tenantId) body
  · intro op member
    exact preserves_of_keepsContext (keeps op member)
  · exact ⟨⟨rfl, Values.setConfig_same _ _ _⟩, by simp⟩

end CollectMind.Registry
