import Mathlib.Data.List.Sort
import CollectMind.Library.Runs
import CollectMind.Registry.Audit

set_option autoImplicit false

/- `break_glass_query` of audit_admin/api.py: an operator reads one tenant's audit events
under the service principal, in one transaction with the row that records the read. -/
namespace CollectMind.AuditAdmin

open Python Registry RowSecurity

inductive ReasonCode where
  | incidentResponse
  | legalHold
  | regulatorRequest
  | supportEscalation
  | operatorSelfAudit
  deriving DecidableEq, Repr

def ReasonCode.text : ReasonCode → String
  | .incidentResponse => "incident_response"
  | .legalHold => "legal_hold"
  | .regulatorRequest => "regulator_request"
  | .supportEscalation => "support_escalation"
  | .operatorSelfAudit => "operator_self_audit"

/-- `^[a-zA-Z0-9_-]+$` of at most 64 characters. -/
def isIdentifier (text : String) : Bool :=
  0 < text.length && text.length ≤ 64 &&
    text.toList.all fun char => char.isAlphanum || char == '_' || char == '-'

abbrev Identifier := { text : String // isIdentifier text = true }

structure BreakGlassRequest where
  tenantScope : Identifier
  correlationId : Identifier
  reasonCode : ReasonCode

/-- One invocation: who asks, what for, and the id and time its row would get. -/
structure Invocation where
  operator : String
  payload : BreakGlassRequest
  eventId : String
  now : Nat

/-- The projection of a row that is returned. -/
structure EventView where
  eventId : String
  tenantId : String
  kind : AuditKind
  correlationId : String
  occurredAt : Nat
  extras : Option Dict

inductive Response where
  | events (events : List EventView)
  | notFound
  | failed (fault : Fault)

/-- The service principal bypasses row-level security. -/
def servicePrincipal : Access Settings := ⟨false, fun _ => none⟩

def Invocation.extras (invocation : Invocation) : Dict :=
  [("operator_principal_subject", .str invocation.operator),
    ("tenant_scope", .str invocation.payload.tenantScope.val),
    ("reason_code", .str invocation.payload.reasonCode.text)]

def Invocation.row (invocation : Invocation) : AuditRow where
  eventId := invocation.eventId
  tenantId := invocation.payload.tenantScope.val
  kind := .breakGlass
  originatingFinding := some invocation.extras
  policyRef := none
  deploymentRef := none
  outcomeRef := none
  slm := {}
  inboundSchemaVersion := none
  timeAccelerationFactor := none
  principalSubject := invocation.operator
  correlationId := invocation.payload.correlationId.val
  occurredAt := invocation.now

def eventView (row : AuditRow) : EventView where
  eventId := row.eventId
  tenantId := row.tenantId
  kind := row.kind
  correlationId := row.correlationId
  occurredAt := row.occurredAt
  extras :=
    jsonColumn (some ([("originating_finding", row.originatingFinding),
      ("policy_ref", row.policyRef), ("deployment_ref", row.deploymentRef),
      ("outcome_ref", row.outcomeRef)].filterMap fun column =>
        column.2.map fun value => (column.1, .obj value)))

/-- The bypassed `SELECT ... ORDER BY occurred_at ASC`. -/
def selectEvents (rows : List AuditRow) (request : BreakGlassRequest) : List AuditRow :=
  ((visible auditTable servicePrincipal rows).filter fun row =>
    row.tenantId == request.tenantScope.val && row.correlationId == request.correlationId.val)
    |>.insertionSort fun first second => first.occurredAt ≤ second.occurredAt

/-- `break_glass_query`: the row first, then the read, in one transaction. -/
def breakGlassQuery (tenants : List String) (rows : List AuditRow) (invocation : Invocation) :
    List AuditRow × Response :=
  match insertAudit tenants servicePrincipal rows invocation.row with
  | .error fault => (rows, .failed fault)
  | .ok next =>
    let events := (selectEvents next invocation.payload).map eventView
    if events.isEmpty then (next, .notFound) else (next, .events events)

/-- The row records this invocation: its operator, scope, reason and correlation id. -/
def Records (row : AuditRow) (invocation : Invocation) : Prop :=
  row.kind = .breakGlass ∧ row.correlationId = invocation.payload.correlationId.val ∧
    ∃ recorded, row.originatingFinding = some recorded ∧
      recorded.get "operator_principal_subject" = some (.str invocation.operator) ∧
      recorded.get "tenant_scope" = some (.str invocation.payload.tenantScope.val) ∧
      recorded.get "reason_code" = some (.str invocation.payload.reasonCode.text)

def Attributed (rows : List AuditRow) (invocation : Invocation) : Prop :=
  ∃ row ∈ rows, Records row invocation

/-- No break-glass row stands under the invocation's correlation id. -/
def Unclaimed (rows : List AuditRow) (invocation : Invocation) : Prop :=
  ∀ row ∈ rows, row.correlationId = invocation.payload.correlationId.val → row.kind ≠ .breakGlass

theorem row_records (invocation : Invocation) : Records invocation.row invocation :=
  ⟨rfl, rfl, invocation.extras, rfl, rfl, rfl, rfl⟩

theorem unclaimed_iff (rows : List AuditRow) (invocation : Invocation) :
    rows.any (sameEvent invocation.row) = false ↔ Unclaimed rows invocation := by
  rw [List.any_eq_false]
  constructor
  · intro free row member same kind
    exact free row member (sameEvent_iff.mpr ⟨same, kind⟩)
  · intro unclaimed row member clash
    obtain ⟨same, kind⟩ := sameEvent_iff.mp clash
    exact unclaimed row member same kind

/-- What an invocation does to the table: nothing if it fails, nothing if its correlation id
is claimed, and else add its own row. -/
theorem breakGlassQuery_cases (tenants : List String) (rows : List AuditRow)
    (invocation : Invocation) :
    (∃ fault, breakGlassQuery tenants rows invocation = (rows, .failed fault)) ∨
      (¬ Unclaimed rows invocation ∧ (breakGlassQuery tenants rows invocation).1 = rows) ∨
      (Unclaimed rows invocation ∧
        (breakGlassQuery tenants rows invocation).1 = rows ++ [invocation.row]) := by
  rw [breakGlassQuery]
  cases inserted : insertAudit tenants servicePrincipal rows invocation.row with
  | error fault => exact Or.inl ⟨fault, rfl⟩
  | ok next =>
      have table : (if ((selectEvents next invocation.payload).map eventView).isEmpty
          then (next, Response.notFound)
          else (next, .events ((selectEvents next invocation.payload).map eventView))).1 = next := by
        split <;> rfl
      obtain ⟨_, ⟨clash, unchanged⟩ | ⟨free, appended, _⟩⟩ := insertAudit_ok inserted
      · refine Or.inr (Or.inl ⟨?_, table.trans unchanged⟩)
        rw [← unclaimed_iff, clash]
        simp
      · exact Or.inr (Or.inr ⟨(unclaimed_iff rows invocation).mp free, table.trans appended⟩)

/-- An invocation files its row, if the table takes it, and nothing else. -/
theorem breakGlassQuery_filed (tenants : List String) (rows : List AuditRow)
    (invocation : Invocation) :
    (breakGlassQuery tenants rows invocation).1 =
      rows ++ (filed tenants rows (some invocation.row)).toList := by
  have unenforced : servicePrincipal.enforced = true →
      admitsCheck auditTable.policies .insert servicePrincipal.context invocation.row = true :=
    fun enforced => absurd enforced Bool.false_ne_true
  rw [← insertAudit_filed unenforced, breakGlassQuery]
  cases insertAudit tenants servicePrincipal rows invocation.row with
  | error fault => rfl
  | ok next => dsimp only; split <;> rfl

/-- An invocation that returns events is recorded exactly if its correlation id was free, or
taken by a row that says the same. -/
theorem breakGlassQuery_attributed {tenants : List String} {rows : List AuditRow}
    {invocation : Invocation} {events : List EventView}
    (read : (breakGlassQuery tenants rows invocation).2 = .events events) :
    Attributed (breakGlassQuery tenants rows invocation).1 invocation ↔
      Unclaimed rows invocation ∨ Attributed rows invocation := by
  rcases breakGlassQuery_cases tenants rows invocation with
    ⟨fault, failed⟩ | ⟨claimed, unchanged⟩ | ⟨unclaimed, appended⟩
  · rw [failed] at read
    cases read
  · rw [unchanged]
    constructor
    · exact Or.inr
    · intro either
      exact either.resolve_left claimed
  · rw [appended]
    constructor
    · intro _
      exact Or.inl unclaimed
    · intro _
      exact ⟨invocation.row, by simp, row_records invocation⟩

section Runs

variable (tenants : List String) (rows : List AuditRow)

/-- The table just before an invocation, after those before it. -/
def tableBefore (earlier : List Invocation) : List AuditRow :=
  Runs.final (breakGlassQuery tenants) rows earlier

/-- The invocation at this place of the run returns events to its caller. -/
def Reads (earlier : List Invocation) (invocation : Invocation) : Prop :=
  ∃ events, (breakGlassQuery tenants (tableBefore tenants rows earlier) invocation).2 = .events events

/-- After each invocation that returns events, a committed row records that invocation. -/
def EveryReadAttributed (invocations : List Invocation) : Prop :=
  ∀ earlier invocation later, invocations = earlier ++ invocation :: later →
    Reads tenants rows earlier invocation →
    Attributed (tableBefore tenants rows (earlier ++ [invocation])) invocation

/-- No read meets a break-glass row under its correlation id that records another operator,
scope or reason. -/
def NoForeignClaim (invocations : List Invocation) : Prop :=
  ∀ earlier invocation later, invocations = earlier ++ invocation :: later →
    Reads tenants rows earlier invocation →
    Unclaimed (tableBefore tenants rows earlier) invocation ∨
      Attributed (tableBefore tenants rows earlier) invocation

theorem tableBefore_snoc (earlier : List Invocation) (invocation : Invocation) :
    tableBefore tenants rows (earlier ++ [invocation]) =
      (breakGlassQuery tenants (tableBefore tenants rows earlier) invocation).1 :=
  Runs.final_append (breakGlassQuery tenants) rows earlier [invocation]

theorem everyReadAttributed_iff_noForeignClaim (invocations : List Invocation) :
    EveryReadAttributed tenants rows invocations ↔ NoForeignClaim tenants rows invocations := by
  constructor
  · intro attributed earlier invocation later place reads
    obtain ⟨events, read⟩ := reads
    have recorded := attributed earlier invocation later place ⟨events, read⟩
    rw [tableBefore_snoc] at recorded
    exact (breakGlassQuery_attributed read).mp recorded
  · intro free earlier invocation later place reads
    obtain ⟨events, read⟩ := reads
    rw [tableBefore_snoc]
    exact (breakGlassQuery_attributed read).mpr (free earlier invocation later place ⟨events, read⟩)

/-- Invocations that share a correlation id agree on operator, scope and reason. -/
def Consistent (invocations : List Invocation) : Prop :=
  ∀ first ∈ invocations, ∀ second ∈ invocations,
    first.payload.correlationId = second.payload.correlationId →
    first.extras = second.extras

/-- Every break-glass row is one of the run's own. -/
def OwnRows (invocations : List Invocation) (table : List AuditRow) : Prop :=
  ∀ row ∈ table, row.kind = .breakGlass → ∃ writer ∈ invocations, row = writer.row

variable {rows}

theorem tableBefore_ownRows {invocations earlier : List Invocation}
    (fresh : ∀ row ∈ rows, row.kind ≠ .breakGlass)
    (inside : ∀ invocation ∈ earlier, invocation ∈ invocations) :
    OwnRows invocations (tableBefore tenants rows earlier) := by
  apply Runs.final_invariant (breakGlassQuery tenants) (OwnRows invocations)
    (fun invocation => invocation ∈ invocations)
  · intro table invocation member own
    rcases breakGlassQuery_cases tenants table invocation with
      ⟨fault, failed⟩ | ⟨_, unchanged⟩ | ⟨_, appended⟩
    · rw [failed]
      exact own
    · rw [unchanged]
      exact own
    · rw [appended]
      intro row place kind
      rcases List.mem_append.mp place with before | last
      · exact own row before kind
      · exact ⟨invocation, member, List.mem_singleton.mp last⟩
  · exact fun row member kind => absurd kind (fresh row member)
  · exact inside

/-- One operator, one scope and one reason to each correlation id is enough. -/
theorem everyReadAttributed_of_consistent {invocations : List Invocation}
    (fresh : ∀ row ∈ rows, row.kind ≠ .breakGlass) (consistent : Consistent invocations) :
    EveryReadAttributed tenants rows invocations := by
  intro earlier invocation later place reads
  obtain ⟨events, read⟩ := reads
  rw [tableBefore_snoc]
  apply (breakGlassQuery_attributed read).mpr
  by_cases unclaimed : Unclaimed (tableBefore tenants rows earlier) invocation
  · exact Or.inl unclaimed
  · simp only [Unclaimed, not_forall, not_not] at unclaimed
    obtain ⟨row, member, same, kind⟩ := unclaimed
    have inside : ∀ other ∈ earlier, other ∈ invocations := by
      intro other known
      rw [place]
      exact List.mem_append_left _ known
    obtain ⟨writer, known, rfl⟩ := tableBefore_ownRows tenants fresh inside row member kind
    have agree := consistent writer known invocation (by simp [place]) (Subtype.ext same)
    refine Or.inr ⟨writer.row, member, kind, same, writer.extras, rfl, ?_⟩
    rw [agree]
    exact ⟨rfl, rfl, rfl⟩

end Runs

def sampleInvocation (operator eventId : String) (reasonCode : ReasonCode) : Invocation where
  operator := operator
  payload := ⟨⟨"tenant-a", by decide⟩, ⟨"incident-1", by decide⟩, reasonCode⟩
  eventId := eventId
  now := 0

/-- A second operator who reads under the same correlation id leaves no row. -/
theorem everyReadAttributed_fails_for_second_operator :
    ¬ EveryReadAttributed ["tenant-a"] []
      [sampleInvocation "alice" "event-1" .incidentResponse,
        sampleInvocation "bob" "event-2" .legalHold] := by
  intro attributed
  obtain ⟨row, member, _, _, recorded, finding, operator, _⟩ := attributed
    [sampleInvocation "alice" "event-1" .incidentResponse]
    (sampleInvocation "bob" "event-2" .legalHold) [] rfl ⟨_, rfl⟩
  have only : row = (sampleInvocation "alice" "event-1" .incidentResponse).row :=
    List.mem_singleton.mp member
  rw [only] at finding
  cases finding
  have same : "alice" = "bob" := Json.str.inj (Option.some.inj operator)
  exact absurd same (by decide)

end CollectMind.AuditAdmin
