import CollectMind.Graph.Session
import CollectMind.Ingest.Finding
import CollectMind.Registry.Audit

set_option autoImplicit false

/- `post_finding` from its idempotency check on: the transactions of ingest/http.py and
ingest/idempotency.py, one by one, and what each does to the database. -/
namespace CollectMind.Ingest

open Python RowSecurity Registry CollectMind.Graph

/-- A row of `diagnostic_findings`. -/
structure FindingRow where
  tenantId : String
  findingId : String
  schemaVersion : String
  anomalyType : String
  hypothesisClass : String
  hypothesisStatement : String
  candidateSignals : List String
  vehicleScope : List String
  upstreamConfidence : Rat
  receivedAt : Nat
  receivedPayloadSha256 : String

/-- A request whose body has passed `receiveFinding`, with the identifiers and times that
the handler draws for it. -/
structure Request where
  principal : Principal
  finding : DiagnosticFinding
  payloadSha : String
  correlationId : String
  acceptedAt : Nat
  eventId : String
  sessionId : String
  startedAt : Nat

/-- The composite key (tenant_id, finding_id). -/
def Request.key (request : Request) : String × String :=
  (request.principal.tenantId, request.finding.findingId.val)

def FindingRow.key (row : FindingRow) : String × String := (row.tenantId, row.findingId)

/-- The database, and the sessions handed to the graph runner. -/
structure World where
  tenants : List String
  findings : List FindingRow
  audits : List AuditRow
  started : List PolicyGenerationSession

structure IdempotencyDecision where
  firstSeen : Bool
  idempotentReplay : Bool
  payloadChanged : Bool
  deriving DecidableEq, Repr

def findingColumns : Columns FindingRow :=
  ⟨fun row => some row.tenantId, fun _ => none, fun _ => none⟩

def findingTable : Table Settings FindingRow := table findingColumns .diagnosticFindings

/-- `_PgBackend.check_or_record`, which only checks. -/
def checkOrRecord (findings : List FindingRow) (tenantId findingId payloadSha : String) :
    IdempotencyDecision :=
  match (visible findingTable (tenantAccess tenantId) findings).find?
      fun row => row.key == (tenantId, findingId) with
  | none => ⟨true, false, false⟩
  | some row => ⟨false, row.receivedPayloadSha256 == payloadSha,
      row.receivedPayloadSha256 != payloadSha⟩

def Request.row (request : Request) : FindingRow where
  tenantId := request.principal.tenantId
  findingId := request.finding.findingId.val
  schemaVersion := request.finding.schemaVersion
  anomalyType := request.finding.anomalyType.val
  hypothesisClass := request.finding.hypothesisClass.val
  hypothesisStatement := request.finding.hypothesisStatement.val
  candidateSignals := request.finding.candidateSignals.val.map Subtype.val
  vehicleScope := request.finding.vehicleScope.val.map Subtype.val
  upstreamConfidence := request.finding.upstreamConfidence.val
  receivedAt := request.acceptedAt
  receivedPayloadSha256 := request.payloadSha

/-- The `CHECK` constraints of migration 003. -/
def FindingRow.checked (row : FindingRow) : Bool :=
  row.findingId != "" && semver Char.isDigit row.schemaVersion.toList && row.hypothesisClass != "" &&
    (1 ≤ row.hypothesisStatement.length && row.hypothesisStatement.length ≤ 4096) &&
    !row.candidateSignals.isEmpty && !row.vehicleScope.isEmpty &&
    (0 ≤ row.upstreamConfidence && row.upstreamConfidence ≤ 1)

/-- The first transaction of `_persist_finding`:
`INSERT ... ON CONFLICT (tenant_id, finding_id) DO NOTHING`. -/
def insertFinding (world : World) (request : Request) : Except Fault World := do
  let next ← insertRow findingTable (tenantAccess request.principal.tenantId)
    (.doNothing fun new row => row.key == new.key) world.findings request.row
  if !request.row.checked then .error .constraint
  else if !world.findings.any (·.key == request.row.key) &&
      !world.tenants.contains request.principal.tenantId then .error .constraint
  else .ok { world with findings := next }

/-- The audit event of `_persist_finding`. -/
def Request.acceptedEvent (request : Request) : AuditEvent where
  tenantId := request.principal.tenantId
  kind := .accepted
  correlationId := request.correlationId
  principalSubject := request.principal.subject
  originatingFinding := some [("tenant_id", .str request.principal.tenantId),
    ("finding_id", .str request.finding.findingId.val)]
  inboundSchemaVersion := some request.finding.schemaVersion

/-- The second transaction of `_persist_finding`. -/
def auditAccepted (world : World) (request : Request) : Except AuditError World :=
  match write world.tenants world.audits request.acceptedEvent request.eventId
      request.acceptedAt with
  | .ok (next, _) => .ok { world with audits := next }
  | .error failure => .error failure

/-- The session that `_enqueue` builds. -/
def Request.session (request : Request) : PolicyGenerationSession where
  sessionId := request.sessionId
  tenantId := request.principal.tenantId
  correlationId := request.correlationId
  originatingFinding := [("tenant_id", .str request.principal.tenantId),
    ("finding_id", .str request.finding.findingId.val),
    ("schema_version", .str request.finding.schemaVersion),
    ("anomaly_type", .str request.finding.anomalyType.val),
    ("hypothesis_class", .str request.finding.hypothesisClass.val),
    ("hypothesis_statement", .str request.finding.hypothesisStatement.val),
    ("candidate_signals", .arr (request.finding.candidateSignals.val.map fun name => .str name.val)),
    ("vehicle_scope", .arr (request.finding.vehicleScope.val.map fun name => .str name.val)),
    ("upstream_confidence", .float (.finite request.finding.upstreamConfidence.val))]
  startedAt := request.startedAt

def enqueue (world : World) (request : Request) : World :=
  { world with started := world.started ++ [request.session] }

/-- The content of a 202 response. -/
structure Acceptance where
  tenantId : String
  findingId : String
  correlationId : String
  acceptedAt : Nat
  policyId : String
  idempotentReplay : Bool
  deriving DecidableEq, Repr

def Request.acceptance (request : Request) (idempotentReplay : Bool) : Acceptance where
  tenantId := request.principal.tenantId
  findingId := request.finding.findingId.val
  correlationId := request.correlationId
  acceptedAt := request.acceptedAt
  policyId := "policy-" ++ request.finding.findingId.val
  idempotentReplay := idempotentReplay

/-- Where a request stands between two of its transactions. -/
inductive Stage where
  | received
  | checked
  | persisted
  | audited
  | answered (content : Acceptance)
  | failed
  deriving DecidableEq, Repr

/-- A transaction that raises rolls back, and its request ends there. -/
def settleStage {ε : Type} (world : World) (next : Stage) : Except ε World → World × Stage
  | .ok committed => (committed, next)
  | .error _ => (world, .failed)

/-- The next transaction of a request that stands at `stage`. -/
def advance (request : Request) (world : World) : Stage → World × Stage
  | .received =>
    if (checkOrRecord world.findings request.principal.tenantId request.finding.findingId.val
        request.payloadSha).firstSeen then (world, .checked)
    else (world, .answered (request.acceptance true))
  | .checked => settleStage world .persisted (insertFinding world request)
  | .persisted => settleStage world .audited (auditAccepted world request)
  | .audited => (enqueue world request, .answered (request.acceptance false))
  | .answered content => (world, .answered content)
  | .failed => (world, .failed)

/-- A finding that its tenant's check would see. -/
def Seen (findings : List FindingRow) (key : String × String) : Prop :=
  key.1 ≠ "" ∧ ∃ row ∈ findings, row.key = key

theorem checkOrRecord_firstSeen (findings : List FindingRow) (tenantId findingId payloadSha : String) :
    (checkOrRecord findings tenantId findingId payloadSha).firstSeen = false ↔
      Seen findings (tenantId, findingId) := by
  unfold checkOrRecord
  split
  · rename_i missed
    rw [List.find?_eq_none] at missed
    simp only [Bool.true_eq_false, false_iff]
    rintro ⟨present, row, member, same⟩
    have owner : row.tenantId = tenantId := congrArg Prod.fst same
    have seen : row ∈ visible findingTable (tenantAccess tenantId) findings := by
      rw [findingTable, mem_visible_tenantAccess findingColumns (by decide)]
      exact ⟨member, present, congrArg some owner⟩
    exact missed row seen (beq_iff_eq.mpr same)
  · rename_i row found
    have seen := List.mem_of_find?_eq_some found
    rw [findingTable, mem_visible_tenantAccess findingColumns (by decide)] at seen
    have same := List.find?_some found
    simp only [true_iff]
    exact ⟨seen.2.1, row, seen.1, beq_iff_eq.mp same⟩

/-- The insert makes the finding visible to its tenant and touches nothing else. -/
theorem insertFinding_ok {world next : World} {request : Request}
    (success : insertFinding world request = .ok next) :
    Seen next.findings request.key ∧
    ∃ findings, next = { world with findings := findings } := by
  rw [insertFinding, Checked.bind_ok_iff] at success
  obtain ⟨findings, stored, settled⟩ := success
  have tail : next = { world with findings := findings } := by
    split at settled
    · cases settled
    · split at settled
      · cases settled
      · cases settled
        rfl
  refine ⟨?_, findings, tail⟩
  rw [tail]
  have admitted := insertRow_admitted (tenantAccess_enforced _) stored
  rw [findingTable, admitsCheck_iff (by decide) (tenantAccess_tenant _)] at admitted
  refine ⟨admitted.1, ?_⟩
  rw [insertRow_doNothing_ok stored]
  split
  · rename_i conflict
    obtain ⟨row, member, same⟩ := List.any_eq_true.mp conflict
    exact ⟨row, member, beq_iff_eq.mp same⟩
  · exact ⟨request.row, List.mem_append_right _ (List.mem_singleton_self _), rfl⟩

theorem auditAccepted_ok {world next : World} {request : Request}
    (success : auditAccepted world request = .ok next) :
    ∃ audits, next = { world with audits := audits } := by
  unfold auditAccepted at success
  split at success
  · rename_i audits _ _
    cases success
    exact ⟨audits, rfl⟩
  · cases success

theorem advance_received (request : Request) (world : World) :
    advance request world .received =
        (world, .answered (request.acceptance true)) ∧ Seen world.findings request.key ∨
      advance request world .received = (world, .checked) ∧ ¬ Seen world.findings request.key := by
  have decision := checkOrRecord_firstSeen world.findings request.principal.tenantId
    request.finding.findingId.val request.payloadSha
  simp only [advance]
  split
  · rename_i first
    refine Or.inr ⟨rfl, fun seen => ?_⟩
    rw [decision.mpr seen] at first
    cases first
  · rename_i known
    exact Or.inl ⟨rfl, decision.mp (Bool.eq_false_iff.mpr known)⟩

theorem settleStage_cases {ε : Type} (world : World) (next : Stage) (outcome : Except ε World) :
    (∃ committed, settleStage world next outcome = (committed, next) ∧ outcome = .ok committed) ∨
      settleStage world next outcome = (world, .failed) := by
  cases outcome with
  | ok committed => exact Or.inl ⟨committed, rfl, rfl⟩
  | error _ => exact Or.inr rfl

/-- A finding of tenant-a, as small as the schema admits. -/
def sampleFinding : DiagnosticFinding where
  schemaVersion := "1.0.0"
  findingId := ⟨"finding-1", by decide⟩
  anomalyType := ⟨"thermal", by decide⟩
  hypothesisClass := ⟨"battery", by decide⟩
  hypothesisStatement := ⟨"cell imbalance", by decide⟩
  candidateSignals := ⟨[⟨"Vehicle.Speed", by decide⟩], by simp⟩
  vehicleScope := ⟨[⟨"vehicle-1", by decide⟩], by simp⟩
  upstreamConfidence := ⟨1, by decide⟩

/-- A POST of the sample finding. -/
def sampleRequest (correlationId eventId sessionId : String) : Request where
  principal := ⟨"tenant-a", "client-a"⟩
  finding := sampleFinding
  payloadSha := "sha"
  correlationId := correlationId
  acceptedAt := 0
  eventId := eventId
  sessionId := sessionId
  startedAt := 0

def sampleWorld : World := ⟨["tenant-a", "tenant-b"], [], [], []⟩

def duplicateRequests : Fin 2 → Request
  | 0 => sampleRequest "correlation-1" "event-1" "session-1"
  | 1 => sampleRequest "correlation-2" "event-2" "session-2"

end CollectMind.Ingest
