import CollectMind.Ingest.Interleaving

set_option autoImplicit false

/- What one tenant can see of the database, and what the transactions of `post_finding` do to
it: those of other tenants' requests nothing, those of its own the same wherever it is the same,
but for an audit write that meets another tenant's row. -/
namespace CollectMind.Ingest

open RowSecurity Registry CollectMind.Graph

/-- A row without the id and the time that the server gave it. -/
def unstamped (row : AuditRow) : AuditRow := { row with eventId := "", occurredAt := 0 }

def unstampedSession (session : PolicyGenerationSession) : PolicyGenerationSession :=
  { session with sessionId := "", startedAt := 0 }

def tenantAudits (tenantId : String) (world : World) : List AuditRow :=
  (world.audits.filter fun row => row.tenantId == tenantId).map unstamped

def tenantSessions (tenantId : String) (world : World) : List PolicyGenerationSession :=
  (world.started.filter fun session => session.tenantId == tenantId).map unstampedSession

/-- The same request of a client; the ids and times that the server generates may differ. -/
structure SameSubmission (request other : Request) : Prop where
  principal : other.principal = request.principal
  finding : other.finding = request.finding
  payloadSha : other.payloadSha = request.payloadSha
  correlationId : other.correlationId = request.correlationId

/-- What a tenant can learn from the database, and what the server's answers to it depend on. -/
structure SameView (tenantId : String) (world other : World) : Prop where
  tenants : world.tenants = other.tenants
  findings : ∀ findingId, (∃ row ∈ world.findings, row.key = (tenantId, findingId)) ↔
    ∃ row ∈ other.findings, row.key = (tenantId, findingId)
  audits : tenantAudits tenantId world = tenantAudits tenantId other
  sessions : tenantSessions tenantId world = tenantSessions tenantId other

/-- Two requests stand at the same stage. -/
inductive Alike : Stage → Stage → Prop where
  | received : Alike .received .received
  | checked : Alike .checked .checked
  | persisted : Alike .persisted .persisted
  | audited : Alike .audited .audited
  | answered (content other : Acceptance) : Alike (.answered content) (.answered other)
  | failed : Alike .failed .failed

theorem SameView.refl (tenantId : String) (world : World) : SameView tenantId world world :=
  ⟨rfl, fun _ => Iff.rfl, rfl, rfl⟩

theorem SameView.symm {tenantId : String} {world other : World}
    (view : SameView tenantId world other) : SameView tenantId other world :=
  ⟨view.tenants.symm, fun findingId => (view.findings findingId).symm, view.audits.symm,
    view.sessions.symm⟩

theorem SameView.trans {tenantId : String} {first second third : World}
    (left : SameView tenantId first second) (right : SameView tenantId second third) :
    SameView tenantId first third :=
  ⟨left.tenants.trans right.tenants,
    fun findingId => (left.findings findingId).trans (right.findings findingId),
    left.audits.trans right.audits, left.sessions.trans right.sessions⟩

section Findings

/-- The insert of a request's finding goes through. -/
def insertable (world : World) (request : Request) : Bool :=
  request.principal.tenantId != "" && request.row.checked &&
    (world.findings.any (·.key == request.row.key) ||
      world.tenants.contains request.principal.tenantId)

def storeFinding (world : World) (request : Request) : World :=
  if world.findings.any (·.key == request.row.key) then world
  else { world with findings := world.findings ++ [request.row] }

theorem admitsCheck_row (request : Request) :
    admitsCheck findingTable.policies .insert (tenantAccess request.principal.tenantId).context
      request.row = (request.principal.tenantId != "") := by
  rw [Bool.eq_iff_iff, findingTable, admitsCheck_iff (by decide) (tenantAccess_tenant _),
    bne_iff_ne]
  exact ⟨fun admitted => admitted.1, fun named => ⟨named, rfl⟩⟩

theorem insertFinding_stored {world : World} {request : Request}
    (goes : insertable world request = true) :
    insertFinding world request = .ok (storeFinding world request) := by
  simp only [insertable, Bool.and_eq_true] at goes
  obtain ⟨⟨named, checked⟩, referenced⟩ := goes
  rw [insertFinding, insertRow, admitsCheck_row, named, checked]
  have refers : (!world.findings.any (fun row => row.key == request.row.key) &&
      !world.tenants.contains request.principal.tenantId) = false := by
    rw [← Bool.not_or, referenced]
    rfl
  rw [refers]
  unfold storeFinding
  by_cases known : world.findings.any (fun row => row.key == request.row.key) = true
  · simp [known, bind, Except.bind]
  · simp [known, bind, Except.bind]

theorem insertFinding_refused {world : World} {request : Request}
    (stops : insertable world request = false) :
    ∃ fault, insertFinding world request = .error fault := by
  cases outcome : insertFinding world request with
  | error fault => exact ⟨fault, rfl⟩
  | ok next =>
      rw [insertFinding, Checked.bind_ok_iff] at outcome
      obtain ⟨findings, stored, settled⟩ := outcome
      rw [insertRow, admitsCheck_row] at stored
      split at stored
      · cases stored
      · rename_i named
        split at settled
        · cases settled
        · rename_i checked
          split at settled
          · cases settled
          · rename_i referenced
            -- the three checks have passed, so the insert was one that goes through
            have goes : insertable world request = true := by
              rw [tenantAccess_enforced, Bool.true_and, Bool.not_eq_true', Bool.not_eq_false] at named
              rw [Bool.not_eq_true', Bool.not_eq_false] at checked
              rw [← Bool.not_or, Bool.not_eq_true', Bool.not_eq_false] at referenced
              rw [insertable, named, checked, referenced]
              rfl
            rw [goes] at stops
            cases stops

end Findings

section Audits

def Request.acceptedRow (request : Request) : AuditRow :=
  request.acceptedEvent.row request.eventId request.acceptedAt

/-- The audit row of the request is one the table can hold, its key apart. -/
def storable (world : World) (request : Request) : Bool :=
  request.principal.tenantId != "" && request.acceptedRow.checked &&
    world.tenants.contains request.principal.tenantId

/-- A row of the tenant's own stands under the request's correlation id. -/
def OwnClaim (world : World) (request : Request) : Prop :=
  ∃ row ∈ tenantAudits request.principal.tenantId world,
    row.correlationId = request.correlationId ∧ row.kind = .accepted

/-- A row stands under the request's correlation id, but none the tenant is shown. -/
def hidden (world : World) (request : Request) : Bool :=
  world.audits.any (sameEvent request.acceptedRow) &&
    !world.audits.any fun row =>
      sameEvent request.acceptedRow row && row.tenantId == request.principal.tenantId

/-- The transaction is an audit write that fails on the row of another tenant. -/
def blocked (request : Request) (world : World) (stage : Stage) : Bool :=
  decide (stage = .persisted) && storable world request && hidden world request

theorem ownClaim_iff {world : World} {request : Request} :
    OwnClaim world request ↔ ∃ existing ∈ world.audits,
      sameEvent request.acceptedRow existing = true ∧
        existing.tenantId = request.acceptedEvent.tenantId := by
  constructor
  · rintro ⟨row, member, correlation, kind⟩
    obtain ⟨existing, inside, shown⟩ := List.mem_map.mp member
    rw [List.mem_filter, beq_iff_eq] at inside
    rw [← shown] at correlation kind
    exact ⟨existing, inside.1, sameEvent_iff.mpr ⟨correlation, kind⟩, inside.2⟩
  · rintro ⟨existing, member, same, owner⟩
    have key := sameEvent_iff.mp same
    refine ⟨unstamped existing, ?_, key.1, key.2⟩
    apply List.mem_map_of_mem
    rw [List.mem_filter, beq_iff_eq]
    exact ⟨member, owner⟩

theorem hidden_iff {world : World} {request : Request} :
    hidden world request = true ↔
      world.audits.any (sameEvent request.acceptedRow) = true ∧ ¬ OwnClaim world request := by
  have owned : (world.audits.any fun row => sameEvent request.acceptedRow row &&
      row.tenantId == request.principal.tenantId) = true ↔ OwnClaim world request := by
    rw [ownClaim_iff, List.any_eq_true]
    simp only [Bool.and_eq_true, beq_iff_eq]
    rfl
  rw [← owned, hidden]
  simp

theorem acceptedEvent_complete (request : Request) : request.acceptedEvent.missing = [] := rfl

theorem auditAccepted_coalesced {world : World} {request : Request}
    (named : request.principal.tenantId ≠ "") (checked : request.acceptedRow.checked = true)
    (own : OwnClaim world request) : auditAccepted world request = .ok world := by
  have coalesced : ∃ stored, write world.tenants world.audits request.acceptedEvent request.eventId
      request.acceptedAt = .ok (world.audits, stored) :=
    write_coalesces (acceptedEvent_complete request) checked named (ownClaim_iff.mp own)
  obtain ⟨stored, outcome⟩ := coalesced
  unfold auditAccepted
  rw [outcome]

theorem auditAccepted_stored {world : World} {request : Request}
    (holds : storable world request = true) (free : hidden world request = false)
    (unowned : ¬ OwnClaim world request)
    (unused : ∀ row ∈ world.audits, row.eventId ≠ request.eventId) :
    auditAccepted world request =
      .ok { world with audits := world.audits ++ [request.acceptedRow] } := by
  simp only [storable, Bool.and_eq_true] at holds
  obtain ⟨⟨named, checked⟩, registered⟩ := holds
  have unclaimed : world.audits.any (sameEvent request.acceptedRow) = false := by
    by_contra claimed
    rw [Bool.not_eq_false] at claimed
    rw [hidden_iff.mpr ⟨claimed, unowned⟩] at free
    cases free
  have outcome := write_fresh (acceptedEvent_complete request) checked (bne_iff_ne.mp named)
    (List.contains_iff_mem.mp registered) unused unclaimed
  unfold auditAccepted
  rw [outcome]
  rfl

/-- A write that goes through finds a row of its own tenant, or adds one. -/
theorem auditAccepted_cases {world next : World} {request : Request}
    (success : auditAccepted world request = .ok next) :
    request.principal.tenantId ≠ "" ∧ request.acceptedRow.checked = true ∧
      ((OwnClaim world request ∧ next = world) ∨
        (storable world request = true ∧ hidden world request = false ∧
          next = { world with audits := world.audits ++ [request.acceptedRow] })) := by
  unfold auditAccepted at success
  split at success
  · rename_i audits stored outcome
    cases success
    have named := write_ok_tenant outcome
    obtain ⟨_, checked, result⟩ := write_ok outcome
    refine ⟨named.1, checked, ?_⟩
    rcases result with ⟨free, appended, _⟩ | ⟨existing, member, correlation, kind, owner, same, _⟩
    · apply Or.inr
      refine ⟨?_, ?_, by rw [appended]; rfl⟩
      · simp only [storable, Bool.and_eq_true, bne_iff_ne]
        exact ⟨⟨named.1, checked⟩, List.contains_iff_mem.mpr (named.2 free).1⟩
      · have unclaimed : world.audits.any (sameEvent request.acceptedRow) = false := free
        rw [hidden, unclaimed]
        rfl
    · apply Or.inl
      refine ⟨ownClaim_iff.mpr ⟨existing, member, sameEvent_iff.mpr ⟨correlation, kind⟩, owner⟩, ?_⟩
      rw [same]
  · cases success

/-- The transaction that writes the audit row leaves the world alone, or adds the row and goes
on. -/
theorem advance_persisted (request : Request) (world : World) :
    (advance request world .persisted).1 = world ∨
      advance request world .persisted =
        ({ world with audits := world.audits ++ [request.acceptedRow] }, .audited) := by
  rw [advance]
  rcases settleStage_cases world .audited (auditAccepted world request) with
    ⟨committed, moved, success⟩ | moved
  · rw [moved]
    rcases (auditAccepted_cases success).2.2 with ⟨_, same⟩ | ⟨_, _, appended⟩
    · exact Or.inl same
    · exact Or.inr (by rw [appended])
  · rw [moved]
    exact Or.inl rfl

end Audits

section Foreign

variable {tenantId : String} {request : Request}

theorem storeFinding_foreign (foreign : request.principal.tenantId ≠ tenantId) (world : World) :
    SameView tenantId (storeFinding world request) world := by
  unfold storeFinding
  split
  · exact .refl tenantId world
  · refine ⟨rfl, ?_, rfl, rfl⟩
    intro findingId
    constructor
    · rintro ⟨row, member, key⟩
      rcases List.mem_append.mp member with old | new
      · exact ⟨row, old, key⟩
      · rw [List.mem_singleton.mp new] at key
        exact absurd (congrArg Prod.fst key) foreign
    · rintro ⟨row, member, key⟩
      exact ⟨row, List.mem_append_left _ member, key⟩

/-- Nothing another tenant's request does is visible to the tenant. -/
theorem advance_foreign (foreign : request.principal.tenantId ≠ tenantId) (world : World)
    (stage : Stage) : SameView tenantId (advance request world stage).1 world := by
  cases stage with
  | received =>
      rcases advance_received request world with ⟨moved, _⟩ | ⟨moved, _⟩
      · rw [moved]
        exact .refl tenantId world
      · rw [moved]
        exact .refl tenantId world
  | checked =>
      by_cases goes : insertable world request = true
      · rw [advance, insertFinding_stored goes]
        exact storeFinding_foreign foreign world
      · obtain ⟨fault, stopped⟩ := insertFinding_refused (Bool.not_eq_true _ ▸ goes)
        rw [advance, stopped]
        exact .refl tenantId world
  | persisted =>
      rcases advance_persisted request world with same | appended
      · rw [same]
        exact .refl tenantId world
      · rw [appended]
        refine ⟨rfl, fun _ => Iff.rfl, ?_, rfl⟩
        have apart : (request.acceptedRow.tenantId == tenantId) = false := beq_false_of_ne foreign
        simp [tenantAudits, List.filter_append, apart]
  | audited =>
      refine ⟨rfl, fun _ => Iff.rfl, rfl, ?_⟩
      have apart : (request.session.tenantId == tenantId) = false := beq_false_of_ne foreign
      simp [advance, enqueue, tenantSessions, List.filter_append, apart]
  | answered content => exact .refl tenantId world
  | failed => exact .refl tenantId world

end Foreign

section Own

variable {tenantId : String} {request other : Request} {world otherWorld : World}

theorem SameSubmission.symm (same : SameSubmission request other) : SameSubmission other request :=
  ⟨same.principal.symm, same.finding.symm, same.payloadSha.symm, same.correlationId.symm⟩

theorem SameSubmission.row (same : SameSubmission request other) :
    other.row = { request.row with receivedAt := other.acceptedAt } := by
  simp only [Request.row, same.principal, same.finding, same.payloadSha]

theorem SameSubmission.key (same : SameSubmission request other) : other.key = request.key := by
  simp only [Request.key, same.principal, same.finding]

theorem SameSubmission.tenant (same : SameSubmission request other) :
    other.principal.tenantId = request.principal.tenantId := by
  rw [same.principal]

theorem SameSubmission.unstamped (same : SameSubmission request other) :
    unstamped other.acceptedRow = unstamped request.acceptedRow := by
  simp only [Ingest.unstamped, Request.acceptedRow, AuditEvent.row, Request.acceptedEvent,
    same.principal, same.finding, same.correlationId]

theorem SameSubmission.session (same : SameSubmission request other) :
    unstampedSession other.session = unstampedSession request.session := by
  simp only [unstampedSession, Request.session, same.principal, same.finding, same.correlationId]

theorem SameSubmission.checked (same : SameSubmission request other) (named : request.eventId ≠ "")
    (otherNamed : other.eventId ≠ "") :
    other.acceptedRow.checked = request.acceptedRow.checked := by
  simp only [AuditRow.checked, Request.acceptedRow, AuditEvent.row, Request.acceptedEvent,
    same.principal, same.correlationId, bne_iff_ne.mpr named, bne_iff_ne.mpr otherNamed]

theorem SameSubmission.ownClaim (same : SameSubmission request other)
    (owner : request.principal.tenantId = tenantId) (view : SameView tenantId world otherWorld) :
    OwnClaim otherWorld other ↔ OwnClaim world request := by
  rw [OwnClaim, OwnClaim, same.tenant, same.correlationId, owner, view.audits]

theorem SameSubmission.storable (same : SameSubmission request other)
    (view : SameView tenantId world otherWorld) (named : request.eventId ≠ "")
    (otherNamed : other.eventId ≠ "") : storable otherWorld other = storable world request := by
  rw [Ingest.storable, Ingest.storable, same.tenant, same.checked named otherNamed, view.tenants]

theorem any_key_iff {findings : List FindingRow} {key : String × String} :
    findings.any (·.key == key) = true ↔ ∃ row ∈ findings, row.key = key := by
  simp only [List.any_eq_true, beq_iff_eq]

theorem SameSubmission.known (same : SameSubmission request other)
    (owner : request.principal.tenantId = tenantId) (view : SameView tenantId world otherWorld) :
    otherWorld.findings.any (·.key == other.row.key) =
      world.findings.any (·.key == request.row.key) := by
  have key : request.row.key = (tenantId, request.finding.findingId.val) := by
    rw [← owner]
    rfl
  have otherKey : other.row.key = request.row.key := same.key
  rw [otherKey, key, Bool.eq_iff_iff, any_key_iff, any_key_iff]
  exact (view.findings _).symm

theorem SameSubmission.insertable (same : SameSubmission request other)
    (owner : request.principal.tenantId = tenantId) (view : SameView tenantId world otherWorld) :
    insertable otherWorld other = insertable world request := by
  have checked : other.row.checked = request.row.checked := by
    rw [same.row]
    rfl
  rw [Ingest.insertable, Ingest.insertable, same.known owner view, checked, same.tenant, view.tenants]

theorem storeFinding_own (same : SameSubmission request other)
    (owner : request.principal.tenantId = tenantId) (view : SameView tenantId world otherWorld) :
    SameView tenantId (storeFinding world request) (storeFinding otherWorld other) := by
  unfold storeFinding
  rw [same.known owner view]
  split
  · exact view
  · refine ⟨view.tenants, ?_, view.audits, view.sessions⟩
    intro findingId
    have key : other.row.key = request.row.key := same.key
    have seen := view.findings findingId
    simp only [List.mem_append, List.mem_singleton, or_and_right, exists_or, exists_eq_left, key]
    rw [seen]

theorem tenantAudits_append (owner : request.principal.tenantId = tenantId) (world : World) :
    tenantAudits tenantId { world with audits := world.audits ++ [request.acceptedRow] } =
      tenantAudits tenantId world ++ [unstamped request.acceptedRow] := by
  have own : (request.acceptedRow.tenantId == tenantId) = true := beq_iff_eq.mpr owner
  simp [tenantAudits, List.filter_append, own]

theorem tenantSessions_enqueue (owner : request.principal.tenantId = tenantId) (world : World) :
    tenantSessions tenantId (enqueue world request) =
      tenantSessions tenantId world ++ [unstampedSession request.session] := by
  have own : (request.session.tenantId == tenantId) = true := beq_iff_eq.mpr owner
  simp [tenantSessions, enqueue, List.filter_append, own]

/-- Either both audit writes of the tenant go through, or neither does. -/
theorem auditAccepted_own (same : SameSubmission request other)
    (owner : request.principal.tenantId = tenantId) (view : SameView tenantId world otherWorld)
    (named : request.eventId ≠ "") (otherNamed : other.eventId ≠ "")
    (unused : ∀ row ∈ otherWorld.audits, row.eventId ≠ other.eventId)
    (hits : (storable world request && hidden world request) =
      (storable otherWorld other && hidden otherWorld other))
    {next : World} (success : auditAccepted world request = .ok next) :
    ∃ otherNext, auditAccepted otherWorld other = .ok otherNext ∧ SameView tenantId next otherNext := by
  obtain ⟨tenant, checked, outcome⟩ := auditAccepted_cases success
  by_cases own : OwnClaim world request
  · have kept : next = world := by
      have coalesced := auditAccepted_coalesced tenant checked own
      rw [success] at coalesced
      exact Except.ok.inj coalesced
    refine ⟨otherWorld, ?_, kept ▸ view⟩
    apply auditAccepted_coalesced
    · rw [same.tenant]
      exact tenant
    · rw [same.checked named otherNamed]
      exact checked
    · exact (same.ownClaim owner view).mpr own
  · rcases outcome with ⟨claimed, _⟩ | ⟨holds, free, appended⟩
    · exact absurd claimed own
    · have otherHolds : storable otherWorld other = true := by
        rw [same.storable view named otherNamed]
        exact holds
      have otherFree : hidden otherWorld other = false := by
        rw [holds, free, otherHolds, Bool.and_false, Bool.true_and] at hits
        exact hits.symm
      have unowned : ¬ OwnClaim otherWorld other := fun claim =>
        own ((same.ownClaim owner view).mp claim)
      refine ⟨_, auditAccepted_stored otherHolds otherFree unowned unused, ?_⟩
      rw [appended]
      refine ⟨view.tenants, view.findings, ?_, view.sessions⟩
      rw [tenantAudits_append owner, tenantAudits_append (same.tenant.trans owner), view.audits,
        same.unstamped]

theorem SameSubmission.seen (same : SameSubmission request other)
    (owner : request.principal.tenantId = tenantId) (view : SameView tenantId world otherWorld) :
    Seen otherWorld.findings other.key ↔ Seen world.findings request.key := by
  have key : request.key = (tenantId, request.finding.findingId.val) := by
    rw [← owner]
    rfl
  rw [same.key, key, Seen, Seen, view.findings]

/-- The next transaction of the tenant's request does the same in both histories, unless the row
of another tenant stops it in one of them. -/
theorem advance_own {stage otherStage : Stage} (same : SameSubmission request other)
    (owner : request.principal.tenantId = tenantId) (view : SameView tenantId world otherWorld)
    (named : request.eventId ≠ "") (otherNamed : other.eventId ≠ "")
    (unused : stage = .persisted → ∀ row ∈ world.audits, row.eventId ≠ request.eventId)
    (otherUnused : otherStage = .persisted → ∀ row ∈ otherWorld.audits, row.eventId ≠ other.eventId)
    (alike : Alike stage otherStage)
    (hits : blocked request world stage = blocked other otherWorld otherStage) :
    Alike (advance request world stage).2 (advance other otherWorld otherStage).2 ∧
      SameView tenantId (advance request world stage).1 (advance other otherWorld otherStage).1 := by
  cases alike with
  | received =>
      have seen := same.seen owner view
      rcases advance_received request world with ⟨moved, known⟩ | ⟨moved, unknown⟩
      · rcases advance_received other otherWorld with ⟨otherMoved, _⟩ | ⟨_, unknown⟩
        · rw [moved, otherMoved]
          exact ⟨.answered _ _, view⟩
        · exact absurd (seen.mpr known) unknown
      · rcases advance_received other otherWorld with ⟨_, known⟩ | ⟨otherMoved, _⟩
        · exact absurd (seen.mp known) unknown
        · rw [moved, otherMoved]
          exact ⟨.checked, view⟩
  | checked =>
      have both := same.insertable owner view
      by_cases goes : insertable world request = true
      · rw [advance, advance, insertFinding_stored goes, insertFinding_stored (both.trans goes)]
        exact ⟨.persisted, storeFinding_own same owner view⟩
      · have stops : insertable world request = false := Bool.not_eq_true _ ▸ goes
        obtain ⟨fault, failed⟩ := insertFinding_refused stops
        obtain ⟨otherFault, otherFailed⟩ := insertFinding_refused (both.trans stops)
        rw [advance, advance, failed, otherFailed]
        exact ⟨.failed, view⟩
  | persisted =>
      simp only [blocked, decide_true, Bool.true_and] at hits
      rw [advance, advance]
      cases outcome : auditAccepted world request with
      | ok next =>
          obtain ⟨otherNext, otherOutcome, after⟩ := auditAccepted_own same owner view named
            otherNamed (otherUnused rfl) hits outcome
          rw [otherOutcome]
          exact ⟨.audited, after⟩
      | error failure =>
          cases otherOutcome : auditAccepted otherWorld other with
          | ok otherNext =>
              obtain ⟨next, success, _⟩ := auditAccepted_own same.symm (same.tenant.trans owner)
                view.symm otherNamed named (unused rfl) hits.symm otherOutcome
              rw [outcome] at success
              cases success
          | error otherFailure => exact ⟨.failed, view⟩
  | audited =>
      refine ⟨.answered _ _, view.tenants, view.findings, view.audits, ?_⟩
      have mine := tenantSessions_enqueue owner world
      have others := tenantSessions_enqueue (same.tenant.trans owner) otherWorld
      rw [advance, advance, mine, others, view.sessions, same.session]
  | answered content otherContent => exact ⟨.answered _ _, view⟩
  | failed => exact ⟨.failed, view⟩

/-- A write that meets the row of another tenant fails; one that does not goes through. -/
theorem advance_blocked {stage : Stage} (hit : blocked request world stage = true) :
    advance request world stage = (world, .failed) := by
  simp only [blocked, Bool.and_eq_true, decide_eq_true_eq] at hit
  obtain ⟨⟨persisted, _⟩, behind⟩ := hit
  rw [persisted, advance]
  cases outcome : auditAccepted world request with
  | error failure => rfl
  | ok next =>
      obtain ⟨_, _, ⟨own, _⟩ | ⟨_, free, _⟩⟩ := auditAccepted_cases outcome
      · exact absurd own (hidden_iff.mp behind).2
      · rw [behind] at free
        cases free

theorem advance_unblocked {stage otherStage : Stage} (same : SameSubmission request other)
    (owner : request.principal.tenantId = tenantId) (view : SameView tenantId world otherWorld)
    (named : request.eventId ≠ "") (otherNamed : other.eventId ≠ "")
    (unused : otherStage = .persisted → ∀ row ∈ otherWorld.audits, row.eventId ≠ other.eventId)
    (alike : Alike stage otherStage) (hit : blocked request world stage = true)
    (miss : blocked other otherWorld otherStage = false) :
    (advance other otherWorld otherStage).2 = .audited := by
  simp only [blocked, Bool.and_eq_true, decide_eq_true_eq] at hit
  obtain ⟨⟨persisted, holds⟩, behind⟩ := hit
  rw [persisted] at alike
  cases alike
  have otherHolds : storable otherWorld other = true := by
    rw [same.storable view named otherNamed]
    exact holds
  have unowned : ¬ OwnClaim otherWorld other := fun claim =>
    (hidden_iff.mp behind).2 ((same.ownClaim owner view).mp claim)
  have free : hidden otherWorld other = false := by
    simpa [blocked, otherHolds] using miss
  rw [advance, auditAccepted_stored otherHolds free unowned (unused rfl)]
  rfl

end Own

end CollectMind.Ingest
