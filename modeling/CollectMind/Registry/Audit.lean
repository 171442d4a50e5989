import CollectMind.Library.Json
import CollectMind.Registry.Isolation

set_option autoImplicit false

/- `AuditEventWriter` of registry/audit.py over the table `audit_events`, with the
uniqueness of (correlation_id, kind) that migration 016 adds. -/
namespace CollectMind.Registry

open Python RowSecurity

/-- The kinds that migration 013 admits. -/
inductive AuditKind where
  | accepted
  | rejected
  | generated
  | validated
  | deployed
  | outcome
  | erasure
  | breakGlass
  | tenantConfigChange
  | deploymentRejected
  | vehicleAssignmentChange
  deriving DecidableEq, Repr

def AuditKind.text : AuditKind → String
  | .accepted => "accepted"
  | .rejected => "rejected"
  | .generated => "generated"
  | .validated => "validated"
  | .deployed => "deployed"
  | .outcome => "outcome"
  | .erasure => "erasure"
  | .breakGlass => "break_glass"
  | .tenantConfigChange => "tenant_config_change"
  | .deploymentRejected => "deployment_rejected"
  | .vehicleAssignmentChange => "vehicle_assignment_change"

/-- The generator's own columns, all required of a `generated` row. -/
structure SlmColumns where
  slmRepo : Option String := none
  slmRevisionSha : Option String := none
  slmRuntime : Option String := none
  slmRuntimeVersion : Option String := none
  slmQuantization : Option String := none
  slmDecodingSeed : Option Int := none
  promptTemplateVersion : Option String := none

structure AuditRow where
  eventId : String
  tenantId : String
  kind : AuditKind
  originatingFinding : Option Dict
  policyRef : Option Dict
  deploymentRef : Option Dict
  outcomeRef : Option Dict
  slm : SlmColumns
  inboundSchemaVersion : Option String
  timeAccelerationFactor : Option Rat
  principalSubject : String
  correlationId : String
  occurredAt : Nat

/-- The arguments of `write`. -/
structure AuditEvent where
  tenantId : String
  kind : AuditKind
  correlationId : String
  principalSubject : String
  originatingFinding : Option Dict := none
  policyRef : Option Dict := none
  deploymentRef : Option Dict := none
  outcomeRef : Option Dict := none
  error : Option Dict := none
  slm : SlmColumns := {}
  inboundSchemaVersion : Option String := none
  timeAccelerationFactor : Option Rat := none

/-- The columns of `slm` that are NULL, in the order the writer lists them. -/
def SlmColumns.missing (slm : SlmColumns) : List String :=
  [("slm_repo", slm.slmRepo.isNone), ("slm_revision_sha", slm.slmRevisionSha.isNone),
    ("slm_runtime", slm.slmRuntime.isNone), ("slm_runtime_version", slm.slmRuntimeVersion.isNone),
    ("slm_quantization", slm.slmQuantization.isNone),
    ("slm_decoding_seed", slm.slmDecodingSeed.isNone),
    ("prompt_template_version", slm.promptTemplateVersion.isNone)].filterMap
      fun column => if column.2 then some column.1 else none

/-- `_KIND_MIN_FIELDS`. -/
def kindMinFields : AuditKind → List String
  | .breakGlass => ["operator_principal_subject", "tenant_scope", "reason_code"]
  | .tenantConfigChange => ["service_principal_subject", "target_tenant_id"]
  | .deploymentRejected =>
    ["policy_ref", "target_vehicle_id", "policy_declared_tenant_id", "vehicle_owning_tenant_id"]
  | .vehicleAssignmentChange =>
    ["service_principal_subject", "vehicle_id", "new_tenant_id", "reason_code"]
  | _ => []

def AuditEvent.missing (event : AuditEvent) : List String :=
  match event.kind with
  | .generated => event.slm.missing
  | kind => (kindMinFields kind).filter fun field =>
    !(event.originatingFinding.getD []).hasKey field

/-- `json.dumps(value) if value else None`. -/
def jsonColumn (value : Option Dict) : Option Dict :=
  value.filter fun dict => !dict.isEmpty

def AuditEvent.row (event : AuditEvent) (eventId : String) (now : Nat) : AuditRow where
  eventId := eventId
  tenantId := event.tenantId
  kind := event.kind
  originatingFinding :=
    let finding := event.originatingFinding.getD []
    jsonColumn (some (event.error.elim finding fun error =>
      finding.setDefault "_extras" (.obj [("error", .obj error)])))
  policyRef := jsonColumn event.policyRef
  deploymentRef := jsonColumn event.deploymentRef
  outcomeRef := jsonColumn event.outcomeRef
  slm := event.slm
  inboundSchemaVersion := event.inboundSchemaVersion
  timeAccelerationFactor := event.timeAccelerationFactor
  principalSubject := event.principalSubject
  correlationId := event.correlationId
  occurredAt := now

/-- The `CHECK` constraints of migration 008. -/
def AuditRow.checked (row : AuditRow) : Bool :=
  row.eventId != "" && row.principalSubject != "" && row.correlationId != "" &&
    (row.kind != .generated || row.slm.missing.isEmpty)

/-- The unique key (correlation_id, kind). -/
def sameEvent (new row : AuditRow) : Bool :=
  row.correlationId == new.correlationId && row.kind == new.kind

def auditColumns : Columns AuditRow := ⟨fun row => some row.tenantId, fun _ => none, fun _ => none⟩

def auditTable : Table Settings AuditRow := table auditColumns .auditEvents

/-- `INSERT ... ON CONFLICT (correlation_id, kind) DO NOTHING`. Keys and references are
checked of a row that is stored, `CHECK` constraints of any. -/
def insertAudit (tenants : List String) (access : Access Settings) (rows : List AuditRow)
    (new : AuditRow) : Except Fault (List AuditRow) := do
  let next ← insertRow auditTable access (.doNothing sameEvent) rows new
  if !new.checked then .error .constraint
  else if rows.any (sameEvent new) then .ok next
  else if rows.any (fun row => row.eventId == new.eventId) || !tenants.contains new.tenantId then
    .error .constraint
  else .ok next

/-- The table takes the row as a new one: constraints, keys and reference. -/
def storable (tenants : List String) (rows : List AuditRow) (row : AuditRow) : Bool :=
  row.checked && !rows.any (sameEvent row) &&
    !rows.any (fun other => other.eventId == row.eventId) && tenants.contains row.tenantId

/-- The new row that comes of a row sent to the table. -/
def filed (tenants : List String) (rows : List AuditRow) (sent : Option AuditRow) :
    Option AuditRow :=
  sent.filter (storable tenants rows)

inductive AuditError where
  | missingFields (kind : AuditKind) (fields : List String)
  | database (fault : Fault)
  | noRow (correlationId : String) (kind : AuditKind)
  deriving DecidableEq, Repr

/-- `str(exc)`; the text of a database error is the driver's. -/
def AuditError.message (driver : Fault → String) : AuditError → String
  | .missingFields kind fields =>
    "audit kind=" ++ kind.text ++ " missing required fields: [" ++
      String.intercalate ", " (fields.map fun field => "'" ++ field ++ "'") ++ "]"
  | .database fault => driver fault
  | .noRow correlationId kind =>
    "audit upsert returned no row and no existing row for (correlation_id=" ++ correlationId ++
      ", kind=" ++ kind.text ++ ")"

/-- The row that `write` sends to the table; the policies refuse one without a tenant. -/
def AuditEvent.sent (event : AuditEvent) (eventId : String) (now : Nat) : Option AuditRow :=
  if event.missing = [] ∧ event.tenantId ≠ "" then some (event.row eventId now) else none

/-- `AuditEventWriter.write` inside its transaction: the table after it and the id of the
row that stands for the event. -/
def write (tenants : List String) (rows : List AuditRow) (event : AuditEvent) (eventId : String)
    (now : Nat) : Except AuditError (List AuditRow × String) :=
  if event.missing ≠ [] then .error (.missingFields event.kind event.missing)
  else
    let access := tenantAccess event.tenantId
    let new := event.row eventId now
    match insertAudit tenants access rows new with
    | .error fault => .error (.database fault)
    | .ok next =>
      if rows.any (sameEvent new) then
        match (visible auditTable access next).find? (sameEvent new) with
        | some existing => .ok (next, existing.eventId)
        | none => .error (.noRow event.correlationId event.kind)
      else .ok (next, eventId)

theorem sameEvent_iff {new row : AuditRow} :
    sameEvent new row = true ↔ row.correlationId = new.correlationId ∧ row.kind = new.kind := by
  simp [sameEvent]

theorem generated_or_missing {event : AuditEvent} (complete : event.missing = []) :
    event.kind ≠ .generated ∨ event.slm.missing = [] := by
  by_cases generated : event.kind = .generated
  · right
    rwa [AuditEvent.missing, generated] at complete
  · exact Or.inl generated

theorem row_checked_iff {event : AuditEvent} (complete : event.missing = []) (eventId : String)
    (now : Nat) :
    (event.row eventId now).checked = true ↔
      eventId ≠ "" ∧ event.principalSubject ≠ "" ∧ event.correlationId ≠ "" := by
  simp only [AuditRow.checked, AuditEvent.row, Bool.and_eq_true, Bool.or_eq_true, bne_iff_ne,
    List.isEmpty_iff, generated_or_missing complete, and_true, and_assoc]

theorem storable_iff {tenants : List String} {rows : List AuditRow} {row : AuditRow} :
    storable tenants rows row = true ↔
      row.checked = true ∧ rows.any (sameEvent row) = false ∧
        (∀ other ∈ rows, other.eventId ≠ row.eventId) ∧ row.tenantId ∈ tenants := by
  have fresh : rows.any (fun other => other.eventId == row.eventId) = false ↔
      ∀ other ∈ rows, other.eventId ≠ row.eventId := by
    simp [List.any_eq_false]
  simp only [storable, Bool.and_eq_true, Bool.not_eq_true', List.contains_iff_mem, and_assoc, fresh]

theorem filed_eq_some {tenants : List String} {rows : List AuditRow} {sent : Option AuditRow}
    {row : AuditRow} :
    filed tenants rows sent = some row ↔ sent = some row ∧ storable tenants rows row = true :=
  Option.filter_eq_some_iff

/-- What an insert under a tenant's access stores: the new row, unless one with its key is
there already. -/
theorem insertAudit_ok {tenants : List String} {access : Access Settings}
    {rows next : List AuditRow} {new : AuditRow}
    (success : insertAudit tenants access rows new = .ok next) :
    new.checked = true ∧
    ((rows.any (sameEvent new) = true ∧ next = rows) ∨
      (rows.any (sameEvent new) = false ∧ next = rows ++ [new] ∧ new.tenantId ∈ tenants ∧
        ∀ row ∈ rows, row.eventId ≠ new.eventId)) := by
  rw [insertAudit, Checked.bind_ok_iff] at success
  obtain ⟨inserted, stored, settled⟩ := success
  have stores := insertRow_doNothing_ok stored
  cases checked : new.checked with
  | false =>
      rw [checked] at settled
      cases settled
  | true =>
      refine ⟨rfl, ?_⟩
      cases conflict : rows.any (sameEvent new) with
      | true =>
          rw [conflict, if_pos rfl] at stores
          simp only [checked, conflict, Bool.not_true, Bool.false_eq_true, ↓reduceIte] at settled
          cases settled
          exact Or.inl ⟨rfl, stores⟩
      | false =>
          rw [conflict, if_neg Bool.false_ne_true] at stores
          simp only [checked, conflict, Bool.not_true, Bool.false_eq_true, ↓reduceIte] at settled
          split at settled
          · cases settled
          · rename_i known
            cases settled
            simp only [Bool.or_eq_true, not_or, Bool.not_eq_true', Bool.not_eq_false,
              List.any_eq_true, not_exists, not_and, beq_iff_eq, List.contains_iff_mem] at known
            exact Or.inr ⟨rfl, stores, known.2, known.1⟩

/-- A row that the policies admit and the table takes is appended. -/
theorem insertAudit_storable {tenants : List String} {access : Access Settings}
    {rows : List AuditRow} {new : AuditRow}
    (admitted : access.enforced = true →
      admitsCheck auditTable.policies .insert access.context new = true)
    (takes : storable tenants rows new = true) :
    insertAudit tenants access rows new = .ok (rows ++ [new]) := by
  obtain ⟨checked, free, fresh, known⟩ := storable_iff.mp takes
  have newId : rows.any (fun row => row.eventId == new.eventId) = false := by
    simpa [List.any_eq_false] using fresh
  have registered : tenants.contains new.tenantId = true := List.contains_iff_mem.mpr known
  have lawful : (access.enforced && !admitsCheck auditTable.policies .insert access.context new) =
      false := by
    cases enforced : access.enforced with
    | false => rfl
    | true => rw [admitted enforced]; rfl
  rw [insertAudit, Checked.bind_ok_iff]
  refine ⟨rows ++ [new], ?_, ?_⟩
  · simp only [insertRow, lawful, free, Bool.false_eq_true, ↓reduceIte]
  · simp only [checked, free, newId, registered, Bool.not_true, Bool.or_false, Bool.false_eq_true,
      ↓reduceIte]

/-- An insert that no policy stands in the way of files the row, if the table takes it. -/
theorem insertAudit_filed {tenants : List String} {access : Access Settings}
    {rows : List AuditRow} {new : AuditRow}
    (admitted : access.enforced = true →
      admitsCheck auditTable.policies .insert access.context new = true) :
    (insertAudit tenants access rows new).toOption.getD rows =
      rows ++ (filed tenants rows (some new)).toList := by
  cases takes : storable tenants rows new with
  | true =>
      rw [insertAudit_storable admitted takes, filed_eq_some.mpr ⟨rfl, takes⟩]
      rfl
  | false =>
      have nothing : filed tenants rows (some new) = none := by simp [filed, takes]
      rw [nothing, Option.toList_none, List.append_nil]
      cases inserted : insertAudit tenants access rows new with
      | error fault => rfl
      | ok next =>
          obtain ⟨checked, ⟨_, unchanged⟩ | ⟨free, _, known, fresh⟩⟩ := insertAudit_ok inserted
          · exact unchanged
          · rw [storable_iff.mpr ⟨checked, free, fresh, known⟩] at takes
            cases takes

/-- All that a successful `write` can have done: store the event's row, or find a row of
the same tenant with the same key and leave the table alone. -/
theorem write_ok {tenants : List String} {rows next : List AuditRow} {event : AuditEvent}
    {eventId stored : String} {now : Nat}
    (success : write tenants rows event eventId now = .ok (next, stored)) :
    event.missing = [] ∧ (event.row eventId now).checked = true ∧
    ((rows.any (sameEvent (event.row eventId now)) = false ∧
        next = rows ++ [event.row eventId now] ∧ stored = eventId) ∨
      ∃ existing ∈ rows, existing.correlationId = event.correlationId ∧
        existing.kind = event.kind ∧ existing.tenantId = event.tenantId ∧ next = rows ∧
        stored = existing.eventId) := by
  unfold write at success
  split at success
  · cases success
  · rename_i complete
    refine ⟨not_not.mp complete, ?_⟩
    dsimp only at success
    split at success
    · cases success
    · rename_i inserted insertion
      obtain ⟨checked, outcome⟩ := insertAudit_ok insertion
      refine ⟨checked, ?_⟩
      rcases outcome with ⟨conflict, rfl⟩ | ⟨free, rfl, _⟩
      · rw [if_pos conflict] at success
        split at success
        · rename_i existing found
          cases success
          have same := sameEvent_iff.mp (List.find?_some found)
          have seen := List.mem_of_find?_eq_some found
          rw [auditTable, mem_visible_tenantAccess auditColumns (by decide)] at seen
          obtain ⟨member, _, owner⟩ := seen
          exact Or.inr ⟨existing, member, same.1, same.2, Option.some.inj owner, rfl, rfl⟩
        · cases success
      · rw [if_neg (by simp [free])] at success
        cases success
        exact Or.inl ⟨free, rfl, rfl⟩

/-- An event's row passes the row security of its own tenant, if that has a name. -/
theorem admitsCheck_event (event : AuditEvent) (eventId : String) (now : Nat) :
    admitsCheck auditTable.policies .insert (tenantAccess event.tenantId).context
      (event.row eventId now) = true ↔ event.tenantId ≠ "" := by
  rw [auditTable, admitsCheck_iff (by decide) (tenantAccess_tenant _)]
  exact ⟨fun admitted => admitted.1, fun tenant => ⟨tenant, rfl⟩⟩

/-- A complete event of a known tenant with a new id and a free key is stored. -/
theorem write_fresh {tenants : List String} {rows : List AuditRow} {event : AuditEvent}
    {eventId : String} {now : Nat} (complete : event.missing = [])
    (checked : (event.row eventId now).checked = true) (tenant : event.tenantId ≠ "")
    (known : event.tenantId ∈ tenants) (unique : ∀ row ∈ rows, row.eventId ≠ eventId)
    (free : rows.any (sameEvent (event.row eventId now)) = false) :
    write tenants rows event eventId now = .ok (rows ++ [event.row eventId now], eventId) := by
  have admitted := (admitsCheck_event event eventId now).mpr tenant
  have inserted : insertAudit tenants (tenantAccess event.tenantId) rows (event.row eventId now) =
      .ok (rows ++ [event.row eventId now]) :=
    insertAudit_storable (fun _ => admitted) (storable_iff.mpr ⟨checked, free, unique, known⟩)
  rw [write, if_neg (not_not.mpr complete)]
  simp only [inserted, free, Bool.false_eq_true, ↓reduceIte]

/-- The tenant of a row that is written has a name, and if the row is new the tenant is registered
and the row's id has not been used. -/
theorem write_ok_tenant {tenants : List String} {rows next : List AuditRow} {event : AuditEvent}
    {eventId stored : String} {now : Nat}
    (success : write tenants rows event eventId now = .ok (next, stored)) :
    event.tenantId ≠ "" ∧
      (rows.any (sameEvent (event.row eventId now)) = false →
        event.tenantId ∈ tenants ∧ ∀ row ∈ rows, row.eventId ≠ eventId) := by
  unfold write at success
  split at success
  · cases success
  · dsimp only at success
    split at success
    · cases success
    · rename_i inserted insertion
      have stores := insertAudit_ok insertion
      rw [insertAudit, Checked.bind_ok_iff] at insertion
      obtain ⟨_, stored, _⟩ := insertion
      have admitted := insertRow_admitted (tenantAccess_enforced _) stored
      rw [admitsCheck_event] at admitted
      refine ⟨admitted, ?_⟩
      intro free
      rcases stores.2 with ⟨conflict, _⟩ | ⟨_, _, known, unique⟩
      · rw [free] at conflict
        cases conflict
      · exact ⟨known, unique⟩

/-- Under a free key, these are the conditions on which an event is written. -/
theorem write_free_iff {tenants : List String} {rows next : List AuditRow} {event : AuditEvent}
    {eventId stored : String} {now : Nat}
    (free : rows.any (sameEvent (event.row eventId now)) = false) :
    write tenants rows event eventId now = .ok (next, stored) ↔
      (event.missing = [] ∧ (event.row eventId now).checked = true ∧ event.tenantId ≠ "" ∧
        event.tenantId ∈ tenants ∧ ∀ row ∈ rows, row.eventId ≠ eventId) ∧
      next = rows ++ [event.row eventId now] ∧ stored = eventId := by
  constructor
  · intro success
    obtain ⟨tenant, new⟩ := write_ok_tenant success
    obtain ⟨known, unique⟩ := new free
    obtain ⟨complete, checked, outcome⟩ := write_ok success
    refine ⟨⟨complete, checked, tenant, known, unique⟩, ?_⟩
    rcases outcome with ⟨_, appended, sameId⟩ | ⟨existing, member, correlation, kind, _⟩
    · exact ⟨appended, sameId⟩
    · have clash := List.any_eq_false.mp free existing member
      exact absurd (sameEvent_iff.mpr ⟨correlation, kind⟩) clash
  · rintro ⟨⟨complete, checked, tenant, known, unique⟩, rfl, rfl⟩
    exact write_fresh complete checked tenant known unique free

/-- A complete event whose key the tenant itself holds changes nothing. -/
theorem write_coalesces {tenants : List String} {rows : List AuditRow} {event : AuditEvent}
    {eventId : String} {now : Nat} (complete : event.missing = [])
    (checked : (event.row eventId now).checked = true) (tenant : event.tenantId ≠ "")
    (own : ∃ existing ∈ rows, sameEvent (event.row eventId now) existing = true ∧
      existing.tenantId = event.tenantId) :
    ∃ stored, write tenants rows event eventId now = .ok (rows, stored) := by
  obtain ⟨existing, member, same, owner⟩ := own
  have admitted := (admitsCheck_event event eventId now).mpr tenant
  have conflict : rows.any (sameEvent (event.row eventId now)) = true :=
    List.any_eq_true.mpr ⟨existing, member, same⟩
  have inserted : insertAudit tenants (tenantAccess event.tenantId) rows (event.row eventId now) =
      .ok rows := by
    rw [insertAudit, Checked.bind_ok_iff]
    refine ⟨rows, ?_, ?_⟩
    · simp only [insertRow, admitted, conflict, Bool.not_true, Bool.and_false, Bool.false_eq_true,
        ↓reduceIte]
    · simp only [checked, conflict, Bool.not_true, Bool.false_eq_true, ↓reduceIte]
  have seen : existing ∈ visible auditTable (tenantAccess event.tenantId) rows := by
    rw [auditTable, mem_visible_tenantAccess auditColumns (by decide)]
    exact ⟨member, tenant, congrArg some owner⟩
  rw [write, if_neg (not_not.mpr complete)]
  simp only [inserted, conflict, ↓reduceIte]
  cases found : (visible auditTable (tenantAccess event.tenantId) rows).find?
      (sameEvent (event.row eventId now)) with
  | none => exact absurd same (List.find?_eq_none.mp found existing seen)
  | some row => exact ⟨row.eventId, rfl⟩

/-- A call of `write` files what it sends, if the table takes it, and nothing else. -/
theorem write_filed (tenants : List String) (rows : List AuditRow) (event : AuditEvent)
    (eventId : String) (now : Nat) :
    ((write tenants rows event eventId now).toOption.map Prod.fst).getD rows =
      rows ++ (filed tenants rows (event.sent eventId now)).toList := by
  cases found : filed tenants rows (event.sent eventId now) with
  | some row =>
      obtain ⟨sent, takes⟩ := filed_eq_some.mp found
      obtain ⟨⟨complete, tenant⟩, same⟩ := Option.ite_none_right_eq_some.mp sent
      cases same
      obtain ⟨checked, free, fresh, known⟩ := storable_iff.mp takes
      rw [write_fresh complete checked tenant known fresh free]
      rfl
  | none =>
      rw [Option.toList_none, List.append_nil]
      cases written : write tenants rows event eventId now with
      | error error => rfl
      | ok result =>
          obtain ⟨tenant, new⟩ := write_ok_tenant written
          obtain ⟨complete, checked, ⟨free, _⟩ | ⟨_, _, _, _, _, unchanged, _⟩⟩ := write_ok written
          · have takes := storable_iff.mpr ⟨checked, free, (new free).2, (new free).1⟩
            have sent : event.sent eventId now = some (event.row eventId now) :=
              if_pos ⟨complete, tenant⟩
            rw [filed_eq_some.mpr ⟨sent, takes⟩] at found
            cases found
          · exact unchanged

end CollectMind.Registry
