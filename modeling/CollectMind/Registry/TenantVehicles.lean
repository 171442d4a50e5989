import CollectMind.Library.Calls
import CollectMind.Library.ChangeLog
import CollectMind.Library.Runs
import CollectMind.Registry.Audit

set_option autoImplicit false

/- `TenantVehiclesRepository` of registry/tenant_vehicles.py and the triggers of migration 015
behind it: who owns a vehicle now, who owned it before, and what the audit log says of it. -/
namespace CollectMind.Registry

open Python RowSecurity

def reasonCodes : List String :=
  ["initial_provisioning", "resale", "fleet_reassignment", "oem_handoff", "lease_return", "totaled",
    "other"]

/-- A row of `tenant_vehicles`. -/
structure VehicleRow where
  vehicleId : String
  tenantId : String
  assignedAt : Nat
  assignedBySubject : String
  reasonCode : String

def VehicleRow.checked (row : VehicleRow) : Bool :=
  row.vehicleId != "" && row.assignedBySubject != "" && reasonCodes.contains row.reasonCode

/-- A row of `tenant_vehicles_history`. -/
structure HistoryRow where
  historyId : Nat
  vehicleId : String
  prevTenantId : Option String
  newTenantId : String
  operatorSubject : String
  reasonCode : String
  transitionAt : Nat
  correlationId : String

def HistoryRow.checked (row : HistoryRow) : Bool :=
  row.operatorSubject != "" && reasonCodes.contains row.reasonCode && row.correlationId != ""

/-- The tables that an assignment writes, and the next number of `history_id`. -/
structure Fleet where
  tenants : List String
  vehicles : List VehicleRow
  history : List HistoryRow
  audits : List AuditRow
  nextHistoryId : Nat

/-- The arguments of `assign`. -/
structure Assignment where
  vehicleId : String
  tenantId : String
  assignedBySubject : String
  reasonCode : String

/-- What the triggers draw for a row: `event_id`, the random end of a correlation id, and the
time of the transaction. -/
structure Draws where
  eventId : String
  suffix : String
  now : Nat

def textOrNull : Option String → Json
  | some text => .str text
  | none => .null

/-- A trigger's `INSERT INTO audit_events`: row security does not apply to the service principal,
and a conflict is an error. -/
def appendAudit (tenants : List String) (audits : List AuditRow) (row : AuditRow) :
    Except Fault (List AuditRow) :=
  if !row.checked || audits.any (sameEvent row) ||
      audits.any (fun other => other.eventId == row.eventId) || !tenants.contains row.tenantId then
    .error .constraint
  else .ok (audits ++ [row])

def assignmentAudit (setting : Option String) (draws : Draws) (old : Option VehicleRow)
    (new : VehicleRow) : AuditRow where
  eventId := draws.eventId
  tenantId := new.tenantId
  kind := .vehicleAssignmentChange
  originatingFinding := some
    [("service_principal_subject", .str new.assignedBySubject), ("vehicle_id", .str new.vehicleId),
      ("prior_tenant_id", textOrNull (old.map (·.tenantId))), ("new_tenant_id", .str new.tenantId),
      ("reason_code", .str new.reasonCode)]
  policyRef := none
  deploymentRef := none
  outcomeRef := none
  slm := {}
  inboundSchemaVersion := none
  timeAccelerationFactor := none
  principalSubject := new.assignedBySubject
  correlationId := setting.getD ("vehicle-assignment-" ++ draws.eventId)
  occurredAt := draws.now

/-- `tenant_vehicles_audit_fn`; `setting` is `current_setting('app.correlation_id', true)`. -/
def tenantVehiclesAuditFn (setting : Option String) (draws : Draws) (old : Option VehicleRow)
    (new : VehicleRow) (fleet : Fleet) : Except Fault Fleet :=
  if old.map (·.tenantId) = some new.tenantId then .ok fleet
  else do
    let audits ← appendAudit fleet.tenants fleet.audits (assignmentAudit setting draws old new)
    return { fleet with audits := audits }

def assignmentHistory (setting : Option String) (draws : Draws) (old : Option VehicleRow)
    (new : VehicleRow) (historyId : Nat) : HistoryRow where
  historyId := historyId
  vehicleId := new.vehicleId
  prevTenantId := old.map (·.tenantId)
  newTenantId := new.tenantId
  operatorSubject := new.assignedBySubject
  reasonCode := new.reasonCode
  transitionAt := new.assignedAt
  correlationId := setting.getD ("vehicle-" ++ new.vehicleId ++ "-" ++ draws.suffix)

/-- `tenant_vehicles_history_fn`. -/
def tenantVehiclesHistoryFn (setting : Option String) (draws : Draws) (old : Option VehicleRow)
    (new : VehicleRow) (fleet : Fleet) : Except Fault Fleet :=
  if old.map (·.tenantId) = some new.tenantId then .ok fleet
  else
    let row := assignmentHistory setting draws old new fleet.nextHistoryId
    if !row.checked then .error .constraint
    else .ok { fleet with history := fleet.history ++ [row], nextHistoryId := fleet.nextHistoryId + 1 }

def findVehicle (vehicleId : String) (rows : List VehicleRow) : Option VehicleRow :=
  rows.find? fun row => row.vehicleId == vehicleId

/-- `INSERT ... ON CONFLICT (vehicle_id) DO UPDATE`. -/
def upsertVehicle (rows : List VehicleRow) (new : VehicleRow) : List VehicleRow :=
  match findVehicle new.vehicleId rows with
  | none => rows ++ [new]
  | some _ => rows.map fun row => if row.vehicleId = new.vehicleId then new else row

def Assignment.row (assignment : Assignment) (now : Nat) : VehicleRow where
  vehicleId := assignment.vehicleId
  tenantId := assignment.tenantId
  assignedAt := now
  assignedBySubject := assignment.assignedBySubject
  reasonCode := assignment.reasonCode

@[simp] theorem Assignment.row_vehicleId (assignment : Assignment) (now : Nat) :
    (assignment.row now).vehicleId = assignment.vehicleId := rfl

@[simp] theorem Assignment.row_tenantId (assignment : Assignment) (now : Nat) :
    (assignment.row now).tenantId = assignment.tenantId := rfl

/-- The statement of `assign` with the triggers that it fires, in the order of their names. -/
def assignStatement (setting : Option String) (fleet : Fleet) (assignment : Assignment)
    (draws : Draws) : Except Fault Fleet :=
  let old := findVehicle assignment.vehicleId fleet.vehicles
  let new := assignment.row draws.now
  if !new.checked || !fleet.tenants.contains new.tenantId then .error .constraint
  else do
    let written := { fleet with vehicles := upsertVehicle fleet.vehicles new }
    let audited ← tenantVehiclesAuditFn setting draws old new written
    tenantVehiclesHistoryFn setting draws old new audited

/-- One call of `assign`. The connection may fail, and `history_id` may skip numbers: those of an
aborted transaction are not given back. -/
structure AssignCall where
  assignment : Assignment
  setting : Option String
  draws : Draws
  fate : Calls.Fate Fault
  skipped : Nat

/-- `TenantVehiclesRepository.assign`. -/
def assign (fleet : Fleet) (call : AssignCall) : Fleet × Option Fault :=
  let (next, raised) := Calls.call call.fate
    (fun fleet => assignStatement call.setting fleet call.assignment call.draws) fleet
  ({ next with nextHistoryId := next.nextHistoryId + call.skipped }, raised)

/-- `get_owner`. -/
def getOwner (fleet : Fleet) (vehicleId : String) : Option String :=
  (findVehicle vehicleId fleet.vehicles).map (·.tenantId)

theorem findVehicle_names {vehicleId : String} {rows : List VehicleRow} {row : VehicleRow}
    (found : findVehicle vehicleId rows = some row) : row.vehicleId = vehicleId := by
  have named := List.find?_some found
  exact beq_iff_eq.mp named

/-- A row that is replaced keeps its key. -/
theorem findVehicle_replaced (vehicleId : String) (rows : List VehicleRow) (new : VehicleRow) :
    findVehicle vehicleId (rows.map fun row => if row.vehicleId = new.vehicleId then new else row) =
      (findVehicle vehicleId rows).map fun row =>
        if row.vehicleId = new.vehicleId then new else row := by
  unfold findVehicle
  rw [List.find?_map]
  congr 2
  funext row
  rw [Function.comp_apply]
  split
  · rename_i same
    rw [same]
  · rfl

theorem findVehicle_upsert_same (rows : List VehicleRow) (new : VehicleRow) :
    findVehicle new.vehicleId (upsertVehicle rows new) = some new := by
  unfold upsertVehicle
  split
  · rename_i absent
    unfold findVehicle at absent ⊢
    simp [List.find?_append, absent]
  · rename_i row found
    rw [findVehicle_replaced, found, Option.map_some, if_pos (findVehicle_names found)]

theorem findVehicle_upsert_other {vehicleId : String} (rows : List VehicleRow) {new : VehicleRow}
    (apart : vehicleId ≠ new.vehicleId) :
    findVehicle vehicleId (upsertVehicle rows new) = findVehicle vehicleId rows := by
  unfold upsertVehicle
  split
  · have unnamed : (new.vehicleId == vehicleId) = false := by
      simpa using fun other => apart other.symm
    unfold findVehicle
    simp [List.find?_append, unnamed]
  · rw [findVehicle_replaced]
    cases found : findVehicle vehicleId rows with
    | none => rfl
    | some row =>
        have names := findVehicle_names found
        rw [Option.map_some, if_neg (by rw [names]; exact apart)]

theorem appendAudit_eq (tenants : List String) (audits : List AuditRow) (row : AuditRow) :
    appendAudit tenants audits row =
      if storable tenants audits row then .ok (audits ++ [row]) else .error .constraint := by
  rw [appendAudit, storable]
  cases row.checked <;> cases audits.any (sameEvent row) <;>
    cases audits.any (fun other => other.eventId == row.eventId) <;>
    cases tenants.contains row.tenantId <;> rfl

theorem appendAudit_ok {tenants : List String} {audits next : List AuditRow} {row : AuditRow}
    (success : appendAudit tenants audits row = .ok next) :
    next = audits ++ [row] ∧ storable tenants audits row = true := by
  rw [appendAudit_eq] at success
  split at success
  · rename_i takes
    cases success
    exact ⟨rfl, takes⟩
  · cases success

/-- What a committed assignment has done: nothing to the logs if the owner stays, one row in each
if it changes. -/
structure Assigned (setting : Option String) (assignment : Assignment) (draws : Draws)
    (fleet next : Fleet) : Prop where
  tenants : next.tenants = fleet.tenants
  vehicles : next.vehicles = upsertVehicle fleet.vehicles (assignment.row draws.now)
  kept : getOwner fleet assignment.vehicleId = some assignment.tenantId →
    next.history = fleet.history ∧ next.audits = fleet.audits ∧
      next.nextHistoryId = fleet.nextHistoryId
  changed : getOwner fleet assignment.vehicleId ≠ some assignment.tenantId →
    next.history = fleet.history ++ [assignmentHistory setting draws
        (findVehicle assignment.vehicleId fleet.vehicles) (assignment.row draws.now)
        fleet.nextHistoryId] ∧
      next.audits = fleet.audits ++ [assignmentAudit setting draws
        (findVehicle assignment.vehicleId fleet.vehicles) (assignment.row draws.now)] ∧
      next.nextHistoryId = fleet.nextHistoryId + 1
  checked : (assignment.row draws.now).checked = true
  taken : getOwner fleet assignment.vehicleId ≠ some assignment.tenantId →
    storable fleet.tenants fleet.audits (assignmentAudit setting draws
      (findVehicle assignment.vehicleId fleet.vehicles) (assignment.row draws.now)) = true

theorem assignStatement_ok {setting : Option String} {fleet next : Fleet} {assignment : Assignment}
    {draws : Draws} (success : assignStatement setting fleet assignment draws = .ok next) :
    Assigned setting assignment draws fleet next := by
  have owner : (findVehicle assignment.vehicleId fleet.vehicles).map (·.tenantId) =
      getOwner fleet assignment.vehicleId := rfl
  unfold assignStatement at success
  dsimp only at success
  split at success
  · cases success
  · rename_i valid
    have checked : (assignment.row draws.now).checked = true := by
      simp only [Bool.or_eq_true, not_or, Bool.not_eq_true', Bool.not_eq_false] at valid
      exact valid.1
    obtain ⟨audited, first, second⟩ := (Checked.bind_ok_iff _ _ _).mp success
    unfold tenantVehiclesAuditFn at first
    unfold tenantVehiclesHistoryFn at second
    rw [owner, Assignment.row_tenantId] at first second
    by_cases stays : getOwner fleet assignment.vehicleId = some assignment.tenantId
    · rw [if_pos stays] at first second
      cases first
      cases second
      exact ⟨rfl, rfl, fun _ => ⟨rfl, rfl, rfl⟩, fun moves => absurd stays moves, checked,
        fun moves => absurd stays moves⟩
    · rw [if_neg stays] at first second
      obtain ⟨audits, appended, same⟩ := (Checked.bind_ok_iff _ _ _).mp first
      cases same
      dsimp only at second
      split at second
      · cases second
      · cases second
        exact ⟨rfl, rfl, fun unmoved => absurd unmoved stays,
          fun _ => ⟨rfl, (appendAudit_ok appended).1, rfl⟩, checked,
          fun _ => (appendAudit_ok appended).2⟩

/-- An assignment to another owner that meets the constraints goes through. -/
theorem assignStatement_changes {setting : Option String} {fleet : Fleet} {assignment : Assignment}
    {draws : Draws} {audits : List AuditRow}
    (checked : (assignment.row draws.now).checked = true)
    (registered : fleet.tenants.contains assignment.tenantId = true)
    (moves : getOwner fleet assignment.vehicleId ≠ some assignment.tenantId)
    (appended : appendAudit fleet.tenants fleet.audits (assignmentAudit setting draws
      (findVehicle assignment.vehicleId fleet.vehicles) (assignment.row draws.now)) = .ok audits)
    (logged : (assignmentHistory setting draws (findVehicle assignment.vehicleId fleet.vehicles)
      (assignment.row draws.now) fleet.nextHistoryId).checked = true) :
    ∃ next, assignStatement setting fleet assignment draws = .ok next := by
  have changes : ¬ (findVehicle assignment.vehicleId fleet.vehicles).map (·.tenantId) =
      some assignment.tenantId := moves
  simp only [assignStatement, checked, Assignment.row_tenantId, registered, Bool.not_true,
    Bool.or_false, Bool.false_eq_true, ↓reduceIte, tenantVehiclesAuditFn, changes, appended,
    tenantVehiclesHistoryFn, bind, Except.bind, pure, Except.pure, logged]
  exact ⟨_, rfl⟩

/-- The row that the trigger behind a call of `assign` sends to the audit log: none if the call is
rolled back or refused, or if the owner stays. -/
def AssignCall.sent (fleet : Fleet) (call : AssignCall) : Option AuditRow :=
  let new := call.assignment.row call.draws.now
  if call.fate.commits = true ∧ new.checked = true ∧
      getOwner fleet call.assignment.vehicleId ≠ some call.assignment.tenantId then
    some (assignmentAudit call.setting call.draws
      (findVehicle call.assignment.vehicleId fleet.vehicles) new)
  else none

/-- A history row has the operator, the reason and the correlation id of its audit row. -/
theorem assignmentHistory_checked {setting : Option String} {draws : Draws} {old : Option VehicleRow}
    {new : VehicleRow} (historyId : Nat) (checked : new.checked = true)
    (audited : (assignmentAudit setting draws old new).checked = true) :
    (assignmentHistory setting draws old new historyId).checked = true := by
  simp only [VehicleRow.checked, Bool.and_eq_true] at checked
  simp only [AuditRow.checked, assignmentAudit, Bool.and_eq_true] at audited
  have correlated : setting.getD ("vehicle-" ++ new.vehicleId ++ "-" ++ draws.suffix) ≠ "" := by
    cases setting with
    | none => simp
    | some given => exact bne_iff_ne.mp audited.1.2
  simp only [HistoryRow.checked, assignmentHistory, Bool.and_eq_true]
  exact ⟨⟨checked.1.2, checked.2⟩, bne_iff_ne.mpr correlated⟩

/-- A call of `assign` files what its trigger sends, if the log takes it, and nothing else. -/
theorem assign_filed (fleet : Fleet) (call : AssignCall) :
    (assign fleet call).1.audits =
      fleet.audits ++ (filed fleet.tenants fleet.audits (call.sent fleet)).toList := by
  let statement (fleet : Fleet) := assignStatement call.setting fleet call.assignment call.draws
  have called : (assign fleet call).1.audits = (Calls.call call.fate statement fleet).1.audits := rfl
  by_cases commits : (∃ next, statement fleet = .ok next) ∧ call.fate.commits = true
  · obtain ⟨⟨next, effect⟩, runs⟩ := commits
    have assigned := assignStatement_ok effect
    rw [called, Calls.call_commits effect runs]
    by_cases stays : getOwner fleet call.assignment.vehicleId = some call.assignment.tenantId
    · have sent : call.sent fleet = none := if_neg fun moved => moved.2.2 stays
      rw [(assigned.kept stays).2.1, sent]
      exact (List.append_nil _).symm
    · have sent : call.sent fleet = some (assignmentAudit call.setting call.draws
          (findVehicle call.assignment.vehicleId fleet.vehicles)
          (call.assignment.row call.draws.now)) := if_pos ⟨runs, assigned.checked, stays⟩
      rw [(assigned.changed stays).2.1, filed_eq_some.mpr ⟨sent, assigned.taken stays⟩]
      rfl
  · obtain ⟨failure, unchanged⟩ := Calls.call_not_commits commits
    have nothing : filed fleet.tenants fleet.audits (call.sent fleet) = none := by
      rw [Option.eq_none_iff_forall_ne_some]
      intro row found
      obtain ⟨sent, takes⟩ := filed_eq_some.mp found
      obtain ⟨⟨runs, checked, moves⟩, same⟩ := Option.ite_none_right_eq_some.mp sent
      cases same
      obtain ⟨audited, _, _, known⟩ := storable_iff.mp takes
      have appended := appendAudit_eq fleet.tenants fleet.audits (assignmentAudit call.setting
        call.draws (findVehicle call.assignment.vehicleId fleet.vehicles)
        (call.assignment.row call.draws.now))
      rw [if_pos takes] at appended
      exact commits ⟨assignStatement_changes checked (List.contains_iff_mem.mpr known) moves appended
        (assignmentHistory_checked _ checked audited), runs⟩
    rw [called, unchanged, nothing]
    exact (List.append_nil _).symm

theorem Assigned.getOwner_eq {setting : Option String} {assignment : Assignment} {draws : Draws}
    {fleet next : Fleet} (assigned : Assigned setting assignment draws fleet next)
    (vehicleId : String) :
    getOwner next vehicleId =
      if vehicleId = assignment.vehicleId then some assignment.tenantId
      else getOwner fleet vehicleId := by
  unfold getOwner
  rw [assigned.vehicles]
  split
  · rename_i same
    rw [same, ← Assignment.row_vehicleId assignment draws.now, findVehicle_upsert_same]
    rfl
  · rename_i apart
    rw [findVehicle_upsert_other fleet.vehicles (by simpa using apart)]

section Custody

/-- `SELECT * FROM tenant_vehicles_history WHERE vehicle_id = $1 ORDER BY history_id`. -/
def historyOf (fleet : Fleet) (vehicleId : String) : List HistoryRow :=
  (fleet.history.filter fun row => row.vehicleId == vehicleId).mergeSort
    fun earlier later => decide (earlier.historyId ≤ later.historyId)

def AuditRow.field (row : AuditRow) (name : String) : Option Json :=
  row.originatingFinding >>= fun finding => finding.get name

/-- The row says that a vehicle has changed hands. -/
def AuditRow.assigns (vehicleId : String) (row : AuditRow) : Bool :=
  row.kind == .vehicleAssignmentChange &&
    match row.field "vehicle_id" with
    | some (.str name) => name == vehicleId
    | _ => false

def assignmentAudits (fleet : Fleet) (vehicleId : String) : List AuditRow :=
  fleet.audits.filter (AuditRow.assigns vehicleId)

/-- The history of a vehicle goes without a gap from nobody to its owner, and the audit log tells
the same. -/
structure ChainOfCustody (fleet : Fleet) (vehicleId : String) : Prop where
  starts : ∀ row, (historyOf fleet vehicleId).head? = some row → row.prevTenantId = none
  links : (historyOf fleet vehicleId).IsChain fun earlier later =>
    later.prevTenantId = some earlier.newTenantId ∧ later.prevTenantId ≠ some later.newTenantId
  current : ∀ row, (historyOf fleet vehicleId).getLast? = some row →
    getOwner fleet vehicleId = some row.newTenantId
  owned : historyOf fleet vehicleId ≠ [] ↔ ∃ row, findVehicle vehicleId fleet.vehicles = some row
  audited : (assignmentAudits fleet vehicleId).map
      (fun row => (row.field "prior_tenant_id", row.field "new_tenant_id")) =
    (historyOf fleet vehicleId).map
      fun row => (some (textOrNull row.prevTenantId), some (.str row.newTenantId))

def HistoryRow.change (row : HistoryRow) : Option String × String :=
  (row.prevTenantId, row.newTenantId)

/-- What every assignment keeps, in the order in which the rows were written. -/
structure Logged (fleet : Fleet) (vehicleId : String) : Prop where
  numbered : fleet.history.Pairwise fun earlier later => earlier.historyId ≤ later.historyId
  unused : ∀ row ∈ fleet.history, row.historyId < fleet.nextHistoryId
  path : ChangeLog.Path none
    ((fleet.history.filter fun row => row.vehicleId == vehicleId).map HistoryRow.change)
    (getOwner fleet vehicleId)
  audited : (assignmentAudits fleet vehicleId).map
      (fun row => (row.field "prior_tenant_id", row.field "new_tenant_id")) =
    (fleet.history.filter fun row => row.vehicleId == vehicleId).map
      fun row => (some (textOrNull row.prevTenantId), some (.str row.newTenantId))

variable {fleet next : Fleet} {vehicleId : String}

/-- `ORDER BY history_id` is the order in which the rows were written. -/
theorem Logged.historyOf_eq (logged : Logged fleet vehicleId) :
    historyOf fleet vehicleId = fleet.history.filter fun row => row.vehicleId == vehicleId := by
  apply List.mergeSort_of_pairwise
  simpa using logged.numbered.filter _

theorem Logged.custody (logged : Logged fleet vehicleId) : ChainOfCustody fleet vehicleId := by
  have path := logged.path
  have ends := path.final_eq
  have order := logged.historyOf_eq
  have audited := logged.audited
  rw [← order] at path ends audited
  refine ⟨?_, ?_, ?_, ?_, audited⟩
  · intro row first
    have head : ((historyOf fleet vehicleId).map HistoryRow.change).head? = some row.change := by
      rw [List.head?_map, first]
      rfl
    exact path.head head
  · exact (List.isChain_map _).mp path.linked
  · intro row last
    rw [ends, List.getLast?_map, last]
    rfl
  · have owner : (∃ row, findVehicle vehicleId fleet.vehicles = some row) ↔
        getOwner fleet vehicleId ≠ none := by
      rw [getOwner, ← Option.isSome_iff_exists, ← Option.isSome_iff_ne_none, Option.isSome_map]
    rw [owner, ends]
    simp

theorem assignmentAudit_assigns (setting : Option String) (draws : Draws) (old : Option VehicleRow)
    (new : VehicleRow) (vehicleId : String) :
    (assignmentAudit setting draws old new).assigns vehicleId = (new.vehicleId == vehicleId) := by
  simp [AuditRow.assigns, AuditRow.field, assignmentAudit, Dict.get, List.lookup_cons]

@[simp] theorem assignmentHistory_vehicleId (setting : Option String) (draws : Draws)
    (old : Option VehicleRow) (new : VehicleRow) (historyId : Nat) :
    (assignmentHistory setting draws old new historyId).vehicleId = new.vehicleId := rfl

/-- A new row is among the selected ones exactly if it is selected. -/
theorem filter_append_named {ρ : Type} (rows : List ρ) (new : ρ) (names : ρ → Bool) :
    (rows ++ [new]).filter names = rows.filter names ++ if names new then [new] else [] := by
  rw [List.filter_append, List.filter_singleton]
  cases names new with
  | true => rfl
  | false => rfl

theorem Assigned.logged {setting : Option String} {assignment : Assignment} {draws : Draws}
    (assigned : Assigned setting assignment draws fleet next) (logged : Logged fleet vehicleId) :
    Logged next vehicleId := by
  have owner := assigned.getOwner_eq vehicleId
  by_cases stays : getOwner fleet assignment.vehicleId = some assignment.tenantId
  · obtain ⟨history, audits, number⟩ := assigned.kept stays
    have same : getOwner next vehicleId = getOwner fleet vehicleId := by
      rw [owner]
      split
      · rename_i named
        rw [named, stays]
      · rfl
    refine ⟨by rw [history]; exact logged.numbered, by rw [history, number]; exact logged.unused,
      by rw [history, same]; exact logged.path, ?_⟩
    unfold assignmentAudits
    rw [history, audits]
    exact logged.audited
  · obtain ⟨history, audits, number⟩ := assigned.changed stays
    refine ⟨?_, ?_, ?_, ?_⟩
    · rw [history, List.pairwise_append]
      refine ⟨logged.numbered, List.pairwise_singleton _ _, ?_⟩
      intro row member new last
      rw [List.mem_singleton.mp last]
      exact Nat.le_of_lt (logged.unused row member)
    · rw [history, number]
      intro row member
      rcases List.mem_append.mp member with before | last
      · exact Nat.lt_succ_of_lt (logged.unused row before)
      · rw [List.mem_singleton.mp last]
        exact Nat.lt_succ_self _
    · rw [history, filter_append_named, owner]
      by_cases named : vehicleId = assignment.vehicleId
      · rw [if_pos named, if_pos (by simp [named]), List.map_append]
        have path := logged.path
        rw [← named] at stays ⊢
        exact path.change stays
      · rw [if_neg named, if_neg (by simpa using fun other => named other.symm),
          List.append_nil]
        exact logged.path
    · unfold assignmentAudits
      rw [history, audits, filter_append_named, filter_append_named, assignmentAudit_assigns,
        List.map_append, List.map_append]
      congr 1
      · exact logged.audited
      · rw [assignmentHistory_vehicleId]
        by_cases named : ((assignment.row draws.now).vehicleId == vehicleId) = true
        · rw [if_pos named, if_pos named]
          rfl
        · rw [if_neg named, if_neg named]
          rfl

theorem Logged.skip (logged : Logged fleet vehicleId) (skipped : Nat) :
    Logged { fleet with nextHistoryId := fleet.nextHistoryId + skipped } vehicleId := by
  refine ⟨logged.numbered, ?_, logged.path, logged.audited⟩
  intro row member
  exact Nat.lt_add_right skipped (logged.unused row member)

theorem assign_logged (call : AssignCall) (logged : Logged fleet vehicleId) :
    Logged (assign fleet call).1 vehicleId := by
  unfold assign
  rcases Calls.call_cases call.fate
    (fun fleet => assignStatement call.setting fleet call.assignment call.draws) fleet with
    ⟨failure, raised⟩ | ⟨next, raised, effect, outcome⟩
  · rw [raised]
    exact logged.skip call.skipped
  · rw [outcome]
    exact ((assignStatement_ok effect).logged logged).skip call.skipped

/-- From empty tables, after any calls of `assign`, whatever becomes of each: the chain of custody
of every vehicle is complete, and the audit log agrees with it. -/
theorem assign_chainOfCustody (tenants : List String) (nextHistoryId : Nat)
    (calls : List AssignCall) (vehicleId : String) :
    ChainOfCustody (Runs.final assign ⟨tenants, [], [], [], nextHistoryId⟩ calls) vehicleId := by
  apply Logged.custody
  apply Runs.final_invariant assign (fun fleet => Logged fleet vehicleId) (fun _ => True)
  · intro fleet call _ logged
    exact assign_logged call logged
  · exact ⟨List.Pairwise.nil, by simp, rfl, rfl⟩
  · exact fun _ _ => trivial

end Custody

end CollectMind.Registry
