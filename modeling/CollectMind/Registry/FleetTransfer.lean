import CollectMind.Registry.TenantVehicles

set_option autoImplicit false

/- A fleet changes hands in one transaction of the service principal, under one correlation id. -/
namespace CollectMind.Registry

open RowSecurity Session

/-- The vehicles in the order in which they are assigned, with what the triggers draw for each. -/
structure Transfer where
  tenantId : String
  assignedBySubject : String
  reasonCode : String
  correlationId : String
  vehicles : List (String × Draws)

def Transfer.assignment (transfer : Transfer) (vehicleId : String) : Assignment where
  vehicleId := vehicleId
  tenantId := transfer.tenantId
  assignedBySubject := transfer.assignedBySubject
  reasonCode := transfer.reasonCode

/-- The connection after `BEGIN` and `set_config('app.correlation_id', ..., true)`. -/
def transferSession (values : Values) (correlationId : String) : State :=
  run (.idle values) [.begin, .setConfig "app.correlation_id" correlationId true]

/-- The statements of the transaction, one for each vehicle; an error aborts all of it. -/
def transferFleet (values : Values) (fleet : Fleet) (transfer : Transfer) : Except Fault Fleet :=
  let setting := (transferSession values transfer.correlationId).values.settings "app.correlation_id"
  transfer.vehicles.foldlM (fun fleet vehicle =>
    assignStatement setting fleet (transfer.assignment vehicle.1) vehicle.2) fleet

/-- The transaction has committed, with a row in each log for every vehicle, all under its
correlation id. -/
def AuditedUnit (fleet : Fleet) (transfer : Transfer) (result : Except Fault Fleet) : Prop :=
  ∃ next history audits, result = .ok next ∧
    next.history = fleet.history ++ history ∧ history.length = transfer.vehicles.length ∧
    (∀ row ∈ history, row.correlationId = transfer.correlationId) ∧
    next.audits = fleet.audits ++ audits ∧ audits.length = transfer.vehicles.length ∧
    ∀ row ∈ audits, row.kind = .vehicleAssignmentChange ∧
      row.correlationId = transfer.correlationId

/-- Nothing but the constraints between the rows can go wrong. -/
structure Transfer.Valid (transfer : Transfer) (fleet : Fleet) : Prop where
  registered : transfer.tenantId ∈ fleet.tenants
  subject : transfer.assignedBySubject ≠ ""
  reason : transfer.reasonCode ∈ reasonCodes
  named : ∀ vehicle ∈ transfer.vehicles, vehicle.1 ≠ ""
  correlated : transfer.correlationId ≠ ""
  fresh : ∀ row ∈ fleet.audits, row.correlationId ≠ transfer.correlationId
  drawn : ∀ vehicle ∈ transfer.vehicles, vehicle.2.eventId ≠ "" ∧
    ∀ row ∈ fleet.audits, row.eventId ≠ vehicle.2.eventId

/-- Whatever the session went through before, the statements read the transaction's own id. -/
theorem transferSession_setting (values : Values) (correlationId : String) :
    (transferSession values correlationId).values.settings "app.correlation_id" =
      some correlationId := Values.setConfig_same _ _ _

section Commits

variable {fleet : Fleet} {transfer : Transfer} {vehicle : String × Draws}

/-- The row that the transaction writes for a vehicle. -/
def Transfer.row (transfer : Transfer) (vehicle : String × Draws) : VehicleRow :=
  (transfer.assignment vehicle.1).row vehicle.2.now

theorem Transfer.Valid.checked (valid : transfer.Valid fleet) (member : vehicle ∈ transfer.vehicles) :
    (transfer.row vehicle).checked = true := by
  simp [VehicleRow.checked, Transfer.row, Assignment.row, Transfer.assignment, valid.subject,
    valid.named vehicle member, valid.reason]

theorem Transfer.Valid.appendAudit (valid : transfer.Valid fleet)
    (member : vehicle ∈ transfer.vehicles) (old : Option VehicleRow) :
    ∃ audits, appendAudit fleet.tenants fleet.audits (assignmentAudit (some transfer.correlationId)
      vehicle.2 old (transfer.row vehicle)) = .ok audits := by
  have checked : (assignmentAudit (some transfer.correlationId) vehicle.2 old
      (transfer.row vehicle)).checked = true := by
    simp [AuditRow.checked, assignmentAudit, Transfer.row, Assignment.row, Transfer.assignment,
      valid.subject, valid.correlated, (valid.drawn vehicle member).1]
  have unclaimed : fleet.audits.any (sameEvent (assignmentAudit (some transfer.correlationId)
      vehicle.2 old (transfer.row vehicle))) = false := by
    rw [List.any_eq_false]
    intro row listed same
    exact valid.fresh row listed (sameEvent_iff.mp same).1
  have undrawn : fleet.audits.any (fun row => row.eventId == vehicle.2.eventId) = false := by
    rw [List.any_eq_false]
    intro row listed same
    exact (valid.drawn vehicle member).2 row listed (beq_iff_eq.mp same)
  have registered : fleet.tenants.contains transfer.tenantId = true := by
    simpa using valid.registered
  refine ⟨_, if_neg ?_⟩
  rw [checked, unclaimed]
  simp only [assignmentAudit, undrawn, Transfer.row, Assignment.row_tenantId, Transfer.assignment,
    registered]
  decide

theorem Transfer.Valid.statement (valid : transfer.Valid fleet)
    (member : vehicle ∈ transfer.vehicles)
    (moves : getOwner fleet vehicle.1 ≠ some transfer.tenantId) :
    ∃ next, assignStatement (some transfer.correlationId) fleet (transfer.assignment vehicle.1)
      vehicle.2 = .ok next := by
  have registered : fleet.tenants.contains transfer.tenantId = true := by
    simpa using valid.registered
  obtain ⟨audits, appended⟩ := valid.appendAudit member (findVehicle vehicle.1 fleet.vehicles)
  apply assignStatement_changes (valid.checked member) registered moves appended
  simp [HistoryRow.checked, assignmentHistory, Assignment.row, Transfer.assignment, valid.subject,
    valid.correlated, valid.reason]

/-- Two vehicles that both change hands ask for the same key of the audit log. -/
theorem second_assignment_aborts {setting : String} {first second final : Fleet}
    {assignment other : Assignment} {draws otherDraws : Draws}
    (done : assignStatement (some setting) first assignment draws = .ok second)
    (moves : getOwner first assignment.vehicleId ≠ some assignment.tenantId)
    (distinct : other.vehicleId ≠ assignment.vehicleId)
    (movesToo : getOwner first other.vehicleId ≠ some other.tenantId) :
    assignStatement (some setting) second other otherDraws ≠ .ok final := by
  intro committed
  have assigned := assignStatement_ok done
  have assignedToo := assignStatement_ok committed
  have unmoved : getOwner second other.vehicleId ≠ some other.tenantId := by
    rw [assigned.getOwner_eq, if_neg distinct]
    exact movesToo
  have free := (storable_iff.mp (assignedToo.taken unmoved)).2.1
  rw [(assigned.changed moves).2.1, List.any_append, Bool.or_eq_false_iff] at free
  have claimed : sameEvent
      (assignmentAudit (some setting) otherDraws (findVehicle other.vehicleId second.vehicles)
        (other.row otherDraws.now))
      (assignmentAudit (some setting) draws (findVehicle assignment.vehicleId first.vehicles)
        (assignment.row draws.now)) = true := sameEvent_iff.mpr ⟨rfl, rfl⟩
  simp [claimed] at free

end Commits

/-- A transfer of a fleet commits as one audited unit exactly if the fleet is a single vehicle:
the audit log admits one change of ownership for a correlation id. -/
theorem transferFleet_audited_iff_single (values : Values) (fleet : Fleet) (transfer : Transfer)
    (nonempty : transfer.vehicles ≠ []) (distinct : (transfer.vehicles.map Prod.fst).Nodup)
    (moves : ∀ vehicle ∈ transfer.vehicles, getOwner fleet vehicle.1 ≠ some transfer.tenantId)
    (valid : transfer.Valid fleet) :
    AuditedUnit fleet transfer (transferFleet values fleet transfer) ↔
      transfer.vehicles.length = 1 := by
  unfold transferFleet
  rw [transferSession_setting]
  constructor
  · intro unit_
    obtain ⟨next, _, _, committed, _⟩ := unit_
    cases listed : transfer.vehicles with
    | nil => exact absurd listed nonempty
    | cons first rest =>
        cases rest with
        | nil => rfl
        | cons second rest =>
            rw [listed] at committed distinct moves
            obtain ⟨one, done, committed⟩ := (Checked.bind_ok_iff _ _ _).mp committed
            obtain ⟨two, doneToo, _⟩ := (Checked.bind_ok_iff _ _ _).mp committed
            have apart : second.1 ≠ first.1 := by
              intro same
              rw [List.map_cons, List.map_cons, List.nodup_cons] at distinct
              exact distinct.1 (by simp [same])
            exact absurd doneToo (second_assignment_aborts done (moves first (by simp)) apart
              (moves second (by simp)))
  · intro single
    obtain ⟨vehicle, listed⟩ := List.length_eq_one_iff.mp single
    have member : vehicle ∈ transfer.vehicles := by simp [listed]
    obtain ⟨next, done⟩ := valid.statement member (moves vehicle member)
    obtain ⟨history, audits, _⟩ := (assignStatement_ok done).changed (moves vehicle member)
    refine ⟨next, _, _, ?_, history, by simp [listed], ?_, audits, by simp [listed], ?_⟩
    · rw [listed, List.foldlM_cons, done]
      rfl
    · intro row last
      rw [List.mem_singleton.mp last]
      rfl
    · intro row last
      rw [List.mem_singleton.mp last]
      exact ⟨rfl, rfl⟩

/-- Two vehicles of tenant-a. -/
def twoVehicles : Fleet where
  tenants := ["tenant-a", "tenant-b"]
  vehicles := [⟨"vehicle-1", "tenant-a", 0, "operator", "initial_provisioning"⟩,
    ⟨"vehicle-2", "tenant-a", 0, "operator", "initial_provisioning"⟩]
  history := []
  audits := []
  nextHistoryId := 1

def sale (vehicles : List (String × Draws)) : Transfer where
  tenantId := "tenant-b"
  assignedBySubject := "operator"
  reasonCode := "fleet_reassignment"
  correlationId := "sale-1"
  vehicles := vehicles

theorem sale_valid {vehicles : List (String × Draws)}
    (drawn : ∀ vehicle ∈ vehicles, vehicle.1 ≠ "" ∧ vehicle.2.eventId ≠ "") :
    (sale vehicles).Valid twoVehicles where
  registered := by simp [sale, twoVehicles]
  subject := by simp [sale]
  reason := by simp [sale, reasonCodes]
  named vehicle member := (drawn vehicle member).1
  correlated := by simp [sale]
  fresh row member := nomatch member
  drawn vehicle member := ⟨(drawn vehicle member).2, fun _ other => nomatch other⟩

theorem transferFleet_audited_iff_single_sale :
    (sale [("vehicle-1", ⟨"event-1", "suffix", 1⟩)]).Valid twoVehicles ∧
      AuditedUnit twoVehicles (sale [("vehicle-1", ⟨"event-1", "suffix", 1⟩)])
        (transferFleet ⟨"service", fun _ => none⟩ twoVehicles
          (sale [("vehicle-1", ⟨"event-1", "suffix", 1⟩)])) := by
  have valid : (sale [("vehicle-1", ⟨"event-1", "suffix", 1⟩)]).Valid twoVehicles :=
    sale_valid (by simp)
  refine ⟨valid, ?_⟩
  exact (transferFleet_audited_iff_single _ twoVehicles _ (by simp [sale]) (by simp [sale])
    (by simp [sale, getOwner, findVehicle, twoVehicles]) valid).mpr rfl

/-- The second vehicle of the fleet aborts the sale. -/
theorem transferFleet_aborts_for_two_vehicles :
    (sale [("vehicle-1", ⟨"event-1", "suffix", 1⟩), ("vehicle-2", ⟨"event-2", "suffix", 1⟩)]).Valid
        twoVehicles ∧
      (match transferFleet ⟨"service", fun _ => none⟩ twoVehicles
        (sale [("vehicle-1", ⟨"event-1", "suffix", 1⟩), ("vehicle-2", ⟨"event-2", "suffix", 1⟩)]) with
      | .ok _ => none
      | .error fault => some fault) = some .constraint :=
  ⟨sale_valid (by simp), by decide⟩

end CollectMind.Registry
