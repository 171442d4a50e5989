import CollectMind.Registry.TenantVehicles

set_option autoImplicit false

/- `tenant_config` of migration 014: rate-limit overrides that the service principal writes, and
the trigger that records every write. -/
namespace CollectMind.Registry

open Python RowSecurity

/-- A row of `tenant_config`. -/
structure ConfigRow where
  tenantId : String
  inboundSustainedRps : Int
  inboundBurstCapacity : Int
  querySustainedRps : Int
  queryBurstCapacity : Int
  updatedBySubject : String

def ConfigRow.checked (row : ConfigRow) : Bool :=
  0 < row.inboundSustainedRps && row.inboundSustainedRps ≤ row.inboundBurstCapacity &&
    0 < row.querySustainedRps && row.querySustainedRps ≤ row.queryBurstCapacity &&
    row.updatedBySubject != ""

def ConfigRow.values (row : ConfigRow) : Json :=
  .obj [("inbound_sustained_rps", .int row.inboundSustainedRps),
    ("inbound_burst_capacity", .int row.inboundBurstCapacity),
    ("query_sustained_rps", .int row.querySustainedRps),
    ("query_burst_capacity", .int row.queryBurstCapacity)]

/-- The row of `tenant_config_audit_fn`; `affected` is the new row, or the old one where there is
no new one. -/
def configAudit (setting : Option String) (draws : Draws) (affected : ConfigRow)
    (old new : Option ConfigRow) : AuditRow where
  eventId := draws.eventId
  tenantId := affected.tenantId
  kind := .tenantConfigChange
  originatingFinding := some
    [("service_principal_subject", .str affected.updatedBySubject),
      ("target_tenant_id", .str affected.tenantId),
      ("prior_values", old.elim .null ConfigRow.values),
      ("new_values", new.elim .null ConfigRow.values)]
  policyRef := none
  deploymentRef := none
  outcomeRef := none
  slm := {}
  inboundSchemaVersion := none
  timeAccelerationFactor := none
  principalSubject := affected.updatedBySubject
  correlationId := setting.getD ("tenant-config-" ++ draws.eventId)
  occurredAt := draws.now

inductive ConfigWrite where
  | insert (row : ConfigRow)
  | update (tenantId : String) (row : ConfigRow)
  | delete (tenantId : String)

def findConfig (tenantId : String) (rows : List ConfigRow) : Option ConfigRow :=
  rows.find? fun row => row.tenantId == tenantId

/-- A statement against one row, with its trigger. -/
def configStatement (tenants : List String) (setting : Option String) (draws : Draws)
    (configs : List ConfigRow) (audits : List AuditRow) :
    ConfigWrite → Except Fault (List ConfigRow × List AuditRow)
  | .insert row =>
    if !row.checked || !tenants.contains row.tenantId || (findConfig row.tenantId configs).isSome then
      .error .constraint
    else do
      let audits ← appendAudit tenants audits (configAudit setting draws row none (some row))
      return (configs ++ [row], audits)
  | .update tenantId row =>
    match findConfig tenantId configs with
    | none => .ok (configs, audits)
    | some old =>
      if !row.checked || !tenants.contains row.tenantId ||
          (row.tenantId != tenantId && (findConfig row.tenantId configs).isSome) then
        .error .constraint
      else do
        let audits ← appendAudit tenants audits (configAudit setting draws row (some old) (some row))
        return (configs.map fun other => if other.tenantId = tenantId then row else other, audits)
  | .delete tenantId =>
    match findConfig tenantId configs with
    | none => .ok (configs, audits)
    | some old => do
      let audits ← appendAudit tenants audits (configAudit setting draws old (some old) none)
      return (configs.filter fun other => other.tenantId != tenantId, audits)

/-- The row that the trigger behind a statement sends to the audit log: none if the statement is
refused or meets no row. -/
def ConfigWrite.sent (tenants : List String) (setting : Option String) (draws : Draws)
    (configs : List ConfigRow) : ConfigWrite → Option AuditRow
  | .insert row =>
    if !row.checked || !tenants.contains row.tenantId || (findConfig row.tenantId configs).isSome then
      none
    else some (configAudit setting draws row none (some row))
  | .update tenantId row =>
    (findConfig tenantId configs).bind fun old =>
      if !row.checked || !tenants.contains row.tenantId ||
          (row.tenantId != tenantId && (findConfig row.tenantId configs).isSome) then
        none
      else some (configAudit setting draws row (some old) (some row))
  | .delete tenantId =>
    (findConfig tenantId configs).map fun old => configAudit setting draws old (some old) none

theorem appendAudit_filed (tenants : List String) (audits : List AuditRow) (row : AuditRow)
    (configs : List ConfigRow) :
    ((do
      let audits ← appendAudit tenants audits row
      return (configs, audits)).toOption.map Prod.snd).getD audits =
        audits ++ (filed tenants audits (some row)).toList := by
  rw [appendAudit_eq]
  cases takes : storable tenants audits row with
  | true =>
      rw [filed_eq_some.mpr ⟨rfl, takes⟩]
      rfl
  | false =>
      have nothing : filed tenants audits (some row) = none := by simp [filed, takes]
      rw [nothing]
      exact (List.append_nil _).symm

/-- A statement files what its trigger sends, if the log takes it, and nothing else. -/
theorem configStatement_filed (tenants : List String) (setting : Option String) (draws : Draws)
    (configs : List ConfigRow) (audits : List AuditRow) (write : ConfigWrite) :
    ((configStatement tenants setting draws configs audits write).toOption.map Prod.snd).getD audits =
      audits ++ (filed tenants audits (write.sent tenants setting draws configs)).toList := by
  cases write with
  | insert row =>
      rw [configStatement, ConfigWrite.sent]
      split
      · exact (List.append_nil _).symm
      · exact appendAudit_filed _ _ _ _
  | update tenantId row =>
      simp only [configStatement, ConfigWrite.sent]
      cases findConfig tenantId configs with
      | none => exact (List.append_nil _).symm
      | some old =>
          simp only [Option.bind_some]
          split
          · exact (List.append_nil _).symm
          · exact appendAudit_filed _ _ _ _
  | delete tenantId =>
      simp only [configStatement, ConfigWrite.sent]
      cases findConfig tenantId configs with
      | none => exact (List.append_nil _).symm
      | some old => exact appendAudit_filed _ _ _ _

theorem ConfigWrite.sent_eq {tenants : List String} {setting : Option String} {draws : Draws}
    {configs : List ConfigRow} {write : ConfigWrite} {row : AuditRow}
    (sent : write.sent tenants setting draws configs = some row) :
    ∃ affected old new, row = configAudit setting draws affected old new := by
  cases write with
  | insert config =>
      obtain ⟨_, same⟩ := Option.ite_none_left_eq_some.mp sent
      exact ⟨_, _, _, (Option.some.inj same).symm⟩
  | update tenantId config =>
      obtain ⟨old, _, kept⟩ := Option.bind_eq_some_iff.mp sent
      obtain ⟨_, same⟩ := Option.ite_none_left_eq_some.mp kept
      exact ⟨_, _, _, (Option.some.inj same).symm⟩
  | delete tenantId =>
      obtain ⟨old, _, same⟩ := Option.map_eq_some_iff.mp sent
      exact ⟨_, _, _, same.symm⟩

end CollectMind.Registry
