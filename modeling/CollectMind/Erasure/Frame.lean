import CollectMind.Erasure.Dispatcher

set_option autoImplicit false

/- What an erasure leaves alone. Each step sweeps its table or leaves it as it was, and the only
rows a sweep changes are the tenant's own that name the subject. -/
namespace CollectMind.Erasure

open Python Sql RowSecurity Registry Feedback

/-- A scope with the occurrences of a vehicle taken out, and nothing else. -/
def removeVehicle (vehicle : String) : Json → Json
  | .arr items => .arr (items.filter fun item => !item.isStr vehicle)
  | scope => scope

/-- The vehicle taken out of the tenant's policies. -/
def removeFromScope (tenantId vehicle : String) (row : PolicyRow) : PolicyRow :=
  if row.tenantId = tenantId then
    { row with vehicleScope := removeVehicle vehicle row.vehicleScope }
  else row

/-- The stores with a vehicle taken out of a tenant's scopes. -/
def Stores.eraseScopes (stores : Stores) (tenantId vehicle : String) : Stores :=
  { stores with rows := { stores.rows with
      policies := stores.rows.policies.map (removeFromScope tenantId vehicle) } }

/-- The stores with a vehicle's rows taken out of a tenant's telemetry. -/
def Stores.eraseTelemetry (stores : Stores) (tenantId vehicle : String) : Stores :=
  { stores with
    telemetry := stores.telemetry.filter fun row =>
      decide (¬ (row.tenantId = tenantId ∧ row.vehicleId = vehicle)) }

/-- A scope names something other than the vehicle. -/
def namesAnother (vehicle : String) : Json → Bool
  | .arr items => items.any fun item => !item.isStr vehicle
  | _ => false

section Scopes

variable {vehicle : String} {scope : Json}

theorem filter_eq_nil_iff_names (items : List Json) :
    (items.filter fun item => !item.isStr vehicle) = [] ↔
      namesAnother vehicle (.arr items) = false := by
  simp [namesAnother, List.filter_eq_nil_iff]

/-- The aggregate is a scope again exactly if something else is left. -/
theorem nonEmptyArray_scopeWithout :
    nonEmptyArray (scopeWithout vehicle scope) = namesAnother vehicle scope := by
  cases scope with
  | arr items =>
      cases left : items.filter fun item => !item.isStr vehicle with
      | nil =>
          rw [(filter_eq_nil_iff_names items).mp left]
          simp only [scopeWithout, left]
          rfl
      | cons first others =>
          have named : namesAnother vehicle (.arr items) = true := by
            rw [← Bool.not_eq_false, ← filter_eq_nil_iff_names, left]
            simp
          rw [named]
          simp only [scopeWithout, left]
          rfl
  | _ => rfl

theorem scopeWithout_of_names (named : namesAnother vehicle scope = true) :
    scopeWithout vehicle scope = removeVehicle vehicle scope := by
  cases scope with
  | arr items =>
      have left : (items.filter fun item => !item.isStr vehicle) ≠ [] := by
        rw [ne_eq, filter_eq_nil_iff_names, named]
        decide
      simp only [scopeWithout, removeVehicle]
  | _ => cases named

theorem removeVehicle_absent (absent : scopeContains vehicle scope = false) :
    removeVehicle vehicle scope = scope := by
  cases scope with
  | arr items =>
      have same : (items.filter fun item => !item.isStr vehicle) = items := by
        apply List.filter_eq_self.mpr
        intro item member
        have other := List.any_eq_false.mp absent item member
        simpa using other
      rw [removeVehicle, same]
  | _ => rfl

theorem scopeContains_removeVehicle : scopeContains vehicle (removeVehicle vehicle scope) = false := by
  cases scope with
  | arr items =>
      apply List.any_eq_false.mpr
      intro item member
      have other := (List.mem_filter.mp member).2
      simpa using other
  | _ => rfl

/-- A scope that names no vehicle but this one does name it, unless it is empty. -/
theorem scopeContains_of_names_none (filled : nonEmptyArray scope = true)
    (alone : namesAnother vehicle scope = false) : scopeContains vehicle scope = true := by
  cases scope with
  | arr items =>
      cases items with
      | nil => cases filled
      | cons first others =>
          have only := List.any_eq_false.mp alone first List.mem_cons_self
          have same : first.isStr vehicle = true := by simpa using only
          simp [scopeContains, same]
  | _ => cases filled

/-- Of the constraints of a policy, an erasure can break only the one on its scope. -/
theorem checked_scope {row : PolicyRow} (met : row.checked = true) (scope : Json) :
    ({ row with vehicleScope := scope } : PolicyRow).checked = nonEmptyArray scope := by
  simp only [PolicyRow.checked, Bool.and_eq_true] at met ⊢
  simp only [met, Bool.true_and, Bool.and_true]

theorem checked_nonEmptyArray {row : PolicyRow} (met : row.checked = true) :
    nonEmptyArray row.vehicleScope = true := by
  rw [← checked_scope met row.vehicleScope]
  exact met

end Scopes

section Registry

variable {tenant : TenantId} {payload : ErasureRequest} {stores next : Stores}

/-- Where the sweep succeeds it takes the vehicle out and leaves the others in their order. -/
theorem eraseScope_eq_remove (vehicle : payload.subjectKind = .vehicle) {row : PolicyRow}
    (met : row.tenantId = tenant.val → scopeContains payload.subjectIdentifier row.vehicleScope = true →
      ({ row with vehicleScope :=
        scopeWithout payload.subjectIdentifier row.vehicleScope } : PolicyRow).checked = true) :
    eraseScope tenant.val payload row =
      removeFromScope tenant.val payload.subjectIdentifier row := by
  unfold eraseScope removeFromScope
  by_cases own : row.tenantId = tenant.val
  · rw [if_pos own]
    by_cases named : scopeContains payload.subjectIdentifier row.vehicleScope = true
    · have left := checked_nonEmptyArray (met own named)
      dsimp only at left
      rw [nonEmptyArray_scopeWithout] at left
      rw [if_pos ⟨vehicle, own, named⟩, scopeWithout_of_names left]
    · rw [if_neg fun hit => named hit.2.2, removeVehicle_absent (by simpa using named)]
  · rw [if_neg own, if_neg fun hit => own hit.2.1]

theorem eraseRegistry_removes (vehicle : payload.subjectKind = .vehicle)
    (success : eraseRegistry tenant.val payload stores = .ok next) :
    next = stores.eraseScopes tenant.val payload.subjectIdentifier := by
  obtain ⟨swept, met⟩ := eraseRegistry_ok_iff.mp success
  have same : stores.rows.policies.map (eraseScope tenant.val payload) =
      stores.rows.policies.map (removeFromScope tenant.val payload.subjectIdentifier) := by
    apply List.map_congr_left
    intro row member
    exact eraseScope_eq_remove vehicle (met row member vehicle)
  rw [swept, same]
  rfl

theorem eraseTelemetry_removes (vehicle : payload.subjectKind = .vehicle)
    (success : Erasure.eraseTelemetry tenant.val payload stores = .ok next) :
    next = stores.eraseTelemetry tenant.val payload.subjectIdentifier := by
  have swept := Except.ok.inj (success.symm.trans (eraseTelemetry_eq tenant payload stores))
  simp only [observes, vehicle, true_and] at swept
  exact swept

end Registry

/-- The vehicle is in no scope of the tenant, and nothing else has changed: the other vehicles of
every scope are there in their order, as often as before. -/
structure ScopesErased (tenantId vehicle : String) (before after : List PolicyRow) : Prop where
  gone : ∀ row ∈ after, row.tenantId = tenantId → scopeContains vehicle row.vehicleScope = false
  kept : after = before.map (removeFromScope tenantId vehicle)

/-- In a registry that meets its constraints, the erasure of a vehicle succeeds exactly if no
policy of the tenant is for that vehicle alone. -/
theorem eraseRegistry_succeeds_iff (tenant : TenantId) (payload : ErasureRequest)
    (vehicle : payload.subjectKind = .vehicle) (stores : Stores)
    (constraints : ∀ row ∈ stores.rows.policies, row.checked = true) :
    (∃ next, eraseRegistry tenant.val payload stores = .ok next ∧
        ScopesErased tenant.val payload.subjectIdentifier stores.rows.policies next.rows.policies) ↔
      ∀ row ∈ stores.rows.policies, row.tenantId = tenant.val →
        namesAnother payload.subjectIdentifier row.vehicleScope = true := by
  constructor
  · intro success row member own
    obtain ⟨next, swept, _⟩ := success
    have met := (eraseRegistry_ok_iff.mp swept).2 row member vehicle own
    rw [checked_scope (constraints row member), nonEmptyArray_scopeWithout] at met
    by_contra alone
    have filled := checked_nonEmptyArray (constraints row member)
    exact alone (met (scopeContains_of_names_none filled (by simpa using alone)))
  · intro others
    have success : eraseRegistry tenant.val payload stores = .ok { stores with
        rows := { stores.rows with
          policies := stores.rows.policies.map (eraseScope tenant.val payload) } } := by
      apply eraseRegistry_ok_iff.mpr
      refine ⟨rfl, ?_⟩
      intro row member _ own _
      rw [checked_scope (constraints row member), nonEmptyArray_scopeWithout]
      exact others row member own
    refine ⟨_, success, ?_⟩
    rw [eraseRegistry_removes vehicle success]
    refine ⟨?_, rfl⟩
    intro row member own
    obtain ⟨old, _, rfl⟩ := List.mem_map.mp member
    unfold removeFromScope at own ⊢
    split
    · exact scopeContains_removeVehicle
    · rename_i other
      rw [if_neg other] at own
      exact absurd own other

theorem eraseRegistry_succeeds_iff_sample :
    (∀ row ∈ sampleStores.rows.policies, row.checked = true) ∧
      ∃ next, eraseRegistry publicTenant sampleRequest sampleStores = .ok next ∧
        ScopesErased publicTenant "vehicle-1" sampleStores.rows.policies next.rows.policies := by
  have constraints : ∀ row ∈ sampleStores.rows.policies, row.checked = true := by
    intro row member
    rw [List.mem_singleton.mp member]
    decide +kernel
  refine ⟨constraints, ?_⟩
  apply (eraseRegistry_succeeds_iff ⟨publicTenant, by decide⟩ sampleRequest rfl sampleStores
    constraints).mpr
  intro row member _
  rw [List.mem_singleton.mp member]
  decide

/-- A policy for one vehicle. -/
def lonelyStores : Stores where
  rows := (sampleTables publicTenant).rows
  telemetry := []
  requests := []

/-- The registry meets its constraints, and the vehicle cannot be taken out: the statement fails
and the vehicle stays. -/
theorem eraseRegistry_fails_for_only_vehicle :
    (∀ row ∈ lonelyStores.rows.policies, row.checked = true) ∧
    (eraseRegistry publicTenant sampleRequest lonelyStores).map (fun _ => ()) =
      .error .constraint := by
  refine ⟨?_, by decide +kernel⟩
  intro row member
  rw [List.mem_singleton.mp member]
  decide +kernel

/-- What a dispatch may have changed. Each table is as it was, or swept as a whole. -/
structure Framed (jsonText : Json → String) (tenantId requestId : String)
    (payload : ErasureRequest) (before after : Stores) : Prop where
  policies : after.rows.policies = before.rows.policies ∨
    payload.subjectKind = .vehicle ∧ after.rows.policies =
      before.rows.policies.map (removeFromScope tenantId payload.subjectIdentifier)
  telemetry : after.telemetry = before.telemetry ∨
    payload.subjectKind = .vehicle ∧ after.telemetry = before.telemetry.filter fun row =>
      decide (¬ (row.tenantId = tenantId ∧ row.vehicleId = payload.subjectIdentifier))
  audits : after.rows.audits = before.rows.audits ∨
    after.rows.audits = before.rows.audits.map (redact jsonText tenantId payload)
  requests : after.requests = before.requests ∨ ∃ perStore completedAt,
    after.requests = before.requests.map (settleRow tenantId requestId perStore completedAt)
  deployments : after.rows.deployments = before.rows.deployments
  tenants : after.rows.tenants = before.rows.tenants

/-- The rows of other tenants are as they were, and no policy and no audit row has gone. -/
structure OthersKept (tenantId : String) (before after : Stores) : Prop where
  policies : after.rows.policies.filter (fun row => row.tenantId != tenantId) =
    before.rows.policies.filter fun row => row.tenantId != tenantId
  telemetry : after.telemetry.filter (fun row => row.tenantId != tenantId) =
    before.telemetry.filter fun row => row.tenantId != tenantId
  audits : after.rows.audits.filter (fun row => row.tenantId != tenantId) =
    before.rows.audits.filter fun row => row.tenantId != tenantId
  requests : after.requests.filter (fun row => row.tenantId != tenantId) =
    before.requests.filter fun row => row.tenantId != tenantId
  policyCount : after.rows.policies.length = before.rows.policies.length
  auditCount : after.rows.audits.length = before.rows.audits.length

/-- A sweep that leaves foreign rows alone and moves none over leaves the foreign rows of the
table as they were. -/
theorem foreign_map {ρ : Type} {owner : ρ → String} {tenantId : String} {sweep : ρ → ρ}
    (others : ∀ row, owner row ≠ tenantId → sweep row = row)
    (stays : ∀ row, owner (sweep row) = owner row) (rows : List ρ) :
    (rows.map sweep).filter (fun row => owner row != tenantId) =
      rows.filter fun row => owner row != tenantId := by
  induction rows with
  | nil => rfl
  | cons row rest ih =>
      rw [List.map_cons, List.filter_cons, List.filter_cons, stays, ih]
      by_cases own : owner row = tenantId
      · simp [own]
      · rw [others row own]

section Dispatch

variable {jsonText : Json → String} {tenant : TenantId} {requestId : String}
variable {payload : ErasureRequest} {before after : Stores}

theorem removeFromScope_foreign {vehicle tenantId : String} (row : PolicyRow)
    (foreign : row.tenantId ≠ tenantId) : removeFromScope tenantId vehicle row = row :=
  if_neg foreign

theorem removeFromScope_tenantId (tenantId vehicle : String) (row : PolicyRow) :
    (removeFromScope tenantId vehicle row).tenantId = row.tenantId := by
  unfold removeFromScope
  split
  · rfl
  · rfl

theorem redact_foreign {tenantId : String} (row : AuditRow) (foreign : row.tenantId ≠ tenantId) :
    redact jsonText tenantId payload row = row :=
  if_neg fun hit => foreign hit.1

theorem settleRow_foreign {tenantId : String} {perStore : PerStoreStatus} {now : Nat}
    (row : ErasureRow) (foreign : row.tenantId ≠ tenantId) :
    settleRow tenantId requestId perStore now row = row :=
  if_neg fun hit => foreign hit.1

theorem settleRow_tenantId {tenantId : String} {perStore : PerStoreStatus} {now : Nat}
    (row : ErasureRow) :
    (settleRow tenantId requestId perStore now row).tenantId = row.tenantId := by
  unfold settleRow
  split
  · rfl
  · rfl

theorem Framed.othersKept {tenantId : String}
    (framed : Framed jsonText tenantId requestId payload before after) :
    OthersKept tenantId before after := by
  refine ⟨?_, ?_, ?_, ?_, ?_, ?_⟩
  · rcases framed.policies with same | ⟨_, swept⟩
    · rw [same]
    · rw [swept]
      exact foreign_map removeFromScope_foreign (removeFromScope_tenantId _ _) _
  · rcases framed.telemetry with same | ⟨_, swept⟩
    · rw [same]
    · rw [swept, List.filter_filter]
      apply List.filter_congr
      intro row _
      by_cases own : row.tenantId = tenantId
      · simp [own]
      · simp [own]
  · rcases framed.audits with same | swept
    · rw [same]
    · rw [swept]
      exact foreign_map redact_foreign
        (fun row => (redact_keeps jsonText tenantId requestId payload row).1) _
  · rcases framed.requests with same | ⟨perStore, completedAt, settled⟩
    · rw [same]
    · rw [settled]
      exact foreign_map settleRow_foreign settleRow_tenantId _
  · rcases framed.policies with same | ⟨_, swept⟩
    · rw [same]
    · rw [swept, List.length_map]
  · rcases framed.audits with same | swept
    · rw [same]
    · rw [swept, List.length_map]

/-- Each step leaves the stores alone or sweeps its own table. -/
theorem registry_step (fate : Calls.Fate Fault) :
    (Calls.call fate (eraseRegistry tenant.val payload) before).1 = before ∨
      payload.subjectKind = .vehicle ∧
        (Calls.call fate (eraseRegistry tenant.val payload) before).1 =
          before.eraseScopes tenant.val payload.subjectIdentifier := by
  rcases Calls.call_store fate (eraseRegistry tenant.val payload) before with kept | effect
  · exact Or.inl kept
  · by_cases vehicle : payload.subjectKind = .vehicle
    · exact Or.inr ⟨vehicle, eraseRegistry_removes vehicle effect⟩
    · left
      rw [eraseRegistry, if_pos vehicle] at effect
      exact (Except.ok.inj effect).symm

theorem telemetry_step (fate : Calls.Fate Fault) :
    (Calls.call fate (eraseTelemetry tenant.val payload) before).1 = before ∨
      payload.subjectKind = .vehicle ∧
        (Calls.call fate (eraseTelemetry tenant.val payload) before).1 =
          before.eraseTelemetry tenant.val payload.subjectIdentifier := by
  rcases Calls.call_store fate (eraseTelemetry tenant.val payload) before with kept | effect
  · exact Or.inl kept
  · by_cases vehicle : payload.subjectKind = .vehicle
    · exact Or.inr ⟨vehicle, eraseTelemetry_removes vehicle effect⟩
    · left
      rw [eraseTelemetry, if_pos vehicle] at effect
      exact (Except.ok.inj effect).symm

theorem audit_step (fate : Calls.Fate Fault) :
    (Calls.call fate (redactAudit jsonText tenant.val payload) before).1 = before ∨
      (Calls.call fate (redactAudit jsonText tenant.val payload) before).1 = { before with
        rows := { before.rows with
          audits := before.rows.audits.map (redact jsonText tenant.val payload) } } := by
  rcases Calls.call_store fate (redactAudit jsonText tenant.val payload) before with kept | effect
  · exact Or.inl kept
  · exact Or.inr (redactAudit_ok effect)

theorem record_step (fate : Calls.Fate Fault) (perStore : PerStoreStatus) (now : Nat) :
    (Calls.call fate (recordStatus tenant.val requestId perStore now) before).1 = before ∨
      (Calls.call fate (recordStatus tenant.val requestId perStore now) before).1 = { before with
        requests := before.requests.map (settleRow tenant.val requestId perStore now) } := by
  rcases Calls.call_store fate (recordStatus tenant.val requestId perStore now) before with
    kept | effect
  · exact Or.inl kept
  · right
    generalize (Calls.call fate (recordStatus tenant.val requestId perStore now) before).1 = next
      at effect ⊢
    have settled := recordStatus_ok effect
    rw [recordStatus, Checked.bind_ok_iff] at effect
    obtain ⟨requests, _, same⟩ := effect
    cases same
    dsimp only at settled ⊢
    rw [settled]

/-- Four steps, each of which did its work or nothing. -/
theorem framed_of_steps {tenantId : String} {first second third fourth : Stores}
    {perStore : PerStoreStatus} {now : Nat}
    (registry : first = before ∨ payload.subjectKind = .vehicle ∧
      first = before.eraseScopes tenantId payload.subjectIdentifier)
    (telemetry : second = first ∨ payload.subjectKind = .vehicle ∧
      second = first.eraseTelemetry tenantId payload.subjectIdentifier)
    (audit : third = second ∨ third = { second with
      rows := { second.rows with
        audits := second.rows.audits.map (redact jsonText tenantId payload) } })
    (record : fourth = third ∨ fourth = { third with
      requests := third.requests.map (settleRow tenantId requestId perStore now) }) :
    Framed jsonText tenantId requestId payload before fourth := by
  -- what each step has nothing to do with
  have one : first.telemetry = before.telemetry ∧ first.requests = before.requests ∧
      first.rows.audits = before.rows.audits ∧ first.rows.deployments = before.rows.deployments ∧
      first.rows.tenants = before.rows.tenants := by
    rcases registry with same | ⟨_, swept⟩
    · simp [same]
    · simp [swept, Stores.eraseScopes]
  have two : second.rows = first.rows ∧ second.requests = first.requests := by
    rcases telemetry with same | ⟨_, swept⟩
    · simp [same]
    · simp [swept, Stores.eraseTelemetry]
  have three : third.telemetry = second.telemetry ∧ third.requests = second.requests ∧
      third.rows.policies = second.rows.policies ∧
      third.rows.deployments = second.rows.deployments ∧
      third.rows.tenants = second.rows.tenants := by
    rcases audit with same | swept
    · simp [same]
    · simp [swept]
  have four : fourth.rows = third.rows ∧ fourth.telemetry = third.telemetry := by
    rcases record with same | settled
    · simp [same]
    · simp [settled]
  constructor
  case policies =>
    rw [four.1, three.2.2.1, two.1]
    rcases registry with same | ⟨kind, swept⟩
    · exact Or.inl (by rw [same])
    · exact Or.inr ⟨kind, by rw [swept]; rfl⟩
  case telemetry =>
    rw [four.2, three.1, ← one.1]
    rcases telemetry with same | ⟨kind, swept⟩
    · exact Or.inl (by rw [same])
    · exact Or.inr ⟨kind, by rw [swept]; rfl⟩
  case audits =>
    rw [four.1, ← one.2.2.1, ← two.1]
    rcases audit with same | swept
    · exact Or.inl (by rw [same])
    · exact Or.inr (by rw [swept])
  case requests =>
    rw [← one.2.1, ← two.2, ← three.2.1]
    rcases record with same | settled
    · exact Or.inl (by rw [same])
    · exact Or.inr ⟨perStore, now, by rw [settled]⟩
  case deployments => rw [four.1, three.2.2.2.1, two.1, one.2.2.2.1]
  case tenants => rw [four.1, three.2.2.2.2, two.1, one.2.2.2.2]

end Dispatch

/-- However its transactions fail, an erasure changes nothing but the tenant's own rows that name
the subject, each table as a whole or not at all, and the status of the request. -/
theorem dispatch_changes_nothing_else (jsonText : Json → String) (fates : Fates) (now : Nat)
    (tenant : TenantId) (requestId : String) (payload : ErasureRequest) (stores : Stores) :
    Framed jsonText tenant.val requestId payload stores
        (dispatch jsonText fates now tenant.val requestId payload stores).stores ∧
      OthersKept tenant.val stores
        (dispatch jsonText fates now tenant.val requestId payload stores).stores := by
  have framed : Framed jsonText tenant.val requestId payload stores
      (dispatch jsonText fates now tenant.val requestId payload stores).stores :=
    framed_of_steps (registry_step fates.registry) (telemetry_step fates.telemetry)
      (audit_step fates.audit) (record_step fates.record _ now)
  exact ⟨framed, framed.othersKept⟩

end CollectMind.Erasure
