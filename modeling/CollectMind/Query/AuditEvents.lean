import Mathlib.Data.List.ReduceOption
import CollectMind.AuditAdmin.BreakGlass
import CollectMind.Deployer.ScopeCheck
import CollectMind.Library.PyText
import CollectMind.Registry.TenantConfig

set_option autoImplicit false

/- `GET /api/v1/audit/{correlation_id}` of query/api.py over everything that writes audit events:
what a tenant is shown of the rows that were filed under its name. -/
namespace CollectMind.Query

open Python Registry RowSecurity AuditAdmin Deployer

/-- The kinds that are for operators only. -/
def operatorOnly : AuditKind → Bool
  | .breakGlass | .tenantConfigChange | .vehicleAssignmentChange => true
  | _ => false

/-- `^[A-Za-z0-9_\-.]{1,256}$`, which also matches before a final newline. -/
def safeId (value : String) : Bool :=
  let text := value.toList
  let matched := if text.getLast? = some '\n' then text.dropLast else text
  1 ≤ matched.length && matched.length ≤ 256 &&
    matched.all fun char => char.isAlphanum || char == '_' || char == '-' || char == '.'

/-- The `error` that `_row_to_event` takes out of `_extras`; `none` where that raises, as it does
for a value that `in` or `[]` do not work on. -/
def eventError (finding : Option Dict) : Option Json :=
  match finding >>= fun fields => fields.get "_extras" with
  | none => some .null
  | some extras =>
    if !extras.truthy then some .null
    else
      match extras with
      | .obj fields => some ((Dict.get fields "error").getD .null)
      | .arr items => if items.any (Json.isStr "error") then none else some .null
      | .str text =>
        if occursIn "error".toList text.toList then none else some .null
      | _ => none

def dictOrNull (value : Option Dict) : Json := value.elim .null .obj

/-- `_row_to_event`. -/
def rowToEvent (isoformat : Nat → String) (row : AuditRow) : Option Dict := do
  let error ← eventError row.originatingFinding
  return [("event_id", .str row.eventId), ("tenant_id", .str row.tenantId),
    ("kind", .str row.kind.text), ("correlation_id", .str row.correlationId),
    ("principal_subject", .str row.principalSubject),
    ("occurred_at", .str (isoformat row.occurredAt)),
    ("originating_finding", dictOrNull row.originatingFinding),
    ("policy_ref", dictOrNull row.policyRef), ("deployment_ref", dictOrNull row.deploymentRef),
    ("outcome_ref", dictOrNull row.outcomeRef), ("error", error),
    ("slm_repo", textOrNull row.slm.slmRepo),
    ("slm_revision_sha", textOrNull row.slm.slmRevisionSha),
    ("slm_runtime", textOrNull row.slm.slmRuntime),
    ("slm_runtime_version", textOrNull row.slm.slmRuntimeVersion),
    ("slm_quantization", textOrNull row.slm.slmQuantization),
    ("slm_decoding_seed", row.slm.slmDecodingSeed.elim .null .int),
    ("prompt_template_version", textOrNull row.slm.promptTemplateVersion),
    ("inbound_schema_version", textOrNull row.inboundSchemaVersion),
    ("time_acceleration_factor",
      row.timeAccelerationFactor.elim .null fun factor => .float (.finite factor))]

/-- The rows of `list_for_correlation`. -/
def listForCorrelation (rows : List AuditRow) (tenantId correlationId : String) : List AuditRow :=
  ((visible auditTable (tenantAccess tenantId) rows).filter fun row =>
    row.tenantId == tenantId && row.correlationId == correlationId)
    |>.insertionSort fun first second => first.occurredAt ≤ second.occurredAt

inductive Response where
  | events (events : List Dict)
  | notFound
  | failed

/-- `audit_for_correlation`. -/
def auditForCorrelation (isoformat : Nat → String) (rows : List AuditRow)
    (tenantId correlationId : String) : Response :=
  if !safeId correlationId then .notFound
  else
    match (listForCorrelation rows tenantId correlationId).mapM (rowToEvent isoformat) with
    | none => .failed
    | some [] => .notFound
    | some events => .events events

/-- The database behind the endpoint and its writers. -/
structure World where
  fleet : Fleet
  configs : List ConfigRow

def World.audits (world : World) : List AuditRow := world.fleet.audits

def World.setAudits (world : World) (audits : List AuditRow) : World :=
  { world with fleet := { world.fleet with audits := audits } }

/-- Everything that writes audit events. -/
inductive Operation where
  | write (event : AuditEvent) (eventId : String) (now : Nat)
  | breakGlass (invocation : Invocation)
  | configure (setting : Option String) (write : ConfigWrite) (draws : Draws)
  | assign (call : AssignCall)
  | scopeCheck (gate : Gate) (policy : Dict) (tenantId correlationId : String)

/-- The world after an operation; one that raises leaves it alone. -/
def perform (world : World) : Operation → World
  | .write event eventId now =>
    match Registry.write world.fleet.tenants world.audits event eventId now with
    | .ok (audits, _) => world.setAudits audits
    | .error _ => world
  | .breakGlass invocation =>
    world.setAudits (breakGlassQuery world.fleet.tenants world.audits invocation).1
  | .configure setting write draws =>
    match configStatement world.fleet.tenants setting draws world.configs world.audits write with
    | .ok (configs, audits) => { world.setAudits audits with configs := configs }
    | .error _ => world
  | .assign call => { world with fleet := (Registry.assign world.fleet call).1 }
  | .scopeCheck gate policy tenantId correlationId =>
    world.setAudits (deployWithTenantScopeCheck { gate with tenants := world.fleet.tenants } policy
      world.audits tenantId correlationId).rows

/-- An operation, and the row that it has filed. -/
def step (world : World) (operation : Operation) : World × Option AuditRow :=
  (perform world operation, (perform world operation).audits[world.audits.length]?)

/-- The row that the scope check sends to the audit log, if it stops at a vehicle. -/
def sentRejection (gate : Gate) (policy : Dict) (tenantId correlationId : String) :
    Option AuditRow :=
  (firstNotOwned gate.owners (declaredTenant gate policy) (vehicleNames gate policy)).bind
    fun vehicle =>
      (rejectionEvent gate policy tenantId correlationId (mismatchOf gate policy vehicle)).sent
        gate.eventId gate.now

/-- The row that an operation sends to the audit log: its arguments decide, and for the triggers
the rows that they find changed. -/
def Operation.sent (world : World) : Operation → Option AuditRow
  | .write event eventId now => event.sent eventId now
  | .breakGlass invocation => some invocation.row
  | .configure setting statement draws =>
    statement.sent world.fleet.tenants setting draws world.configs
  | .assign call => call.sent world.fleet
  | .scopeCheck gate policy tenantId correlationId =>
    sentRejection gate policy tenantId correlationId

section Filing

theorem scopeCheck_filed (gate : Gate) (policy : Dict) (rows : List AuditRow)
    (tenantId correlationId : String) :
    (deployWithTenantScopeCheck gate policy rows tenantId correlationId).rows =
      rows ++ (filed gate.tenants rows
        (sentRejection gate policy tenantId correlationId)).toList := by
  rw [sentRejection]
  by_cases listed : vehicleScope policy = none
  · rw [vehicleNames, listed, deployWithTenantScopeCheck, validateTenantScope, listed]
    exact (List.append_nil _).symm
  · cases found : firstNotOwned gate.owners (declaredTenant gate policy)
        (vehicleNames gate policy) with
    | none =>
        obtain ⟨names, names_⟩ := Option.ne_none_iff_exists'.mp listed
        simp only [deployWithTenantScopeCheck, validateTenantScope, names_, found]
        exact (List.append_nil _).symm
    | some vehicle =>
        rw [outcome_rejects listed found, Option.bind_some, ← write_filed]
        cases Registry.write gate.tenants rows (rejectionEvent gate policy tenantId correlationId
            (mismatchOf gate policy vehicle)) gate.eventId gate.now with
        | error error => rfl
        | ok result => rfl

/-- Every operation files what it sends, if the log takes it, and nothing else. -/
theorem perform_audits (world : World) (operation : Operation) :
    (perform world operation).audits = world.audits ++
      (filed world.fleet.tenants world.audits (operation.sent world)).toList := by
  cases operation with
  | write event eventId now =>
      rw [Operation.sent, ← write_filed, perform]
      cases Registry.write world.fleet.tenants world.audits event eventId now with
      | error error => rfl
      | ok result => rfl
  | breakGlass invocation =>
      exact breakGlassQuery_filed world.fleet.tenants world.audits invocation
  | configure setting write draws =>
      rw [Operation.sent, ← configStatement_filed, perform]
      cases configStatement world.fleet.tenants setting draws world.configs world.audits write with
      | error fault => rfl
      | ok result => rfl
  | assign call => exact assign_filed world.fleet call
  | scopeCheck gate policy tenantId correlationId =>
      exact scopeCheck_filed { gate with tenants := world.fleet.tenants } policy world.audits tenantId
        correlationId

theorem step_files (world : World) (operation : Operation) :
    (step world operation).2 =
      filed world.fleet.tenants world.audits (operation.sent world) := by
  rw [step, perform_audits]
  cases filed world.fleet.tenants world.audits (operation.sent world) with
  | none => simp
  | some row => simp

theorem step_appends (world : World) (operation : Operation) :
    (step world operation).1.audits = world.audits ++ (step world operation).2.toList := by
  rw [step_files]
  exact perform_audits world operation

end Filing

section Shown

variable {isoformat : Nat → String} {rows : List AuditRow} {tenantId correlationId : String}

/-- The row stands under the tenant's name and the correlation id. -/
def FiledUnder (tenantId correlationId : String) (row : AuditRow) : Prop :=
  tenantId ≠ "" ∧ row.tenantId = tenantId ∧ row.correlationId = correlationId

theorem mem_listForCorrelation {row : AuditRow} :
    row ∈ listForCorrelation rows tenantId correlationId ↔
      row ∈ rows ∧ FiledUnder tenantId correlationId row := by
  rw [listForCorrelation, List.mem_insertionSort, List.mem_filter, auditTable,
    mem_visible_tenantAccess auditColumns (by decide), Bool.and_eq_true, beq_iff_eq, beq_iff_eq]
  constructor
  · intro shown
    exact ⟨shown.1.1, shown.1.2.1, shown.2⟩
  · intro filed
    exact ⟨⟨filed.1, filed.2.1, congrArg some filed.2.2.1⟩, filed.2.2⟩

theorem rowToEvent_kind {row : AuditRow} {event : Dict}
    (rendered : rowToEvent isoformat row = some event) :
    event.get "kind" = some (.str row.kind.text) := by
  obtain ⟨error, _, same⟩ := bind_some rendered
  cases same
  rfl

theorem text_injective {kind other : AuditKind} (same : kind.text = other.text) : kind = other := by
  cases kind <;> cases other <;> first | rfl | exact absurd same (by decide)

/-- Nothing for operators only, and no other tenant, in what the endpoint returns. -/
def DisclosesNothing (tenants : List String) (tenantId : String) (response : Response) : Prop :=
  ∀ events, response = .events events → ∀ event ∈ events,
    (∀ kind, operatorOnly kind = true → event.get "kind" ≠ some (.str kind.text)) ∧
      ∀ other ∈ tenants, other ≠ tenantId → (Json.obj event).mentions other = false

/-- The row, rendered for its tenant, names no other one. -/
def NamesNoOther (isoformat : Nat → String) (tenants : List String) (row : AuditRow) : Prop :=
  ∀ event, rowToEvent isoformat row = some event →
    ∀ other ∈ tenants, other ≠ row.tenantId → (Json.obj event).mentions other = false

theorem auditForCorrelation_events {events : List Dict} :
    auditForCorrelation isoformat rows tenantId correlationId = .events events ↔
      safeId correlationId = true ∧ events ≠ [] ∧
        (listForCorrelation rows tenantId correlationId).mapM (rowToEvent isoformat) =
          some events := by
  unfold auditForCorrelation
  cases safe : safeId correlationId with
  | false => simp
  | true =>
      cases rendered : (listForCorrelation rows tenantId correlationId).mapM
          (rowToEvent isoformat) with
      | none => simp
      | some found =>
          cases found with
          | nil =>
              simp only [Bool.not_true, Bool.false_eq_true, ↓reduceIte, reduceCtorEq, true_and,
                false_iff]
              intro both
              exact both.1 (Option.some.inj both.2).symm
          | cons first others =>
              simp only [Bool.not_true, Bool.false_eq_true, ↓reduceIte, Response.events.injEq,
                Option.some.injEq, true_and]
              constructor
              · intro same
                rw [← same]
                exact ⟨by simp, rfl⟩
              · exact fun both => both.2

/-- The endpoint filters by tenant and correlation id, and by nothing else. -/
theorem disclosesNothing_rows (tenants : List String) :
    DisclosesNothing tenants tenantId
        (auditForCorrelation isoformat rows tenantId correlationId) ↔
      safeId correlationId = false ∨
        (∃ row ∈ rows, FiledUnder tenantId correlationId row ∧ rowToEvent isoformat row = none) ∨
        ∀ row ∈ rows, FiledUnder tenantId correlationId row →
          operatorOnly row.kind = false ∧ NamesNoOther isoformat tenants row := by
  constructor
  · intro discreet
    by_cases safe : safeId correlationId = true
    · right
      cases rendered : (listForCorrelation rows tenantId correlationId).mapM
          (rowToEvent isoformat) with
      | none =>
          left
          obtain ⟨row, listed, raises⟩ := mapM_eq_none.mp rendered
          have filed := mem_listForCorrelation.mp listed
          exact ⟨row, filed.1, filed.2, raises⟩
      | some events =>
          right
          intro row member filed
          have listed := mem_listForCorrelation.mpr ⟨member, filed⟩
          obtain ⟨event, shown, same⟩ := mapM_eq_some_mem rendered listed
          have returned := auditForCorrelation_events.mpr
            ⟨safe, List.ne_nil_of_mem shown, rendered⟩
          obtain ⟨kinds, names⟩ := discreet events returned event shown
          constructor
          · by_contra exclusive
            exact kinds row.kind (by simpa using exclusive) (rowToEvent_kind same)
          · intro other again
            rw [same] at again
            cases again
            rw [filed.2.1]
            exact names
    · exact Or.inl (by simpa using safe)
  · intro quiet events returned event shown
    obtain ⟨safe, _, rendered⟩ := auditForCorrelation_events.mp returned
    obtain ⟨row, listed, same⟩ := mem_of_mapM_eq_some rendered shown
    have filed := mem_listForCorrelation.mp listed
    rcases quiet with unsafe_ | ⟨raising, member, under, raises⟩ | ordinary
    · rw [unsafe_] at safe
      cases safe
    · obtain ⟨other, _, rendering⟩ :=
        mapM_eq_some_mem rendered (mem_listForCorrelation.mpr ⟨member, under⟩)
      rw [raises] at rendering
      cases rendering
    · obtain ⟨kind, names⟩ := ordinary row filed.1 filed.2
      constructor
      · intro exclusive only named
        rw [rowToEvent_kind same] at named
        rw [← text_injective (Json.str.inj (Option.some.inj named)), kind] at only
        cases only
      · rw [← filed.2.2.1]
        exact names event same

end Shown

section Carried

variable {isoformat : Nat → String}

/-- Reading the `error` out of such an `_extras` raises: `in` or `[]` do not work on it. -/
def extrasRaise : Json → Bool
  | .null | .obj _ => false
  | .arr items => items.any (Json.isStr "error")
  | .str text => occursIn "error".toList text.toList
  | extras => extras.truthy

/-- The texts among the arguments of `write`, its draws included. -/
def writtenTexts (isoformat : Nat → String) (event : AuditEvent) (eventId : String) (now : Nat) :
    List String :=
  [eventId, event.kind.text, event.correlationId, event.principalSubject, isoformat now] ++
    [event.slm.slmRepo, event.slm.slmRevisionSha, event.slm.slmRuntime, event.slm.slmRuntimeVersion,
      event.slm.slmQuantization, event.slm.promptTemplateVersion,
      event.inboundSchemaVersion].reduceOption

/-- The documents among the arguments of `write`; an `error` is lost on a finding that has
`_extras` of its own. -/
def writtenValues (event : AuditEvent) : List Dict :=
  [event.originatingFinding, event.policyRef, event.deploymentRef, event.outcomeRef,
    if (event.originatingFinding.getD []).hasKey "_extras" then none else event.error].reduceOption

/-- The texts that a rejection at a vehicle puts together: the policy, the vehicle, the tenant that
the policy declares and the one that owns the vehicle. -/
def rejectedTexts (isoformat : Nat → String) (gate : Gate) (policy : Dict)
    (correlationId vehicle : String) : List String :=
  [gate.eventId, AuditKind.deploymentRejected.text, correlationId, isoformat gate.now,
    textOf gate policy "policy_id" "", textOf gate policy "version" "1.0.0", vehicle,
    declaredTenant gate policy] ++ (gate.owners vehicle).toList

/-- What the operation was given is for its tenant to see. -/
def Operation.Discreet (isoformat : Nat → String) (tenants : List String) (tenantId : String) :
    Operation → Prop
  | .write event eventId now =>
    operatorOnly event.kind = false ∧ ∀ other ∈ tenants, other ≠ tenantId →
      other ∉ writtenTexts isoformat event eventId now ∧
        ∀ value ∈ writtenValues event, (Json.obj value).mentions other = false
  | .scopeCheck gate policy _ correlationId =>
    ∀ vehicle,
      firstNotOwned gate.owners (declaredTenant gate policy) (vehicleNames gate policy) =
        some vehicle →
      ∀ other ∈ tenants, other ≠ tenantId →
        other ∉ rejectedTexts isoformat gate policy correlationId vehicle
  | .breakGlass _ | .configure _ _ _ | .assign _ => False

/-- The operation was given a finding that the endpoint cannot render. -/
def Operation.unreadable : Operation → Bool
  | .write event _ _ =>
    ((event.originatingFinding.getD []).get "_extras").any extrasRaise
  | _ => false

theorem bind_extras (finding : Option Dict) :
    (finding >>= fun fields => fields.get "_extras") = (finding.getD []).get "_extras" := by
  cases finding with
  | none => rfl
  | some fields => rfl

theorem eventError_eq_none (finding : Option Dict) :
    eventError finding = none ↔ ((finding.getD []).get "_extras").any extrasRaise = true := by
  rw [eventError, bind_extras]
  cases (finding.getD []).get "_extras" with
  | none => simp
  | some value =>
      cases value with
      | arr items =>
          cases items with
          | nil => simp [Json.truthy, extrasRaise]
          | cons first rest =>
              simp only [Json.truthy, extrasRaise, Option.any_some, List.isEmpty_cons, Bool.not_false,
                Bool.not_true, Bool.false_eq_true, ↓reduceIte, ite_eq_left_iff, reduceCtorEq,
                imp_false, Bool.not_eq_true, Bool.not_eq_false]
      | obj fields =>
          cases fields with
          | nil => simp [Json.truthy, extrasRaise]
          | cons first rest => simp [Json.truthy, extrasRaise]
      | str text =>
          by_cases empty : text = ""
          · rw [empty]
            decide
          · simp [Json.truthy, extrasRaise, empty]
      | _ => simp [Json.truthy, extrasRaise]

/-- The `error` that is shown is part of the finding that is shown. -/
theorem eventError_mentions {finding : Option Dict} {error : Json} {text : String}
    (shown : eventError finding = some error) (mentioned : error.mentions text = true) :
    fieldsMention text (finding.getD []) = true := by
  rw [eventError, bind_extras] at shown
  have silent : ¬ (some Json.null = some error) := by
    rintro ⟨⟩
    cases mentioned
  split at shown
  · exact absurd shown silent
  · rename_i extras found
    split at shown
    · exact absurd shown silent
    · split at shown
      · rename_i fields _
        cases named : Dict.get fields "error" with
        | none =>
            rw [named] at shown
            exact absurd shown silent
        | some value =>
            rw [named, Option.getD_some] at shown
            cases shown
            exact fieldsMention_of_mem (Dict.mem_of_get found)
              (fieldsMention_of_mem (Dict.mem_of_get named) mentioned)
      · split at shown
        · cases shown
        · exact absurd shown silent
      · split at shown
        · cases shown
        · exact absurd shown silent
      · cases shown

theorem dictOrNull_mentions (value : Option Dict) (text : String) :
    (dictOrNull value).mentions text = fieldsMention text (value.getD []) := by
  cases value with
  | none => rfl
  | some fields => rfl

theorem jsonColumn_getD (value : Option Dict) : (jsonColumn value).getD [] = value.getD [] := by
  cases value with
  | none => rfl
  | some fields =>
      cases fields with
      | nil => rfl
      | cons first rest => rfl

/-- The finding column holds the finding and, where it has no extras, the error. -/
theorem row_finding_mentions (event : AuditEvent) (eventId text : String) (now : Nat) :
    fieldsMention text ((event.row eventId now).originatingFinding.getD []) =
      (fieldsMention text (event.originatingFinding.getD []) ||
        fieldsMention text ((if (event.originatingFinding.getD []).hasKey "_extras" then none
          else event.error).getD [])) := by
  rw [AuditEvent.row, jsonColumn_getD, Option.getD_some]
  cases event.error with
  | none => simp [fieldsMention]
  | some error =>
      rw [Option.elim_some, Dict.setDefault]
      split
      · exact (Bool.or_false _).symm
      · rw [fieldsMention_append]
        simp [fieldsMention, Json.mentions]

theorem row_unreadable (event : AuditEvent) (eventId : String) (now : Nat) :
    (((event.row eventId now).originatingFinding.getD []).get "_extras").any extrasRaise =
      ((event.originatingFinding.getD []).get "_extras").any extrasRaise := by
  rw [AuditEvent.row, jsonColumn_getD, Option.getD_some]
  cases event.error with
  | none => rfl
  | some error =>
      rw [Option.elim_some, Dict.setDefault]
      split
      · rfl
      · rename_i absent
        have without : (event.originatingFinding.getD []).get "_extras" = none :=
          Option.not_isSome_iff_eq_none.mp absent
        rw [Dict.get_append, without, Option.none_or]
        rfl

theorem textOrNull_mentions (value : Option String) (text : String) :
    (textOrNull value).mentions text = true ↔ some text = value := by
  cases value with
  | none => simp [textOrNull, Json.mentions]
  | some given =>
      rw [textOrNull, Json.mentions, beq_iff_eq, Option.some.injEq]
      exact eq_comm

theorem exists_document_mentions (values : List (Option Dict)) (text : String) :
    (∃ value ∈ values.reduceOption, (Json.obj value).mentions text = true) ↔
      ∃ value ∈ values, fieldsMention text (value.getD []) = true := by
  constructor
  · rintro ⟨value, listed, mentioned⟩
    exact ⟨some value, List.reduceOption_mem_iff.mp listed, mentioned⟩
  · rintro ⟨value, listed, mentioned⟩
    cases value with
    | none => cases mentioned
    | some fields => exact ⟨fields, List.reduceOption_mem_iff.mpr listed, mentioned⟩

/-- What the tenant is shown of a written event are its own name and the texts and documents that
the writer was given. -/
theorem mentions_written {event : AuditEvent} {eventId text : String} {now : Nat} {shown : Dict}
    (rendered : rowToEvent isoformat (event.row eventId now) = some shown)
    (foreign : text ≠ event.tenantId) :
    (Json.obj shown).mentions text = true ↔
      text ∈ writtenTexts isoformat event eventId now ∨
        ∃ value ∈ writtenValues event, (Json.obj value).mentions text = true := by
  obtain ⟨error, found, same⟩ := bind_some rendered
  cases same
  have absorbed : error.mentions text = true → _ := eventError_mentions found
  have seed : ((event.row eventId now).slm.slmDecodingSeed.elim Json.null .int).mentions text =
      false := by
    cases (event.row eventId now).slm.slmDecodingSeed <;> rfl
  have factor : ((event.row eventId now).timeAccelerationFactor.elim Json.null
      fun factor => .float (.finite factor)).mentions text = false := by
    cases (event.row eventId now).timeAccelerationFactor <;> rfl
  rw [row_finding_mentions] at absorbed
  have own : ¬ event.tenantId = text := Ne.symm foreign
  rw [writtenValues, exists_document_mentions]
  simp only [Json.mentions, fieldsMention, seed, factor, dictOrNull_mentions, row_finding_mentions,
    Bool.or_eq_true, Bool.false_eq_true, textOrNull_mentions, beq_iff_eq]
  simp only [AuditEvent.row, jsonColumn_getD, writtenTexts, List.mem_append,
    List.reduceOption_mem_iff, List.mem_cons, List.not_mem_nil, exists_eq_or_imp, exists_eq_left,
    or_false, own, false_or, eq_comm (a := text)]
  -- The `error` is the one value that stands twice in what is shown.
  rw [Bool.or_eq_true] at absorbed
  clear rendered found seed factor own foreign
  grind

theorem sent_unreadable {world : World} {operation : Operation} {row : AuditRow}
    (sent : operation.sent world = some row) :
    rowToEvent isoformat row = none ↔ operation.unreadable = true := by
  have rendering : rowToEvent isoformat row = none ↔ eventError row.originatingFinding = none := by
    rw [rowToEvent]
    cases eventError row.originatingFinding with
    | none => simp
    | some error => simp
  rw [rendering, eventError_eq_none]
  cases operation with
  | write event eventId now =>
      obtain ⟨_, same⟩ := Option.ite_none_right_eq_some.mp sent
      cases same
      rw [row_unreadable]
      rfl
  | breakGlass invocation =>
      cases sent
      exact iff_of_false Bool.false_ne_true Bool.false_ne_true
  | configure setting statement draws =>
      obtain ⟨affected, old, new, rfl⟩ := ConfigWrite.sent_eq sent
      exact iff_of_false Bool.false_ne_true Bool.false_ne_true
  | assign call =>
      obtain ⟨_, same⟩ := Option.ite_none_right_eq_some.mp sent
      cases same
      exact iff_of_false Bool.false_ne_true Bool.false_ne_true
  | scopeCheck gate policy tenantId correlationId =>
      obtain ⟨vehicle, _, rejected⟩ := Option.bind_eq_some_iff.mp sent
      obtain ⟨_, same⟩ := Option.ite_none_right_eq_some.mp rejected
      cases same
      exact iff_of_false Bool.false_ne_true Bool.false_ne_true

theorem namesNoOther_written {event : AuditEvent} {eventId : String} {now : Nat}
    (tenants : List String) (readable : rowToEvent isoformat (event.row eventId now) ≠ none) :
    NamesNoOther isoformat tenants (event.row eventId now) ↔
      ∀ other ∈ tenants, other ≠ event.tenantId →
        other ∉ writtenTexts isoformat event eventId now ∧
          ∀ value ∈ writtenValues event, (Json.obj value).mentions other = false := by
  obtain ⟨shown, rendered⟩ := Option.ne_none_iff_exists'.mp readable
  have named : ∀ other, other ≠ event.tenantId →
      ((Json.obj shown).mentions other = false ↔
        other ∉ writtenTexts isoformat event eventId now ∧
          ∀ value ∈ writtenValues event, (Json.obj value).mentions other = false) := by
    intro other foreign
    rw [← Bool.not_eq_true, mentions_written rendered foreign]
    simp only [not_or, not_exists, not_and, Bool.not_eq_true]
  constructor
  · intro silent other known foreign
    exact (named other foreign).mp (silent shown rendered other known foreign)
  · intro silent again same other known foreign
    rw [rendered] at same
    cases same
    exact (named other foreign).mpr (silent other known foreign)

/-- A rejection is written with the texts that it puts together, and with the asking tenant's
name. -/
theorem rejected_written {gate : Gate} {policy : Dict} {tenantId correlationId vehicle other : String}
    (foreign : other ≠ tenantId) :
    (other ∉ writtenTexts isoformat
        (rejectionEvent gate policy tenantId correlationId (mismatchOf gate policy vehicle))
        gate.eventId gate.now ∧
      ∀ value ∈ writtenValues
          (rejectionEvent gate policy tenantId correlationId (mismatchOf gate policy vehicle)),
        (Json.obj value).mentions other = false) ↔
      other ∉ rejectedTexts isoformat gate policy correlationId vehicle := by
  have owner : (ownerJson (gate.owners vehicle)).mentions other = false ↔
      other ∉ (gate.owners vehicle).toList := by
    cases gate.owners vehicle with
    | none => simp [ownerJson, Json.mentions]
    | some name => simp [ownerJson, Json.mentions, eq_comm (a := other)]
  have texts : writtenTexts isoformat
      (rejectionEvent gate policy tenantId correlationId (mismatchOf gate policy vehicle))
      gate.eventId gate.now =
        [gate.eventId, AuditKind.deploymentRejected.text, correlationId, tenantId,
          isoformat gate.now] := rfl
  have documents : writtenValues
      (rejectionEvent gate policy tenantId correlationId (mismatchOf gate policy vehicle)) =
        [[("policy_ref", .obj [("policy_id", .str (textOf gate policy "policy_id" "")),
            ("version", .str (textOf gate policy "version" "1.0.0"))]),
          ("target_vehicle_id", .str vehicle),
          ("policy_declared_tenant_id", .str (declaredTenant gate policy)),
          ("vehicle_owning_tenant_id", ownerJson (gate.owners vehicle))]] := rfl
  rw [texts, documents, List.forall_mem_singleton, rejectedTexts]
  simp only [Json.mentions, fieldsMention, Bool.or_eq_false_iff, beq_eq_false_iff_ne, owner,
    List.mem_append, List.mem_cons, List.not_mem_nil, not_or, foreign, ne_eq, eq_comm (a := other),
    not_false_eq_true, and_true, true_and, and_assoc]

/-- What is shown of a row is for its tenant to see exactly if what the operation was given is. -/
theorem sent_discreet {world : World} {operation : Operation} {row : AuditRow}
    {tenants : List String} {tenantId : String} (sent : operation.sent world = some row)
    (own : row.tenantId = tenantId) (readable : ¬ operation.unreadable = true) :
    operatorOnly row.kind = false ∧ NamesNoOther isoformat tenants row ↔
      operation.Discreet isoformat tenants tenantId := by
  have rendering : rowToEvent isoformat row = none ↔ operation.unreadable = true :=
    sent_unreadable sent
  rw [← rendering] at readable
  cases operation with
  | write event eventId now =>
      obtain ⟨_, same⟩ := Option.ite_none_right_eq_some.mp sent
      cases same
      rw [namesNoOther_written tenants readable, show event.tenantId = tenantId from own]
      rfl
  | breakGlass invocation =>
      cases sent
      exact iff_of_false (fun both => Bool.noConfusion both.1) id
  | configure setting statement draws =>
      obtain ⟨affected, old, new, rfl⟩ := ConfigWrite.sent_eq sent
      exact iff_of_false (fun both => Bool.noConfusion both.1) id
  | assign call =>
      obtain ⟨_, same⟩ := Option.ite_none_right_eq_some.mp sent
      cases same
      exact iff_of_false (fun both => Bool.noConfusion both.1) id
  | scopeCheck gate policy asking correlationId =>
      obtain ⟨vehicle, found, rejected⟩ := Option.bind_eq_some_iff.mp sent
      obtain ⟨_, same⟩ := Option.ite_none_right_eq_some.mp rejected
      cases same
      obtain rfl : asking = tenantId := own
      rw [namesNoOther_written tenants readable]
      constructor
      · intro silent other_ found_ other known foreign
        cases found.symm.trans found_
        exact (rejected_written foreign).mp (silent.2 other known foreign)
      · intro discreet
        refine ⟨rfl, fun other known foreign => ?_⟩
        exact (rejected_written foreign).mpr (discreet vehicle found other known foreign)

end Carried

/-- A database with tenants and nothing else. -/
def World.start (tenants : List String) (nextHistoryId : Nat) : World :=
  ⟨⟨tenants, [], [], [], nextHistoryId⟩, []⟩

/-- The database just before an operation, after those before it. -/
def worldBefore (tenants : List String) (nextHistoryId : Nat) (earlier : List Operation) : World :=
  Runs.final step (World.start tenants nextHistoryId) earlier

/-- The operation sends a row for the tenant and the correlation id, and the log takes it. -/
def Operation.FilesUnder (world : World) (tenantId correlationId : String)
    (operation : Operation) : Prop :=
  ∃ row, operation.sent world = some row ∧
    storable world.fleet.tenants world.audits row = true ∧ FiledUnder tenantId correlationId row

theorem mem_final_audits {tenants : List String} {nextHistoryId : Nat}
    {operations : List Operation} {row : AuditRow} :
    row ∈ (worldBefore tenants nextHistoryId operations).audits ↔
      ∃ earlier operation later, operations = earlier ++ operation :: later ∧
        operation.sent (worldBefore tenants nextHistoryId earlier) = some row ∧
        storable (worldBefore tenants nextHistoryId earlier).fleet.tenants
          (worldBefore tenants nextHistoryId earlier).audits row = true := by
  have empty : (World.start tenants nextHistoryId).audits = [] := rfl
  rw [worldBefore, Runs.final_log step World.audits id step_appends, empty, List.nil_append,
    List.mem_filterMap]
  simp only [id_eq, exists_eq_right, Runs.mem_outputs_iff, step_files, filed_eq_some]
  rfl

/-- In every state that the writers can reach, the endpoint keeps what is not the tenant's from
it exactly if no operation is given such things to file under the tenant and the correlation id,
or if the endpoint returns no rows at all. -/
theorem disclosesNothing_iff_ordinary_filings (isoformat : Nat → String) (tenants : List String)
    (nextHistoryId : Nat) (operations : List Operation) (tenantId correlationId : String) :
    DisclosesNothing tenants tenantId (auditForCorrelation isoformat
        (worldBefore tenants nextHistoryId operations).audits tenantId correlationId) ↔
      safeId correlationId = false ∨
        (∃ earlier operation later, operations = earlier ++ operation :: later ∧
          operation.FilesUnder (worldBefore tenants nextHistoryId earlier) tenantId correlationId ∧
          operation.unreadable = true) ∨
        ∀ earlier operation later, operations = earlier ++ operation :: later →
          operation.FilesUnder (worldBefore tenants nextHistoryId earlier) tenantId correlationId →
          operation.Discreet isoformat tenants tenantId := by
  rw [disclosesNothing_rows]
  by_cases raises : ∃ earlier operation later, operations = earlier ++ operation :: later ∧
      operation.FilesUnder (worldBefore tenants nextHistoryId earlier) tenantId correlationId ∧
      operation.unreadable = true
  · refine iff_of_true (Or.inr (Or.inl ?_)) (Or.inr (Or.inl raises))
    obtain ⟨earlier, operation, later, split, ⟨row, sent, takes, under⟩, unreadable⟩ := raises
    exact ⟨row, mem_final_audits.mpr ⟨earlier, operation, later, split, sent, takes⟩, under,
      (sent_unreadable sent).mpr unreadable⟩
  · refine or_congr_right (or_congr ?_ ?_)
    · constructor
      · rintro ⟨row, member, under, raising⟩
        obtain ⟨earlier, operation, later, split, sent, takes⟩ := mem_final_audits.mp member
        exact ⟨earlier, operation, later, split, ⟨row, sent, takes, under⟩,
          (sent_unreadable sent).mp raising⟩
      · exact fun raising => absurd raising raises
    · constructor
      · rintro ordinary earlier operation later split ⟨row, sent, takes, under⟩
        have readable : ¬ operation.unreadable = true := fun unreadable =>
          raises ⟨earlier, operation, later, split, ⟨row, sent, takes, under⟩, unreadable⟩
        have member := mem_final_audits.mpr ⟨earlier, operation, later, split, sent, takes⟩
        exact (sent_discreet sent under.2.1 readable).mp (ordinary row member under)
      · intro discreet row member under
        obtain ⟨earlier, operation, later, split, sent, takes⟩ := mem_final_audits.mp member
        have readable : ¬ operation.unreadable = true := fun unreadable =>
          raises ⟨earlier, operation, later, split, ⟨row, sent, takes, under⟩, unreadable⟩
        exact (sent_discreet sent under.2.1 readable).mpr
          (discreet earlier operation later split ⟨row, sent, takes, under⟩)

/-- A vehicle of tenant-a that is sold to tenant-b. -/
def soldVehicle : List Operation :=
  [.assign ⟨⟨"vehicle-1", "tenant-a", "operator", "initial_provisioning"⟩, none,
      ⟨"event-1", "suffix", 1⟩, .runs, 0⟩,
    .assign ⟨⟨"vehicle-1", "tenant-b", "operator", "resale"⟩, some "sale-1",
      ⟨"event-2", "suffix", 2⟩, .runs, 0⟩]

/-- The buyer's `GET /api/v1/audit/sale-1` after the sale. -/
def buyerResponse : Response :=
  auditForCorrelation (fun _ => "")
    (worldBefore ["tenant-a", "tenant-b"] 1 soldVehicle).audits "tenant-b" "sale-1"

/-- The buyer reads who sold the vehicle. -/
theorem disclosesNothing_fails_for_sold_vehicle :
    (∃ event, buyerResponse = .events [event] ∧
      event.get "kind" = some (.str "vehicle_assignment_change") ∧
      (Json.obj event).mentions "tenant-a" = true) ∧
    ¬ DisclosesNothing ["tenant-a", "tenant-b"] "tenant-b" buyerResponse := by
  have answered : ∃ event, buyerResponse = .events [event] ∧
      event.get "kind" = some (.str "vehicle_assignment_change") ∧
      (Json.obj event).mentions "tenant-a" = true := by
    refine ⟨_, rfl, rfl, ?_⟩
    decide +kernel
  refine ⟨answered, ?_⟩
  intro discreet
  obtain ⟨event, shown, kind, _⟩ := answered
  have kinds := (discreet [event] shown event (List.mem_singleton.mpr rfl)).1
  exact kinds .vehicleAssignmentChange rfl kind

end CollectMind.Query
