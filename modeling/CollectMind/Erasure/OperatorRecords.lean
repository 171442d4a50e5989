import CollectMind.AuditAdmin.BreakGlass
import CollectMind.Erasure.Dispatcher

set_option autoImplicit false

/- The operators' break-glass records under erasure. A record carries the tenant it was about, so
that tenant's requests see it, and the operator as its principal, which a request may name. -/
namespace CollectMind.Erasure

open Python RowSecurity Registry AuditAdmin

/-- A submission, what its connections do, and when its dispatch ends. -/
structure ErasureCall where
  submission : Submission
  submitFates : Nat → Calls.Fate AuditError
  fates : Fates
  now : Nat

section Requests

variable (jsonText : Json → String)

/-- A request from `submit` to the end of the task that it creates. -/
def request (stores : Stores) (call : ErasureCall) : Stores :=
  match submit call.submitFates call.submission stores with
  | (submitted, some _) => submitted
  | (submitted, none) =>
    (dispatch jsonText call.fates call.now call.submission.tenantId call.submission.requestId
      call.submission.payload submitted).stores

def requests (stores : Stores) (calls : List ErasureCall) : Stores :=
  calls.foldl (request jsonText) stores

/-- The stores when the audit log's turn comes. -/
def beforeRedaction (stores : Stores) (call : ErasureCall) : Stores :=
  let submitted := (submit call.submitFates call.submission stores).1
  let registry := (Calls.call call.fates.registry
    (eraseRegistry call.submission.tenantId call.submission.payload) submitted).1
  (Calls.call call.fates.telemetry
    (eraseTelemetry call.submission.tenantId call.submission.payload) registry).1

/-- The request comes to the audit log and commits there. -/
def Redacts (stores : Stores) (call : ErasureCall) : Prop :=
  (submit call.submitFates call.submission stores).2 = none ∧
    (∃ next, redactAudit jsonText call.submission.tenantId call.submission.payload
      (beforeRedaction stores call) = .ok next) ∧ call.fates.audit.commits = true

end Requests

def breakGlassRows (stores : Stores) : List AuditRow :=
  stores.rows.audits.filter fun row => row.kind == .breakGlass

/-- A redaction has left its mark on the row. -/
def redacted (row : AuditRow) : Bool :=
  ((row.originatingFinding.getD []).get "redacted_subject").isSome

section Redaction

variable {jsonText : Json → String} {tenantId : String} {payload : ErasureRequest}

theorem findingId_redactFinding (subject : String) (finding : Option Dict) :
    findingId jsonText (some (redactFinding subject finding)) = findingId jsonText finding := by
  have kept : (redactFinding subject finding).get "finding_id" =
      (finding.getD []).get "finding_id" :=
    Dict.get_set_other (by decide) _ _
  cases finding with
  | none =>
      simp only [findingId, Option.bind_eq_bind, Option.bind_some, kept]
      rfl
  | some fields =>
      simp only [findingId, Option.bind_eq_bind, Option.bind_some, kept, Option.getD_some]

/-- Redaction changes neither what kind of row it is nor whose, nor whom it concerns, and takes
no mark away. -/
structure Discreet (jsonText : Json → String) (sweep : AuditRow → AuditRow) : Prop where
  kind : ∀ row, (sweep row).kind = row.kind
  tenantId : ∀ row, (sweep row).tenantId = row.tenantId
  concerns : ∀ row subject, concerns jsonText subject (sweep row) ↔ concerns jsonText subject row
  marks : ∀ row, redacted row = true → redacted (sweep row) = true

theorem redacted_redact {row : AuditRow} (own : row.tenantId = tenantId)
    (about : concerns jsonText payload.subjectIdentifier row) :
    redacted (redact jsonText tenantId payload row) = true := by
  rw [redact, if_pos ⟨own, about⟩, redacted, Option.getD_some, redactFinding, Dict.get_set_same]
  rfl

theorem redact_discreet (jsonText : Json → String) (tenantId : String) (payload : ErasureRequest) :
    Discreet jsonText (redact jsonText tenantId payload) := by
  constructor
  case kind =>
    intro row
    unfold redact
    split
    · rfl
    · rfl
  case tenantId =>
    intro row
    exact (redact_keeps jsonText tenantId "" payload row).1
  case concerns =>
    intro row subject
    unfold redact
    split
    · simp only [Erasure.concerns, findingId_redactFinding]
    · rfl
  case marks =>
    intro row marked
    by_cases hit : row.tenantId = tenantId ∧ Erasure.concerns jsonText payload.subjectIdentifier row
    · exact redacted_redact hit.1 hit.2
    · rw [redact, if_neg hit]
      exact marked

theorem id_discreet (jsonText : Json → String) : Discreet jsonText id :=
  ⟨fun _ => rfl, fun _ => rfl, fun _ _ => Iff.rfl, fun _ marked => marked⟩

theorem Discreet.comp {first second : AuditRow → AuditRow} (later : Discreet jsonText second)
    (earlier : Discreet jsonText first) : Discreet jsonText (second ∘ first) := by
  constructor
  · exact fun row => (later.kind _).trans (earlier.kind row)
  · exact fun row => (later.tenantId _).trans (earlier.tenantId row)
  · exact fun row subject => (later.concerns _ subject).trans (earlier.concerns row subject)
  · exact fun row marked => later.marks _ (earlier.marks row marked)

theorem filter_map_kind {sweep : AuditRow → AuditRow} (kind : ∀ row, (sweep row).kind = row.kind)
    (rows : List AuditRow) :
    (rows.map sweep).filter (fun row => row.kind == .breakGlass) =
      (rows.filter fun row => row.kind == .breakGlass).map sweep := by
  rw [List.filter_map]
  congr 1
  apply List.filter_congr
  intro row _
  simp only [Function.comp, kind]

end Redaction

section Steps

variable {jsonText : Json → String} {stores : Stores}

/-- What a request files of its own is no break-glass record. -/
theorem submit_breakGlass (fates : Nat → Calls.Fate AuditError) (submission : Submission)
    (stores : Stores) :
    breakGlassRows (submit fates submission stores).1 = breakGlassRows stores := by
  apply Calls.sequence_keeps breakGlassRows
  intro operation member store next effect
  rcases List.mem_cons.mp member with rfl | member
  · rw [(insertRequest_ok effect).2]
    rfl
  · rw [List.mem_singleton.mp member, auditRequest, Checked.bind_ok_iff] at effect
    obtain ⟨⟨audits, stored⟩, written, settled⟩ := effect
    cases settled
    obtain ⟨_, _, ⟨_, appended, _⟩ | ⟨row, _, _, _, _, same, _⟩⟩ := write_ok written
    · simp only [breakGlassRows, appended, List.filter_append]
      simp [AuditEvent.row]
    · simp only [breakGlassRows, same]

theorem keeps_breakGlass {operation : Stores → Except Fault Stores}
    (audits : Calls.Keeps (fun stores : Stores => stores.rows.audits) operation) :
    Calls.Keeps breakGlassRows operation := by
  intro store next success
  have same : next.rows.audits = store.rows.audits := audits store next success
  rw [breakGlassRows, same, breakGlassRows]

theorem beforeRedaction_breakGlass (stores : Stores) (call : ErasureCall) :
    breakGlassRows (beforeRedaction stores call) = breakGlassRows stores := by
  have registry := keeps_breakGlass ((eraseRegistry_keeps call.submission.tenantId
    call.submission.payload).map Prod.fst)
  have telemetry := keeps_breakGlass ((eraseTelemetry_keeps call.submission.tenantId
    call.submission.payload).map Prod.fst)
  simp only [beforeRedaction]
  rw [telemetry.call, registry.call, submit_breakGlass]

/-- A request that comes to the audit log leaves of the records what its redaction does. -/
theorem request_of_returns (call : ErasureCall)
    (returned : (submit call.submitFates call.submission stores).2 = none) :
    breakGlassRows (request jsonText stores call) =
      breakGlassRows (Calls.call call.fates.audit
        (redactAudit jsonText call.submission.tenantId call.submission.payload)
        (beforeRedaction stores call)).1 := by
  unfold request
  split
  · rename_i submitted failure outcome
    rw [outcome] at returned
    cases returned
  · rename_i submitted outcome
    simp only [dispatch]
    rw [(keeps_breakGlass ((recordStatus_keeps _ _ _ _).map fun kept => kept.1.audits)).call]
    simp only [beforeRedaction, outcome]

theorem request_redacts {call : ErasureCall} (redacts : Redacts jsonText stores call) :
    breakGlassRows (request jsonText stores call) = (breakGlassRows stores).map
      (redact jsonText call.submission.tenantId call.submission.payload) := by
  obtain ⟨returned, ⟨next, effect⟩, commits⟩ := redacts
  let tenant : TenantId := ⟨call.submission.tenantId, (submit_returns returned).1⟩
  have committed : redactAudit jsonText tenant.val call.submission.payload
      (beforeRedaction stores call) = .ok next := effect
  have swept := redactAudit_ok committed
  rw [request_of_returns call returned, Calls.call_commits effect commits, swept,
    ← beforeRedaction_breakGlass stores call]
  exact filter_map_kind (redact_discreet jsonText _ _).kind _

theorem request_spares {call : ErasureCall} (spares : ¬ Redacts jsonText stores call) :
    breakGlassRows (request jsonText stores call) = breakGlassRows stores := by
  by_cases returned : (submit call.submitFates call.submission stores).2 = none
  · obtain ⟨failure, kept⟩ := Calls.call_not_commits fun commits => spares ⟨returned, commits⟩
    rw [request_of_returns call returned, kept]
    exact beforeRedaction_breakGlass stores call
  · unfold request
    split
    · rename_i submitted failure outcome
      rw [← submit_breakGlass call.submitFates call.submission stores, outcome]
    · rename_i submitted outcome
      rw [outcome] at returned
      exact absurd rfl returned

/-- Whatever the requests, they have swept the records discreetly. -/
theorem requests_sweep (jsonText : Json → String) (calls : List ErasureCall) (stores : Stores) :
    ∃ sweep, Discreet jsonText sweep ∧
      breakGlassRows (requests jsonText stores calls) = (breakGlassRows stores).map sweep := by
  induction calls generalizing stores with
  | nil => exact ⟨id, id_discreet jsonText, (List.map_id _).symm⟩
  | cons call rest ih =>
      obtain ⟨later, discreet, swept⟩ := ih (request jsonText stores call)
      by_cases redacts : Redacts jsonText stores call
      · refine ⟨later ∘ redact jsonText call.submission.tenantId call.submission.payload,
          discreet.comp (redact_discreet jsonText _ _), ?_⟩
        rw [← List.map_map, ← request_redacts redacts]
        exact swept
      · rw [request_spares redacts] at swept
        exact ⟨later, discreet, swept⟩

end Steps

/-- The request is by the tenant that the record is about, and for a subject that the record's
finding or principal is. -/
def Targets (jsonText : Json → String) (call : ErasureCall) (row : AuditRow) : Prop :=
  row.tenantId = call.submission.tenantId ∧
    concerns jsonText call.submission.payload.subjectIdentifier row

/-- Records that no erasure has touched yet stay as they were written, exactly if none of the
requests that commits to the audit log targets one of them. -/
theorem breakGlass_survives_iff_untargeted (jsonText : Json → String) (stores : Stores)
    (unredacted : ∀ row ∈ breakGlassRows stores, redacted row = false) (calls : List ErasureCall) :
    breakGlassRows (requests jsonText stores calls) = breakGlassRows stores ↔
      ∀ earlier call later, calls = earlier ++ call :: later →
        Redacts jsonText (requests jsonText stores earlier) call →
        ∀ row ∈ breakGlassRows stores, ¬ Targets jsonText call row := by
  constructor
  · intro same earlier call later split redacts row member target
    obtain ⟨before, discreet, first⟩ := requests_sweep jsonText earlier stores
    obtain ⟨after, still, last⟩ := requests_sweep jsonText later
      (request jsonText (requests jsonText stores earlier) call)
    have whole : breakGlassRows (requests jsonText stores calls) = (breakGlassRows stores).map
        (after ∘ redact jsonText call.submission.tenantId call.submission.payload ∘ before) := by
      rw [← List.map_map, ← List.map_map, ← first, ← request_redacts redacts, ← last, split]
      simp only [requests, List.foldl_append, List.foldl_cons]
    rw [same] at whole
    have fixed : (after ∘ redact jsonText call.submission.tenantId call.submission.payload ∘ before)
        row = row := by
      have pointwise := List.map_inj_left.mp ((List.map_id _).trans whole) row member
      exact pointwise.symm
    -- the mark is there once the request has been, and stays
    have marked : redacted ((after ∘ redact jsonText call.submission.tenantId
        call.submission.payload ∘ before) row) = true := by
      apply still.marks
      apply redacted_redact
      · rw [discreet.tenantId]
        exact target.1
      · exact (discreet.concerns row _).mpr target.2
    rw [fixed, unredacted row member] at marked
    cases marked
  · intro untargeted
    induction calls using List.reverseRecOn with
    | nil => rfl
    | append_singleton calls call ih =>
        have kept := ih fun earlier other later split =>
          untargeted earlier other (later ++ [call]) (by rw [split]; simp)
        have last : requests jsonText stores (calls ++ [call]) =
            request jsonText (requests jsonText stores calls) call := by
          simp only [requests, List.foldl_append, List.foldl_cons, List.foldl_nil]
        rw [last]
        by_cases redacts : Redacts jsonText (requests jsonText stores calls) call
        · rw [request_redacts redacts, kept]
          have missed := untargeted calls call [] rfl redacts
          have pointwise : ∀ row ∈ breakGlassRows stores,
              redact jsonText call.submission.tenantId call.submission.payload row = id row :=
            fun row member => if_neg (missed row member)
          rw [List.map_congr_left pointwise, List.map_id]
        · rw [request_spares redacts]
          exact kept

/-- A record as `break_glass_query` writes it has no mark, and concerns its operator alone. -/
theorem invocation_row (jsonText : Json → String) (invocation : Invocation) (subject : String) :
    redacted invocation.row = false ∧
      (concerns jsonText subject invocation.row ↔ invocation.operator = subject) := by
  refine ⟨rfl, ?_⟩
  have unnamed : findingId jsonText invocation.row.originatingFinding = none := rfl
  rw [concerns, unnamed]
  constructor
  · intro either
    rcases either with found | principal
    · cases found
    · exact principal
  · intro principal
    exact Or.inr principal

/-- Operator `alice` has read the audit events of `tenant-a`. -/
def recordedStores : Stores where
  rows :=
    { tenants := ["tenant-a"]
      audits := [(sampleInvocation "alice" "event-1" .incidentResponse).row]
      policies := []
      deployments := [] }
  telemetry := []
  requests := []

/-- A request of `tenant-a` about a principal, with nothing going wrong. -/
def principalCall (subject : String) (nonEmpty : subject ≠ "") : ErasureCall where
  submission :=
    { requestId := "request-1"
      tenantId := "tenant-a"
      requestedBy := "privacy-officer"
      requestedAt := 10
      targetCompletionAt := 20
      payload := ⟨.principal, subject, .erased, nonEmpty⟩
      eventId := "event-2" }
  submitFates _ := .runs
  fates := ⟨.runs, .runs, .runs, .runs⟩
  now := 15

theorem breakGlass_survives_iff_untargeted_driver :
    (∀ row ∈ breakGlassRows recordedStores, redacted row = false) ∧
      breakGlassRows (requests (fun _ => "") recordedStores [principalCall "driver-1" (by decide)]) =
        breakGlassRows recordedStores := by
  have unredacted : ∀ row ∈ breakGlassRows recordedStores, redacted row = false := by decide
  refine ⟨unredacted, ?_⟩
  apply (breakGlass_survives_iff_untargeted (fun _ => "") recordedStores unredacted _).mpr
  intro earlier call later split _ row member target
  have only : call = principalCall "driver-1" (by decide) := by
    have inside : call ∈ earlier ++ call :: later := by simp
    rw [← split] at inside
    exact List.mem_singleton.mp inside
  have record : row = (sampleInvocation "alice" "event-1" .incidentResponse).row :=
    List.mem_singleton.mp (List.mem_filter.mp member).1
  rw [only, record, Targets, (invocation_row _ _ _).2] at target
  exact absurd target.2 (by decide)

/-- The tenant asks for the erasure of a principal by the operator's name, and the operator's
record is rewritten. -/
theorem breakGlass_rewritten_for_operator :
    (breakGlassRows recordedStores).map redacted = [false] ∧
    (breakGlassRows (requests (fun _ => "") recordedStores
      [principalCall "alice" (by decide)])).map redacted = [true] ∧
    breakGlassRows (requests (fun _ => "") recordedStores [principalCall "alice" (by decide)]) ≠
      breakGlassRows recordedStores := by
  have before : (breakGlassRows recordedStores).map redacted = [false] := by decide
  have after : (breakGlassRows (requests (fun _ => "") recordedStores
      [principalCall "alice" (by decide)])).map redacted = [true] := by decide +kernel
  refine ⟨before, after, ?_⟩
  intro same
  rw [same, before] at after
  cases after

end CollectMind.Erasure
