import CollectMind.Graph.FailurePoints

set_option autoImplicit false

/- The `rejected` rows of a run: which cause they name, and what they report of the policy that
was generated last. A run that ends in the dead letter writes one code for two causes. -/
namespace CollectMind.Graph

open Python Registry Calls RowSecurity Validator

/-- The response of the last round that the loop reaches. -/
def lastOutput (env : Env) (retries attempts : Nat) : Option GenerationResponse :=
  match env.outputs attempts with
  | .error _ => none
  | .ok response =>
    if (validateNode env response.policy).2 then some response
    else
      match retries with
      | 0 => some response
      | retries + 1 => lastOutput env retries (attempts + 1)

/-- The collector accepts the deployment of a policy. -/
def CollectorAccepts (env : Env) (tenantId : String) (policy : Dict) : Prop :=
  ∃ call response, deployCall env tenantId policy = some call ∧ env.deploy call = .ok response ∧
    response.status = "accepted"

/-- A generator that always answers the same has that as its last output. -/
theorem lastOutput_constant {env : Env} {response : GenerationResponse}
    (always : ∀ k, env.outputs k = .ok response) (retries attempts : Nat) :
    lastOutput env retries attempts = some response := by
  induction retries generalizing attempts with
  | zero =>
      rw [lastOutput, always]
      simp
  | succ retries ih =>
      rw [lastOutput, always]
      simp [ih]

/-- How a run ends after the round of its last output: on the session that this round leaves,
up to the fields that no audit event reads. -/
structure EndsAfter (env : Env) (session : PolicyGenerationSession) (response : GenerationResponse)
    (result : GraphRun) : Prop where
  left : ∃ plan count record, result.session =
    { afterRound env session response with
      executionPlan := plan
      retryCount := count
      deploymentRecord := record }
  completed : result.finalState = .completed ↔ (validateNode env response.policy).2 = true ∧
    CollectorAccepts env session.tenantId response.policy

theorem EndsAfter.deadLetter {env : Env} {session : PolicyGenerationSession}
    {response : GenerationResponse} {result : GraphRun}
    (ends : EndsAfter env session response result)
    (undelivered : ¬ ((validateNode env response.policy).2 = true ∧
      CollectorAccepts env session.tenantId response.policy)) :
    result.finalState = .deadLetter := by
  cases final : result.finalState with
  | deadLetter => rfl
  | completed => exact absurd (ends.completed.mp final) undelivered

theorem deployNode_endsAfter {env : Env} {session : PolicyGenerationSession}
    {response : GenerationResponse} {attempts : Nat} {requests : List GenerationRequest}
    {result : GraphRun} (valid : (validateNode env response.policy).2 = true)
    (success : (deployNode env (afterRound env session response) attempts requests).outcome =
      .ok result) : EndsAfter env session response result := by
  rw [deployNode] at success
  split at success
  · cases success
  · rename_i call listed
    change deployCall env session.tenantId response.policy = some call at listed
    split at success
    · cases success
    · rename_i answer answered
      cases success
      refine ⟨⟨_, _, _, rfl⟩, ?_⟩
      have unique : CollectorAccepts env session.tenantId response.policy ↔
          answer.status = "accepted" := by
        constructor
        · rintro ⟨other, reply, same, replied, accepted⟩
          rw [listed] at same
          cases same
          rw [answered] at replied
          cases replied
          exact accepted
        · intro accepted
          exact ⟨call, answer, listed, answered, accepted⟩
      rw [unique]
      by_cases accepted : answer.status = "accepted"
      · simp [deploymentRecord, accepted, valid]
      · simp [deploymentRecord, accepted]

theorem rounds_endsAfter {env : Env} {attempts : Nat} {session : PolicyGenerationSession}
    {requests : List GenerationRequest} :
    ∀ result, (rounds env attempts session requests).outcome = .ok result →
      ∃ response, lastOutput env (retriesLeft session) attempts = some response ∧
        EndsAfter env session response result := by
  apply rounds_induction (motive := fun retries attempts session _ execution =>
    ∀ result, execution.outcome = .ok result →
      ∃ response, lastOutput env retries attempts = some response ∧
        EndsAfter env session response result)
  · intro retries attempts session requests message output result success
    cases success
  · intro retries attempts session requests response output valid result success
    refine ⟨response, ?_, deployNode_endsAfter valid success⟩
    rw [lastOutput.eq_def, output]
    simp only [valid, ↓reduceIte]
  · intro attempts session requests response output invalid result success
    cases success
    refine ⟨response, ?_, ⟨_, _, _, rfl⟩, by simp [invalid]⟩
    rw [lastOutput.eq_def, output]
    simp only [invalid, Bool.false_eq_true, ↓reduceIte]
  · intro retries attempts session requests response execution output invalid ih result success
    obtain ⟨final, last, ⟨plan, count, record, same⟩, completed⟩ := ih result success
    refine ⟨final, ?_, ⟨plan, count, record, same⟩, completed⟩
    rw [lastOutput.eq_def, output]
    simp only [invalid, Bool.false_eq_true, ↓reduceIte]
    exact last
  · rfl

theorem run_endsAfter {env : Env} {session : PolicyGenerationSession} {result : GraphRun}
    (success : (run env session).outcome = .ok result) :
    ∃ response, lastOutput env (retriesLeft session) 0 = some response ∧
      EndsAfter env session response result := by
  rw [run] at success
  obtain ⟨response, last, ⟨plan, count, record, same⟩, completed⟩ :=
    rounds_endsAfter result success
  exact ⟨response, last, ⟨plan, count, record, same⟩, completed⟩

section Reports

/-- The error that a row carries in its finding's extras. -/
def reportedError (row : AuditRow) : Option Dict :=
  match Dict.get (row.originatingFinding.getD []) "_extras" with
  | some (.obj extras) =>
    match Dict.get extras "error" with
    | some (.obj error) => some error
    | _ => none
  | _ => none

def rejectionCode (row : AuditRow) : Option Json :=
  (reportedError row).bind fun error => error.get "code"

def reportedInvalidSignals (row : AuditRow) : Option Json :=
  (reportedError row).bind fun error =>
    match error.get "details" with
    | some (.obj details) => Dict.get details "invalid_signals"
    | _ => none

/-- A row says that validation failed. -/
def ValidationFailed (row : AuditRow) : Prop :=
  row.kind = .rejected ∧ rejectionCode row = some (.str "VALIDATION_FAILED")

theorem validationFailed_iff (row : AuditRow) :
    ValidationFailed row ↔ (row.kind = .rejected ∧
      ((rejectionCode row).any (Json.isStr "VALIDATION_FAILED")) = true) := by
  rw [ValidationFailed]
  refine and_congr_right fun _ => ?_
  cases rejectionCode row with
  | none => simp
  | some code =>
      cases code with
      | str text => simp [Json.isStr]
      | _ => simp [Json.isStr]

instance (row : AuditRow) : Decidable (ValidationFailed row) :=
  decidable_of_iff _ (validationFailed_iff row).symm

/-- A runner's event is read back from its row. -/
theorem reportedError_row {session : PolicyGenerationSession} {event : AuditEvent}
    (finding : event.originatingFinding = some (findingRef session)) (eventId : String) (now : Nat) :
    reportedError (event.row eventId now) = event.error := by
  cases error : event.error with
  | none =>
      simp only [reportedError, AuditEvent.row, finding, error, Option.elim, Option.getD_some]
      rfl
  | some fields =>
      simp only [reportedError, AuditEvent.row, finding, error, Option.elim, Option.getD_some]
      rfl

/-- The names outside the vocabulary, in the policy's order. -/
def outsideVocabulary (validator : PolicyValidator) (spec : CollectionPolicySpec) : List String :=
  spec.signalNames.filter fun name => !validator.signals.contains name

theorem flattenInvalid_append {first second : List Dict} {early late : List Json}
    (one : flattenInvalid first = .ok early) (two : flattenInvalid second = .ok late) :
    flattenInvalid (first ++ second) = .ok (early ++ late) := by
  simp only [flattenInvalid, Functor.map, Except.map] at one two ⊢
  rw [List.mapM_append]
  split at one
  · cases one
  · rename_i results listed
    split at two
    · cases two
    · rename_i others listedToo
      cases one
      cases two
      simp only [listed, listedToo, bind, Except.bind, pure, Except.pure, List.flatten_append]

/-- The error of the vocabulary check lists the names outside the vocabulary. -/
theorem flattenInvalid_vocabulary (validator : PolicyValidator) (names : List String) :
    flattenInvalid ((validator.vocabularyErrors names).map ValidationError.toDict) =
      .ok ((names.filter fun name => !validator.signals.contains name).map Json.str) := by
  rw [PolicyValidator.vocabularyErrors]
  generalize names.filter (fun name => !validator.signals.contains name) = invalid
  by_cases nothing : invalid.isEmpty = true
  · rw [List.isEmpty_iff.mp nothing]
    rfl
  · simp only [nothing]
    exact congrArg Except.ok (List.append_nil _)

/-- The error of the consent check lists its signals under another key. -/
theorem flattenInvalid_governance (validator : PolicyValidator) (names : List String)
    (flags : DataGovernanceFlags) :
    flattenInvalid ((validator.governanceErrors names flags).map ValidationError.toDict) =
      .ok [] := by
  rw [PolicyValidator.governanceErrors]
  split
  · rfl
  · split
    · rfl
    · rfl

/-- What the dead letter flattens, whatever the policy: the names outside the vocabulary if the
policy meets the schema, and nothing if it does not. -/
theorem flattenInvalid_validateNode (env : Env) (policy : Dict) :
    flattenInvalid (validateNode env policy).1 =
      .ok (((CollectionPolicySpec.modelValidate env.parsers policy).elim []
        (outsideVocabulary env.validator)).map Json.str) := by
  rw [validateNode]
  split
  · rename_i refused
    rw [refused]
    rfl
  · rename_i spec accepted
    rw [accepted]
    have errors := flattenInvalid_append
      (flattenInvalid_vocabulary env.validator spec.signalNames)
      (flattenInvalid_governance env.validator spec.signalNames spec.dataGovernanceFlags)
    rw [← List.map_append, List.append_nil] at errors
    have all : (env.validator.validate spec).errors =
        env.validator.vocabularyErrors spec.signalNames ++
          env.validator.governanceErrors spec.signalNames spec.dataGovernanceFlags := by
      change _ ++ windowErrors spec.collectionWindowHours.val = _
      rw [windowErrors_spec, List.append_nil]
      rfl
    dsimp only
    split
    · rename_i ok
      have none : (env.validator.validate spec).errors = [] := List.isEmpty_iff.mp ok
      rw [← all, none] at errors
      exact errors
    · rw [all]
      exact errors

end Reports

section Added

variable {env : RunnerEnv} {session : PolicyGenerationSession}

/-- Nothing has happened to the audit rows but the addition of rows of one sort. -/
def Adds (sort : AuditRow → Prop) (before after : Rows) : Prop :=
  ∃ new, after.audits = before.audits ++ new ∧ ∀ row ∈ new, sort row

theorem Adds.refl (sort : AuditRow → Prop) (rows : Rows) : Adds sort rows rows :=
  ⟨[], (List.append_nil _).symm, by simp⟩

theorem Adds.trans {sort : AuditRow → Prop} (first second third : Rows)
    (early : Adds sort first second) (late : Adds sort second third) : Adds sort first third := by
  obtain ⟨new, appended, good⟩ := early
  obtain ⟨more, extended, also⟩ := late
  refine ⟨new ++ more, by rw [extended, appended, List.append_assoc], ?_⟩
  exact List.forall_mem_append.mpr ⟨good, also⟩

theorem adds_of_keeps {sort : AuditRow → Prop} {operation : Rows → Except String Rows}
    (keeps : Keeps Rows.audits operation) (before after : Rows)
    (effect : operation before = .ok after) : Adds sort before after :=
  ⟨[], by rw [List.append_nil, keeps before after effect], by simp⟩

theorem auditCall_adds {sort : AuditRow → Prop} {k : Nat} {event : Except String AuditEvent}
    (sends : ∀ sent, event = .ok sent → sort (sent.row (env.eventId k) env.now))
    (before after : Rows) (effect : auditCall env k event before = .ok after) :
    Adds sort before after := by
  obtain ⟨sent, built, ⟨appended, _⟩ | ⟨unchanged, _⟩⟩ := auditCall_ok effect
  · exact ⟨[_], by rw [appended], by simpa using sends sent built⟩
  · rw [unchanged]
    exact Adds.refl sort before

theorem deadLetterEvent_reports {ended : PolicyGenerationSession} {event : AuditEvent}
    (built : deadLetterEvent env ended = .ok event) :
    ∃ invalid, flattenInvalid ended.validationErrors = .ok invalid ∧
      event.originatingFinding = some (findingRef ended) ∧
      event.error = some [("code", .str "VALIDATION_FAILED"), ("details", .obj
        [("validation_errors", .arr (ended.validationErrors.map Json.obj)),
          ("invalid_signals", .arr invalid)])] := by
  rw [deadLetterEvent] at built
  obtain ⟨invalid, flattened, built⟩ := (Checked.bind_ok_iff _ _ _).mp built
  obtain ⟨_, _, built⟩ := (Checked.bind_ok_iff _ _ _).mp built
  cases built
  exact ⟨invalid, flattened, rfl, rfl⟩

/-- The row was written for a run that ended in the dead letter. -/
def FromDeadLetter (env : RunnerEnv) (session : PolicyGenerationSession) (row : AuditRow) : Prop :=
  ∃ result event, (run env.graph session).outcome = .ok result ∧
    result.finalState = .deadLetter ∧ deadLetterEvent env result.session = .ok event ∧
    row = event.row (env.eventId 1) env.now

theorem not_validationFailed_of_kind {row : AuditRow} (other : row.kind ≠ .rejected) :
    ¬ ValidationFailed row := fun failed => other failed.1

theorem runnerError_not_validationFailed (session : PolicyGenerationSession)
    (message eventId : String) (now : Nat) :
    ¬ ValidationFailed ((runnerErrorEvent session message).row eventId now) := by
  intro failed
  have code := failed.2
  rw [rejectionCode, reportedError_row rfl] at code
  exact absurd (Json.str.inj (Option.some.inj code)) (by decide)

/-- A row that says that validation failed comes from the dead letter. -/
def Sourced (env : RunnerEnv) (session : PolicyGenerationSession) (row : AuditRow) : Prop :=
  ValidationFailed row → FromDeadLetter env session row

theorem auditCall_sourced {k : Nat} {event : Except String AuditEvent}
    (other : ∀ sent, event = .ok sent → sent.kind ≠ .rejected) (before after : Rows)
    (effect : auditCall env k event before = .ok after) :
    Adds (Sourced env session) before after := by
  apply auditCall_adds _ before after effect
  intro sent built failed
  exact absurd failed (not_validationFailed_of_kind (other sent built))

theorem calls_sourced {result : GraphRun} (success : (run env.graph session).outcome = .ok result) :
    ∀ operation ∈ calls env result, ∀ before after, operation before = .ok after →
      Adds (Sourced env session) before after := by
  have ended := run_ended success
  obtain ⟨policy, generated⟩ := Option.ne_none_iff_exists'.mp ended.generated
  have first : ∀ before after,
      auditCall env 0 (generatedEvent env result.session policy) before = .ok after →
        Adds (Sourced env session) before after := by
    apply auditCall_sourced
    intro sent built
    rw [(generatedEvent_ours built).kind]
    decide
  cases final : result.finalState with
  | deadLetter =>
      rw [calls_deadLetter env final generated]
      simp only [List.forall_mem_cons]
      refine ⟨first, ?_, List.forall_mem_nil _⟩
      apply auditCall_adds
      intro sent built _
      exact ⟨result, sent, success, final, built, rfl⟩
  | completed =>
      obtain ⟨_, call, response, _, _, _, _, recorded⟩ := ended.completed final
      rw [calls_completed env final generated recorded, deployedCalls]
      simp only [List.forall_mem_cons]
      refine ⟨first, ?_, ?_, ?_, ?_, ?_, List.forall_mem_nil _⟩
      · exact adds_of_keeps (insertPolicy_keeps_audits env result.session policy)
      · apply auditCall_sourced
        rintro sent ⟨⟩
        change AuditKind.validated ≠ .rejected
        decide
      · exact adds_of_keeps (insertDeployment_keeps_audits env result.session _)
      · apply auditCall_sourced
        rintro sent ⟨⟩
        change AuditKind.deployed ≠ .rejected
        decide
      · exact adds_of_keeps (simulateCall_keeps Rows.audits policy _)

theorem runOnce_sourced (env : RunnerEnv) (session : PolicyGenerationSession)
    (fates : Nat → Fate String) (rows : Rows) :
    Adds (Sourced env session) rows (runOnce env session fates rows).1 := by
  rw [runOnce]
  split
  · exact Adds.refl _ rows
  · rename_i result success
    exact (sequence_reaches fates 0 (calls env result) rows).related (Adds.refl _)
      Adds.trans (calls_sourced success)

/-- However the calls of `run_async` end, it only adds audit rows, and one that says that
validation failed was written for a run that ended in the dead letter. -/
theorem runAsync_sourced (env : RunnerEnv) (session : PolicyGenerationSession)
    (fates : Nat → Fate String) (last : Fate String) (rows : Rows) :
    Adds (Sourced env session) rows (runAsync env session fates last rows).1 := by
  have once := runOnce_sourced env session fates rows
  rw [runAsync]
  split
  · rename_i next outcome
    rw [outcome] at once
    exact once
  · rename_i next message outcome
    rw [outcome] at once
    apply Adds.trans rows next _ once
    rcases call_store last (auditCall env 3 (.ok (runnerErrorEvent session message))) next with
      kept | effect
    · rw [kept]
      exact Adds.refl _ next
    · apply auditCall_adds _ _ _ effect
      rintro sent ⟨⟩ failed
      exact absurd failed (runnerError_not_validationFailed session message _ _)

/-- A row that says that validation failed lists the names of the last policy that are outside
the vocabulary, each as often as the policy has it and in its order. -/
theorem validationFailed_lists_outside (env : RunnerEnv) (session : PolicyGenerationSession)
    (fates : Nat → Fate String) (last : Fate String) (rows : Rows) :
    ∃ new, (runAsync env session fates last rows).1.audits = rows.audits ++ new ∧
      ∀ row ∈ new, ValidationFailed row → ∀ response spec,
        lastOutput env.graph (retriesLeft session) 0 = some response →
        CollectionPolicySpec.modelValidate env.graph.parsers response.policy = some spec →
        reportedInvalidSignals row =
          some (stringList (outsideVocabulary env.graph.validator spec)) := by
  obtain ⟨new, appended, sourced⟩ := runAsync_sourced env session fates last rows
  refine ⟨new, appended, ?_⟩
  intro row member failed response spec output accepted
  obtain ⟨result, event, success, _, built, rfl⟩ := sourced row member failed
  obtain ⟨produced, same, ⟨plan, count, record, left⟩, _⟩ := run_endsAfter success
  rw [output] at same
  cases same
  obtain ⟨invalid, flattened, finding, error⟩ := deadLetterEvent_reports built
  have errors : result.session.validationErrors = (validateNode env.graph response.policy).1 := by
    rw [left]
    rfl
  rw [errors, flattenInvalid_validateNode, accepted] at flattened
  cases flattened
  rw [reportedInvalidSignals, reportedError_row finding, error]
  rfl

/-- A validator whose vocabulary lacks the sample policy's signal. -/
def strictRunner : RunnerEnv :=
  { sampleRunner with
    graph :=
      { sampleRunner.graph with validator := ⟨["Vehicle.Other"], fun _ => none, [], true⟩ } }

theorem validationFailed_lists_outside_strict :
    ∃ row ∈ (runAsync strictRunner sampleSession (fun _ => .runs) .runs sampleRows).1.audits,
      ValidationFailed row ∧
        reportedInvalidSignals row = some (stringList ["Vehicle.Speed"]) := by
  have written : ∃ row ∈ (runAsync strictRunner sampleSession (fun _ => .runs) .runs
      sampleRows).1.audits, ValidationFailed row := by decide +kernel
  obtain ⟨row, member, failed⟩ := written
  have outside : (CollectionPolicySpec.modelValidate strictRunner.graph.parsers
      (samplePolicy "vehicle-1" "tenant-a" "finding-1" "session-1")).map
        (outsideVocabulary strictRunner.graph.validator) = some ["Vehicle.Speed"] := by
    decide +kernel
  obtain ⟨spec, accepted, names⟩ := Option.map_eq_some_iff.mp outside
  obtain ⟨new, appended, lists⟩ := validationFailed_lists_outside strictRunner sampleSession
    (fun _ => .runs) .runs sampleRows
  refine ⟨row, member, failed, ?_⟩
  rw [appended] at member
  rw [lists row member failed _ spec (lastOutput_constant (fun _ => rfl) _ _) accepted, names]

end Added

section Causes

/-- The run writes a row that says that validation failed. -/
def WritesFailed (env : RunnerEnv) (session : PolicyGenerationSession) (fates : Nat → Fate String)
    (last : Fate String) (rows : Rows) : Prop :=
  ∃ row ∈ (runAsync env session fates last rows).1.audits,
    row.correlationId = session.correlationId ∧ ValidationFailed row

instance (env : RunnerEnv) (session : PolicyGenerationSession) (fates : Nat → Fate String)
    (last : Fate String) (rows : Rows) : Decidable (WritesFailed env session fates last rows) :=
  inferInstanceAs (Decidable (∃ row ∈ _, _))

/-- The rejected row names validation exactly if the last policy failed it, and never if the
policy was valid and the collector turned it down. -/
def NamesCause (env : RunnerEnv) (session : PolicyGenerationSession) (fates : Nat → Fate String)
    (last : Fate String) (rows : Rows) (response : GenerationResponse) : Prop :=
  (WritesFailed env session fates last rows ↔
      (validateNode env.graph response.policy).2 = false) ∧
    ((validateNode env.graph response.policy).2 = true →
      ¬ CollectorAccepts env.graph session.tenantId response.policy →
      ¬ WritesFailed env session fates last rows)

def runtimeKeys : List String :=
  ["slm_repo", "slm_revision_sha", "slm_runtime", "slm_runtime_version", "slm_quantization"]

/-- The runtime info has a text under each key that a `generated` row needs. -/
def CompleteInfo (runtimeInfo : Dict) : Prop :=
  ∀ key ∈ runtimeKeys, ∃ text, runtimeInfo.get key = some (.str text)

/-- What the database does with a row when nothing is wrong with it: it refuses a row whose
values its columns cannot hold. -/
def rowFate (encodable : AuditRow → Bool) (refusal : String) (row : AuditRow) : Fate String :=
  if encodable row then .runs else .rollsBack refusal

/-- The columns can hold the two rows of a run that ends in the dead letter. -/
def BothEncodable (encodable : AuditRow → Bool) (env : RunnerEnv)
    (session : PolicyGenerationSession) (response : GenerationResponse) : Prop :=
  (∀ event, generatedEvent env (afterRound env.graph session response) response.policy =
    .ok event → encodable (event.row (env.eventId 0) env.now) = true) ∧
  ∀ event, deadLetterEvent env (afterRound env.graph session response) = .ok event →
    encodable (event.row (env.eventId 1) env.now) = true

/-- A run in which nothing around the graph fails: the collector answers, the session and the
ids it is given can be stored, and the database refuses nothing but values that it cannot
hold. -/
structure Undisturbed (env : RunnerEnv) (session : PolicyGenerationSession)
    (encodable : AuditRow → Bool) (refusal : String) (fates : Nat → Fate String) (rows : Rows)
    (response : GenerationResponse) : Prop where
  complete : CompleteInfo response.runtimeInfo
  answers : ∀ call, ∃ answer, env.graph.deploy call = .ok answer
  tenant : session.tenantId ≠ ""
  registered : session.tenantId ∈ rows.tenants
  named : session.sessionId ≠ "" ∧ session.correlationId ≠ ""
  schemaVersion : ∃ version, nullableText env (session.originatingFinding.get "schema_version") =
    .ok version
  eventIds : ∀ k, env.eventId k ≠ "" ∧ ∀ row ∈ rows.audits, row.eventId ≠ env.eventId k
  distinct : env.eventId 0 ≠ env.eventId 1
  generated : ∀ event, generatedEvent env (afterRound env.graph session response)
    response.policy = .ok event →
      fates 0 = rowFate encodable refusal (event.row (env.eventId 0) env.now)
  rejected : ¬ ((validateNode env.graph response.policy).2 = true ∧
      CollectorAccepts env.graph session.tenantId response.policy) →
    ∀ event, deadLetterEvent env (afterRound env.graph session response) = .ok event →
      fates 1 = rowFate encodable refusal (event.row (env.eventId 1) env.now)

/-- A run whose generator does not raise, and whose collector answers, ends. -/
theorem rounds_returns {env : Env} {attempts : Nat} {session : PolicyGenerationSession}
    {requests : List GenerationRequest} {response : GenerationResponse}
    (answers : ∀ call, ∃ answer, env.deploy call = .ok answer) :
    lastOutput env (retriesLeft session) attempts = some response →
      ∃ result, (rounds env attempts session requests).outcome = .ok result := by
  apply rounds_induction (motive := fun retries attempts _ _ execution =>
    lastOutput env retries attempts = some response → ∃ result, execution.outcome = .ok result)
  · intro retries attempts session requests message output last
    rw [lastOutput.eq_def, output] at last
    cases last
  · intro retries attempts session requests produced output valid last
    obtain ⟨spec, accepted, _⟩ := validateNode_valid valid
    have listed : ∃ call, deployCall env session.tenantId produced.policy = some call := by
      rw [deployCall, (modelValidate_accepts accepted).vehicleScope]
      exact ⟨_, rfl⟩
    obtain ⟨call, listed⟩ := listed
    obtain ⟨answer, answered⟩ := answers call
    simp only [deployNode, afterRound, afterGenerate, Option.getD_some, listed, answered]
    exact ⟨_, rfl⟩
  · intro attempts session requests produced output invalid last
    exact ⟨_, rfl⟩
  · intro retries attempts session requests produced execution output invalid ih last
    apply ih
    rw [lastOutput.eq_def, output] at last
    simpa only [invalid, Bool.false_eq_true, ↓reduceIte] using last
  · rfl

theorem run_ends {env : Env} {session : PolicyGenerationSession} {response : GenerationResponse}
    (answers : ∀ call, ∃ answer, env.deploy call = .ok answer)
    (output : lastOutput env (retriesLeft session) 0 = some response) :
    ∃ result, (run env session).outcome = .ok result ∧ EndsAfter env session response result := by
  have ends : ∃ result, (run env session).outcome = .ok result := by
    rw [run]
    exact rounds_returns answers output
  obtain ⟨result, success⟩ := ends
  obtain ⟨produced, same, after⟩ := run_endsAfter success
  rw [output] at same
  cases same
  exact ⟨result, success, after⟩

variable {env : RunnerEnv} {session : PolicyGenerationSession} {response : GenerationResponse}

/-- The `generated` event is built if the policy has a key and a version. -/
theorem generatedEvent_built {ended : PolicyGenerationSession} {policy runtimeInfo : Dict}
    (info : ended.lastRuntimeInfo = some runtimeInfo) (complete : CompleteInfo runtimeInfo)
    (seeded : ended.lastDecodingSeed.isSome = true)
    (schemaVersion : ∃ version, nullableText env (ended.originatingFinding.get "schema_version") =
      .ok version)
    (identified : policy.hasKey "policy_id" = true) (versioned : policy.hasKey "version" = true) :
    ∃ event, generatedEvent env ended policy = .ok event ∧ event.missing = [] ∧
      event.principalSubject = ended.sessionId ∧ event.slm.missing = [] := by
  obtain ⟨version, read⟩ := schemaVersion
  obtain ⟨policyId, foundId⟩ := Option.isSome_iff_exists.mp identified
  obtain ⟨policyVersion, foundVersion⟩ := Option.isSome_iff_exists.mp versioned
  obtain ⟨repo, repoFound⟩ := complete "slm_repo" (by decide)
  obtain ⟨sha, shaFound⟩ := complete "slm_revision_sha" (by decide)
  obtain ⟨runtime, runtimeFound⟩ := complete "slm_runtime" (by decide)
  obtain ⟨runtimeVersion, runtimeVersionFound⟩ := complete "slm_runtime_version" (by decide)
  obtain ⟨quantization, quantizationFound⟩ := complete "slm_quantization" (by decide)
  obtain ⟨seed, seedFound⟩ := Option.isSome_iff_exists.mp seeded
  have itemId : policy.item "policy_id" = .ok policyId := by
    rw [Dict.item, Dict.get, foundId]
  have itemVersion : policy.item "version" = .ok policyVersion := by
    rw [Dict.item, Dict.get, foundVersion]
  have text : ∀ {key value}, runtimeInfo.get key = some (.str value) →
      nullableText env (runtimeInfo.get key) = .ok (some value) := by
    intro key value found
    rw [found]
    rfl
  simp only [generatedEvent, itemId, itemVersion, info, Option.getD_some, text repoFound,
    text shaFound, text runtimeFound, text runtimeVersionFound, text quantizationFound, read,
    seedFound, bind, Except.bind, pure, Except.pure]
  exact ⟨_, rfl, rfl, rfl, rfl⟩

/-- It is not built without them. -/
theorem generatedEvent_keys {ended : PolicyGenerationSession} {policy : Dict} {event : AuditEvent}
    (built : generatedEvent env ended policy = .ok event) :
    policy.hasKey "policy_id" = true ∧ policy.hasKey "version" = true := by
  rw [generatedEvent] at built
  obtain ⟨policyId, foundId, built⟩ := (Checked.bind_ok_iff _ _ _).mp built
  obtain ⟨version, foundVersion, _⟩ := (Checked.bind_ok_iff _ _ _).mp built
  rw [Dict.hasKey, Dict.hasKey, ← Dict.get, ← Dict.get, Dict.item_ok foundId,
    Dict.item_ok foundVersion]
  exact ⟨rfl, rfl⟩

theorem deadLetterEvent_built {ended : PolicyGenerationSession} {policy : Dict}
    (errors : ended.validationErrors = (validateNode env.graph policy).1)
    (schemaVersion : ∃ version, nullableText env (ended.originatingFinding.get "schema_version") =
      .ok version) :
    ∃ event, deadLetterEvent env ended = .ok event ∧ event.principalSubject = ended.sessionId := by
  obtain ⟨version, read⟩ := schemaVersion
  simp only [deadLetterEvent, errors, flattenInvalid_validateNode, read, bind, Except.bind, pure,
    Except.pure]
  exact ⟨_, rfl, rfl⟩

theorem Unused.not_validationFailed {rows : Rows} (unused : Unused session rows) :
    ∀ row ∈ rows.audits, row.correlationId = session.correlationId → ¬ ValidationFailed row := by
  intro row member same failed
  have foreign := unused row member same
  rw [failed.1] at foreign
  exact foreign (by decide)

/-- What a run that raises leaves says nothing of validation that was not there. -/
theorem not_writesFailed_of_raises {fates : Nat → Fate String} {last : Fate String}
    {rows next : Rows} {message : String}
    (raised : runOnce env session fates rows = (next, some message))
    (quiet : ∀ row ∈ next.audits, row.correlationId = session.correlationId →
      ¬ ValidationFailed row) : ¬ WritesFailed env session fates last rows := by
  have added : Adds (fun row => ¬ ValidationFailed row) next
      (runAsync env session fates last rows).1 := by
    rw [runAsync, raised]
    rcases call_store last (auditCall env 3 (.ok (runnerErrorEvent session message))) next with
      kept | effect
    · dsimp only
      rw [kept]
      exact Adds.refl _ next
    · apply auditCall_adds _ _ _ effect
      rintro sent ⟨⟩
      exact runnerError_not_validationFailed session message _ _
  obtain ⟨new, appended, harmless⟩ := added
  rintro ⟨row, member, same, failed⟩
  rw [appended] at member
  rcases List.mem_append.mp member with before | handler
  · exact quiet row before same failed
  · exact harmless row handler failed

theorem Ours.of_afterRound {kind : AuditKind} {event : AuditEvent}
    (ours : Ours (afterRound env.graph session response) kind event) : Ours session kind event :=
  ⟨ours.tenantId, ours.correlationId, ours.kind⟩

theorem deadLetterEvent_validationFailed {ended : PolicyGenerationSession} {event : AuditEvent}
    (built : deadLetterEvent env ended = .ok event) (eventId : String) (now : Nat) :
    ValidationFailed (event.row eventId now) := by
  obtain ⟨invalid, _, finding, error⟩ := deadLetterEvent_reports built
  refine ⟨(deadLetterEvent_ours built).kind, ?_⟩
  rw [rejectionCode, reportedError_row finding, error]
  rfl

theorem missing_of_rejected {event : AuditEvent} (kind : event.kind = .rejected) :
    event.missing = [] := by
  simp only [AuditEvent.missing, kind, kindMinFields, List.filter_nil]

section DeadLetter

variable {encodable : AuditRow → Bool} {refusal : String} {fates : Nat → Fate String}
  {rows : Rows} {result : GraphRun}

theorem call_refused {operation : Rows → Except String Rows} (row : AuditRow)
    (refused : ¬ encodable row = true) (fate : Fate String)
    (settled : fate = rowFate encodable refusal row) :
    call fate operation rows = (rows, some refusal) := by
  rw [settled, rowFate, if_neg refused]
  rfl

theorem call_stored {operation : Rows → Except String Rows} {next : Rows} (row : AuditRow)
    (held : encodable row = true) (fate : Fate String)
    (settled : fate = rowFate encodable refusal row) (effect : operation rows = .ok next) :
    call fate operation rows = (next, none) := by
  rw [settled, rowFate, if_pos held]
  simp only [call, effect]

theorem runOnce_deadLetter (fates : Nat → Fate String) (rows : Rows)
    (success : (run env.graph session).outcome = .ok result)
    (ends : EndsAfter env.graph session response result)
    (dead : result.finalState = .deadLetter) :
    runOnce env session fates rows = sequence fates 0
      [auditCall env 0 (generatedEvent env (afterRound env.graph session response) response.policy),
        auditCall env 1 (deadLetterEvent env (afterRound env.graph session response))] rows := by
  obtain ⟨plan, count, record, left⟩ := ends.left
  have policy : result.session.generatedPolicy = some response.policy := by
    rw [left]
    rfl
  rw [runOnce, success]
  dsimp only
  rw [calls_deadLetter env dead policy, left]
  rfl

theorem Undisturbed.columns
    (undisturbed : Undisturbed env session encodable refusal fates rows response) :
    Registered session rows :=
  ⟨undisturbed.tenant, undisturbed.registered, undisturbed.named.1, undisturbed.named.2⟩

theorem generated_stored {generated : AuditEvent}
    (undisturbed : Undisturbed env session encodable refusal fates rows response)
    (unused : Unused session rows)
    (built : generatedEvent env (afterRound env.graph session response) response.policy =
      .ok generated)
    (complete : generated.missing = []) (subject : generated.principalSubject = session.sessionId) :
    auditCall env 0 (.ok generated) rows =
      .ok { rows with audits := rows.audits ++ [generated.row (env.eventId 0) env.now] } := by
  have free : ∀ row ∈ rows.audits, row.correlationId = session.correlationId →
      row.kind ≠ .generated := by
    intro row member same kind
    exact unused row member same (kind ▸ by decide)
  exact (auditCall_free_iff (generatedEvent_ours built).of_afterRound subject free).mpr
    ⟨⟨undisturbed.columns, complete, undisturbed.eventIds 0⟩, rfl⟩

theorem rejected_stored {rejected : AuditEvent} {generated : AuditRow}
    (undisturbed : Undisturbed env session encodable refusal fates rows response)
    (unused : Unused session rows)
    (built : deadLetterEvent env (afterRound env.graph session response) = .ok rejected)
    (subject : rejected.principalSubject = session.sessionId)
    (kind : generated.kind = .generated) (eventId : generated.eventId = env.eventId 0) :
    auditCall env 1 (.ok rejected) { rows with audits := rows.audits ++ [generated] } =
      .ok { rows with
        audits := rows.audits ++ [generated] ++ [rejected.row (env.eventId 1) env.now] } := by
  have ours := (deadLetterEvent_ours built).of_afterRound
  have others : ∀ row ∈ [generated], row.kind ≠ .rejected := by
    rw [List.forall_mem_singleton, kind]
    decide
  have ids : [generated].map AuditRow.eventId = (List.range 1).map env.eventId :=
    congrArg List.singleton eventId
  have apart : ∀ row ∈ [generated], row.eventId ≠ env.eventId 1 := by
    rw [List.forall_mem_singleton, eventId]
    exact undisturbed.distinct
  exact (auditCall_later_iff unused (by decide) others ids (by rfl) (by rfl) ours subject
    (missing_of_rejected ours.kind) undisturbed.columns).mpr
      ⟨(freshId_iff ids).mpr ⟨(undisturbed.eventIds 1).1, (undisturbed.eventIds 1).2, apart⟩, rfl⟩

/-- In an undisturbed run that ends in the dead letter, the row that says that validation failed
is written if the policy has its two keys and the columns can hold both rows. -/
theorem deadLetter_writesFailed_iff (last : Fate String)
    (undisturbed : Undisturbed env session encodable refusal fates rows response) (unused : Unused session rows)
    (success : (run env.graph session).outcome = .ok result)
    (ends : EndsAfter env.graph session response result)
    (dead : result.finalState = .deadLetter) :
    WritesFailed env session fates last rows ↔
      (response.policy.hasKey "policy_id" = true ∧ response.policy.hasKey "version" = true) ∧
        BothEncodable encodable env session response := by
  have once := runOnce_deadLetter fates rows success ends dead
  have undelivered := mt ends.completed.mpr (by rw [dead]; decide)
  by_cases keys : response.policy.hasKey "policy_id" = true ∧ response.policy.hasKey "version" = true
  case neg =>
    refine iff_of_false ?_ (fun both => keys both.1)
    have unbuilt : ¬ ((∃ next, auditCall env 0 (generatedEvent env
        (afterRound env.graph session response) response.policy) rows = .ok next) ∧
        (fates 0).commits = true) := by
      rintro ⟨⟨next, effect⟩, _⟩
      obtain ⟨sent, built, _⟩ := auditCall_ok effect
      exact keys (generatedEvent_keys built)
    obtain ⟨failure, raised⟩ := call_not_commits unbuilt
    rw [Calls.sequence, raised] at once
    exact not_writesFailed_of_raises once unused.not_validationFailed
  obtain ⟨generated, built, complete, subject, slm⟩ : ∃ event,
      generatedEvent env (afterRound env.graph session response) response.policy = .ok event ∧
      event.missing = [] ∧ event.principalSubject = session.sessionId ∧ event.slm.missing = [] :=
    generatedEvent_built rfl undisturbed.complete rfl undisturbed.schemaVersion keys.1 keys.2
  obtain ⟨rejected, builtToo, subjectToo⟩ : ∃ event,
      deadLetterEvent env (afterRound env.graph session response) = .ok event ∧
      event.principalSubject = session.sessionId :=
    deadLetterEvent_built rfl undisturbed.schemaVersion
  rw [built, builtToo] at once
  by_cases first : encodable (generated.row (env.eventId 0) env.now) = true
  case neg =>
    rw [Calls.sequence, call_refused _ first _ (undisturbed.generated generated built)] at once
    refine iff_of_false (not_writesFailed_of_raises once unused.not_validationFailed) ?_
    exact fun both => first (both.2.1 generated built)
  have kind : (generated.row (env.eventId 0) env.now).kind = .generated :=
    (generatedEvent_ours built).kind
  rw [Calls.sequence, call_stored _ first _ (undisturbed.generated generated built)
    (generated_stored undisturbed unused built complete subject)] at once
  dsimp only at once
  by_cases second : encodable (rejected.row (env.eventId 1) env.now) = true
  · rw [Calls.sequence, call_stored _ second _ (undisturbed.rejected undelivered rejected builtToo)
      (rejected_stored undisturbed unused builtToo subjectToo kind rfl)] at once
    refine iff_of_true ?_ ⟨keys, ?_, ?_⟩
    · refine ⟨rejected.row (env.eventId 1) env.now, ?_, ?_,
        deadLetterEvent_validationFailed builtToo _ _⟩
      · rw [runAsync, once]
        exact List.mem_append_right _ (List.mem_singleton.mpr rfl)
      · exact (deadLetterEvent_ours builtToo).correlationId
    · intro event same
      rw [built] at same
      cases same
      exact first
    · intro event same
      rw [builtToo] at same
      cases same
      exact second
  · rw [Calls.sequence, call_refused _ second _ (undisturbed.rejected undelivered rejected builtToo)] at once
    refine iff_of_false (not_writesFailed_of_raises once ?_) ?_
    · refine List.forall_mem_append.mpr ⟨unused.not_validationFailed, ?_⟩
      rw [List.forall_mem_singleton]
      intro _
      apply not_validationFailed_of_kind
      rw [kind]
      decide
    · exact fun both => second (both.2.2 rejected builtToo)

end DeadLetter

/-- A completed run says nothing of validation. -/
theorem completed_not_writesFailed {fates : Nat → Fate String} {last : Fate String} {rows : Rows}
    {result : GraphRun} (unused : Unused session rows)
    (success : (run env.graph session).outcome = .ok result)
    (completed : result.finalState = .completed) : ¬ WritesFailed env session fates last rows := by
  obtain ⟨new, appended, sourced⟩ := runAsync_sourced env session fates last rows
  rintro ⟨row, member, same, failed⟩
  rw [appended] at member
  rcases List.mem_append.mp member with before | added
  · exact unused.not_validationFailed row before same failed
  · obtain ⟨other, _, again, dead, _⟩ := sourced row added failed
    rw [success] at again
    cases again
    rw [completed] at dead
    cases dead

theorem validateNode_keys {env : Env} {policy : Dict} (valid : (validateNode env policy).2 = true) :
    policy.hasKey "policy_id" = true ∧ policy.hasKey "version" = true := by
  obtain ⟨spec, accepted, _⟩ := validateNode_valid valid
  have fields := modelValidate_accepts accepted
  rw [Dict.hasKey, Dict.hasKey, ← Dict.get, ← Dict.get, fields.policyId, fields.version]
  exact ⟨rfl, rfl⟩

/-- A run names the true cause of a rejection exactly if, for a policy that validates, the
collector accepts it or the columns cannot hold the rows, and, for one that does not, the policy
has both its keys and the columns can hold the rows. -/
theorem namesCause_iff (env : RunnerEnv) (session : PolicyGenerationSession)
    (encodable : AuditRow → Bool) (refusal : String) (fates : Nat → Fate String)
    (last : Fate String) (rows : Rows) (response : GenerationResponse)
    (output : lastOutput env.graph (retriesLeft session) 0 = some response)
    (undisturbed : Undisturbed env session encodable refusal fates rows response)
    (unused : Unused session rows) :
    NamesCause env session fates last rows response ↔
      if (validateNode env.graph response.policy).2 then
        CollectorAccepts env.graph session.tenantId response.policy ∨
          ¬ BothEncodable encodable env session response
      else
        (response.policy.hasKey "policy_id" = true ∧ response.policy.hasKey "version" = true) ∧
          BothEncodable encodable env session response := by
  obtain ⟨result, success, ends⟩ := run_ends undisturbed.answers output
  rw [NamesCause]
  by_cases valid : (validateNode env.graph response.policy).2 = true
  · by_cases accepts : CollectorAccepts env.graph session.tenantId response.policy
    · have quiet : ¬ WritesFailed env session fates last rows :=
        completed_not_writesFailed unused success (ends.completed.mpr ⟨valid, accepts⟩)
      simp [valid, accepts, quiet]
    · have dead := ends.deadLetter fun delivered => accepts delivered.2
      have writes := deadLetter_writesFailed_iff last undisturbed unused success ends dead
      have keys := validateNode_keys valid
      simp [valid, accepts, writes, keys]
  · have dead := ends.deadLetter fun delivered => valid delivered.1
    have writes := deadLetter_writesFailed_iff last undisturbed unused success ends dead
    simp [valid, writes]

/-- A runner around a generator that always answers one policy, and a collector that answers one
status. -/
def answeringRunner (policy : Dict) (status : String) : RunnerEnv :=
  { sampleRunner with
    graph :=
      { sampleEnv policy with
        deploy := fun _ => .ok ⟨"deployment-1", status, .null, none⟩ } }

/-- A policy with its keys and nothing else. -/
def barePolicy : Dict := [("policy_id", .str "policy-1"), ("version", .str "1.0.0")]

def answeredResponse (policy : Dict) : GenerationResponse :=
  ⟨policy, [("slm_repo", .str "repo"),
    ("slm_revision_sha", .str "0123456789012345678901234567890123456789"),
    ("slm_runtime", .str "stub"), ("slm_runtime_version", .str "1"),
    ("slm_quantization", .str "none")]⟩

theorem answeringRunner_undisturbed (policy : Dict) (status : String) :
    Undisturbed (answeringRunner policy status) sampleSession (fun _ => true) "" (fun _ => .runs)
      sampleRows (answeredResponse policy) where
  complete := by
    intro key member
    simp only [runtimeKeys, List.mem_cons, List.not_mem_nil, or_false] at member
    rcases member with rfl | rfl | rfl | rfl | rfl
    all_goals exact ⟨_, rfl⟩
  answers _ := ⟨_, rfl⟩
  tenant := by decide
  registered := by decide
  named := by decide
  schemaVersion := ⟨_, rfl⟩
  eventIds k := by
    refine ⟨?_, by simp [sampleRows]⟩
    change sampleRunner.eventId k ≠ ""
    match k with
    | 0 | 1 | 2 | 3 => decide
    | k + 4 => simp [sampleRunner]
  distinct := (by decide : sampleRunner.eventId 0 ≠ sampleRunner.eventId 1)
  generated _ _ := rfl
  rejected _ _ _ := rfl

theorem namesCause_iff_bare :
    NamesCause (answeringRunner barePolicy "accepted") sampleSession (fun _ => .runs) .runs sampleRows
      (answeredResponse barePolicy) := by
  apply (namesCause_iff (answeringRunner barePolicy "accepted") sampleSession (fun _ => true) ""
    (fun _ => .runs) .runs sampleRows (answeredResponse barePolicy)
    (lastOutput_constant (fun _ => rfl) _ _) (answeringRunner_undisturbed barePolicy "accepted")
    (fun row member => by cases member)).mpr
  have invalid : (validateNode (answeringRunner barePolicy "accepted").graph
      (answeredResponse barePolicy).policy).2 = false := by decide
  rw [invalid]
  exact ⟨⟨by decide, by decide⟩, fun _ _ => rfl, fun _ _ => rfl⟩

/-- A valid policy that the collector turns down is recorded as a failed validation, and an empty
one that fails validation is not. -/
theorem namesCause_fails_both_ways :
    ¬ NamesCause (answeringRunner (samplePolicy "vehicle-1" "tenant-a" "finding-1" "session-1")
        "rejected") sampleSession (fun _ => .runs) .runs sampleRows
      (answeredResponse (samplePolicy "vehicle-1" "tenant-a" "finding-1" "session-1")) ∧
    ¬ NamesCause (answeringRunner [] "accepted") sampleSession (fun _ => .runs) .runs sampleRows
      (answeredResponse []) := by
  constructor
  · intro named
    have written : WritesFailed (answeringRunner (samplePolicy "vehicle-1" "tenant-a" "finding-1"
      "session-1") "rejected") sampleSession (fun _ => .runs) .runs sampleRows := by decide +kernel
    exact absurd (named.1.mp written) (by decide +kernel)
  · intro named
    have unwritten : ¬ WritesFailed (answeringRunner [] "accepted") sampleSession (fun _ => .runs)
      .runs sampleRows := by decide +kernel
    exact unwritten (named.1.mpr (by decide +kernel))

end Causes

end CollectMind.Graph
