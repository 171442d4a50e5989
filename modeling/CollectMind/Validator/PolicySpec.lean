import CollectMind.Ingest.Finding

set_option autoImplicit false

/- `CollectionPolicySpec` of models/policy.py: the schema that a generated policy has to
meet before anything else looks at it. -/
namespace CollectMind.Validator

open Python Ingest

/-- `gt=0.0`; infinity passes, NaN does not. -/
def PyFloat.positive : PyFloat → Bool
  | .finite value => 0 < value
  | .posInf => true
  | _ => false

structure SignalCollectionSpec where
  vssName : NonEmptyStr
  sampleRateHz : { value : PyFloat // PyFloat.positive value = true }
  priority : { value : Int // 0 ≤ value ∧ value ≤ 10 }

inductive TriggerKind where
  | threshold
  | timeWindow
  | geofence
  | scheduled
  deriving DecidableEq, Repr

structure TriggerSpec where
  kind : TriggerKind
  params : Dict

structure DataGovernanceFlags where
  piiConsent : Bool
  hasPiiSignal : Bool
  consented : hasPiiSignal = true → piiConsent = true

structure OriginatingFinding where
  tenantId : NonEmptyStr
  findingId : NonEmptyStr

inductive SlmRuntime where
  | vllm
  | llamaCpp
  | stub
  deriving DecidableEq, Repr

inductive SlmQuantization where
  | bf16
  | ggufQ4KM
  | none
  deriving DecidableEq, Repr

structure CollectionPolicySpec where
  policyId : NonEmptyStr
  version : String
  signals : { values : List SignalCollectionSpec // values ≠ [] }
  triggerConditions : List TriggerSpec
  collectionWindowHours : { value : Int // 1 ≤ value ∧ value ≤ 168 }
  hypothesis : NonEmptyStr
  vehicleScope : { values : List NonEmptyStr // values ≠ [] }
  dataGovernanceFlags : DataGovernanceFlags
  confidenceThreshold : { value : Rat // 0 ≤ value ∧ value ≤ 1 }
  generatedFromSessionId : NonEmptyStr
  originatingFinding : OriginatingFinding
  promptTemplateVersion : Option String
  slmRepo : Option String
  slmRevisionSha : Option String
  slmRuntime : Option SlmRuntime
  slmRuntimeVersion : Option String
  slmQuantization : Option SlmQuantization
  slmDecodingSeed : Option Int

def CollectionPolicySpec.vehicleIds (spec : CollectionPolicySpec) : List String :=
  spec.vehicleScope.val.map fun vehicle => vehicle.val

def CollectionPolicySpec.signalNames (spec : CollectionPolicySpec) : List String :=
  spec.signals.val.map fun signal => signal.vssName.val

section Parsing

variable (parsers : Parsers)

def parseSignal (value : Json) : Option SignalCollectionSpec := do
  let dict ← closed ["vss_name", "sample_rate_hz", "priority"] value
  let vssName ← required parseNonEmpty dict "vss_name"
  let sampleRateHz ← required (parseFloat parsers) dict "sample_rate_hz" >>= satisfying _
  let priority ← required (parseInt parsers) dict "priority" >>= satisfying _
  return { vssName, sampleRateHz, priority }

def parseTriggerKind : Json → Option TriggerKind
  | .str "threshold" => some .threshold
  | .str "time_window" => some .timeWindow
  | .str "geofence" => some .geofence
  | .str "scheduled" => some .scheduled
  | _ => none

def parseTrigger (value : Json) : Option TriggerSpec := do
  let dict ← closed ["kind", "params"] value
  let kind ← required parseTriggerKind dict "kind"
  let params ← required parseDict dict "params"
  return { kind, params }

/-- The model validator `_consent_required_when_pii` runs after the fields. -/
def parseFlags (value : Json) : Option DataGovernanceFlags := do
  let dict ← closed ["pii_consent", "has_pii_signal"] value
  let piiConsent ← required parseBool dict "pii_consent"
  let hasPiiSignal ← required parseBool dict "has_pii_signal"
  if consented : hasPiiSignal = true → piiConsent = true then
    some { piiConsent, hasPiiSignal, consented }
  else none

def parseOriginatingFinding (value : Json) : Option OriginatingFinding := do
  let dict ← closed ["tenant_id", "finding_id"] value
  let tenantId ← required parseNonEmpty dict "tenant_id"
  let findingId ← required parseNonEmpty dict "finding_id"
  return { tenantId, findingId }

def parseSemver (value : Json) : Option String := do
  let text ← parseStr value
  if semver parsers.digit text.toList then some text else none

/-- `^[0-9a-f]{40}$`. -/
def parseSha40 (value : Json) : Option String := do
  let text ← parseStr value
  if text.length = 40 && text.toList.all (fun char => char.isDigit || ('a' ≤ char && char ≤ 'f'))
  then some text else none

def parseRuntime : Json → Option SlmRuntime
  | .str "vllm" => some .vllm
  | .str "llama_cpp" => some .llamaCpp
  | .str "stub" => some .stub
  | _ => none

def parseQuantization : Json → Option SlmQuantization
  | .str "bf16" => some .bf16
  | .str "gguf-q4_k_m" => some .ggufQ4KM
  | .str "none" => some .none
  | _ => none

def policyFields : List String :=
  ["policy_id", "version", "signals", "trigger_conditions", "collection_window_hours", "hypothesis",
    "vehicle_scope", "data_governance_flags", "confidence_threshold", "generated_from_session_id",
    "originating_finding", "prompt_template_version", "slm_repo", "slm_revision_sha", "slm_runtime",
    "slm_runtime_version", "slm_quantization", "slm_decoding_seed", "created_at"]

/-- `CollectionPolicySpec.model_validate`; `none` is a `ValidationError`. -/
def CollectionPolicySpec.modelValidate (policy : Dict) : Option CollectionPolicySpec := do
  let dict ← closed policyFields (.obj policy)
  let policyId ← required parseNonEmpty dict "policy_id"
  let version ← required (parseSemver parsers) dict "version"
  let signals ← required (parseList (parseSignal parsers)) dict "signals" >>= satisfying _
  let triggerConditions ← withDefault (parseList parseTrigger) dict "trigger_conditions" []
  let collectionWindowHours ←
    required (parseInt parsers) dict "collection_window_hours" >>= satisfying _
  let hypothesis ← required parseNonEmpty dict "hypothesis"
  let vehicleScope ← required (parseList parseNonEmpty) dict "vehicle_scope" >>= satisfying _
  let dataGovernanceFlags ← required parseFlags dict "data_governance_flags"
  let confidenceThreshold ← required (parseUnit parsers) dict "confidence_threshold"
  let generatedFromSessionId ← required parseNonEmpty dict "generated_from_session_id"
  let originatingFinding ← required parseOriginatingFinding dict "originating_finding"
  let promptTemplateVersion ←
    withDefault (nullable (parseSemver parsers)) dict "prompt_template_version" none
  let slmRepo ← withDefault (nullable parseStr) dict "slm_repo" none
  let slmRevisionSha ← withDefault (nullable parseSha40) dict "slm_revision_sha" none
  let slmRuntime ← withDefault (nullable parseRuntime) dict "slm_runtime" none
  let slmRuntimeVersion ← withDefault (nullable parseStr) dict "slm_runtime_version" none
  let slmQuantization ← withDefault (nullable parseQuantization) dict "slm_quantization" none
  let slmDecodingSeed ← withDefault (nullable (parseInt parsers)) dict "slm_decoding_seed" none
  if !(((dict.get "created_at").all fun value =>
      match value with
      | .null => true
      | value => parsers.datetime value)) then none else
  return { policyId, version, signals, triggerConditions, collectionWindowHours, hypothesis,
           vehicleScope, dataGovernanceFlags, confidenceThreshold, generatedFromSessionId,
           originatingFinding, promptTemplateVersion, slmRepo, slmRevisionSha, slmRuntime,
           slmRuntimeVersion, slmQuantization, slmDecodingSeed }

end Parsing

section Accepted

variable {parsers : Parsers} {policy : Dict} {spec : CollectionPolicySpec}

theorem required_nonEmpty {key : String} {text : NonEmptyStr}
    (success : required parseNonEmpty policy key = some text) :
    policy.get key = some (.str text.val) := by
  obtain ⟨value, found, parsed⟩ := bind_some success
  rw [found, parseNonEmpty_eq_some parsed]

/-- What the dictionary of an accepted policy holds under the fields that later stages read. -/
structure Accepts (policy : Dict) (spec : CollectionPolicySpec) : Prop where
  closed : ∀ key, key ∉ policyFields → policy.get key = none
  policyId : policy.get "policy_id" = some (.str spec.policyId.val)
  version : policy.get "version" = some (.str spec.version)
  vehicleScope : policy.get "vehicle_scope" =
    some (.arr (spec.vehicleScope.val.map fun vehicle => .str vehicle.val))
  sessionId : policy.get "generated_from_session_id" = some (.str spec.generatedFromSessionId.val)
  finding : ∃ fields : Dict, policy.get "originating_finding" = some (.obj fields) ∧
    fields.get "tenant_id" = some (.str spec.originatingFinding.tenantId.val) ∧
    fields.get "finding_id" = some (.str spec.originatingFinding.findingId.val)

theorem parseSemver_eq_some {value : Json} {text : String}
    (success : parseSemver parsers value = some text) : value = .str text := by
  obtain ⟨raw, parsed, success⟩ := bind_some success
  split at success
  · cases success
    exact parseStr_eq_some parsed
  · cases success

theorem parseOriginatingFinding_eq_some {value : Json} {finding : OriginatingFinding}
    (success : parseOriginatingFinding value = some finding) :
    ∃ fields : Dict, value = .obj fields ∧
      fields.get "tenant_id" = some (.str finding.tenantId.val) ∧
      fields.get "finding_id" = some (.str finding.findingId.val) := by
  obtain ⟨fields, shut, success⟩ := bind_some success
  obtain ⟨tenantId, tenant, success⟩ := bind_some success
  obtain ⟨findingId, named, success⟩ := bind_some success
  cases success
  exact ⟨fields, (closed_eq_some shut).1, required_nonEmpty tenant, required_nonEmpty named⟩

theorem modelValidate_accepts
    (success : CollectionPolicySpec.modelValidate parsers policy = some spec) :
    Accepts policy spec := by
  unfold CollectionPolicySpec.modelValidate at success
  obtain ⟨dict, shut, success⟩ := bind_some success
  obtain ⟨same, outside⟩ := closed_eq_some shut
  cases same
  obtain ⟨policyId, identified, success⟩ := bind_some success
  obtain ⟨version, versioned, success⟩ := bind_some success
  obtain ⟨signals, _, success⟩ := bind_some success
  obtain ⟨triggerConditions, _, success⟩ := bind_some success
  obtain ⟨collectionWindowHours, _, success⟩ := bind_some success
  obtain ⟨hypothesis, _, success⟩ := bind_some success
  obtain ⟨vehicleScope, scope, success⟩ := bind_some success
  obtain ⟨dataGovernanceFlags, _, success⟩ := bind_some success
  obtain ⟨confidenceThreshold, _, success⟩ := bind_some success
  obtain ⟨generatedFromSessionId, generated, success⟩ := bind_some success
  obtain ⟨originatingFinding, originated, success⟩ := bind_some success
  -- The audit fields that follow are not read by any later stage.
  iterate 7 obtain ⟨_, _, success⟩ := bind_some success
  split at success
  · cases success
  · cases success
    obtain ⟨raw, scope, kept⟩ := bind_some scope
    obtain ⟨value, found, scope⟩ := bind_some scope
    obtain ⟨items, rfl, parsed⟩ := parseList_eq_some scope
    have listed := mapM_eq_some_of_inverse (fun _ _ => parseNonEmpty_eq_some) parsed
    obtain ⟨versionValue, versionFound, versionParsed⟩ := bind_some versioned
    obtain ⟨findingValue, findingFound, findingParsed⟩ := bind_some originated
    obtain ⟨fields, rfl, tenant, named⟩ := parseOriginatingFinding_eq_some findingParsed
    exact
      { closed := outside
        policyId := required_nonEmpty identified
        version := by rw [versionFound, parseSemver_eq_some versionParsed]
        vehicleScope := by rw [found, listed, satisfying_eq_some kept]
        sessionId := required_nonEmpty generated
        finding := ⟨fields, findingFound, tenant, named⟩ }

theorem parseSignal_eq_some {value : Json} {signal : SignalCollectionSpec}
    (success : parseSignal parsers value = some signal) :
    ∃ fields : Dict, value = .obj fields ∧ fields.get "vss_name" = some (.str signal.vssName.val) := by
  obtain ⟨fields, shut, success⟩ := bind_some success
  obtain ⟨vssName, named, success⟩ := bind_some success
  iterate 2 obtain ⟨_, _, success⟩ := bind_some success
  cases success
  exact ⟨fields, (closed_eq_some shut).1, required_nonEmpty named⟩

/-- The signals of an accepted policy are dictionaries with a name each. -/
theorem modelValidate_signals
    (success : CollectionPolicySpec.modelValidate parsers policy = some spec) :
    ∃ items, policy.get "signals" = some (.arr items) ∧
      List.Forall₂ (fun item signal => ∃ fields : Dict, item = .obj fields ∧
        fields.get "vss_name" = some (.str signal.vssName.val)) items spec.signals.val := by
  unfold CollectionPolicySpec.modelValidate at success
  obtain ⟨dict, shut, success⟩ := bind_some success
  obtain ⟨same, _⟩ := closed_eq_some shut
  cases same
  iterate 2 obtain ⟨_, _, success⟩ := bind_some success
  obtain ⟨signals, listed, success⟩ := bind_some success
  iterate 15 obtain ⟨_, _, success⟩ := bind_some success
  split at success
  · cases success
  · cases success
    obtain ⟨raw, read, kept⟩ := bind_some listed
    obtain ⟨value, found, parsed⟩ := bind_some read
    obtain ⟨items, rfl, each⟩ := parseList_eq_some parsed
    refine ⟨items, found, ?_⟩
    rw [satisfying_eq_some kept]
    exact ((Checked.mapM_some_iff _ _ _).mp each).imp fun _ _ => parseSignal_eq_some

end Accepted

end CollectMind.Validator
