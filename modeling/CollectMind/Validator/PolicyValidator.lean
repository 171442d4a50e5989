import Mathlib.Data.List.Dedup
import CollectMind.Validator.PolicySpec

set_option autoImplicit false

/- `PolicyValidator` of validator/policy_validator.py with the vocabulary check of
validator/vss.py and the consent check of validator/governance.py. -/
namespace CollectMind.Validator

open Python

structure ValidationError where
  code : String
  field : String
  message : String
  details : Dict

structure ValidationResult where
  ok : Bool
  errors : List ValidationError
  suggestions : List (String × String)

/-- What a validator is configured with: the vocabulary, its closest-name suggestion, and the
PII-adjacent branches. -/
structure PolicyValidator where
  signals : List String
  closest : String → Option String
  branches : List String
  prefixMatch : Bool

/-- `DataGovernanceChecker.is_pii`. -/
def PolicyValidator.isPii (validator : PolicyValidator) (signalName : String) : Bool :=
  validator.branches.contains signalName ||
    (validator.prefixMatch && validator.branches.any fun branch =>
      (branch ++ ".").toList.isPrefixOf signalName.toList)

/-- The flagged signals, each once, in order. -/
def PolicyValidator.flagged (validator : PolicyValidator) (signalNames : List String) : List String :=
  ((signalNames.filter validator.isPii).dedup).mergeSort fun left right => decide (left ≤ right)

def stringList (values : List String) : Json := .arr (values.map .str)

def PolicyValidator.vocabularyErrors (validator : PolicyValidator) (names : List String) :
    List ValidationError :=
  let invalid := names.filter fun name => !validator.signals.contains name
  if invalid.isEmpty then []
  else [⟨"VSS_INVALID_SIGNAL", "signals", "One or more signals are not valid VSS v6.0 names.",
    [("invalid_signals", stringList invalid)]⟩]

def PolicyValidator.governanceErrors (validator : PolicyValidator) (names : List String)
    (flags : DataGovernanceFlags) : List ValidationError :=
  let flagged := validator.flagged names
  if !flagged.isEmpty && !flags.piiConsent then
    [⟨"PII_CONSENT_REQUIRED", "data_governance_flags",
      "PII-adjacent signal selected without explicit consent.",
      [("flagged_signals", stringList flagged)]⟩]
  else if !flagged.isEmpty && !flags.hasPiiSignal then
    [⟨"PII_FLAG_INCONSISTENT", "data_governance_flags.has_pii_signal",
      "has_pii_signal must be true when a PII-adjacent signal is selected.",
      [("flagged_signals", stringList flagged)]⟩]
  else []

def windowErrors (hours : Int) : List ValidationError :=
  if 1 ≤ hours ∧ hours ≤ 168 then []
  else [⟨"WINDOW_OUT_OF_BOUNDS", "collection_window_hours",
    "collection_window_hours must be between 1 and 168 inclusive.", [("value", .int hours)]⟩]

/-- `PolicyValidator.validate`. -/
def PolicyValidator.validate (validator : PolicyValidator) (policy : CollectionPolicySpec) :
    ValidationResult :=
  let names := policy.signals.val.map fun signal => signal.vssName.val
  let errors := validator.vocabularyErrors names ++
    validator.governanceErrors names policy.dataGovernanceFlags ++
    windowErrors policy.collectionWindowHours.val
  { ok := errors.isEmpty
    errors := errors
    suggestions := (names.filter fun name => !validator.signals.contains name).filterMap fun name =>
      (validator.closest name).map fun suggestion => (name, suggestion) }

/-- The schema already bounds the window, so its check never fires. -/
theorem windowErrors_spec (policy : CollectionPolicySpec) :
    windowErrors policy.collectionWindowHours.val = [] := if_pos policy.collectionWindowHours.property

end CollectMind.Validator
