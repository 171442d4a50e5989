import CollectMind.Library.Segments
import CollectMind.Validator.PolicyValidator

set_option autoImplicit false

/- What `PolicyValidator` decides, said without its string tests: a signal is PII-adjacent if a
branch names one of its ancestors in the signal tree or the signal itself. -/
namespace CollectMind.Validator

open Python Segments

def segments (name : String) : List (List Char) := name.toList.splitOn '.'

def PiiAdjacent (branches : List String) (signalName : String) : Prop :=
  ∃ branch ∈ branches, segments branch <+: segments signalName

/-- The string tests of `is_pii` compare segments. -/
theorem isPii_iff {validator : PolicyValidator} (prefixes : validator.prefixMatch = true)
    (signalName : String) :
    validator.isPii signalName = true ↔ PiiAdjacent validator.branches signalName := by
  have dotted : ∀ branch : String, (branch ++ ".").toList = branch.toList ++ ['.'] := by
    intro branch
    simp
  simp only [PolicyValidator.isPii, prefixes, Bool.true_and, Bool.or_eq_true, List.contains_iff_mem,
    List.any_eq_true, List.isPrefixOf_iff_prefix, PiiAdjacent, segments, splitOn_prefix_iff, dotted]
  constructor
  · intro found
    rcases found with listed | ⟨branch, listed, below⟩
    · exact ⟨signalName, listed, Or.inl rfl⟩
    · exact ⟨branch, listed, Or.inr below⟩
  · intro found
    obtain ⟨branch, listed, same | below⟩ := found
    · left
      rw [String.toList_inj.mp same]
      exact listed
    · exact Or.inr ⟨branch, listed, below⟩

/-- Some signal of the policy is not in the vocabulary. -/
def Unknown (validator : PolicyValidator) (policy : CollectionPolicySpec) : Prop :=
  ∃ name ∈ policy.signalNames, name ∉ validator.signals

/-- Some signal of the policy is PII-adjacent. -/
def Sensitive (validator : PolicyValidator) (policy : CollectionPolicySpec) : Prop :=
  ∃ name ∈ policy.signalNames, PiiAdjacent validator.branches name

theorem flagged_isEmpty {validator : PolicyValidator} (prefixes : validator.prefixMatch = true)
    (policy : CollectionPolicySpec) :
    (validator.flagged policy.signalNames).isEmpty = false ↔ Sensitive validator policy := by
  have nonempty : (validator.flagged policy.signalNames).isEmpty = false ↔
      ∃ name, name ∈ validator.flagged policy.signalNames := by
    rw [List.isEmpty_eq_false_iff_exists_mem]
  rw [nonempty]
  simp only [PolicyValidator.flagged, List.mem_mergeSort, List.mem_dedup, List.mem_filter,
    isPii_iff prefixes, Sensitive]

theorem vocabularyErrors_codes (validator : PolicyValidator) (policy : CollectionPolicySpec)
    (code : String) :
    code ∈ (validator.vocabularyErrors policy.signalNames).map (·.code) ↔
      code = "VSS_INVALID_SIGNAL" ∧ Unknown validator policy := by
  have invalid : (policy.signalNames.filter fun name =>
      !validator.signals.contains name).isEmpty = false ↔ Unknown validator policy := by
    rw [List.isEmpty_eq_false_iff_exists_mem]
    simp [Unknown]
  unfold PolicyValidator.vocabularyErrors
  dsimp only
  split
  · rename_i known
    rw [← invalid, known]
    simp
  · rename_i some_
    have unknown := invalid.mp (by simpa only [Bool.not_eq_true] using some_)
    simp [unknown]

theorem governanceErrors_codes {validator : PolicyValidator}
    (prefixes : validator.prefixMatch = true) (policy : CollectionPolicySpec) (code : String) :
    code ∈ (validator.governanceErrors policy.signalNames policy.dataGovernanceFlags).map
        (·.code) ↔
      (code = "PII_CONSENT_REQUIRED" ∧ Sensitive validator policy ∧
          policy.dataGovernanceFlags.piiConsent = false) ∨
        (code = "PII_FLAG_INCONSISTENT" ∧ Sensitive validator policy ∧
          policy.dataGovernanceFlags.piiConsent = true ∧
          policy.dataGovernanceFlags.hasPiiSignal = false) := by
  have sensitive := flagged_isEmpty prefixes policy
  unfold PolicyValidator.governanceErrors
  dsimp only
  rw [← sensitive]
  cases (validator.flagged policy.signalNames).isEmpty with
  | true => simp
  | false =>
      cases policy.dataGovernanceFlags.piiConsent with
      | false => simp
      | true =>
          cases policy.dataGovernanceFlags.hasPiiSignal with
          | false => simp
          | true => simp

theorem validate_errors (validator : PolicyValidator) (policy : CollectionPolicySpec) :
    (validator.validate policy).errors = validator.vocabularyErrors policy.signalNames ++
      validator.governanceErrors policy.signalNames policy.dataGovernanceFlags := by
  simp only [PolicyValidator.validate, windowErrors_spec, List.append_nil]
  rfl

theorem validate_ok (validator : PolicyValidator) (policy : CollectionPolicySpec) :
    (validator.validate policy).ok = true ↔
      ∀ code, code ∉ (validator.validate policy).errors.map (·.code) := by
  have emptied : (validator.validate policy).ok = (validator.validate policy).errors.isEmpty := rfl
  rw [emptied, List.isEmpty_iff, ← List.map_eq_nil_iff, List.eq_nil_iff_forall_not_mem]

/-- The validator decides the vocabulary and consent rule, and reports exactly what is wrong. -/
theorem validate_decides (validator : PolicyValidator) (prefixes : validator.prefixMatch = true)
    (policy : CollectionPolicySpec) :
    ((validator.validate policy).ok = true ↔
        (∀ name ∈ policy.signalNames, name ∈ validator.signals) ∧
          ((∀ name ∈ policy.signalNames, ¬ PiiAdjacent validator.branches name) ∨
            policy.dataGovernanceFlags.piiConsent = true ∧
              policy.dataGovernanceFlags.hasPiiSignal = true)) ∧
      ∀ code, code ∈ (validator.validate policy).errors.map (·.code) ↔
        (code = "VSS_INVALID_SIGNAL" ∧ ∃ name ∈ policy.signalNames, name ∉ validator.signals) ∨
          (code = "PII_CONSENT_REQUIRED" ∧
            (∃ name ∈ policy.signalNames, PiiAdjacent validator.branches name) ∧
            policy.dataGovernanceFlags.piiConsent = false) ∨
          (code = "PII_FLAG_INCONSISTENT" ∧
            (∃ name ∈ policy.signalNames, PiiAdjacent validator.branches name) ∧
            policy.dataGovernanceFlags.piiConsent = true ∧
            policy.dataGovernanceFlags.hasPiiSignal = false) := by
  have reported : ∀ code, code ∈ (validator.validate policy).errors.map (·.code) ↔
      (code = "VSS_INVALID_SIGNAL" ∧ Unknown validator policy) ∨
        (code = "PII_CONSENT_REQUIRED" ∧ Sensitive validator policy ∧
          policy.dataGovernanceFlags.piiConsent = false) ∨
        (code = "PII_FLAG_INCONSISTENT" ∧ Sensitive validator policy ∧
          policy.dataGovernanceFlags.piiConsent = true ∧
          policy.dataGovernanceFlags.hasPiiSignal = false) := by
    intro code
    rw [validate_errors, List.map_append, List.mem_append, vocabularyErrors_codes,
      governanceErrors_codes prefixes]
  refine ⟨?_, reported⟩
  rw [validate_ok]
  constructor
  · intro silent
    constructor
    · intro name member
      by_contra outside
      exact silent _ ((reported _).mpr (Or.inl ⟨rfl, name, member, outside⟩))
    · by_cases sensitive : Sensitive validator policy
      · right
        have consent : policy.dataGovernanceFlags.piiConsent = true := by
          by_contra missing
          exact silent _ ((reported _).mpr
            (Or.inr (Or.inl ⟨rfl, sensitive, by simpa using missing⟩)))
        refine ⟨consent, ?_⟩
        by_contra unset
        exact silent _ ((reported _).mpr
          (Or.inr (Or.inr ⟨rfl, sensitive, consent, by simpa using unset⟩)))
      · left
        intro name member adjacent
        exact sensitive ⟨name, member, adjacent⟩
  · intro rule code member
    obtain ⟨known, governed⟩ := rule
    rcases (reported code).mp member with ⟨_, name, listed, outside⟩ |
      ⟨_, ⟨name, listed, adjacent⟩, refused⟩ | ⟨_, ⟨name, listed, adjacent⟩, _, unset⟩
    · exact outside (known name listed)
    · rcases governed with clean | ⟨consent, _⟩
      · exact clean name listed adjacent
      · rw [consent] at refused
        cases refused
    · rcases governed with clean | ⟨_, flag⟩
      · exact clean name listed adjacent
      · rw [flag] at unset
        cases unset

def cabinValidator : PolicyValidator where
  signals := ["Vehicle.Cabin.Door"]
  closest _ := none
  branches := ["Vehicle.Cabin"]
  prefixMatch := true

/-- A policy for one signal below a PII branch, without consent. -/
def cabinPolicy : CollectionPolicySpec where
  policyId := ⟨"policy-cabin", by decide⟩
  version := "1.0.0"
  signals := ⟨[⟨⟨"Vehicle.Cabin.Door", by decide⟩, ⟨.posInf, rfl⟩, ⟨1, by decide⟩⟩], by simp⟩
  triggerConditions := []
  collectionWindowHours := ⟨1, by decide⟩
  hypothesis := ⟨"hypothesis", by decide⟩
  vehicleScope := ⟨[⟨"vehicle-cabin", by decide⟩], by simp⟩
  dataGovernanceFlags := ⟨false, false, by decide⟩
  confidenceThreshold := ⟨0, by decide⟩
  generatedFromSessionId := ⟨"session-cabin", by decide⟩
  originatingFinding := ⟨⟨"tenant-cabin", by decide⟩, ⟨"finding-cabin", by decide⟩⟩
  promptTemplateVersion := none
  slmRepo := none
  slmRevisionSha := none
  slmRuntime := none
  slmRuntimeVersion := none
  slmQuantization := none
  slmDecodingSeed := none

theorem validate_decides_cabin :
    cabinValidator.prefixMatch = true ∧
      "PII_CONSENT_REQUIRED" ∈ (cabinValidator.validate cabinPolicy).errors.map (·.code) := by
  refine ⟨rfl, ?_⟩
  apply ((validate_decides cabinValidator rfl cabinPolicy).2 "PII_CONSENT_REQUIRED").mpr
  right
  left
  refine ⟨rfl, ⟨"Vehicle.Cabin.Door", List.mem_singleton.mpr rfl, "Vehicle.Cabin",
    List.mem_singleton.mpr rfl, ["Door".toList], ?_⟩, rfl⟩
  decide +kernel

end CollectMind.Validator
