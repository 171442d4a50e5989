import CollectMind.Errors

set_option autoImplicit false

/- An inbound finding before the database sees it: the schema of models/finding.py,
the version check of ingest/schema_version.py, and the first half of `post_finding`
in ingest/http.py. -/
namespace CollectMind.Ingest

open Python

abbrev NonEmptyStr := { value : String // 1 ≤ value.length }

theorem NonEmptyStr.ne_empty (text : NonEmptyStr) : text.val ≠ "" := by
  intro empty
  have length := text.property
  rw [empty] at length
  exact absurd length (by decide)

def parseNonEmpty (value : Json) : Option NonEmptyStr := parseStr value >>= satisfying _

theorem parseNonEmpty_eq_some {value : Json} {text : NonEmptyStr}
    (success : parseNonEmpty value = some text) : value = .str text.val := by
  obtain ⟨raw, parsed, kept⟩ := bind_some success
  rw [parseStr_eq_some parsed, satisfying_eq_some kept]

/-- `^\d+\.\d+\.\d+$`, for the digits of the engine that matches it. -/
def semver (digit : Char → Bool) (text : List Char) : Bool :=
  match text.splitOn '.' with
  | [major, minor, patch] =>
    [major, minor, patch].all fun part => !part.isEmpty && part.all digit
  | _ => false

structure DiagnosticFinding where
  schemaVersion : String
  findingId : { value : String // 1 ≤ value.length ∧ value.length ≤ 256 }
  anomalyType : NonEmptyStr
  hypothesisClass : NonEmptyStr
  hypothesisStatement : { value : String // 1 ≤ value.length ∧ value.length ≤ 4096 }
  candidateSignals : { values : List NonEmptyStr // values ≠ [] }
  vehicleScope : { values : List NonEmptyStr // values ≠ [] }
  upstreamConfidence : { value : Rat // 0 ≤ value ∧ value ≤ 1 }

/-- `ge=0.0, le=1.0` refuses infinities and NaN. -/
def parseUnit (parsers : Parsers) (value : Json) : Option { value : Rat // 0 ≤ value ∧ value ≤ 1 } :=
  match parseFloat parsers value with
  | some (.finite value) => satisfying _ value
  | _ => none

def findingFields : List String :=
  ["schema_version", "finding_id", "anomaly_type", "hypothesis_class", "hypothesis_statement",
    "candidate_signals", "vehicle_scope", "upstream_confidence"]

/-- `DiagnosticFinding.model_validate`. -/
def DiagnosticFinding.modelValidate (parsers : Parsers) (body : Json) : Option DiagnosticFinding := do
  let dict ← closed findingFields body
  let schemaVersion ← required parseStr dict "schema_version"
  if !semver parsers.digit schemaVersion.toList then none else
  let findingId ← required parseStr dict "finding_id" >>= satisfying _
  let anomalyType ← required parseNonEmpty dict "anomaly_type"
  let hypothesisClass ← required parseNonEmpty dict "hypothesis_class"
  let hypothesisStatement ← required parseStr dict "hypothesis_statement" >>= satisfying _
  let candidateSignals ← required (parseList parseNonEmpty) dict "candidate_signals" >>= satisfying _
  let vehicleScope ← required (parseList parseNonEmpty) dict "vehicle_scope" >>= satisfying _
  let upstreamConfidence ← required (parseUnit parsers) dict "upstream_confidence"
  return { schemaVersion, findingId, anomalyType, hypothesisClass, hypothesisStatement,
           candidateSignals, vehicleScope, upstreamConfidence }

inductive SchemaVersion where
  | supported (major minor patch : Nat)
  | malformed
  | unsupported (major minor patch : Nat)
  deriving DecidableEq, Repr

/-- `SchemaVersionChecker.check` of a string; `$` also matches before a final newline. `none` if
`int` raises on one of the numbers. -/
def checkVersion (supportedMajor : Nat) (version : String) : Option SchemaVersion :=
  let text := version.toList
  let matched := if text.getLast? = some '\n' then text.dropLast else text
  if !semver Char.isDigit matched then some .malformed
  else do
    match ← (matched.splitOn '.').mapM intOfDigits with
    | [major, minor, patch] =>
      if major = supportedMajor then return .supported major minor patch
      else return .unsupported major minor patch
    | _ => return .malformed

/-- `post_finding` up to the idempotency check. `str` is Python's, `firstError` the
location and message of the first validation error. -/
def receiveFinding (parsers : Parsers) (str : Json → String) (firstError : Json → String × String)
    (supportedMajor : Nat) (principal : Principal) (body : Json) :
    Except ApiError DiagnosticFinding :=
  match body with
  | .obj fields =>
    let bodyTenant := (Dict.get fields "tenant_id").filter fun
      | .null => false
      | .str value => value != principal.tenantId
      | _ => true
    if bodyTenant.isSome then
      .error (notFound "finding" (str (match Dict.get fields "finding_id" with
        | some value => if value.truthy then value else .str ""
        | none => .str "")))
    else
      let validated :=
        match DiagnosticFinding.modelValidate parsers body with
        | some finding => .ok finding
        | none => .error (schemaValidationFailed (firstError body).1 (firstError body).2)
      match Dict.get fields "schema_version" with
      | some (.str version) =>
        match checkVersion supportedMajor version with
        | none => .error internalError
        | some (.unsupported _ _ _) =>
          .error (schemaVersionUnsupported (.str version) (toString supportedMajor))
        | some .malformed => .error (schemaValidationFailed "schema_version" "malformed semver")
        | some (.supported _ _ _) => validated
      | some value =>
        if value.truthy then .error internalError
        else .error (schemaValidationFailed "schema_version" "malformed semver")
      | none => .error (schemaValidationFailed "schema_version" "malformed semver")
  | _ => .error internalError

end CollectMind.Ingest
