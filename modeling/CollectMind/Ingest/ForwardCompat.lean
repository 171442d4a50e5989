import CollectMind.Ingest.PostFinding

set_option autoImplicit false

/- What becomes of a finding that a newer sender of the same major version writes: another minor
and patch number, and fields that this schema does not have. -/
namespace CollectMind.Ingest

open Python

/-- A well-formed version of the supported major. -/
structure Supported (supportedMajor : Nat) (version : String) : Prop where
  wellFormed : semver Char.isDigit version.toList = true
  major : (version.toList.splitOn '.').head?.map (fun digits => Nat.ofDigitChars 10 digits 0) =
    some supportedMajor

/-- None of the numbers has more digits than `int` reads. -/
def Readable (version : String) : Prop := ∀ digits ∈ version.toList.splitOn '.', digits.length ≤ 4300

theorem semver_parts {digit : Char → Bool} {text : List Char} (versioned : semver digit text = true) :
    ∃ major minor patch, text.splitOn '.' = [major, minor, patch] ∧
      ∀ part ∈ [major, minor, patch], part ≠ [] ∧ ∀ char ∈ part, digit char = true := by
  unfold semver at versioned
  split at versioned
  · rename_i major minor patch parts
    refine ⟨major, minor, patch, parts, ?_⟩
    simpa [List.all_eq_true] using versioned
  · cases versioned

/-- A well-formed version ends in a digit. -/
theorem semver_last {text : List Char} (versioned : semver Char.isDigit text = true) :
    text.getLast? ≠ some '\n' := by
  obtain ⟨major, minor, patch, parts, digits⟩ := semver_parts versioned
  obtain ⟨some_, decimal⟩ := digits patch (by simp)
  have joined : text = (major ++ '.' :: minor ++ ['.']) ++ patch := by
    have whole : ['.'].intercalate (text.splitOn '.') = text := List.intercalate_splitOn '.'
    rw [parts] at whole
    simpa [List.intercalate] using whole.symm
  rw [joined, List.getLast?_append_of_ne_nil _ some_]
  intro newline
  exact absurd (decimal '\n' (List.mem_of_getLast? newline)) (by decide)

/-- A version of the supported major passes the check exactly if its numbers can be read. -/
theorem Supported.checked_iff {supportedMajor : Nat} {version : String}
    (supported : Supported supportedMajor version) :
    (∃ major minor patch, checkVersion supportedMajor version = some (.supported major minor patch)) ↔
      Readable version := by
  obtain ⟨major, minor, patch, parts, _⟩ := semver_parts supported.wellFormed
  have leading : Nat.ofDigitChars 10 major 0 = supportedMajor := by
    simpa [parts] using supported.major
  simp only [checkVersion, if_neg (semver_last supported.wellFormed), supported.wellFormed,
    Bool.not_true, Bool.false_eq_true, ↓reduceIte, Readable, parts]
  by_cases readable : ∀ digits ∈ [major, minor, patch], digits.length ≤ 4300
  · refine iff_of_true ?_ readable
    simp only [List.forall_mem_cons] at readable
    exact ⟨supportedMajor, Nat.ofDigitChars 10 minor 0, Nat.ofDigitChars 10 patch 0, by
      simp [intOfDigits, readable, leading]⟩
  · refine iff_of_false ?_ readable
    have raises : [major, minor, patch].mapM intOfDigits = none := by
      rw [mapM_eq_none]
      simp only [not_forall] at readable
      obtain ⟨digits, listed, long⟩ := readable
      exact ⟨digits, listed, if_neg long⟩
    rw [raises]
    rintro ⟨_, _, _, found⟩
    cases found

def versionText (major minor patch : Nat) : String :=
  toString major ++ "." ++ toString minor ++ "." ++ toString patch

theorem digits_plain (number : Nat) : '.' ∉ Nat.toDigits 10 number := by
  intro dot
  have digit := Nat.isDigit_of_mem_toDigits (by decide) (by decide) dot
  exact absurd digit (by decide)

theorem digits_decimal (number : Nat) :
    (!(Nat.toDigits 10 number).isEmpty && (Nat.toDigits 10 number).all Char.isDigit) = true := by
  rw [Bool.and_eq_true]
  constructor
  · simp [Nat.toDigits_ne_nil]
  · rw [List.all_eq_true]
    intro char member
    exact Nat.isDigit_of_mem_toDigits (by decide) (by decide) member

theorem versionText_split (major minor patch : Nat) :
    (versionText major minor patch).toList.splitOn '.' =
      [Nat.toDigits 10 major, Nat.toDigits 10 minor, Nat.toDigits 10 patch] := by
  have joined : (versionText major minor patch).toList =
      Nat.toDigits 10 major ++ '.' :: (Nat.toDigits 10 minor ++ '.' :: Nat.toDigits 10 patch) := by
    simp [versionText, ToString.toString, Nat.toList_repr]
  rw [joined, List.splitOn_append_cons_self, List.splitOn_append_cons_self,
    List.splitOn_eq_singleton (digits_plain major), List.splitOn_eq_singleton (digits_plain minor),
    List.splitOn_eq_singleton (digits_plain patch)]
  rfl

/-- Every minor and patch number of the supported major, written in decimal, is a version of it. -/
theorem versionText_supported (supportedMajor minor patch : Nat) :
    Supported supportedMajor (versionText supportedMajor minor patch) where
  wellFormed := by
    simp only [semver, versionText_split, List.all_cons, digits_decimal, List.all_nil, Bool.and_true]
  major := by
    rw [versionText_split]
    exact congrArg some (Nat.ofDigitChars_toDigits (by decide) (by decide))

theorem versionText_readable {major minor patch : Nat}
    (short : ∀ number ∈ [major, minor, patch], (Nat.toDigits 10 number).length ≤ 4300) :
    Readable (versionText major minor patch) := by
  intro digits member
  have listed : digits ∈ [major, minor, patch].map (Nat.toDigits 10) := by
    rw [versionText_split] at member
    exact member
  obtain ⟨number, named, rfl⟩ := List.mem_map.mp listed
  exact short number named

/-- The fields with another version. -/
def revise (version : String) (fields : Dict) : Dict :=
  fields.map fun field => if field.1 = "schema_version" then (field.1, .str version) else field

/-- The body that a newer sender writes. -/
def newer (version : String) (fields extra : Dict) : Json := .obj (revise version fields ++ extra)

theorem revise_get_other (version : String) (fields : Dict) {key : String}
    (other : key ≠ "schema_version") : (revise version fields).get key = fields.get key := by
  unfold Dict.get revise
  induction fields with
  | nil => rfl
  | cons field rest ih =>
      rw [List.map_cons]
      by_cases versioned : field.1 = "schema_version"
      · have apart : (key == field.1) = false := by simpa [versioned] using other
        rw [if_pos versioned, List.lookup_cons, List.lookup_cons, apart]
        exact ih
      · rw [if_neg versioned, List.lookup_cons, List.lookup_cons, ih]

theorem revise_get_version (version : String) {fields : Dict} {value : Json}
    (present : fields.get "schema_version" = some value) :
    (revise version fields).get "schema_version" = some (.str version) := by
  unfold Dict.get revise at *
  induction fields with
  | nil => cases present
  | cons field rest ih =>
      rw [List.map_cons]
      by_cases versioned : field.1 = "schema_version"
      · rw [if_pos versioned, List.lookup_cons, versioned]
        simp
      · have apart : ("schema_version" == field.1) = false := by simpa using Ne.symm versioned
        rw [List.lookup_cons, apart] at present
        rw [if_neg versioned, List.lookup_cons, apart]
        exact ih present

theorem revise_keys (version : String) (fields : Dict) :
    (revise version fields).map Prod.fst = fields.map Prod.fst := by
  rw [revise, List.map_map]
  apply List.map_congr_left
  intro field _
  rw [Function.comp_apply]
  split
  · rfl
  · rfl

/-- A strict schema looks at the names first. -/
theorem closed_iff {allowed : List String} {fields dict : Dict} :
    closed allowed (.obj fields) = some dict ↔
      (∀ key ∈ fields.map Prod.fst, key ∈ allowed) ∧ fields = dict := by
  rw [closed]
  split
  · rename_i inside
    have known : ∀ key ∈ fields.map Prod.fst, key ∈ allowed := by
      simpa using inside
    constructor
    · intro read
      exact ⟨known, Option.some.inj read⟩
    · intro both
      rw [both.2]
  · rename_i outside
    constructor
    · intro none_
      cases none_
    · intro both
      exact absurd (by simpa using both.1) outside

theorem semver_mono {digit other : Char → Bool} (covers : ∀ char, digit char = true → other char = true)
    {text : List Char} (versioned : semver digit text = true) : semver other text = true := by
  unfold semver at versioned ⊢
  split at versioned
  · simp only [List.all_cons, List.all_nil, Bool.and_true, Bool.and_eq_true, List.all_eq_true] at *
    obtain ⟨⟨some_, digits⟩, ⟨more, decimals⟩, rest, last⟩ := versioned
    exact ⟨⟨some_, fun char member => covers char (digits char member)⟩,
      ⟨more, fun char member => covers char (decimals char member)⟩,
      rest, fun char member => covers char (last char member)⟩
  · cases versioned

theorem modelValidate_closed {parsers : Parsers} {fields : Dict} {finding : DiagnosticFinding}
    (success : DiagnosticFinding.modelValidate parsers (.obj fields) = some finding) :
    ∀ key ∈ fields.map Prod.fst, key ∈ findingFields := by
  unfold DiagnosticFinding.modelValidate at success
  obtain ⟨dict, shut, _⟩ := bind_some success
  exact (closed_iff.mp shut).1

theorem modelValidate_versioned {parsers : Parsers} {fields : Dict} {finding : DiagnosticFinding}
    (success : DiagnosticFinding.modelValidate parsers (.obj fields) = some finding) :
    ∃ value, fields.get "schema_version" = some value := by
  unfold DiagnosticFinding.modelValidate at success
  obtain ⟨dict, shut, success⟩ := bind_some success
  obtain ⟨text, read, _⟩ := bind_some success
  obtain ⟨value, present, _⟩ := bind_some read
  rw [(closed_iff.mp shut).2]
  exact ⟨value, present⟩

/-- Another well-formed version changes nothing else. -/
theorem modelValidate_revise {parsers : Parsers} {fields : Dict} {finding : DiagnosticFinding}
    {version : String} (versioned : semver parsers.digit version.toList = true)
    (success : DiagnosticFinding.modelValidate parsers (.obj fields) = some finding) :
    DiagnosticFinding.modelValidate parsers (.obj (revise version fields)) =
      some { finding with schemaVersion := version } := by
  have inside := modelValidate_closed success
  obtain ⟨value, present⟩ := modelValidate_versioned success
  have shut : closed findingFields (.obj (revise version fields)) = some (revise version fields) :=
    closed_iff.mpr ⟨by rw [revise_keys]; exact inside, rfl⟩
  have others : ∀ {α : Type} (parse : Json → Option α) {key : String}, key ≠ "schema_version" →
      required parse (revise version fields) key = required parse fields key := by
    intro α parse key other
    rw [required, required, revise_get_other version fields other]
  unfold DiagnosticFinding.modelValidate at success ⊢
  obtain ⟨dict, opened, success⟩ := bind_some success
  rw [← (closed_iff.mp opened).2] at success
  obtain ⟨text, _, success⟩ := bind_some success
  have reread : required parseStr (revise version fields) "schema_version" = some version := by
    rw [required, revise_get_version version present]
    rfl
  split at success
  · cases success
  · simp only [shut, reread, versioned, others _ (show "finding_id" ≠ "schema_version" by decide),
      others _ (show "anomaly_type" ≠ "schema_version" by decide),
      others _ (show "hypothesis_class" ≠ "schema_version" by decide),
      others _ (show "hypothesis_statement" ≠ "schema_version" by decide),
      others _ (show "candidate_signals" ≠ "schema_version" by decide),
      others _ (show "vehicle_scope" ≠ "schema_version" by decide),
      others _ (show "upstream_confidence" ≠ "schema_version" by decide),
      Option.bind_eq_bind, Option.bind_some, Bool.not_true, Bool.false_eq_true, ↓reduceIte]
    obtain ⟨findingId, identified, success⟩ := bind_some success
    obtain ⟨anomalyType, typed, success⟩ := bind_some success
    obtain ⟨hypothesisClass, classed, success⟩ := bind_some success
    obtain ⟨hypothesisStatement, stated, success⟩ := bind_some success
    obtain ⟨candidateSignals, listed, success⟩ := bind_some success
    obtain ⟨vehicleScope, scope, success⟩ := bind_some success
    obtain ⟨upstreamConfidence, trusted, success⟩ := bind_some success
    cases success
    simp only [Option.bind_eq_bind] at identified stated listed scope
    simp [identified, typed, classed, stated, listed, scope, trusted]

section Receive

variable {parsers : Parsers} {str : Json → String} {firstError : Json → String × String}
  {supportedMajor : Nat} {principal : Principal} {fields : Dict} {finding : DiagnosticFinding}

theorem receiveFinding_validates
    (accepted : receiveFinding parsers str firstError supportedMajor principal (.obj fields) =
      .ok finding) :
    DiagnosticFinding.modelValidate parsers (.obj fields) = some finding := by
  unfold receiveFinding at accepted
  dsimp only at accepted
  split at accepted
  · cases accepted
  · split at accepted
    · split at accepted
      · cases accepted
      · cases accepted
      · cases accepted
      · split at accepted
        · rename_i validated
          cases accepted
          exact validated
        · cases accepted
    · split at accepted
      · cases accepted
      · cases accepted
    · cases accepted

theorem receiveFinding_checks {version : String}
    (accepted : receiveFinding parsers str firstError supportedMajor principal (.obj fields) =
      .ok finding)
    (present : fields.get "schema_version" = some (.str version)) :
    ∃ major minor patch,
      checkVersion supportedMajor version = some (.supported major minor patch) := by
  unfold receiveFinding at accepted
  dsimp only at accepted
  rw [present] at accepted
  split at accepted
  · cases accepted
  · dsimp only at accepted
    split at accepted
    · cases accepted
    · cases accepted
    · cases accepted
    · rename_i major minor patch checked
      exact ⟨major, minor, patch, checked⟩

theorem receiveFinding_takes {version : String} {major minor patch : Nat}
    (untenanted : fields.get "tenant_id" = none)
    (present : fields.get "schema_version" = some (.str version))
    (supported : checkVersion supportedMajor version = some (.supported major minor patch))
    (validated : DiagnosticFinding.modelValidate parsers (.obj fields) = some finding) :
    receiveFinding parsers str firstError supportedMajor principal (.obj fields) = .ok finding := by
  simp [receiveFinding, untenanted, present, supported, validated]

/-- A finding that is accepted stays accepted under a newer version exactly if nothing is added to
it, since the schema refuses every field that it does not know, and if the numbers of the version
are not too long to be read. -/
theorem newer_accepted_iff_nothing_added (parsers : Parsers) (str : Json → String)
    (firstError : Json → String × String) (supportedMajor : Nat) (principal : Principal)
    (fields : Dict) (finding : DiagnosticFinding) (version : String) (extra : Dict)
    (digits : ∀ char, Char.isDigit char = true → parsers.digit char = true)
    (accepted : receiveFinding parsers str firstError supportedMajor principal (.obj fields) =
      .ok finding)
    (supported : Supported supportedMajor version)
    (unknown : ∀ field ∈ extra, field.1 ∉ findingFields ∧ field.1 ≠ "tenant_id") :
    receiveFinding parsers str firstError supportedMajor principal (newer version fields extra) =
        .ok { finding with schemaVersion := version } ↔
      extra = [] ∧ Readable version := by
  have validated := receiveFinding_validates accepted
  obtain ⟨value, present⟩ := modelValidate_versioned validated
  have revised := revise_get_version version present
  constructor
  · intro still
    have known := modelValidate_closed (receiveFinding_validates still)
    have nothing : extra = [] := by
      apply List.eq_nil_iff_forall_not_mem.mpr
      intro field member
      have listed : field.1 ∈ (revise version fields ++ extra).map Prod.fst :=
        List.mem_map_of_mem (List.mem_append_right _ member)
      exact (unknown field member).1 (known field.1 listed)
    rw [nothing, newer, List.append_nil] at still
    exact ⟨nothing, supported.checked_iff.mp (receiveFinding_checks still revised)⟩
  · rintro ⟨nothing, readable⟩
    rw [nothing, newer, List.append_nil]
    have inside := modelValidate_closed validated
    have untenanted : (revise version fields).get "tenant_id" = none := by
      rw [revise_get_other version fields (by decide)]
      apply Dict.get_eq_none
      intro field member same
      have listed := inside field.1 (List.mem_map_of_mem member)
      rw [same] at listed
      exact absurd listed (by decide)
    obtain ⟨major, minor, patch, checked⟩ := supported.checked_iff.mpr readable
    exact receiveFinding_takes untenanted revised checked
      (modelValidate_revise (semver_mono digits supported.wellFormed) validated)

end Receive

def asciiParsers : Parsers where
  digit := Char.isDigit
  intOfStr _ := none
  floatOfStr _ := none
  datetime _ := false
  describe _ := ""

def sampleFields : Dict :=
  [("schema_version", .str "1.0.0"), ("finding_id", .str "finding-1"),
    ("anomaly_type", .str "thermal"), ("hypothesis_class", .str "battery"),
    ("hypothesis_statement", .str "cell imbalance"),
    ("candidate_signals", .arr [.str "Vehicle.Speed"]), ("vehicle_scope", .arr [.str "vehicle-1"]),
    ("upstream_confidence", .int 1)]

def receiveSample : Json → Except ApiError DiagnosticFinding :=
  receiveFinding asciiParsers (fun _ => "")
    (fun _ => ("severity", "Extra inputs are not permitted")) 1 ⟨"tenant-a", "client-a"⟩

theorem receiveSample_accepts : receiveSample (.obj sampleFields) = .ok sampleFinding := by
  rfl

theorem newer_accepted_iff_nothing_added_sample :
    receiveSample (.obj sampleFields) = .ok sampleFinding ∧
      receiveSample (newer (versionText 1 7 2) sampleFields []) =
        .ok { sampleFinding with schemaVersion := versionText 1 7 2 } :=
  ⟨receiveSample_accepts, (newer_accepted_iff_nothing_added _ _ _ 1 _ sampleFields sampleFinding
    (versionText 1 7 2) [] (fun _ digit => digit) receiveSample_accepts
    (versionText_supported 1 7 2) (by simp)).mpr
      ⟨rfl, versionText_readable (by decide)⟩⟩

/-- A sender of version 1.1.0 adds a field. -/
theorem newer_refused_with_added_field :
    receiveSample (.obj sampleFields) = .ok sampleFinding ∧
      receiveSample (newer (versionText 1 1 0) sampleFields [("severity", .str "high")]) =
        .error (schemaValidationFailed "severity" "Extra inputs are not permitted") := by
  refine ⟨receiveSample_accepts, ?_⟩
  rfl

end CollectMind.Ingest
