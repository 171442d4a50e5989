import CollectMind.Graph.PromptTrace
import CollectMind.Graph.Run
import CollectMind.Library.Capture
import CollectMind.Library.JsonRead
import CollectMind.Library.PyText

set_option autoImplicit false

/- `DevDefaultPolicyClient` of slm/dev_default_client.py, the generator of the profile
`dev_default`: it finds the fields of the finding in the rendered prompt again, by regular
expressions, and builds its policy from them. -/
namespace CollectMind.Slm

open Python CollectMind.Graph Regex Replacement

section Patterns

/-- `label\s*(group)`. -/
def labelled (label : String) (group : List (Atom Char)) : Grouped Char :=
  ⟨literals label.toList ++ [.items isSpace 0 none], group, []⟩

/-- `[^\s]+`. -/
def visibleGroup : List (Atom Char) := [.items (fun char => !isSpace char) 1 none]

/-- `\[[^\]]*\]`. -/
def listGroup : List (Atom Char) :=
  [literal '[', .items (fun char => char != ']') 0 none, literal ']']

/-- `[0-9.]+`. -/
def decimalGroup : List (Atom Char) := [.items (fun char => char.isDigit || char == '.') 1 none]

def findingLabel : String := "Finding:"
def tenantLabel : String := "Tenant:"
def scopeLabel : String := "Vehicle scope:"
def confidenceLabel : String := "Upstream confidence:"
def signalsLabel : String := "Candidate signals (optional hints):"
def sessionLabel : String := "Sets `generated_from_session_id` to `\""

/-- ``Sets `generated_from_session_id` to `"([^"]+)"` ``. -/
def sessionPattern : Grouped Char :=
  ⟨literals sessionLabel.toList ++ [], [.items (fun char => char != '"') 1 none],
    literals "\"`".toList⟩

end Patterns

/-- What the client has from the interpreter and its environment: how floats are read, written and
subtracted, and `DEV_DEFAULT_TENANT`. -/
structure DevDefault where
  floatOfStr : String → Option PyFloat
  floatOf : String → PyFloat
  repr : Json → String
  minus : PyFloat → PyFloat → PyFloat
  defaultTenant : Option String

structure Extracted where
  tenantId : String
  findingId : String
  vehicleScope : List Json
  confidence : PyFloat
  sessionId : String
  candidateSignals : List String

/-- `_match`. No pattern has a word boundary, so that it does not matter what a word is. -/
def matched (pattern : Grouped Char) (prompt : String) : Option String :=
  (search (fun _ => false) pattern prompt.toList).map String.ofList

/-- The float `0.7`. -/
def sevenTenths : PyFloat := .finite (3152519739159347 / 4503599627370496)

/-- The float `0.1`. -/
def oneTenth : PyFloat := .finite (3602879701896397 / 36028797018963968)

variable (client : DevDefault)

/-- The items of a list that is written as JSON; `none` also where `json.loads` raises. -/
def loadedList (raw : Option String) : Option (List Json) :=
  raw.bind fun raw => (loads client.floatOf raw.toList).bind Json.toList

/-- `_extract_finding_from_prompt`. -/
def extractFindingFromPrompt (prompt : String) : Extracted where
  findingId := (matched (labelled findingLabel visibleGroup) prompt).getD "F-default-001"
  tenantId := (matched (labelled tenantLabel visibleGroup) prompt).getD
    (client.defaultTenant.getD "feature-001-default")
  vehicleScope := (loadedList client (matched (labelled scopeLabel listGroup) prompt)).getD
    [.str "VIN-default-001"]
  confidence := (client.floatOfStr
    ((matched (labelled confidenceLabel decimalGroup) prompt).getD "0.7")).getD sevenTenths
  sessionId := (matched sessionPattern prompt).getD "session-default-001"
  candidateSignals := ((loadedList client (matched (labelled signalsLabel listGroup) prompt)).getD
    []).map (Json.toStr client.repr)

def signalEntry (vssName : String) (sampleRateHz : Rat) (priority : Int) : Json :=
  .obj [("vss_name", .str vssName), ("sample_rate_hz", .float (.finite sampleRateHz)),
    ("priority", .int priority)]

/-- `_DEFAULT_BRAKE_SIGNALS`. -/
def defaultBrakeSignals : List Json :=
  [signalEntry "Vehicle.Chassis.Axle.Row1.Wheel.Left.Brake.PadWear" 1 5,
    signalEntry "Vehicle.Chassis.Axle.Row1.Wheel.Right.Brake.PadWear" 1 5,
    signalEntry "Vehicle.Powertrain.CombustionEngine.EngineOil.Temperature" 2 4]

/-- `max(0.0, min(1.0, value))`; a comparison with NaN is false. -/
def clamped : PyFloat → Rat
  | .finite value => max 0 (min 1 value)
  | .posInf => 1
  | .negInf => 0
  | .nan => 1

/-- The dictionary of `_build_policy` for what was extracted. -/
def policyFor (extracted : Extracted) : Dict :=
  [("policy_id", .str ("policy-" ++ extracted.findingId)),
    ("version", .str "1.0.0"),
    ("signals", .arr (if extracted.candidateSignals.isEmpty then defaultBrakeSignals
      else extracted.candidateSignals.map fun name => signalEntry name 1 5)),
    ("trigger_conditions", .arr [.obj [("kind", .str "time_window"),
      ("params", .obj [("window_hours", .int 72)])]]),
    ("collection_window_hours", .int 72),
    ("hypothesis", .str "rotor temperature excursions correlated with mileage"),
    ("vehicle_scope", .arr extracted.vehicleScope),
    ("data_governance_flags", .obj [("pii_consent", .bool false), ("has_pii_signal", .bool false)]),
    ("confidence_threshold", .float (.finite (clamped (client.minus extracted.confidence oneTenth)))),
    ("generated_from_session_id", .str extracted.sessionId),
    ("originating_finding", .obj [("tenant_id", .str extracted.tenantId),
      ("finding_id", .str extracted.findingId)])]

/-- `_build_policy`. -/
def buildPolicy (prompt : String) : Dict :=
  policyFor client (extractFindingFromPrompt client prompt)

/-- `_RUNTIME_INFO`. -/
def devRuntimeInfo : Dict :=
  [("slm_repo", .str "dev/default"),
    ("slm_revision_sha", .str (String.ofList (List.replicate 40 '0'))),
    ("slm_runtime", .str "stub"),
    ("slm_runtime_version", .str "dev-default"),
    ("slm_quantization", .str "none"),
    ("constrained_decoding_library", .str "none"),
    ("constraint_violation_count", .int 0)]

/-- `DevDefaultPolicyClient.generate`. -/
def devGenerate (request : GenerationRequest) : GenerationResponse where
  policy := buildPolicy client request.prompt
  runtimeInfo := devRuntimeInfo

section Groups

variable {isWord : Char → Bool}

theorem blank_whitespace : ∀ char ∈ [' '], isSpace char = true :=
  List.forall_mem_singleton.mpr (by decide)

/-- A run of one class after the blank behind the label. -/
theorem parts_run {belongs : Char → Bool} {least : Nat} {word rest : List Char}
    (all : ∀ char ∈ word, belongs char = true) (enough : least ≤ word.length)
    (stops : ∀ char ∈ rest.head?, belongs char = false)
    (visible : ∀ char ∈ (word ++ rest).head?, isSpace char = false)
    (before : Option Char) :
    parts isWord ([.items isSpace 0 none] ++ ([.items belongs least none] ++ [])) before
        (' ' :: (word ++ rest)) = some ([[' ']] ++ [word]) := by
  exact parts_greedy blank_whitespace visible (Nat.zero_le _) (parts_greedy all stops enough rfl)

/-- A list in brackets after the blank behind the label. -/
theorem parts_list {inner : List Char} (closed : ']' ∉ inner) (rest : List Char)
    (before : Option Char) :
    parts isWord ([.items isSpace 0 none] ++ (listGroup ++ [])) before
        (' ' :: ('[' :: (inner ++ ']' :: rest))) =
      some ([[' ']] ++ [['['], inner, [']']]) := by
  have opening : ∀ char ∈ ('[' :: (inner ++ ']' :: rest)).head?, isSpace char = false := by
    rintro char ⟨rfl⟩
    decide
  have items : ∀ char ∈ inner, (char != ']') = true := by
    intro char member
    rw [bne_iff_ne]
    rintro rfl
    exact closed member
  refine parts_greedy blank_whitespace opening (Nat.zero_le _) ?_
  have ending : ∀ before, parts isWord [.items (fun char => char != ']') 0 none, literal ']'] before
      (inner ++ ']' :: rest) = some [inner, [']']] := by
    intro before
    refine parts_greedy items (by simp) (Nat.zero_le _) ?_
    rw [parts_literal]
    rfl
  change parts isWord (literal '[' :: _) _ ('[' :: (inner ++ ']' :: rest)) = _
  rw [parts_literal]
  exact congrArg (Option.map (['['] :: ·)) (ending (some '['))

/-- The session id between its quotes. -/
theorem parts_session {sessionId : List Char} (nonempty : sessionId ≠ []) (plain : '"' ∉ sessionId)
    (rest : List Char) (before : Option Char) :
    parts isWord ([] ++ (sessionPattern.group ++ sessionPattern.after)) before
        (sessionId ++ ("\"`".toList ++ rest)) =
      some ([] ++ [sessionId, ['"'], ['`']]) := by
  have inside : ∀ char ∈ sessionId, (char != '"') = true := by
    intro char member
    rw [bne_iff_ne]
    rintro rfl
    exact plain member
  refine parts_greedy inside (by simp) (List.length_pos_of_ne_nil nonempty) ?_
  have closing := @parts_literals _ isWord [] _ "\"`".toList (lastOf before sessionId) rest
  rw [List.append_nil] at closing
  exact closing

end Groups

section Prompts

/-- A prompt whose fields have these texts, up to what follows the rules of the template. -/
def promptText (system : List Char) (values : Field → List Char) (tail : List Char) : List Char :=
  system ++ ("\n\n".toList ++ (bodyText id values ++ tail))

/-- The text of a field and the literal behind it. -/
def filled (values : Field → List Char) (part : Field × String) : List Char :=
  values part.1 ++ part.2.toList

variable {system tail : List Char} {values : Field → List Char}

theorem bodyText_eq (values : Field → List Char) :
    bodyText id values = templateFirst.toList ++ templateBody.flatMap (filled values) := by
  rw [bodyText, spell, printed, List.flatMap_map, List.map_id]
  congr 2
  funext part
  rw [filled, List.map_id]

theorem promptText_eq : promptText system values tail =
    system ++ ("\n\n" ++ templateFirst).toList ++
      (templateBody.flatMap (filled values) ++ tail) := by
  rw [promptText, bodyText_eq, String.toList_append]
  simp only [List.append_assoc]

/-- The lines of the template that are looked for, by their label, and the number of texts that
come before them. -/
def lines : List (String × Nat) :=
  [(findingLabel, 1), (scopeLabel, 5), (confidenceLabel, 6), (signalsLabel, 7), (sessionLabel, 9)]

/-- Nothing before a line can be taken for it: neither the system text nor the text of an earlier
field has its label. -/
structure Quiet (system : List Char) (values : Field → List Char) (line : String × Nat) : Prop where
  system : ¬ line.1.toList <:+: system
  fields : ∀ part ∈ templateBody.take line.2, ¬ line.1.toList <:+: values part.1

instance (system : List Char) (values : Field → List Char) (line : String × Nat) :
    Decidable (Quiet system values line) :=
  decidable_of_iff (¬ line.1.toList <:+: system ∧
      ∀ part ∈ templateBody.take line.2, ¬ line.1.toList <:+: values part.1)
    ⟨fun both => ⟨both.1, both.2⟩, fun quiet => ⟨quiet.system, quiet.fields⟩⟩

theorem append_chars (first second third last : String) :
    (first ++ (second ++ (third ++ last))).toList =
      first.toList ++ (second.toList ++ (third.toList ++ last.toList)) := by
  simp only [String.toList_append]

-- The kernel is slow on the characters of appended texts, and quick on those of literals.
theorem taskText_chars : taskText.toList =
    "\n\n# Task\n\nProduce a `CollectionPolicySpec` JSON object that:\n\n".toList ++
      ("1. Selects the minimum set of VSS v6.0 signals needed to confirm or rule out the hypothesis ".toList ++
      ("above.\n2. Sets sampling rates per the system-prompt guidance.\n".toList ++
      "3. Sets `policy_id` to `\"policy-".toList)) :=
  append_chars _ _ _ _

theorem taskText_newline : ['\n'] <+: taskText.toList := by
  rw [taskText_chars]
  exact List.prefix_append_of_prefix (by decide +kernel)

theorem taskText_barrier : barrier sessionLabel.toList taskText.toList = true := by
  rw [taskText_chars]
  decide +kernel

/-- No label can touch a literal before its line. -/
theorem lines_barrier : ∀ line ∈ lines,
    barrier line.1.toList ("\n\n" ++ templateFirst).toList = true ∧
      ∀ part ∈ templateBody.take (line.2 - 1), barrier line.1.toList part.2.toList = true := by
  have early : ∀ line ∈ lines, barrier line.1.toList ("\n\n" ++ templateFirst).toList = true ∧
      ∀ part ∈ templateBody.take (min (line.2 - 1) 7),
        barrier line.1.toList part.2.toList = true := by
    decide +kernel
  -- only the line of the session id is behind the task
  have session : ∀ part ∈ templateBody.take 7 ++ [(Field.candidateSignalsJson, taskText)],
      barrier sessionLabel.toList part.2.toList = true :=
    List.forall_mem_append.mpr ⟨(early (sessionLabel, 9) (by decide)).2,
      List.forall_mem_singleton.mpr taskText_barrier⟩
  simp only [lines, List.forall_mem_cons] at early ⊢
  obtain ⟨finding, scope, confidence, signals, last, _⟩ := early
  exact ⟨finding, scope, confidence, signals, ⟨last.1, session⟩, List.forall_mem_nil _⟩

/-- A new line is no part of a label. -/
theorem lines_newline : ∀ line ∈ lines, barrier line.1.toList ['\n'] = true := by
  decide +kernel

theorem newline_begins (text : String) : ['\n'] <+: ("\n" ++ text).toList := by
  rw [String.toList_append]
  exact ⟨text.toList, rfl⟩

theorem label_line (label : String) :
    ("\n" ++ (label ++ " ")).toList = ['\n'] ++ (label.toList ++ [' ']) := by
  rw [String.toList_append, String.toList_append]
  rfl

variable {isWord : Char → Bool} {pattern : Grouped Char} {label : String} {index : Nat}

theorem Quiet.mono {count : Nat} (quiet : Quiet system values (label, index)) (less : count ≤ index) :
    Quiet system values (label, count) where
  system := quiet.system
  fields part member := quiet.fields part ((List.take_prefix_take_left less).subset member)

/-- What stands before the text of a field is passed over in the search for a later line. -/
theorem passed_before (line : (label, index + 1) ∈ lines) {count : Nat} (early : count ≤ index)
    (quiet : Quiet system values (label, count)) :
    ∀ part ∈ (system ++ ("\n\n" ++ templateFirst).toList) ::
      (templateBody.take count).map (filled values), Passed label.toList part := by
  obtain ⟨first, others⟩ := lines_barrier _ line
  intro part member
  rcases List.mem_cons.mp member with rfl | later
  · exact passed_of_barrier quiet.system first
  · obtain ⟨part, listed, rfl⟩ := List.mem_map.mp later
    exact passed_of_barrier (quiet.fields part listed)
      (others part ((List.take_prefix_take_left early).subset listed))

/-- The prompt up to a field, the field's text with the literal behind it, and the rest. -/
theorem promptText_at {field : Field} {text : String}
    (stands : templateBody[index]? = some (field, text)) :
    promptText system values tail =
      ((system ++ ("\n\n" ++ templateFirst).toList) ::
          (templateBody.take index).map (filled values)).flatten ++
        (values field ++ (text.toList ++
          ((templateBody.drop (index + 1)).flatMap (filled values) ++ tail))) := by
  have split : templateBody = templateBody.take index ++ (field, text) ::
      templateBody.drop (index + 1) := by
    obtain ⟨small, same⟩ := List.getElem?_eq_some_iff.mp stands
    rw [← same, List.cons_getElem_drop_succ, List.take_append_drop]
  rw [promptText_eq]
  conv => lhs; rw [split]
  simp [filled, List.flatMap_def]

/-- The search for a label goes as far as its line. -/
theorem search_line {more : List (Atom Char)}
    (line : (label, index + 1) ∈ lines) (starts : pattern.before = literals label.toList ++ more)
    (quiet : Quiet system values (label, index + 1)) {field : Field} {text : String}
    (stands : templateBody[index]? = some (field, text)) {border behind : List Char}
    (cut : text.toList = border ++ (label.toList ++ behind))
    (last : Passed label.toList (values field ++ border)) {found : List Char}
    (here : ∀ before, groupAt isWord pattern before (label.toList ++ (behind ++
      ((templateBody.drop (index + 1)).flatMap (filled values) ++ tail))) = some found) :
    search isWord pattern (promptText system values tail) = some found := by
  have passed : ∀ part ∈ (system ++ ("\n\n" ++ templateFirst).toList) ::
      (templateBody.take index).map (filled values) ++ [values field ++ border],
      Passed label.toList part := by
    intro part member
    rcases List.mem_append.mp member with earlier | own
    · exact passed_before line (Nat.le_refl index) (quiet.mono (Nat.le_succ index)) part earlier
    · rw [List.mem_singleton.mp own]
      exact last
  have found := search_behind starts passed here
  rw [promptText_at stands, cut]
  simpa using found

/-- The line of a label that is a line's beginning. -/
theorem search_labelled (label : String) {group : List (Atom Char)}
    (line : (label, index + 1) ∈ lines) (quiet : Quiet system values (label, index + 1))
    {field : Field} (stands : templateBody[index]? = some (field, "\n" ++ (label ++ " ")))
    {taken : List (List Char)}
    (group_matches : ∀ before, parts isWord ([.items isSpace 0 none] ++ (group ++ [])) before
      (' ' :: ((templateBody.drop (index + 1)).flatMap (filled values) ++ tail)) =
        some ([[' ']] ++ taken)) :
    search isWord (labelled label group) (promptText system values tail) =
      some (taken.take group.length).flatten := by
  have own : (field, "\n" ++ (label ++ " ")) ∈ templateBody.take (index + 1) := by
    apply List.mem_of_getElem?
    rw [List.getElem?_take_of_lt (Nat.lt_succ_self index)]
    exact stands
  exact search_line line rfl quiet stands (label_line label)
    (passed_of_barrier (quiet.fields _ own) (lines_newline _ line)) (groupAt_label group_matches rfl)

/-- What comes after a label is the text of its field and the literal behind it. -/
theorem behind_label (values : Field → List Char) (tail : List Char) (index : Nat) {field : Field}
    {text : String} {front : List Char}
    (stands : templateBody[index]? = some (field, text)) (begins : front <+: text.toList) :
    ∃ more, (templateBody.drop index).flatMap (filled values) ++ tail =
      values field ++ (front ++ more) := by
  obtain ⟨small, same⟩ := List.getElem?_eq_some_iff.mp stands
  obtain ⟨rest, shape⟩ := begins
  refine ⟨rest ++ ((templateBody.drop (index + 1)).flatMap (filled values) ++ tail), ?_⟩
  rw [← List.cons_getElem_drop_succ (h := small), same, List.flatMap_cons, filled, ← shape]
  simp

end Prompts

section Searches

variable {system tail : List Char} {values : Field → List Char} {isWord : Char → Bool}

/-- Something, without white space. -/
def Visible (text : List Char) : Prop :=
  text ≠ [] ∧ ∀ char ∈ text, isSpace char = false

/-- Something that has digits and points only. -/
def Decimal (text : List Char) : Prop :=
  text ≠ [] ∧ ∀ char ∈ text, (char.isDigit || char == '.') = true

/-- A list in brackets with no closing bracket inside. -/
def Bracketed (text : List Char) : Prop := ∃ inner, text = '[' :: (inner ++ [']']) ∧ ']' ∉ inner

/-- Something between quotes. -/
def Quotable (text : List Char) : Prop := text ≠ [] ∧ '"' ∉ text

-- Named here, since the instance that is found goes through all characters.
instance : DecidablePred Visible := fun text =>
  @instDecidableAnd _ _ _ (List.decidableBAll (fun char => isSpace char = false) text)

instance : DecidablePred Decimal := fun text =>
  @instDecidableAnd _ _ _ (List.decidableBAll (fun char => (char.isDigit || char == '.') = true) text)

instance : DecidablePred Quotable := fun _ => inferInstanceAs (Decidable (_ ∧ _))

theorem head_of_all {condition : Char → Prop} {text : List Char} (nonempty : text ≠ [])
    (all : ∀ char ∈ text, condition char) (rest : List Char) :
    ∀ char ∈ (text ++ rest).head?, condition char := by
  obtain ⟨first, more, rfl⟩ := List.exists_cons_of_ne_nil nonempty
  rintro char ⟨rfl⟩
  exact all first List.mem_cons_self

theorem Visible.run {text : List Char} (visible : Visible text) (more : List Char)
    (before : Option Char) :
    parts isWord ([.items isSpace 0 none] ++ (visibleGroup ++ [])) before
      (' ' :: (text ++ (['\n'] ++ more))) = some ([[' ']] ++ [text]) := by
  apply parts_run
  · intro char member
    rw [visible.2 char member]
    rfl
  · exact List.length_pos_of_ne_nil visible.1
  · rintro char ⟨rfl⟩
    decide
  · exact head_of_all visible.1 visible.2 _

theorem decimal_visible {char : Char} (decimal : (char.isDigit || char == '.') = true) :
    isSpace char = false := by
  have range : 46 ≤ char.toNat ∧ char.toNat ≤ 57 := by
    rcases Bool.or_eq_true _ _ ▸ decimal with digit | dot
    · rw [Char.isDigit_iff_toNat] at digit
      exact ⟨Nat.le_trans (by decide) digit.1, digit.2⟩
    · rw [beq_iff_eq.mp dot]
      decide
  simp [isSpace]
  omega

theorem Decimal.run {text : List Char} (decimal : Decimal text) (more : List Char)
    (before : Option Char) :
    parts isWord ([.items isSpace 0 none] ++ (decimalGroup ++ [])) before
      (' ' :: (text ++ (['\n'] ++ more))) = some ([[' ']] ++ [text]) := by
  apply parts_run decimal.2 (List.length_pos_of_ne_nil decimal.1)
  · rintro char ⟨rfl⟩
    decide
  · exact head_of_all decimal.1 (fun char member => decimal_visible (decimal.2 char member)) _

theorem Bracketed.list {text : List Char} (bracketed : Bracketed text) (rest : List Char) :
    ∃ taken, (∀ before, parts isWord ([.items isSpace 0 none] ++ (listGroup ++ [])) before
      (' ' :: (text ++ rest)) = some ([[' ']] ++ taken)) ∧
        (taken.take listGroup.length).flatten = text := by
  obtain ⟨inner, rfl, closed⟩ := bracketed
  refine ⟨[['['], inner, [']']], ?_, by simp [listGroup]⟩
  intro before
  have read := @parts_list isWord inner closed rest before
  simpa using read

/-- A line of the hypothesis statement that has the label comes before the template's own line. -/
theorem search_forged (quiet : Quiet system values (scopeLabel, 4)) {front forged back : List Char}
    (statement : values .hypothesisStatement =
      front ++ ('\n' :: (scopeLabel.toList ++ (' ' :: (forged ++ back)))))
    (absent : ¬ scopeLabel.toList <:+: front) (list : Bracketed forged) :
    search isWord (labelled scopeLabel listGroup) (promptText system values tail) = some forged := by
  have passed : ∀ part ∈ (system ++ ("\n\n" ++ templateFirst).toList) ::
      (templateBody.take 4).map (filled values) ++ [front ++ ['\n']],
      Passed scopeLabel.toList part := by
    intro part member
    rcases List.mem_append.mp member with earlier | own
    · exact passed_before (by decide) (Nat.le_refl 4) quiet part earlier
    · rw [List.mem_singleton.mp own]
      exact passed_of_barrier absent (lines_newline (scopeLabel, 5) (by decide))
  obtain ⟨taken, read, whole⟩ := @Bracketed.list isWord _ list (back ++ ("\nVehicle scope: ".toList ++
    ((templateBody.drop 5).flatMap (filled values) ++ tail)))
  have found := search_behind rfl passed
    (@groupAt_label _ _ isWord scopeLabel.toList _ _ _ _ _ _ read rfl)
  rw [whole] at found
  rw [@promptText_at system tail values 4 .hypothesisStatement "\nVehicle scope: " rfl, statement]
  simpa [labelled] using found

theorem search_signals (quiet : Quiet system values (signalsLabel, 7))
    (signals : Bracketed (values .candidateSignalsJson)) :
    search isWord (labelled signalsLabel listGroup) (promptText system values tail) =
      some (values .candidateSignalsJson) := by
  obtain ⟨more, rest⟩ := behind_label values tail 7 rfl taskText_newline
  obtain ⟨taken, list, whole⟩ := @Bracketed.list isWord _ signals (['\n'] ++ more)
  rw [← rest] at list
  rw [search_labelled signalsLabel (by decide) quiet rfl list, whole]

theorem search_confidence (quiet : Quiet system values (confidenceLabel, 6))
    (confidence : Decimal (values .upstreamConfidence)) :
    search isWord (labelled confidenceLabel decimalGroup) (promptText system values tail) =
      some (values .upstreamConfidence) := by
  obtain ⟨more, rest⟩ := behind_label values tail 6 rfl (newline_begins (signalsLabel ++ " "))
  have run := fun before => @Decimal.run isWord _ confidence more before
  rw [← rest] at run
  have found := search_labelled confidenceLabel (by decide) quiet rfl run
  simpa [decimalGroup] using found

theorem search_session (quiet : Quiet system values (sessionLabel, 9))
    (finding : Visible (values .findingId)) (session : Quotable (values .sessionId)) :
    search isWord sessionPattern (promptText system values tail) = some (values .sessionId) := by
  have cut : "\"` and `version` to `\"1.0.0\"`.\n4. Sets `generated_from_session_id` to `\"".toList =
      "\"` and `version` to `\"1.0.0\"`.\n4. ".toList ++ (sessionLabel.toList ++ []) := by
    decide +kernel
  have gap : ' ' ∉ values .findingId := by
    intro member
    have visible := finding.2 ' ' member
    revert visible
    decide
  -- the literal begins with a quote, which the label has, but not before its first blank
  have passed : Passed sessionLabel.toList
      (values .findingId ++ "\"` and `version` to `\"1.0.0\"`.\n4. ".toList) :=
    passed_of_gap (show sessionLabel.toList = "Sets".toList ++ ' ' ::
        "`generated_from_session_id` to `\"".toList by decide +kernel) gap rfl (by decide) (by decide)
      (by decide +kernel)
  obtain ⟨more, rest⟩ := behind_label values tail 9 rfl (show "\"`".toList <+: _ by decide +kernel)
  refine search_line (by decide) rfl quiet (show templateBody[8]? = some _ from rfl) cut passed ?_
  rw [List.nil_append, rest]
  intro before
  have found := @groupAt_label _ _ isWord sessionLabel.toList [] sessionPattern.group
    sessionPattern.after _ _ _ (parts_session session.1 session.2 more) rfl before
  rw [show sessionPattern = ⟨literals sessionLabel.toList ++ [], sessionPattern.group,
    sessionPattern.after⟩ from rfl, found]
  simp [sessionPattern]

/-- The literals around the tenant id. -/
theorem head_literals :
    "\n\n".toList ++ templateFirst.toList =
        "\n\n# Diagnostic finding\n\n".toList ++ (tenantLabel.toList ++ [' ']) ∧
      barrier tenantLabel.toList "\n\n# Diagnostic finding\n\n".toList = true ∧
      barrier findingLabel.toList ("\n\n".toList ++ templateFirst.toList) = true := by
  decide +kernel

/-- A prompt up to the line of the finding id. -/
def headText (system tenantId findingId rest : List Char) : List Char :=
  [system ++ "\n\n# Diagnostic finding\n\n".toList].flatten ++
    (tenantLabel.toList ++ (' ' :: (tenantId ++ (['\n'] ++
      (findingLabel.toList ++ (' ' :: (findingId ++ (['\n'] ++ rest))))))))

variable {tenantId findingId : List Char}

theorem search_tenant (absent : ¬ tenantLabel.toList <:+: system) (tenant : Visible tenantId)
    (rest : List Char) :
    search isWord (labelled tenantLabel visibleGroup) (headText system tenantId findingId rest) =
      some tenantId := by
  have passed : ∀ part ∈ [system ++ "\n\n# Diagnostic finding\n\n".toList],
      Passed tenantLabel.toList part :=
    List.forall_mem_singleton.mpr (passed_of_barrier absent head_literals.2.1)
  have run := @Visible.run isWord _ tenant
    (findingLabel.toList ++ (' ' :: (findingId ++ (['\n'] ++ rest))))
  have found := search_behind rfl passed
    (@groupAt_label _ _ isWord tenantLabel.toList _ _ _ _ _ _ run rfl)
  rw [headText, labelled, found]
  simp [visibleGroup]

theorem search_finding (absent : ¬ findingLabel.toList <:+: system)
    (apart : ¬ findingLabel.toList <:+: tenantId) (finding : Visible findingId) (rest : List Char) :
    search isWord (labelled findingLabel visibleGroup) (headText system tenantId findingId rest) =
      some findingId := by
  have passed : ∀ part ∈ [system ++ ("\n\n".toList ++ templateFirst.toList), tenantId ++ ['\n']],
      Passed findingLabel.toList part := by
    rw [List.forall_mem_cons, List.forall_mem_singleton]
    exact ⟨passed_of_barrier absent head_literals.2.2,
      passed_of_barrier apart (lines_newline (findingLabel, 1) (by decide))⟩
  have found := search_behind rfl passed
    (@groupAt_label _ _ isWord findingLabel.toList _ _ _ _ _ _ (@Visible.run isWord _ finding rest) rfl)
  have shape : headText system tenantId findingId rest =
      [system ++ ("\n\n".toList ++ templateFirst.toList), tenantId ++ ['\n']].flatten ++
        (findingLabel.toList ++ (' ' :: (findingId ++ (['\n'] ++ rest)))) := by
    rw [headText, head_literals.1]
    simp
  rw [shape, labelled, found]
  simp [visibleGroup]

theorem promptText_head (system tail : List Char) (values : Field → List Char) :
    ∃ rest, promptText system values tail =
      headText system (values .tenantId) (values .findingId) rest := by
  obtain ⟨more, rest⟩ := behind_label values tail 1 rfl (newline_begins "Anomaly type: ")
  refine ⟨more, ?_⟩
  rw [@promptText_at system tail values 0 .tenantId ("\n" ++ (findingLabel ++ " ")) rfl, rest,
    label_line, String.toList_append, head_literals.1, headText]
  simp

end Searches

end CollectMind.Slm
