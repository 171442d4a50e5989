import CollectMind.Ingest.PostFinding
import CollectMind.Slm.DevDefault

set_option autoImplicit false

/- What `DevDefaultPolicyClient` reads in the prompt that `_render_prompt` makes of an accepted
finding: all of it where the texts of the finding have no line of the template in them, and tenant
and finding id whatever the other texts are. -/
namespace CollectMind.Slm

open Python CollectMind.Graph Regex Replacement

section Extraction

variable {system tail : List Char} {values : Field → List Char}

/-- The texts of the fields, the vehicle scope apart, are found in the prompt where they stand. -/
structure Readable (system : List Char) (values : Field → List Char) : Prop where
  tenantLine : ¬ tenantLabel.toList <:+: system
  quiet : ∀ line ∈ lines, line.1 ≠ scopeLabel → Quiet system values line
  tenant : Visible (values .tenantId)
  finding : Visible (values .findingId)
  confidence : Decimal (values .upstreamConfidence)
  signals : Bracketed (values .candidateSignalsJson)
  session : Quotable (values .sessionId)

theorem matched_of_search {pattern : Grouped Char} {prompt : String} {text found : List Char}
    (chars : prompt.toList = text) (search : search (fun _ => false) pattern text = some found) :
    matched pattern prompt = some (String.ofList found) := by
  rw [matched, chars, search]
  rfl

theorem extract_readable (client : DevDefault) (readable : Readable system values)
    {scope : List Char}
    (found : search (fun _ => false) (labelled scopeLabel listGroup)
      (promptText system values tail) = some scope)
    {prompt : String} (chars : prompt.toList = promptText system values tail) :
    extractFindingFromPrompt client prompt =
      { tenantId := String.ofList (values .tenantId)
        findingId := String.ofList (values .findingId)
        vehicleScope :=
          (loadedList client (some (String.ofList scope))).getD [.str "VIN-default-001"]
        confidence := (client.floatOfStr (String.ofList (values .upstreamConfidence))).getD sevenTenths
        sessionId := String.ofList (values .sessionId)
        candidateSignals := ((loadedList client (some (String.ofList
          (values .candidateSignalsJson)))).getD []).map (Json.toStr client.repr) } := by
  have quiet : ∀ {label : String} {count : Nat}, (label, count) ∈ lines → label ≠ scopeLabel →
      Quiet system values (label, count) := fun line other => readable.quiet _ line other
  obtain ⟨rest, head⟩ := promptText_head system tail values
  have finding : Quiet system values (findingLabel, 1) := quiet (by decide) (by decide)
  have apart : ¬ findingLabel.toList <:+: values .tenantId :=
    finding.fields _ (show (Field.tenantId, "\nFinding: ") ∈ templateBody.take 1 by decide)
  rw [extractFindingFromPrompt,
    matched_of_search (chars.trans head) (search_finding finding.system apart readable.finding rest),
    matched_of_search (chars.trans head) (search_tenant readable.tenantLine readable.tenant rest),
    matched_of_search chars found,
    matched_of_search chars (search_confidence (quiet (by decide) (by decide)) readable.confidence),
    matched_of_search chars
      (search_session (quiet (by decide) (by decide)) readable.finding readable.session),
    matched_of_search chars (search_signals (quiet (by decide) (by decide)) readable.signals)]
  rfl

end Extraction

section Rendered

theorem blank_in_mark (hole : Hole) : ' ' ∈ hole.mark := by
  cases hole <;> simp [Hole.mark, placeholder, statement, bracketed]

/-- A text without white space has no mark of the template in it. -/
theorem Visible.unmarked {text : List Char} (visible : Visible text) (hole : Hole) :
    ¬ hole.mark <:+: text := by
  intro inside
  have blank := visible.2 ' ' (inside.subset (blank_in_mark hole))
  revert blank
  decide

theorem Visible.through {text : List Char} (visible : Visible text)
    (steps : List (Hole × List Char)) : through id steps text = text := by
  apply through_absent
  intro step _
  rw [List.map_id]
  exact visible.unmarked step.1

/-- The template up to the end of the line of the finding id. -/
def headLines (tenantId findingId : List Char) : List (List Char) :=
  [templateFirst.toList, tenantId ++ "\nFinding: ".toList, findingId ++ ['\n']]

theorem head_passed {tenantId findingId : List Char} (tenant : Visible tenantId)
    (finding : Visible findingId) (hole : Hole) :
    ∀ part ∈ headLines tenantId findingId, Passed hole.mark part := by
  have literal : ∀ text ∈ templateFirst :: templateParts.map Prod.snd,
      barrier hole.mark text.toList = true := literals_barrier hole
  have newline : barrier hole.mark ['\n'] = true := (mark_opens hole).barrier rfl
  rw [headLines, List.forall_mem_cons, List.forall_mem_cons, List.forall_mem_singleton]
  refine ⟨?_, ?_, ?_⟩
  · exact passed_literal (literal templateFirst List.mem_cons_self)
  · exact passed_of_barrier (tenant.unmarked hole) (literal "\nFinding: " (by decide))
  · exact passed_of_barrier (finding.unmarked hole) newline

/-- The first lines of the body are those of tenant and finding. -/
theorem bodyText_head (texts : Field → List Char) :
    ∃ more, bodyText id texts =
      (headLines (texts .tenantId) (texts .findingId)).flatten ++ more := by
  obtain ⟨more, rest⟩ := behind_label texts [] 1 rfl (newline_begins "Anomaly type: ")
  rw [List.append_nil] at rest
  have body : templateBody.flatMap (filled texts) =
      filled texts (.tenantId, "\nFinding: ") ++ (templateBody.drop 1).flatMap (filled texts) := rfl
  refine ⟨more, ?_⟩
  rw [bodyText_eq, body, rest, filled, headLines]
  simp

variable {values : Field → List Char} {retryContext : Option (List Char)}

/-- Whatever the other texts are, the prompt begins with the lines of tenant and finding. -/
theorem rendered_head (tenant : Visible (values .tenantId)) (finding : Visible (values .findingId)) :
    ∃ rendered, renderWith id id values retryContext = some rendered ∧
      (headLines (values .tenantId) (values .findingId)).flatten <+: rendered := by
  have shows : ∀ char : Char, id (id char) = char := fun _ => rfl
  cases retryContext with
  | some json =>
      have own : ∀ field, Visible (values field) →
          afterRetry id values json (.field field) = values field :=
        fun field visible => visible.through _
      obtain ⟨more, head⟩ := bodyText_head fun field => afterRetry id values json (.field field)
      rw [own _ tenant, own _ finding] at head
      refine ⟨_, renderWith_some shows json, ?_⟩
      rw [filledText, head, List.append_assoc]
      exact List.prefix_append _ _
  | none =>
      have own : ∀ field, Visible (values field) →
          afterFields id id values (.field field) = values field :=
        fun field visible => visible.through _
      obtain ⟨more, head⟩ := bodyText_head fun field => afterFields id id values (.field field)
      rw [own _ tenant, own _ finding] at head
      obtain ⟨start, _, starts⟩ := indexOf_ifRetryContext shows
        (fun field => afterFields id id values (.field field)) ['\n']
      obtain ⟨stop, _, stops⟩ := indexOf_endIf shows
        (fun field => afterFields id id values (.field field)) ['\n']
      refine ⟨_, renderWith_none shows (filledText_afterFields values) starts stops, ?_⟩
      -- the section is cut out behind these lines, since its marker cannot begin in them
      have passed := passed_flatten (head_passed tenant finding .ifRetryContext)
      have behind := @indexOf_append _ _ _ id Hole.ifRetryContext.mark
        (headLines (values .tenantId) (values .findingId)).flatten
        (more ++ (sectionText.map id ++ ['\n'])) fun part suffix nonempty =>
          passed part suffix nonempty _
      rw [head, List.append_assoc, List.append_assoc] at starts ⊢
      rw [behind, Option.map_eq_some_iff] at starts
      obtain ⟨later, _, rfl⟩ := starts
      rw [List.take_length_add_append, List.append_assoc]
      exact List.prefix_append _ _

end Rendered

section Lists

theorem escapeChar_closing {char : Char} (member : ']' ∈ escapeChar char) : char = ']' := by
  have hex : ∀ digit, digit < 16 → ']' ≠ hexDigit digit := by decide
  have unit : ∀ value, ']' ∉ unicodeEscape value := by
    intro value
    simp [unicodeEscape, hex _ (Nat.mod_lt _ (show 16 > 0 by decide))]
  unfold escapeChar at member
  split at member
  · rename_i letter short
    unfold shortEscape at short
    split at short
    case h_8 => cases short
    all_goals
      cases short
      revert member
      decide
  · split at member
    · exact (List.mem_singleton.mp member).symm
    · split at member
      · exact absurd member (unit _)
      · exact absurd member (List.mem_append.not.mpr (not_or.mpr ⟨unit _, unit _⟩))

theorem quote_closed {text : List Char} (closed : ']' ∉ text) : ']' ∉ quote text := by
  intro member
  have inside : ']' ∈ text.flatMap escapeChar := by simpa [quote] using member
  obtain ⟨char, among, here⟩ := List.mem_flatMap.mp inside
  rw [escapeChar_closing here] at among
  exact closed among

theorem spaced_bracketed {texts : List (List Char)} (closed : ∀ text ∈ texts, ']' ∉ text) :
    Bracketed ('[' :: spaced ']' texts) := by
  cases texts with
  | nil => exact ⟨[], rfl, List.not_mem_nil⟩
  | cons first texts =>
      refine ⟨first ++ texts.flatMap (fun item => ',' :: ' ' :: item), by simp [spaced], ?_⟩
      rw [List.forall_mem_cons] at closed
      rw [List.mem_append, not_or]
      refine ⟨closed.1, ?_⟩
      intro member
      obtain ⟨text, among, here⟩ := List.mem_flatMap.mp member
      have inside : ']' ∈ text := by simpa using here
      exact closed.2 text among inside

variable (repr : Rat → String) {names : List String}

theorem stringList_plain (names : List String) : Plain (Validator.stringList names) := by
  refine .arr fun item member => ?_
  obtain ⟨name, _, rfl⟩ := List.mem_map.mp member
  exact .str name

theorem stringList_bracketed (closed : ∀ name ∈ names, ']' ∉ name.toList) :
    Bracketed (dumps .plain repr 0 (Validator.stringList names)) := by
  rw [Validator.stringList, dumps_plain_arr]
  apply spaced_bracketed
  intro text member
  simp only [List.mem_map, exists_exists_and_eq_and] at member
  obtain ⟨name, among, rfl⟩ := member
  rw [dumps]
  exact quote_closed (closed name among)

theorem loadedList_stringList (client : DevDefault) (names : List String) :
    loadedList client (some (String.ofList (dumps .plain repr 0 (Validator.stringList names)))) =
      some (names.map .str) := by
  rw [loadedList, Option.bind_some, String.toList_ofList, loads_dumps _ _ (stringList_plain names)]
  rfl

end Lists

section Requests

/-- Two sessions for the same finding, whatever round they are in. -/
structure SameFinding (session other : PolicyGenerationSession) : Prop where
  sessionId : other.sessionId = session.sessionId
  tenantId : other.tenantId = session.tenantId
  originatingFinding : other.originatingFinding = session.originatingFinding

def vehicleNames (request : Ingest.Request) : List String :=
  request.finding.vehicleScope.val.map Subtype.val

def candidateNames (request : Ingest.Request) : List String :=
  request.finding.candidateSignals.val.map Subtype.val

def listText (texts : Texts) (names : List String) : String :=
  String.ofList (dumps .plain texts.floatRepr 0 (Validator.stringList names))

/-- The texts that an accepted finding puts into the template. -/
def requestTexts (texts : Texts) (request : Ingest.Request) : Field → String
  | .tenantId => request.principal.tenantId
  | .findingId => request.finding.findingId.val
  | .anomalyType => request.finding.anomalyType.val
  | .hypothesisClass => request.finding.hypothesisClass.val
  | .hypothesisStatement => request.finding.hypothesisStatement.val
  | .vehicleScopeJson => listText texts (vehicleNames request)
  | .candidateSignalsJson => listText texts (candidateNames request)
  | .upstreamConfidence => texts.repr (.float (.finite request.finding.upstreamConfidence.val))
  | .sessionId => request.sessionId

def requestChars (texts : Texts) (request : Ingest.Request) (field : Field) : List Char :=
  (requestTexts texts request field).toList

variable {client : DevDefault} {texts : Texts} {system : String} {request : Ingest.Request}
  {session : PolicyGenerationSession}

theorem fieldText_request (same : SameFinding request.session session) (field : Field) :
    fieldText texts session field = some (requestTexts texts request field) := by
  have finding := same.originatingFinding
  cases field with
  | tenantId => exact congrArg some same.tenantId
  | sessionId => exact congrArg some same.sessionId
  | vehicleScopeJson =>
      rw [fieldText, finding]
      simp [Ingest.Request.session, Dict.get, List.lookup_cons, requestTexts, listText, vehicleNames,
        Validator.stringList]
  | candidateSignalsJson =>
      rw [fieldText, finding]
      simp [Ingest.Request.session, Dict.get, List.lookup_cons, requestTexts, listText, candidateNames,
        Validator.stringList]
  | _ =>
      rw [fieldText, finding]
      rfl

theorem renderPrompt_request (same : SameFinding request.session session) :
    renderPrompt texts system session =
      (renderWith id id (requestChars texts request) (retryContextText texts session)).map
        fun rendered => system ++ "\n\n" ++ String.ofList rendered :=
  renderPrompt_of_texts system (fieldText_request same)

/-- The texts of a finding leave the template as it is, and the vehicle scope apart they are read
back. -/
structure Legible (client : DevDefault) (texts : Texts) (system : String)
    (request : Ingest.Request) : Prop where
  unhijacked : Unhijacked (requestChars texts request) true
  tenantLine : ¬ tenantLabel.toList <:+: system.toList
  quiet : ∀ line ∈ lines, line.1 ≠ scopeLabel →
    Quiet system.toList (requestChars texts request) line
  tenant : Visible request.principal.tenantId.toList
  finding : Visible request.finding.findingId.val.toList
  confidence : Decimal (requestChars texts request .upstreamConfidence)
  float : client.floatOfStr (requestTexts texts request .upstreamConfidence) =
    some (.finite request.finding.upstreamConfidence.val)
  signals : ∀ name ∈ candidateNames request, ']' ∉ name.toList
  session : Quotable request.sessionId.toList

/-- What is to be read back of a finding, with these vehicles. -/
def requestExtract (request : Ingest.Request) (vehicles : List String) : Extracted where
  tenantId := request.principal.tenantId
  findingId := request.finding.findingId.val
  vehicleScope := vehicles.map .str
  confidence := .finite request.finding.upstreamConfidence.val
  sessionId := request.sessionId
  candidateSignals := candidateNames request

/-- The policy for a finding and these vehicles. -/
def requestPolicy (client : DevDefault) (request : Ingest.Request) (vehicles : List String) : Dict :=
  policyFor client (requestExtract request vehicles)

theorem Legible.readable (legible : Legible client texts system request) :
    Readable system.toList (requestChars texts request) where
  tenantLine := legible.tenantLine
  quiet := legible.quiet
  tenant := legible.tenant
  finding := legible.finding
  confidence := legible.confidence
  signals := by
    rw [requestChars, requestTexts, listText, String.toList_ofList]
    exact stringList_bracketed _ legible.signals
  session := legible.session

theorem intended_body (values : Field → List Char) (retryContext : Option (List Char)) :
    ∃ tail, intended id values retryContext = bodyText id values ++ tail := by
  cases retryContext with
  | none => exact ⟨_, rfl⟩
  | some json => exact ⟨_, rfl⟩

theorem extract_request (legible : Legible client texts system request) {vehicles : List String}
    {tail : List Char}
    (scope : search (fun _ => false) (labelled scopeLabel listGroup)
      (promptText system.toList (requestChars texts request) tail) =
        some (listText texts vehicles).toList)
    {prompt : String} (chars : prompt.toList = promptText system.toList (requestChars texts request) tail) :
    extractFindingFromPrompt client prompt = requestExtract request vehicles := by
  have text : ∀ field, String.ofList (requestChars texts request field) =
      requestTexts texts request field := fun _ => String.ofList_toList
  have vehicleList : loadedList client (some (String.ofList (listText texts vehicles).toList)) =
      some (vehicles.map .str) := by
    rw [String.ofList_toList]
    exact loadedList_stringList _ client vehicles
  have signalList : loadedList client (some (requestTexts texts request .candidateSignalsJson)) =
      some ((candidateNames request).map .str) := loadedList_stringList _ client _
  have names : ((candidateNames request).map Json.str).map (Json.toStr client.repr) =
      candidateNames request := by
    rw [List.map_map]
    exact List.map_id _
  rw [extract_readable client legible.readable scope chars]
  simp only [text, vehicleList, signalList, legible.float, Option.getD_some, names]
  rfl

/-- In every round the client builds the same policy from the prompt, for the vehicles of the first
list that stands on a line with the label. -/
theorem buildPolicy_legible (legible : Legible client texts system request) {vehicles : List String}
    (scope : ∀ tail, search (fun _ => false) (labelled scopeLabel listGroup)
      (promptText system.toList (requestChars texts request) tail) =
        some (listText texts vehicles).toList)
    (same : SameFinding request.session session) :
    ∃ prompt, renderPrompt texts system session = some prompt ∧
      buildPolicy client prompt = requestPolicy client request vehicles := by
  have shows : ∀ char : Char, id (id char) = char := fun _ => rfl
  have unhijacked : Unhijacked (fun field => (requestChars texts request field).map id)
      (retryContextText texts session).isSome := by
    intro field
    obtain ⟨others, opening, closing, json⟩ := legible.unhijacked field
    simp only [List.map_id]
    exact ⟨others, opening, closing, fun _ => json rfl⟩
  obtain ⟨tail, body⟩ := intended_body (requestChars texts request) (retryContextText texts session)
  have rendered := renderWith_intended shows unhijacked
  rw [body] at rendered
  have chars : (system ++ "\n\n" ++ String.ofList (bodyText id (requestChars texts request) ++
      tail)).toList = promptText system.toList (requestChars texts request) tail := by
    have text : (String.ofList (bodyText id (requestChars texts request) ++ tail)).toList =
      bodyText id (requestChars texts request) ++ tail := String.toList_ofList
    rw [String.toList_append, String.toList_append, text, promptText]
    exact List.append_assoc _ _ _
  refine ⟨_, by rw [renderPrompt_request same, rendered, Option.map_some], ?_⟩
  rw [buildPolicy, extract_request legible (scope tail) chars, requestPolicy]

/-- Tenant and finding id are one word each, and no line before theirs looks like theirs. -/
structure Named (system : String) (request : Ingest.Request) : Prop where
  tenantLine : ¬ tenantLabel.toList <:+: system.toList
  findingLine : ¬ findingLabel.toList <:+: system.toList
  tenant : Visible request.principal.tenantId.toList
  apart : ¬ findingLabel.toList <:+: request.principal.tenantId.toList
  finding : Visible request.finding.findingId.val.toList

/-- Tenant and finding id are read back whatever the other texts are. -/
theorem extract_named (client : DevDefault) (named : Named system request)
    (same : SameFinding request.session session) :
    ∃ prompt, renderPrompt texts system session = some prompt ∧
      (extractFindingFromPrompt client prompt).tenantId = request.principal.tenantId ∧
      (extractFindingFromPrompt client prompt).findingId = request.finding.findingId.val := by
  obtain ⟨rendered, success, rest, lines⟩ := @rendered_head (requestChars texts request)
    (retryContextText texts session) named.tenant named.finding
  have chars : (system ++ "\n\n" ++ String.ofList rendered).toList =
      headText system.toList request.principal.tenantId.toList request.finding.findingId.val.toList
        rest := by
    have text : (String.ofList rendered).toList = rendered := String.toList_ofList
    have second : "\nFinding: ".toList = ['\n'] ++ (findingLabel.toList ++ [' ']) :=
      label_line findingLabel
    rw [String.toList_append, String.toList_append, text, ← lines, headLines, second, headText]
    have lead : ∀ more : List Char, "\n\n".toList ++ (templateFirst.toList ++ more) =
        "\n\n# Diagnostic finding\n\n".toList ++ (tenantLabel.toList ++ ([' '] ++ more)) := by
      intro more
      rw [← List.append_assoc, head_literals.1, List.append_assoc, List.append_assoc]
    simp only [List.flatten_cons, List.flatten_nil, List.append_nil, List.append_assoc]
    rw [lead]
    rfl
  refine ⟨_, by rw [renderPrompt_request same, success, Option.map_some], ?_, ?_⟩
  · have found := matched_of_search chars (search_tenant named.tenantLine named.tenant rest)
    rw [extractFindingFromPrompt, found, Option.getD_some, String.ofList_toList]
  · have found := matched_of_search chars
      (search_finding named.findingLine named.apart named.finding rest)
    rw [extractFindingFromPrompt, found, Option.getD_some, String.ofList_toList]

end Requests

end CollectMind.Slm
