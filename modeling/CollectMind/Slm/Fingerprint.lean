import CollectMind.Graph.PromptTrace
import CollectMind.Graph.Run

set_option autoImplicit false

/- The request of `PolicyGenerator.generate` as slm/stub_client.py sees it: its fingerprint, and
the policy that the stub has on record for it. -/
namespace CollectMind.Slm

open Python CollectMind.Graph Replacement

/-- The request of `PolicyGenerator.generate` with a rendered prompt. -/
def promptRequest (prompt : String) (session : PolicyGenerationSession) : GenerationRequest where
  sessionId := session.sessionId
  promptTemplateVersion := session.promptTemplateVersion
  prompt := prompt
  decodingSeed := defaultDecodingSeed
  retryContext := if session.validationErrors.isEmpty then none else some session.validationErrors

/-- It is the request that the graph sends. -/
theorem generationRequest_eq (env : Env) (session : PolicyGenerationSession) :
    generationRequest env session = promptRequest (env.render session) session := rfl

/-- `GenerationRequest.to_dict`, given the schema of `CollectionPolicySpec`. -/
def toDict (schema : Json) (request : GenerationRequest) : Dict :=
  [("session_id", .str request.sessionId),
    ("prompt_template_version", .str request.promptTemplateVersion),
    ("prompt", .str request.prompt),
    ("schema", schema),
    ("decoding", .obj [("temperature", .float (.finite 0)), ("top_p", .float (.finite 1)),
      ("top_k", .int (-1)), ("seed", .int request.decodingSeed)]),
    ("retry_context", match request.retryContext with
      | none => .null
      | some errors => .obj [("validation_errors", .arr (errors.map .obj))])]

/-- The payload of `compute_fingerprint`; a key that is missing reads `None`. -/
def fingerprintPayload (body : Dict) : Dict :=
  let decoding : Dict := match body.get "decoding" with
    | some (.obj fields) => fields
    | _ => []
  [("prompt_template_version", (body.get "prompt_template_version").getD .null),
    ("temperature", (decoding.get "temperature").getD .null),
    ("top_p", (decoding.get "top_p").getD .null),
    ("top_k", (decoding.get "top_k").getD .null),
    ("seed", (decoding.get "seed").getD .null),
    ("schema", (body.get "schema").getD .null),
    ("prompt", (body.get "prompt").getD .null)]

/-- `compute_fingerprint`, given the hash of a text and how Python writes floats. -/
def computeFingerprint (sha256 : List Char → String) (floatRepr : Rat → String) (body : Dict) :
    String :=
  sha256 (dumps .canonical floatRepr 0 (.obj (fingerprintPayload body)))

/-- `_RUNTIME_INFO`. -/
def stubRuntimeInfo : Dict :=
  [("slm_repo", .str "Qwen/Qwen2.5-7B-Instruct"),
    ("slm_revision_sha", .str (String.ofList (List.replicate 40 '0'))),
    ("slm_runtime", .str "stub"),
    ("slm_runtime_version", .str "adr-0004"),
    ("slm_quantization", .str "none"),
    ("constrained_decoding_library", .str "outlines==1.2.13"),
    ("constraint_violation_count", .int 0)]

section Stub

variable (sha256 : List Char → String) (texts : Texts) (system : String) (schema : Json)

/-- `FingerprintStubClient.generate` with the recorded policies by fingerprint; `none` is
`MissingFingerprint`. -/
def stubGenerate (corpus : String → Option Dict) (request : GenerationRequest) :
    Option GenerationResponse :=
  (corpus (computeFingerprint sha256 texts.floatRepr (toDict schema request))).map fun policy =>
    { policy := policy, runtimeInfo := stubRuntimeInfo }

/-- The request for a session; `none` where the rendering raises. -/
def sessionRequest (session : PolicyGenerationSession) : Option GenerationRequest :=
  (renderPrompt texts system session).map fun prompt => promptRequest prompt session

def sessionFingerprint (session : PolicyGenerationSession) : Option String :=
  (sessionRequest texts system session).map fun request =>
    computeFingerprint sha256 texts.floatRepr (toDict schema request)

/-- The session under another identifier has the same fingerprint, and the stub answers both alike
from every corpus. -/
def IgnoresSessionId (session : PolicyGenerationSession) : Prop :=
  ∀ sessionId,
    sessionFingerprint sha256 texts system schema { session with sessionId := sessionId } =
        sessionFingerprint sha256 texts system schema session ∧
      ∀ corpus, (sessionRequest texts system { session with sessionId := sessionId }).map
          (stubGenerate sha256 texts schema corpus) =
        (sessionRequest texts system session).map (stubGenerate sha256 texts schema corpus)

end Stub

section Canonical

/-- The keys of the payload in the order of `sort_keys`. -/
theorem sorted_payload (version temperature topP topK seed schema prompt : List Char) :
    [("prompt_template_version", version), ("temperature", temperature), ("top_p", topP),
      ("top_k", topK), ("seed", seed), ("schema", schema), ("prompt", prompt)].insertionSort
        (fun first second => first.1 ≤ second.1) =
    [("prompt", prompt), ("prompt_template_version", version), ("schema", schema), ("seed", seed),
      ("temperature", temperature), ("top_k", topK), ("top_p", topP)] := by
  simp [List.insertionSort, List.orderedInsert]

/-- Only the prompt of the hashed text is another for another prompt or session identifier. -/
theorem canonical_text (floatRepr : Rat → String) (schema : Json)
    (session : PolicyGenerationSession) :
    ∃ front back : List Char, ∀ prompt sessionId,
      dumps .canonical floatRepr 0 (.obj (fingerprintPayload (toDict schema
        (promptRequest prompt { session with sessionId := sessionId })))) =
          front ++ (quote prompt.toList ++ back) := by
  obtain ⟨back, encloses⟩ := enclose_first (show DumpsStyle.canonical.indent = none from rfl) 0
    '\x7b' '\x7d' (
      [("prompt_template_version", dumps .canonical floatRepr 1 (.str session.promptTemplateVersion)),
        ("schema", dumps .canonical floatRepr 1 schema),
        ("seed", dumps .canonical floatRepr 1 (.int defaultDecodingSeed)),
        ("temperature", dumps .canonical floatRepr 1 (.float (.finite 0))),
        ("top_k", dumps .canonical floatRepr 1 (.int (-1))),
        ("top_p", dumps .canonical floatRepr 1 (.float (.finite 1)))].map fun field =>
          quote field.1.toList ++ DumpsStyle.canonical.keySeparator ++ field.2)
  refine ⟨'\x7b' :: (quote "prompt".toList ++ DumpsStyle.canonical.keySeparator), back, ?_⟩
  intro prompt sessionId
  have fields : fingerprintPayload (toDict schema
      (promptRequest prompt { session with sessionId := sessionId })) =
      [("prompt_template_version", .str session.promptTemplateVersion),
        ("temperature", .float (.finite 0)), ("top_p", .float (.finite 1)), ("top_k", .int (-1)),
        ("seed", .int defaultDecodingSeed), ("schema", schema), ("prompt", .str prompt)] := rfl
  have sorted : DumpsStyle.canonical.sortKeys = true := rfl
  have own : dumps .canonical floatRepr 1 (.str prompt) = quote prompt.toList := by rw [dumps]
  rw [fields, dumps]
  simp only [dumpsFields, sorted, if_true, Nat.zero_add]
  rw [sorted_payload, List.map_cons, encloses, own, List.cons_append, List.append_assoc]

/-- With an injective hash the fingerprint tells the prompts apart, and nothing of the session
identifier is in it otherwise. -/
theorem computeFingerprint_eq_iff {sha256 : List Char → String}
    (injective : Function.Injective sha256) (floatRepr : Rat → String) (schema : Json)
    (session : PolicyGenerationSession) (prompt prompt' sessionId sessionId' : String) :
    computeFingerprint sha256 floatRepr (toDict schema
        (promptRequest prompt { session with sessionId := sessionId })) =
      computeFingerprint sha256 floatRepr (toDict schema
        (promptRequest prompt' { session with sessionId := sessionId' })) ↔ prompt = prompt' := by
  obtain ⟨front, back, written⟩ := canonical_text floatRepr schema session
  rw [computeFingerprint, computeFingerprint, written, written]
  constructor
  · intro same
    have texts := List.append_cancel_left (injective same)
    exact String.toList_inj.mp (quote_append_inj texts).1
  · intro same
    rw [same]

end Canonical

section Rendering

/-- The `replace` calls keep every `#`, since no mark has one. -/
theorem count_le_through (steps : List (Hole × List Char)) (text : List Char) :
    text.countP (· == '#') ≤ (through id steps text).countP (· == '#') := by
  induction steps generalizing text with
  | nil => exact le_rfl
  | cons step steps ih =>
      have opens := mark_opens step.1
      have nonempty : step.1.mark ≠ [] := by
        obtain ⟨second, rest, shape, _⟩ := opens.shape
        rw [shape]
        exact List.cons_ne_nil _ _
      have outside : ∀ char : Char, (char == '#') = true → id char ∉ step.1.mark := by
        intro char marked
        rw [eq_of_beq marked]
        exact opens.outside.1
      calc text.countP (· == '#')
          ≤ (replace id step.1.mark step.2 text).countP (· == '#') :=
            countP_le_replace step.2 nonempty outside text
        _ ≤ (through id (step :: steps) text).countP (· == '#') := ih _

/-- The session identifier is put in last, so it stands in the text as it is. -/
theorem sessionId_in_body (values : Field → List Char) :
    values .sessionId <:+: bodyText id fun field => afterFields id id values (.field field) := by
  obtain ⟨part, member, same⟩ := field_in_body (id : Char → Char) .sessionId
  let texts := fun field => afterFields id id values (.field field)
  have inside : texts part.1 <:+: spell (templateFirst.toList.map id) (printed id templateBody) texts :=
    infix_spell member
  rw [same] at inside
  exact inside

/-- An identifier that closes the retry section itself and then has many `#` makes the prompt
long, whatever else is in it. -/
theorem renderWith_long {values : Field → List Char} {count : Nat}
    (own : values .sessionId = Hole.endIf.mark ++ List.replicate count '#')
    (retryContext : Option (List Char)) :
    ∃ rendered, renderWith id id values retryContext = some rendered ∧ count ≤ rendered.length := by
  have shows : ∀ char : Char, id (id char) = char := fun _ => rfl
  obtain ⟨before, after, split⟩ := sessionId_in_body values
  rw [own] at split
  cases retryContext with
  | some json =>
      refine ⟨_, renderWith_some shows json, ?_⟩
      rw [← through_retry_template shows, through_fields_template shows, filledText_afterFields,
        ← split]
      have kept : count ≤ List.countP (· == '#') (before ++ (Hole.endIf.mark ++
          List.replicate count '#') ++ after ++ sectionText.map id ++ [id '\n']) := by
        simp only [List.countP_append, List.countP_replicate, beq_self_eq_true, if_true]
        omega
      exact kept.trans ((count_le_through _ _).trans List.countP_le_length)
  | none =>
      have here : begins id Hole.endIf.mark (Hole.endIf.mark ++ (List.replicate count '#' ++
          (after ++ (sectionText.map id ++ [id '\n'])))) = true := by
        rw [begins_iff, List.map_id]
        exact List.prefix_append _ _
      have filled : filledText id (afterFields id id values) = before ++ (Hole.endIf.mark ++
          (List.replicate count '#' ++ (after ++ (sectionText.map id ++ [id '\n'])))) := by
        rw [filledText_afterFields, ← split]
        simp only [List.append_assoc]
      -- the first closing marker is at the latest the one in the identifier
      obtain ⟨stop, early, stops⟩ := indexOf_le here before
      obtain ⟨start, _, starts⟩ := indexOf_ifRetryContext shows
        (fun field => afterFields id id values (.field field)) [id '\n']
      rw [← filledText_afterFields, filled] at starts
      refine ⟨_, renderWith_none shows filled starts stops, ?_⟩
      simp only [List.length_append, List.length_drop, List.length_replicate]
      omega

/-- The text above the section has the session identifier in one place. -/
theorem body_sessionId (values : Field → List Char) :
    ∃ front back : List Char, ∀ text,
      bodyText id (Function.update values .sessionId text) = front ++ (text ++ back) := by
  have others : ∀ parts : List (Field × List Char), (∀ part ∈ parts, part.1 ≠ .sessionId) →
      ∀ text, (parts.flatMap fun part => Function.update values .sessionId text part.1 ++ part.2) =
        parts.flatMap fun part => values part.1 ++ part.2 := by
    intro parts apart text
    apply List.flatMap_congr
    intro part member
    rw [Function.update_of_ne (apart part member)]
  have absent : ∀ parts : List (Field × String), .sessionId ∉ parts.map Prod.fst →
      ∀ part ∈ printed (id : Char → Char) parts, part.1 ≠ .sessionId := by
    intro parts unlisted part member same
    obtain ⟨original, listed, rfl⟩ := List.mem_map.mp member
    apply unlisted
    rw [← same]
    exact List.mem_map_of_mem listed
  obtain ⟨before, literal, after, split, apartBefore, apartAfter⟩ :
      ∃ before literal after, printed id templateBody = before ++ (Field.sessionId, literal) :: after ∧
        (∀ part ∈ before, part.1 ≠ .sessionId) ∧ ∀ part ∈ after, part.1 ≠ .sessionId :=
    ⟨printed id (templateBody.take 9), _, printed id (templateBody.drop 10), rfl,
      absent _ (by decide), absent _ (by decide)⟩
  refine ⟨templateFirst.toList.map id ++ before.flatMap fun part => values part.1 ++ part.2,
    literal ++ after.flatMap fun part => values part.1 ++ part.2, ?_⟩
  intro text
  rw [bodyText, split, spell, List.flatMap_append, List.flatMap_cons, others before apartBefore,
    others after apartAfter, Function.update_self]
  simp only [List.append_assoc]

/-- So the meant text tells the identifiers apart. -/
theorem intended_inj {values : Field → List Char} {retryContext : Option (List Char)}
    {first second : List Char}
    (same : intended id (Function.update values .sessionId first) retryContext =
      intended id (Function.update values .sessionId second) retryContext) : first = second := by
  obtain ⟨front, back, body⟩ := body_sessionId values
  have bodies : bodyText id (Function.update values .sessionId first) =
      bodyText id (Function.update values .sessionId second) := by
    cases retryContext with
    | none => exact List.append_cancel_right same
    | some json => exact List.append_cancel_right same
  rw [body, body] at bodies
  exact List.append_cancel_right (List.append_cancel_left bodies)

end Rendering

section Sessions

variable {sha256 : List Char → String} {texts : Texts} {session : PolicyGenerationSession}
  {values : Field → String}

/-- The fields of the finding that have to be strings, since they are arguments of `replace`. -/
def findingNames : List String :=
  ["finding_id", "anomaly_type", "hypothesis_class", "hypothesis_statement"]

theorem fieldText_withId (strings : ∀ field, fieldText texts session field = some (values field))
    (sessionId : String) (field : Field) :
    fieldText texts { session with sessionId := sessionId } field =
      some (Function.update values .sessionId sessionId field) := by
  by_cases own : field = .sessionId
  · subst own
    rw [Function.update_self]
    rfl
  · rw [Function.update_of_ne own, ← strings field]
    cases field <;> first | rfl | exact absurd rfl own

/-- The prompt under another identifier. -/
theorem renderPrompt_withId (system : String)
    (strings : ∀ field, fieldText texts session field = some (values field)) (sessionId : String) :
    renderPrompt texts system { session with sessionId := sessionId } =
      (renderWith id id (Function.update (fun field => (values field).toList) .sessionId
        sessionId.toList) (retryContextText texts session)).map fun rendered =>
          system ++ "\n\n" ++ String.ofList rendered := by
  have lists : (fun field => (Function.update values .sessionId sessionId field).toList) =
      Function.update (fun field => (values field).toList) .sessionId sessionId.toList := by
    funext field
    by_cases own : field = .sessionId
    · subst own
      rw [Function.update_self, Function.update_self]
    · rw [Function.update_of_ne own, Function.update_of_ne own]
  rw [renderPrompt_of_texts system (fieldText_withId strings sessionId), lists]
  rfl

/-- Where nothing is hijacked, it is the meant text. -/
theorem renderPrompt_unhijacked (system : String)
    (strings : ∀ field, fieldText texts session field = some (values field)) {sessionId : String}
    (unhijacked : Unhijacked (Function.update (fun field => (values field).toList) .sessionId
      sessionId.toList) (!session.validationErrors.isEmpty)) :
    renderPrompt texts system { session with sessionId := sessionId } =
      some (system ++ "\n\n" ++ String.ofList (intended id (Function.update
        (fun field => (values field).toList) .sessionId sessionId.toList)
          (retryContextText texts session))) := by
  have shows : ∀ char : Char, id (id char) = char := fun _ => rfl
  rw [← retryContextText_isSome texts session] at unhijacked
  have rendered := renderWith_intended shows (show Unhijacked (fun field =>
    (Function.update (fun field => (values field).toList) .sessionId sessionId.toList field).map id)
      (retryContextText texts session).isSome by simpa only [List.map_id] using unhijacked)
  rw [renderPrompt_withId system strings, rendered, Option.map_some]

theorem sessionFingerprint_eq (sha256 : List Char → String) (texts : Texts) (system : String)
    (schema : Json) (session : PolicyGenerationSession) :
    sessionFingerprint sha256 texts system schema session =
      (renderPrompt texts system session).map fun prompt =>
        computeFingerprint sha256 texts.floatRepr (toDict schema (promptRequest prompt session)) := by
  rw [sessionFingerprint, sessionRequest, Option.map_map]
  rfl

/-- The fingerprints under two identifiers are the same exactly if the prompts are. -/
theorem sessionFingerprint_eq_iff (injective : Function.Injective sha256) (texts : Texts)
    (system : String) (schema : Json) (session : PolicyGenerationSession)
    (sessionId sessionId' : String) :
    sessionFingerprint sha256 texts system schema { session with sessionId := sessionId } =
        sessionFingerprint sha256 texts system schema { session with sessionId := sessionId' } ↔
      renderPrompt texts system { session with sessionId := sessionId } =
        renderPrompt texts system { session with sessionId := sessionId' } := by
  rw [sessionFingerprint_eq, sessionFingerprint_eq]
  cases renderPrompt texts system { session with sessionId := sessionId } with
  | none => cases renderPrompt texts system { session with sessionId := sessionId' } <;> simp
  | some prompt =>
      cases renderPrompt texts system { session with sessionId := sessionId' } with
      | none => simp
      | some prompt' =>
          rw [Option.map_some, Option.map_some, Option.some.injEq, Option.some.injEq]
          exact computeFingerprint_eq_iff injective texts.floatRepr schema session prompt prompt'
            sessionId sessionId'

/-- Where nothing is hijacked, the fingerprint is another for every other identifier. -/
theorem sessionFingerprint_unhijacked (injective : Function.Injective sha256) (system : String)
    (schema : Json) (strings : ∀ field, fieldText texts session field = some (values field))
    {sessionId sessionId' : String}
    (unhijacked : Unhijacked (Function.update (fun field => (values field).toList) .sessionId
      sessionId.toList) (!session.validationErrors.isEmpty))
    (unhijacked' : Unhijacked (Function.update (fun field => (values field).toList) .sessionId
      sessionId'.toList) (!session.validationErrors.isEmpty)) :
    sessionFingerprint sha256 texts system schema { session with sessionId := sessionId } =
        sessionFingerprint sha256 texts system schema { session with sessionId := sessionId' } ↔
      sessionId = sessionId' := by
  rw [sessionFingerprint_eq_iff injective]
  constructor
  · intro same
    rw [renderPrompt_unhijacked system strings unhijacked,
      renderPrompt_unhijacked system strings unhijacked', Option.some.injEq,
      String.append_right_inj] at same
    exact String.toList_inj.mp (intended_inj (String.ofList_injective same))
  · rintro rfl
    rfl

/-- There is always an identifier with another prompt: one that makes it longer. -/
theorem exists_other_prompt (system : String)
    (strings : ∀ field, fieldText texts session field = some (values field)) :
    ∃ sessionId, renderPrompt texts system { session with sessionId := sessionId } ≠
      renderPrompt texts system session := by
  let count := ((renderPrompt texts system session).getD "").toList.length + 1
  let sessionId := String.ofList (Hole.endIf.mark ++ List.replicate count '#')
  have own : Function.update (fun field => (values field).toList) Field.sessionId sessionId.toList
      .sessionId = Hole.endIf.mark ++ List.replicate count '#' := by
    rw [Function.update_self, String.toList_ofList]
  obtain ⟨rendered, renders, long⟩ := renderWith_long own (retryContextText texts session)
  refine ⟨sessionId, ?_⟩
  intro same
  rw [renderPrompt_withId system strings, renders, Option.map_some] at same
  have length : ((renderPrompt texts system session).getD "").toList.length =
      (system ++ "\n\n" ++ String.ofList rendered).toList.length := by
    rw [← same, Option.getD_some]
  have parts : (system ++ "\n\n" ++ String.ofList rendered).toList.length =
      (system ++ "\n\n").toList.length + rendered.length := by
    rw [String.toList_append, List.length_append, String.toList_ofList]
  omega

/-- Where the rendering raises, it does so under every identifier. -/
theorem renderPrompt_raises (texts : Texts) (system : String) {name : String} (named : name ∈ findingNames)
    (raises : findingText session.originatingFinding name = none) (sessionId : String) :
    renderPrompt texts system { session with sessionId := sessionId } = none := by
  have missing : ∃ field, fieldText texts { session with sessionId := sessionId } field = none := by
    simp only [findingNames, List.mem_cons, List.not_mem_nil, or_false] at named
    rcases named with rfl | rfl | rfl | rfl
    · exact ⟨.findingId, raises⟩
    · exact ⟨.anomalyType, raises⟩
    · exact ⟨.hypothesisClass, raises⟩
    · exact ⟨.hypothesisStatement, raises⟩
  obtain ⟨field, absent⟩ := missing
  have listed : field ∈ Field.all := by cases field <;> decide
  rw [renderPrompt, if_neg]
  intro all
  have present := List.all_eq_true.mp all field listed
  rw [absent] at present
  cases present

theorem texts_of_strings (texts : Texts)
    (strings : ∀ name ∈ findingNames, findingText session.originatingFinding name ≠ none) :
    ∃ values : Field → String, ∀ field, fieldText texts session field = some (values field) := by
  have present : ∀ field, ∃ text, fieldText texts session field = some text := by
    intro field
    cases field with
    | findingId => exact Option.ne_none_iff_exists'.mp (strings "finding_id" (by decide))
    | anomalyType => exact Option.ne_none_iff_exists'.mp (strings "anomaly_type" (by decide))
    | hypothesisClass => exact Option.ne_none_iff_exists'.mp (strings "hypothesis_class" (by decide))
    | hypothesisStatement =>
        exact Option.ne_none_iff_exists'.mp (strings "hypothesis_statement" (by decide))
    | _ => exact ⟨_, rfl⟩
  choose values texts using present
  exact ⟨values, texts⟩

/-- With an injective hash no session for which a request is built has a fingerprint that ignores
its identifier; and as long as no text is hijacked, any two identifiers have different ones. -/
theorem fingerprint_ignores_session_iff (sha256 : List Char → String)
    (injective : Function.Injective sha256) (texts : Texts) (system : String) (schema : Json)
    (session : PolicyGenerationSession) :
    (IgnoresSessionId sha256 texts system schema session ↔
      ∃ name ∈ findingNames, findingText session.originatingFinding name = none) ∧
    ∀ values : Field → String, (∀ field, fieldText texts session field = some (values field)) →
      ∀ sessionId sessionId' : String,
        Unhijacked (Function.update (fun field => (values field).toList) .sessionId
          sessionId.toList) (!session.validationErrors.isEmpty) →
        Unhijacked (Function.update (fun field => (values field).toList) .sessionId
          sessionId'.toList) (!session.validationErrors.isEmpty) →
        (sessionFingerprint sha256 texts system schema { session with sessionId := sessionId } =
            sessionFingerprint sha256 texts system schema { session with sessionId := sessionId' } ↔
          sessionId = sessionId') := by
  refine ⟨⟨?_, ?_⟩, ?_⟩
  · intro ignores
    by_contra strings
    push Not at strings
    obtain ⟨values, filled⟩ := texts_of_strings texts strings
    obtain ⟨sessionId, other⟩ := exists_other_prompt system filled
    have same := (ignores sessionId).1
    exact other ((sessionFingerprint_eq_iff injective texts system schema session sessionId
      session.sessionId).mp same)
  · rintro ⟨name, named, raises⟩ sessionId
    have here := renderPrompt_raises texts system named raises session.sessionId
    have there := renderPrompt_raises texts system named raises sessionId
    have unsent : sessionRequest texts system session = none := by
      rw [sessionRequest]
      exact congrArg _ here
    have unsent' : sessionRequest texts system { session with sessionId := sessionId } = none := by
      rw [sessionRequest, there]
      rfl
    refine ⟨?_, ?_⟩
    · rw [sessionFingerprint, sessionFingerprint, unsent, unsent']
    · intro corpus
      rw [unsent, unsent']
  · intro values strings sessionId sessionId' unhijacked unhijacked'
    exact sessionFingerprint_unhijacked injective system schema strings unhijacked unhijacked'

theorem fingerprint_ignores_session_bare :
    Function.Injective String.ofList ∧ ¬ IgnoresSessionId String.ofList
      ⟨fun value => if value = 0 then "0.0" else "1.0", fun _ => "0.0"⟩ "system" (.obj [])
      (bareSession "f-1") := by
  have injective : Function.Injective String.ofList := fun _ _ => String.ofList_injective
  refine ⟨injective, ?_⟩
  intro ignores
  have raises := (fingerprint_ignores_session_iff String.ofList injective _ "system" (.obj [])
    (bareSession "f-1")).1.mp ignores
  obtain ⟨name, named, absent⟩ := raises
  revert absent
  revert name
  decide

/-- Two sessions that differ in their identifiers only: the policy recorded for the one is not
found for the other. -/
theorem fingerprint_two_sessions :
    let texts : Texts := ⟨fun value => if value = 0 then "0.0" else "1.0", fun _ => "0.0"⟩
    let session := bareSession "f-1"
    let other := { session with sessionId := "s-2" }
    ∃ corpus : String → Option Dict,
      (sessionRequest texts "system" session).map (stubGenerate String.ofList texts (.obj []) corpus) =
          some (some ⟨[], stubRuntimeInfo⟩) ∧
        (sessionRequest texts "system" other).map
          (stubGenerate String.ofList texts (.obj []) corpus) = some none ∧
        sessionFingerprint String.ofList texts "system" (.obj []) other ≠
          sessionFingerprint String.ofList texts "system" (.obj []) session := by
  intro texts session other
  have strings := bareSession_texts texts.floatRepr "f-1"
  have quiet : ∀ sessionId : String, calm sessionId.toList = true →
      Unhijacked (Function.update (fun field => (bareValues "f-1" field).toList) .sessionId
        sessionId.toList) (!session.validationErrors.isEmpty) := by
    intro sessionId own
    apply unhijacked_of_calm
    intro field
    by_cases here : field = .sessionId
    · subst here
      rwa [Function.update_self]
    · rw [Function.update_of_ne here]
      cases field <;> decide +kernel
  have differ : sessionFingerprint String.ofList texts "system" (.obj []) other ≠
      sessionFingerprint String.ofList texts "system" (.obj []) session := by
    intro same
    have ids := (sessionFingerprint_unhijacked (fun _ _ => String.ofList_injective) "system"
      (.obj []) strings (quiet "s-2" (by decide +kernel))
      (quiet "s-1" (by decide +kernel))).mp same
    exact absurd ids (by decide)
  have built : ∀ sessionId : String, calm sessionId.toList = true → ∃ request,
      sessionRequest texts "system" { session with sessionId := sessionId } = some request := by
    intro sessionId own
    rw [sessionRequest, renderPrompt_unhijacked "system" strings (quiet sessionId own)]
    exact ⟨_, rfl⟩
  obtain ⟨request, sends⟩ := built "s-1" (by decide +kernel)
  obtain ⟨request', sends'⟩ := built "s-2" (by decide +kernel)
  have recorded : sessionRequest texts "system" session = some request := sends
  have asked : sessionRequest texts "system" other = some request' := sends'
  rw [sessionFingerprint, sessionFingerprint, recorded, asked, Option.map_some, Option.map_some,
    ne_eq, Option.some.injEq] at differ
  refine ⟨fun fingerprint => if fingerprint = computeFingerprint String.ofList texts.floatRepr
    (toDict (.obj []) request) then some [] else none, ?_, ?_, ?_⟩
  · rw [recorded, Option.map_some, stubGenerate, if_pos rfl]
    rfl
  · rw [asked, Option.map_some, stubGenerate, if_neg differ]
    rfl
  · rw [sessionFingerprint, sessionFingerprint, recorded, asked, Option.map_some, Option.map_some,
      ne_eq, Option.some.injEq]
    exact differ

end Sessions

end CollectMind.Slm
