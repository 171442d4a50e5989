import CollectMind.Graph.Session
import CollectMind.Library.JsonText
import CollectMind.Library.Replacement

set_option autoImplicit false

/- `_render_prompt` of graph/policy_generator.py on the template of prompts/policy_generator/v1.0.0.
The rendering is written for texts of any kind of item that shows a character, so that the same
steps run on plain text and on text whose characters remember where they come from. -/
namespace CollectMind.Graph

open Python Replacement

/-- The placeholders of the template, in the order of the `replace` calls. -/
inductive Field where
  | tenantId
  | findingId
  | anomalyType
  | hypothesisClass
  | hypothesisStatement
  | vehicleScopeJson
  | candidateSignalsJson
  | upstreamConfidence
  | sessionId
  deriving DecidableEq, Repr

def Field.all : List Field :=
  [.tenantId, .findingId, .anomalyType, .hypothesisClass, .hypothesisStatement, .vehicleScopeJson,
    .candidateSignalsJson, .upstreamConfidence, .sessionId]

def Field.name : Field → String
  | .tenantId => "tenant_id"
  | .findingId => "finding_id"
  | .anomalyType => "anomaly_type"
  | .hypothesisClass => "hypothesis_class"
  | .hypothesisStatement => "hypothesis_statement"
  | .vehicleScopeJson => "vehicle_scope_json"
  | .candidateSignalsJson => "candidate_signals_json"
  | .upstreamConfidence => "upstream_confidence"
  | .sessionId => "session_id"

/-- Everything in the template that is not literal. -/
inductive Hole where
  | field (value : Field)
  | ifRetryContext
  | retryContextJson
  | endIf
  deriving DecidableEq, Repr

/-- `{{ words }}`, or `{% words %}`. -/
def bracketed (opening closing : Char) (words : List Char) : List Char :=
  '\x7b' :: opening :: ' ' :: (words ++ [' ', closing, '\x7d'])

def placeholder (name : List Char) : List Char := bracketed '\x7b' '\x7d' name

def statement (words : List Char) : List Char := bracketed '%' '%' words

/-- The text of a placeholder or a section marker. -/
def Hole.mark : Hole → List Char
  | .field value => placeholder value.name.toList
  | .ifRetryContext => statement "if retry_context".toList
  | .retryContextJson => placeholder "retry_context_json".toList
  | .endIf => statement "endif".toList

/-- `user.md`: the text before the first placeholder. -/
def templateFirst : String := "# Diagnostic finding\n\nTenant: "

def taskText : String :=
  "\n\n# Task\n\nProduce a `CollectionPolicySpec` JSON object that:\n\n" ++
    ("1. Selects the minimum set of VSS v6.0 signals needed to confirm or rule out the hypothesis " ++
    ("above.\n2. Sets sampling rates per the system-prompt guidance.\n" ++
    "3. Sets `policy_id` to `\"policy-"))

def rulesText : String :=
  "\"\x7d`.\n6. Sets `vehicle_scope` to the list above verbatim.\n" ++
    ("7. Selects a window that fits the hypothesis: brake-wear early-stage usually wants 24-72 hours." ++
    ("\n8. Sets `data_governance_flags` correctly per the PII rules.\n" ++
    "9. Sets `confidence_threshold` per the system-prompt guidance.\n"))

def retryHeading : String :=
  "\n\n# Retry context\n\n" ++
    "The previous generation failed validation. Address the errors below and try again.\n\n"

/-- The placeholders above the retry section, each with the text after it. -/
def templateBody : List (Field × String) :=
  [(.tenantId, "\nFinding: "),
    (.findingId, "\nAnomaly type: "),
    (.anomalyType, "\nHypothesis class: "),
    (.hypothesisClass, "\nHypothesis: "),
    (.hypothesisStatement, "\nVehicle scope: "),
    (.vehicleScopeJson, "\nUpstream confidence: "),
    (.upstreamConfidence, "\nCandidate signals (optional hints): "),
    (.candidateSignalsJson, taskText),
    (.findingId, "\"` and `version` to `\"1.0.0\"`.\n4. Sets `generated_from_session_id` to `\""),
    (.sessionId, "\"`.\n5. Sets `originating_finding` to `\x7b\"tenant_id\": \""),
    (.tenantId, "\", \"finding_id\": \""),
    (.findingId, rulesText)]

/-- The whole of `user.md`, after its first literal. -/
def templateParts : List (Hole × String) :=
  templateBody.map (fun part => (.field part.1, part.2)) ++
    [(.ifRetryContext, retryHeading), (.retryContextJson, "\n"), (.endIf, "\n")]

section Rendering

variable {α : Type} (key : α → Char) (plain : Char → α)

/-- Literals as items of the text. -/
def printed {η : Type} (parts : List (η × String)) : List (η × List α) :=
  parts.map fun part => (part.1, part.2.toList.map plain)

def templateText : List α :=
  spell (templateFirst.toList.map plain) (printed plain templateParts) fun hole => hole.mark.map plain

/-- One `replace` after the other. -/
def through (steps : List (Hole × List α)) (text : List α) : List α :=
  steps.foldl (fun text step => replace key step.1.mark step.2 text) text

def fieldSteps (values : Field → List α) : List (Hole × List α) :=
  Field.all.map fun field => (.field field, values field)

def retrySteps (json : List α) : List (Hole × List α) :=
  [(.ifRetryContext, []), (.endIf, []), (.retryContextJson, json)]

/-- `_render_prompt` from the user template on, with the texts of the fields and, if there are
validation errors, of the retry context; `none` where `index` raises. -/
def renderWith (values : Field → List α) (retryContext : Option (List α)) : Option (List α) :=
  let rendered := through key (fieldSteps values) (templateText plain)
  if (indexOf key Hole.ifRetryContext.mark rendered).isSome then
    match retryContext with
    | none => do
      let start ← indexOf key Hole.ifRetryContext.mark rendered
      let stop ← indexOf key Hole.endIf.mark rendered
      some (rendered.take start ++ rendered.drop (stop + Hole.endIf.mark.length))
    | some json => some (through key (retrySteps json) rendered)
  else some rendered

end Rendering

/-- How Python writes floats and containers. -/
structure Texts where
  floatRepr : Rat → String
  repr : Json → String

/-- `finding.get(name, "")` as an argument of `replace`; `none` where that raises. -/
def findingText (finding : Dict) (name : String) : Option String :=
  match finding.get name with
  | none => some ""
  | some (.str text) => some text
  | some _ => none

/-- The text that is put in for a placeholder. -/
def fieldText (texts : Texts) (session : PolicyGenerationSession) : Field → Option String
  | .tenantId => some session.tenantId
  | .findingId => findingText session.originatingFinding "finding_id"
  | .anomalyType => findingText session.originatingFinding "anomaly_type"
  | .hypothesisClass => findingText session.originatingFinding "hypothesis_class"
  | .hypothesisStatement => findingText session.originatingFinding "hypothesis_statement"
  | .vehicleScopeJson => some (String.ofList (dumps .plain texts.floatRepr 0
      ((session.originatingFinding.get "vehicle_scope").getD (.arr []))))
  | .candidateSignalsJson => some (String.ofList (dumps .plain texts.floatRepr 0
      ((session.originatingFinding.get "candidate_signals").getD (.arr []))))
  | .upstreamConfidence => some (Json.toStr texts.repr
      ((session.originatingFinding.get "upstream_confidence").getD (.float (.finite 0))))
  | .sessionId => some session.sessionId

/-- The text of the retry context, if there are validation errors. -/
def retryContextText (texts : Texts) (session : PolicyGenerationSession) : Option (List Char) :=
  if session.validationErrors.isEmpty then none
  else some (dumps (.indented 2) texts.floatRepr 0
    (.obj [("validation_errors", .arr (session.validationErrors.map .obj))]))

/-- `_render_prompt`, given the text of `system.md`. -/
def renderPrompt (texts : Texts) (system : String) (session : PolicyGenerationSession) :
    Option String :=
  if Field.all.all fun field => (fieldText texts session field).isSome then
    (renderWith id id (fun field => ((fieldText texts session field).getD "").toList)
      (retryContextText texts session)).map fun rendered =>
        system ++ "\n\n" ++ String.ofList rendered
  else none

section Marks

/-- No brace of the text opens a placeholder or a statement. -/
def calm : List Char → Bool
  | [] => true
  | char :: rest =>
    (char != '\x7b' || rest.head?.any fun next => next != '\x7b' && next != '%') && calm rest

/-- A literal with no such brace that begins with a character no mark has. -/
def steady (literal : List Char) : Bool :=
  calm literal && literal.head?.any fun first => first == '#' || first == '\n' || first == '"'

/-- Letters and underscores, with blanks between the words of a statement. -/
def wordy (blanks : Bool) (name : List Char) : Bool :=
  name.all fun char => char.isAlpha || char == '_' || (blanks && char == ' ')

-- a string literal is the text of its characters, which is cheaper to check than to decode
theorem steady_ofList {literal : List Char} (holds : steady literal = true) :
    steady (String.ofList literal).toList = true := by
  rwa [String.toList_ofList]

theorem wordy_ofList {blanks : Bool} {name : List Char} (holds : wordy blanks name = true) :
    wordy blanks (String.ofList name).toList = true := by
  rwa [String.toList_ofList]

theorem calm_ofList {text : List Char} (holds : calm text = true) :
    calm (String.ofList text).toList = true := by
  rwa [String.toList_ofList]

theorem calm_append {first second : List Char} (quiet : calm first = true)
    (later : calm second = true) : calm (first ++ second) = true := by
  induction first with
  | nil => exact later
  | cons char rest ih =>
      rw [calm, Bool.and_eq_true] at quiet
      rw [List.cons_append, calm, ih quiet.2, Bool.and_true]
      cases rest with
      | nil =>
          have plain : (char != '\x7b') = true := by simpa using quiet.1
          rw [plain, Bool.true_or]
      | cons next rest => exact quiet.1

theorem calm_append_text {first second : String} (quiet : calm first.toList = true)
    (later : calm second.toList = true) : calm (first ++ second).toList = true := by
  rw [String.toList_append]
  exact calm_append quiet later

theorem steady_append {first second : String} (stands : steady first.toList = true)
    (later : calm second.toList = true) : steady (first ++ second).toList = true := by
  rw [steady, Bool.and_eq_true] at stands ⊢
  refine ⟨calm_append_text stands.1 later, ?_⟩
  have head := stands.2
  rw [String.toList_append]
  cases shape : first.toList with
  | nil =>
      rw [shape] at head
      cases head
  | cons char rest =>
      rw [shape] at head
      exact head

theorem taskText_steady : steady taskText.toList = true :=
  steady_append (steady_ofList (by decide +kernel))
    (calm_append_text (calm_ofList (by decide +kernel))
      (calm_append_text (calm_ofList (by decide +kernel)) (calm_ofList (by decide +kernel))))

theorem rulesText_steady : steady rulesText.toList = true :=
  steady_append (steady_ofList (by decide +kernel))
    (calm_append_text (calm_ofList (by decide +kernel))
      (calm_append_text (calm_ofList (by decide +kernel)) (calm_ofList (by decide +kernel))))

theorem retryHeading_steady : steady retryHeading.toList = true :=
  steady_append (steady_ofList (by decide +kernel)) (calm_ofList (by decide +kernel))

theorem literals_steady :
    ∀ literal ∈ templateFirst :: templateParts.map Prod.snd, steady literal.toList = true := by
  simp only [templateParts, templateBody, List.map_cons, List.map_nil, List.cons_append,
    List.nil_append, List.forall_mem_cons]
  refine ⟨?_, ?_, ?_, ?_, ?_, ?_, ?_, ?_, taskText_steady, ?_, ?_, ?_, rulesText_steady,
    retryHeading_steady, ?_, ?_, nofun⟩
  all_goals exact steady_ofList (by decide +kernel)

theorem fieldName_wordy (field : Field) : wordy false field.name.toList = true := by
  cases field <;> exact wordy_ofList (by decide +kernel)

theorem retryName_wordy : wordy false "retry_context_json".toList = true :=
  wordy_ofList (by decide +kernel)

theorem ifWords_wordy : wordy true "if retry_context".toList = true :=
  wordy_ofList (by decide +kernel)

theorem endWords_wordy : wordy true "endif".toList = true := wordy_ofList (by decide +kernel)

theorem calm_of_not_mem {text : List Char} (none : '\x7b' ∉ text) : calm text = true := by
  induction text with
  | nil => rfl
  | cons char rest ih =>
      rw [List.mem_cons, not_or] at none
      rw [calm, ih none.2, Bool.and_true, Bool.or_eq_true]
      left
      simpa using Ne.symm none.1

theorem not_mem_of_wordy {blanks : Bool} {name : List Char} (words : wordy blanks name = true)
    {char : Char} (odd : (char.isAlpha || char == '_' || char == ' ') = false) : char ∉ name := by
  intro member
  have word := List.all_eq_true.mp words char member
  simp only [Bool.or_eq_false_iff] at odd
  simp [odd.1.1, odd.1.2, odd.2] at word

/-- The marks of the template are what `calm` texts do not have. -/
structure Opens (mark : List Char) : Prop where
  shape : ∃ second rest, mark = '\x7b' :: second :: rest ∧ (second = '\x7b' ∨ second = '%')
  outside : '#' ∉ mark ∧ '\n' ∉ mark ∧ '"' ∉ mark

theorem bracketed_opens {opening closing : Char} {blanks : Bool} {words : List Char}
    (known : opening = '\x7b' ∨ opening = '%') (closed : closing = '\x7d' ∨ closing = '%')
    (wordy : wordy blanks words = true) : Opens (bracketed opening closing words) := by
  refine ⟨⟨_, _, rfl, known⟩, ?_⟩
  have outside : ∀ char : Char, (char.isAlpha || char == '_' || char == ' ') = false →
      char ≠ '\x7b' → char ≠ '\x7d' → char ≠ '%' → char ∉ bracketed opening closing words := by
    intro char odd brace end_ percent
    have absent := not_mem_of_wordy wordy odd
    have blank : char ≠ ' ' := by
      rintro rfl
      cases odd
    have first : char ≠ opening := by rcases known with rfl | rfl <;> assumption
    have last : char ≠ closing := by rcases closed with rfl | rfl <;> assumption
    simp [bracketed, absent, brace, end_, blank, first, last]
  refine ⟨?_, ?_, ?_⟩ <;> exact outside _ rfl (by decide) (by decide) (by decide)

theorem mark_opens (hole : Hole) : Opens hole.mark := by
  cases hole with
  | field value => exact bracketed_opens (Or.inl rfl) (Or.inl rfl) (fieldName_wordy value)
  | retryContextJson => exact bracketed_opens (Or.inl rfl) (Or.inl rfl) retryName_wordy
  | ifRetryContext => exact bracketed_opens (Or.inr rfl) (Or.inr rfl) ifWords_wordy
  | endIf => exact bracketed_opens (Or.inr rfl) (Or.inr rfl) endWords_wordy

theorem calm_head {rest : List Char} (quiet : calm ('\x7b' :: rest) = true) :
    ∃ next more, rest = next :: more ∧ next ≠ '\x7b' ∧ next ≠ '%' := by
  cases rest with
  | nil => cases quiet
  | cons next more =>
      simp only [calm, List.head?_cons, Option.any_some, Bool.and_eq_true, bne_self_eq_false,
        Bool.false_or, bne_iff_ne] at quiet
      exact ⟨next, more, rfl, quiet.1⟩

theorem calm_tail {char : Char} {rest : List Char} (quiet : calm (char :: rest) = true) :
    calm rest = true := by
  rw [calm, Bool.and_eq_true] at quiet
  exact quiet.2

/-- At a calm text no mark begins, and it begins no mark. -/
theorem Opens.apart {mark text : List Char} (opens : Opens mark) (quiet : calm text = true)
    (nonempty : text ≠ []) : ¬ mark <+: text ∧ ¬ text <+: mark := by
  obtain ⟨second, rest, rfl, known⟩ := opens.shape
  cases text with
  | nil => exact absurd rfl nonempty
  | cons char tail =>
      by_cases brace : char = '\x7b'
      · subst brace
        obtain ⟨next, more, rfl, other, percent⟩ := calm_head quiet
        constructor <;>
          · intro begins
            simp only [List.cons_prefix_cons, true_and] at begins
            rcases known with rfl | rfl
            · first | exact other begins.1 | exact other begins.1.symm
            · first | exact percent begins.1 | exact percent begins.1.symm
      · constructor <;>
          · intro begins
            rw [List.cons_prefix_cons] at begins
            first | exact brace begins.1 | exact brace begins.1.symm

theorem Opens.absent {mark text : List Char} (opens : Opens mark) (quiet : calm text = true) :
    ¬ mark <:+: text := by
  induction text with
  | nil =>
      obtain ⟨second, rest, rfl, _⟩ := opens.shape
      simp
  | cons char rest ih =>
      rw [List.infix_cons_iff, not_or]
      exact ⟨(opens.apart quiet (List.cons_ne_nil _ _)).1, ih (calm_tail quiet)⟩

theorem calm_suffix {part text : List Char} (tail : part <:+ text) (quiet : calm text = true) :
    calm part = true := by
  obtain ⟨front, rfl⟩ := tail
  induction front with
  | nil => exact quiet
  | cons char front ih => exact ih (calm_tail quiet)

theorem Opens.barrier {mark literal : List Char} (opens : Opens mark)
    (stands : steady literal = true) : barrier mark literal = true := by
  rw [steady, Bool.and_eq_true] at stands
  cases literal with
  | nil => cases stands.2
  | cons first rest =>
      refine barrier_iff.mpr ⟨first, rest, rfl, ?_, ?_⟩
      · have known := stands.2
        simp only [List.head?_cons, Option.any_some, Bool.or_eq_true, beq_iff_eq] at known
        rcases known with (rfl | rfl) | rfl
        · exact opens.outside.1
        · exact opens.outside.2.1
        · exact opens.outside.2.2
      · intro part tail nonempty
        exact opens.apart (calm_suffix tail stands.1) nonempty

/-- No mark can touch a literal of the template. -/
theorem literals_barrier (hole : Hole) :
    ∀ literal ∈ templateFirst :: templateParts.map Prod.snd,
      barrier hole.mark literal.toList = true :=
  fun literal member => (mark_opens hole).barrier (literals_steady literal member)

theorem bracketed_tail_calm {opening closing : Char} {blanks : Bool} {words : List Char}
    (closed : closing ≠ '\x7b') (wordy : wordy blanks words = true) :
    calm (opening :: ' ' :: (words ++ [' ', closing, '\x7d'])) = true := by
  have quiet : calm (' ' :: (words ++ [' ', closing, '\x7d'])) = true := by
    apply calm_of_not_mem
    have absent := not_mem_of_wordy wordy (show ('\x7b'.isAlpha || '\x7b' == '_' || '\x7b' == ' ') =
      false from rfl)
    simp [absent, Ne.symm closed]
  rw [calm, quiet]
  simp

/-- After its first brace a mark is calm, so another mark is in it only as its beginning. -/
theorem mark_begins {hole other : Hole} (inside : other.mark <:+: hole.mark) :
    other.mark <+: hole.mark := by
  have quiet : ∃ tail, hole.mark = '\x7b' :: tail ∧ calm tail = true := by
    cases hole with
    | field value => exact ⟨_, rfl, bracketed_tail_calm (by decide) (fieldName_wordy value)⟩
    | retryContextJson => exact ⟨_, rfl, bracketed_tail_calm (by decide) retryName_wordy⟩
    | ifRetryContext => exact ⟨_, rfl, bracketed_tail_calm (by decide) ifWords_wordy⟩
    | endIf => exact ⟨_, rfl, bracketed_tail_calm (by decide) endWords_wordy⟩
  obtain ⟨tail, shape, calmTail⟩ := quiet
  rw [shape, List.infix_cons_iff] at inside
  rw [shape]
  exact inside.resolve_right ((mark_opens other).absent calmTail)

theorem bracketed_begins {opening closing opening' closing' : Char} {words words' : List Char}
    (begins : bracketed opening closing words <+: bracketed opening' closing' words') :
    opening = opening' ∧ words ++ [' ', closing, '\x7d'] <+: words' ++ [' ', closing', '\x7d'] := by
  simpa only [bracketed, List.cons_prefix_cons, true_and] using begins

theorem placeholder_begins {name name' : String} (word : wordy false name.toList = true)
    (word' : wordy false name'.toList = true)
    (begins : placeholder name.toList <+: placeholder name'.toList) : name = name' := by
  obtain ⟨rest, same⟩ := (bracketed_begins begins).2
  have blank : ∀ {text : List Char}, wordy false text = true → ∀ char ∈ text, (char == ' ') = false := by
    intro text words char member
    have letter := List.all_eq_true.mp words char member
    rw [beq_eq_false_iff_ne]
    rintro rfl
    cases letter
  rw [List.append_assoc] at same
  exact String.toList_inj.mp (append_cons_inj (blank word) (blank word') rfl rfl same).1

theorem fieldName_injective {field other : Field} (same : field.name = other.name) :
    field = other := by
  cases field <;> cases other <;> first | rfl | exact absurd same (by decide)

theorem fieldName_ne_retry (field : Field) : field.name ≠ "retry_context_json" := by
  cases field <;> decide

theorem marks_apart {hole other : Hole} (differ : other ≠ hole) : ¬ other.mark <:+: hole.mark := by
  intro inside
  have begins := mark_begins inside
  cases other with
  | field value =>
      cases hole with
      | field value' =>
          have same := placeholder_begins (fieldName_wordy _) (fieldName_wordy _) begins
          exact differ (by rw [fieldName_injective same])
      | retryContextJson =>
          exact fieldName_ne_retry value
            (placeholder_begins (fieldName_wordy _) retryName_wordy begins)
      | ifRetryContext => exact absurd (bracketed_begins begins).1 (by decide)
      | endIf => exact absurd (bracketed_begins begins).1 (by decide)
  | retryContextJson =>
      cases hole with
      | field value =>
          exact fieldName_ne_retry value
            (placeholder_begins retryName_wordy (fieldName_wordy _) begins).symm
      | retryContextJson => exact differ rfl
      | ifRetryContext => exact absurd (bracketed_begins begins).1 (by decide)
      | endIf => exact absurd (bracketed_begins begins).1 (by decide)
  | ifRetryContext =>
      cases hole with
      | field value => exact absurd (bracketed_begins begins).1 (by decide)
      | retryContextJson => exact absurd (bracketed_begins begins).1 (by decide)
      | ifRetryContext => exact differ rfl
      | endIf => revert begins; decide +kernel
  | endIf =>
      cases hole with
      | field value => exact absurd (bracketed_begins begins).1 (by decide)
      | retryContextJson => exact absurd (bracketed_begins begins).1 (by decide)
      | ifRetryContext => revert begins; decide +kernel
      | endIf => exact differ rfl

end Marks

end CollectMind.Graph
