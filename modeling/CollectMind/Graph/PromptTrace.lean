import CollectMind.Graph.Prompt

set_option autoImplicit false

/- What `_render_prompt` makes of the texts of the fields: every character of the result is
followed back to the template or to the field that it comes from. -/
namespace CollectMind.Graph

open Python Replacement

/-- The fields that are replaced after a field. -/
def Field.later (field : Field) : List Field := (Field.all.dropWhile (· != field)).tail

theorem all_split (field : Field) :
    ∃ before, Field.all = before ++ field :: field.later ∧ field ∉ before := by
  refine ⟨Field.all.takeWhile (· != field), ?_, ?_⟩ <;> cases field <;> decide

section Settled

variable {α : Type} {key : α → Char} {plain : Char → α}

theorem through_append (steps more : List (Hole × List α)) (text : List α) :
    through key (steps ++ more) text = through key more (through key steps text) :=
  List.foldl_append

theorem through_nil (steps : List (Hole × List α)) : through key steps [] = [] := by
  induction steps with
  | nil => rfl
  | cons step steps ih => exact ih

theorem through_absent {steps : List (Hole × List α)} {text : List α}
    (absent : ∀ step ∈ steps, ¬ step.1.mark <:+: text.map key) : through key steps text = text := by
  induction steps with
  | nil => rfl
  | cons step steps ih =>
      rw [List.forall_mem_cons] at absent
      have unchanged : through key (step :: steps) text =
          through key steps (replace key step.1.mark step.2 text) := rfl
      rw [unchanged, replace_absent absent.1]
      exact ih absent.2

variable (shows : ∀ char, key (plain char) = char)

include shows in
theorem map_printed (text : List Char) : (text.map plain).map key = text := by
  rw [List.map_map]
  exact (List.map_congr_left fun char _ => shows char).trans (List.map_id _)

include shows in
/-- No mark can touch a literal among these parts. -/
theorem printed_blocks {η : Type} (hole : Hole) {parts : List (η × String)}
    (among : ∀ part ∈ parts, part.2 ∈ templateParts.map Prod.snd) :
    ∀ literal ∈ templateFirst.toList.map plain :: (printed plain parts).map Prod.snd,
      barrier hole.mark (literal.map key) = true := by
  have barriers := literals_barrier hole
  rw [List.forall_mem_cons] at barriers ⊢
  rw [map_printed shows]
  refine ⟨barriers.1, ?_⟩
  intro literal member
  obtain ⟨part, listed, rfl⟩ := List.mem_map.mp member
  obtain ⟨original, given, rfl⟩ := List.mem_map.mp listed
  rw [map_printed shows]
  exact barriers.2 _ (among original given)

include shows in
/-- The marks of the template are replaced each on its own. -/
theorem through_template (steps : List (Hole × List α)) (content : Hole → List α) :
    through key steps (spell (templateFirst.toList.map plain) (printed plain templateParts) content) =
      spell (templateFirst.toList.map plain) (printed plain templateParts)
        fun hole => through key steps (content hole) := by
  induction steps generalizing content with
  | nil => rfl
  | cons step steps ih =>
      have blocks : ∀ literal ∈ templateFirst.toList.map plain ::
          (printed plain templateParts).map Prod.snd,
          barrier step.1.mark (literal.map key) = true :=
        printed_blocks shows step.1 fun _ inTemplate => List.mem_map_of_mem inTemplate
      have replaced := replace_spell blocks step.2 content
      have first : ∀ text, through key (step :: steps) text =
          through key steps (replace key step.1.mark step.2 text) := fun _ => rfl
      rw [first, replaced, ih]
      rfl

include shows in
/-- A mark that has its turn becomes its text, as the later turns leave it. -/
theorem through_mark {before after : List (Hole × List α)} {hole : Hole} {new : List α}
    (fresh : hole ∉ before.map Prod.fst) :
    through key (before ++ (hole, new) :: after) (hole.mark.map plain) = through key after new := by
  have unchanged : through key before (hole.mark.map plain) = hole.mark.map plain := by
    apply through_absent
    intro step member
    rw [map_printed shows]
    apply marks_apart
    rintro rfl
    exact fresh (List.mem_map_of_mem member)
  have turn : replace key hole.mark new (hole.mark.map plain) = new := by
    apply replace_self
    · obtain ⟨_, _, shape, _⟩ := (mark_opens hole).shape
      simp [shape]
    · exact map_printed shows _
  rw [through_append, unchanged]
  change through key after (replace key hole.mark new (hole.mark.map plain)) = _
  rw [turn]

include shows in
theorem through_other {steps : List (Hole × List α)} {hole : Hole}
    (absent : hole ∉ steps.map Prod.fst) :
    through key steps (hole.mark.map plain) = hole.mark.map plain := by
  apply through_absent
  intro step member
  rw [map_printed shows]
  apply marks_apart
  rintro rfl
  exact absent (List.mem_map_of_mem member)

variable (values : Field → List α)

/-- The `replace` calls after that of a field. -/
def laterSteps (field : Field) : List (Hole × List α) :=
  field.later.map fun other => (.field other, values other)

/-- The template above the retry section, with these texts for the fields. -/
def bodyText (plain : Char → α) (texts : Field → List α) : List α :=
  spell (templateFirst.toList.map plain) (printed plain templateBody) texts

/-- The template with these texts for its placeholders and markers. -/
def filledText (plain : Char → α) (content : Hole → List α) : List α :=
  bodyText plain (fun field => content (.field field)) ++
    (content .ifRetryContext ++ (retryHeading.toList.map plain ++ (content .retryContextJson ++
      (plain '\n' :: (content .endIf ++ [plain '\n'])))))

theorem spell_template (content : Hole → List α) :
    spell (templateFirst.toList.map plain) (printed plain templateParts) content =
      filledText plain content := by
  simp [spell, filledText, bodyText, printed, templateParts, List.flatMap_map]

include shows in
/-- A field's own turn puts its text in; what it holds after the later turns is another matter. -/
theorem through_fieldSteps (field : Field) :
    through key (fieldSteps values) ((Hole.field field).mark.map plain) =
      through key (laterSteps values field) (values field) := by
  obtain ⟨before, split, fresh⟩ := all_split field
  rw [fieldSteps, split, List.map_append, List.map_cons]
  apply through_mark shows
  rw [List.map_map]
  intro member
  obtain ⟨other, listed, same⟩ := List.mem_map.mp member
  cases same
  exact fresh listed

/-- What the placeholders and markers are after the fields' turns. -/
def afterFields (key : α → Char) (plain : Char → α) (values : Field → List α) : Hole → List α
  | .field field => through key (laterSteps values field) (values field)
  | hole => hole.mark.map plain

include shows in
theorem through_fields_template :
    through key (fieldSteps values) (templateText plain) =
      filledText plain (afterFields key plain values) := by
  have others : ∀ hole, (∀ field, hole ≠ Hole.field field) →
      through key (fieldSteps values) (hole.mark.map plain) = hole.mark.map plain := by
    intro hole other
    apply through_other shows
    rw [fieldSteps, List.map_map]
    intro member
    obtain ⟨field, _, same⟩ := List.mem_map.mp member
    exact other field same.symm
  rw [templateText, through_template shows, ← spell_template]
  congr 1
  funext hole
  cases hole with
  | field field => exact through_fieldSteps shows values field
  | ifRetryContext => exact others _ nofun
  | retryContextJson => exact others _ nofun
  | endIf => exact others _ nofun

/-- What they are after the turns of the retry context as well. -/
def afterRetry (key : α → Char) (values : Field → List α) (json : List α) : Hole → List α
  | .field field => through key (laterSteps values field ++ retrySteps json) (values field)
  | .retryContextJson => json
  | .ifRetryContext => []
  | .endIf => []

include shows in
theorem through_retry_template (json : List α) :
    through key (retrySteps json) (through key (fieldSteps values) (templateText plain)) =
      filledText plain (afterRetry key values json) := by
  have statement : ∀ {before after : List (Hole × List α)} {hole : Hole},
      retrySteps json = before ++ (hole, []) :: after → hole ∉ before.map Prod.fst →
      through key (retrySteps json) (hole.mark.map plain) = [] := by
    intro before after hole split fresh
    rw [split, through_mark shows fresh]
    exact through_nil after
  rw [through_fields_template shows, ← spell_template, through_template shows, ← spell_template]
  congr 1
  funext hole
  cases hole with
  | field field => exact (through_append _ _ _).symm
  | ifRetryContext =>
      exact statement (show retrySteps json = [] ++ _ :: _ from rfl) List.not_mem_nil
  | endIf =>
      exact statement (show retrySteps json = [_] ++ _ :: _ from rfl) (by simp)
  | retryContextJson =>
      exact through_mark shows (show _ ∉ [(Hole.ifRetryContext, []), (Hole.endIf, [])].map Prod.fst
        by simp)

/-- The text that the template means: each placeholder once with its own text, and the retry
section, without its markers, only if there is a retry context. -/
def intended (plain : Char → α) (values : Field → List α) : Option (List α) → List α
  | none => bodyText plain values ++ [plain '\n']
  | some json => filledText plain fun
    | .field field => values field
    | .retryContextJson => json
    | .ifRetryContext => []
    | .endIf => []

end Settled

/-- What no text of a field may have in it: the placeholder of a field that is replaced later, a
marker of the retry section and, if there is a retry context, its placeholder. -/
def Unhijacked (values : Field → List Char) (retrying : Bool) : Prop :=
  ∀ field, (∀ other ∈ field.later, ¬ (Hole.field other).mark <:+: values field) ∧
    ¬ Hole.ifRetryContext.mark <:+: values field ∧ ¬ Hole.endIf.mark <:+: values field ∧
    (retrying = true → ¬ Hole.retryContextJson.mark <:+: values field)

section Verbatim

variable {α : Type} {key : α → Char} {plain : Char → α}

/-- The retry section without its last marker. -/
def sectionFront : List Char :=
  Hole.ifRetryContext.mark ++ retryHeading.toList ++ (Hole.retryContextJson.mark ++ ['\n'])

/-- The retry section, markers included. -/
def sectionText : List Char := sectionFront ++ Hole.endIf.mark

theorem filledText_afterFields (values : Field → List α) :
    filledText plain (afterFields key plain values) =
      bodyText plain (fun field => afterFields key plain values (.field field)) ++
        sectionText.map plain ++ [plain '\n'] := by
  simp [filledText, afterFields, sectionText, sectionFront]

variable (shows : ∀ char, key (plain char) = char)

include shows in
theorem printed_begins (hole : Hole) (rest : List α) :
    begins key hole.mark (hole.mark.map plain ++ rest) = true := by
  rw [begins_iff, List.map_append, map_printed shows]
  exact List.prefix_append _ _

include shows in
theorem body_blocks (hole : Hole) :
    ∀ literal ∈ templateFirst.toList.map plain :: (printed plain templateBody).map Prod.snd,
      barrier hole.mark (literal.map key) = true := by
  apply printed_blocks shows hole
  intro part inBody
  rw [templateParts, List.map_append, List.map_map]
  exact List.mem_append_left _ (List.mem_map.mpr ⟨part, inBody, rfl⟩)

include shows in
/-- In the section the last marker is where it stands. -/
theorem indexOf_endIf_section (rest : List α) :
    indexOf key Hole.endIf.mark (sectionText.map plain ++ rest) = some sectionFront.length := by
  have heading : barrier Hole.endIf.mark ((retryHeading.toList.map plain).map key) = true := by
    rw [map_printed shows]
    exact (mark_opens .endIf).barrier retryHeading_steady
  have newline : barrier Hole.endIf.mark (([plain '\n']).map key) = true := by
    rw [List.map_singleton, shows]
    exact (mark_opens .endIf).barrier rfl
  have absent : ∀ hole : Hole, Hole.endIf ≠ hole →
      ¬ Hole.endIf.mark <:+: (hole.mark.map plain).map key := by
    intro hole differ
    rw [map_printed shows]
    exact marks_apart differ
  have shape : sectionText.map plain ++ rest = Hole.ifRetryContext.mark.map plain ++
      (retryHeading.toList.map plain ++ (Hole.retryContextJson.mark.map plain ++
        ([plain '\n'] ++ (Hole.endIf.mark.map plain ++ rest)))) := by
    simp [sectionText, sectionFront]
  rw [shape, indexOf_append_barrier (absent .ifRetryContext nofun) heading,
    indexOf_append_barrier (absent .retryContextJson nofun) newline,
    indexOf_of_begins (printed_begins shows .endIf rest)]
  simp [sectionFront]
  omega

theorem afterFields_unhijacked {values : Field → List α} {retrying : Bool}
    (unhijacked : Unhijacked (fun field => (values field).map key) retrying) (field : Field) :
    afterFields key plain values (.field field) = values field := by
  apply through_absent
  intro step member
  obtain ⟨other, later, rfl⟩ := List.mem_map.mp member
  exact (unhijacked field).1 other later

theorem afterRetry_unhijacked {values : Field → List α} {json : List α}
    (unhijacked : Unhijacked (fun field => (values field).map key) true) (field : Field) :
    afterRetry key values json (.field field) = values field := by
  have absent := unhijacked field
  apply through_absent
  refine List.forall_mem_append.mpr ⟨?_, ?_⟩
  · intro step member
    obtain ⟨other, later, rfl⟩ := List.mem_map.mp member
    exact absent.1 other later
  · simp only [retrySteps, List.forall_mem_cons]
    exact ⟨absent.2.1, absent.2.2.1, absent.2.2.2 rfl, nofun⟩

include shows in
theorem section_begins (rest : List α) :
    begins key Hole.ifRetryContext.mark (sectionText.map plain ++ rest) = true := by
  have shape : sectionText.map plain ++ rest = Hole.ifRetryContext.mark.map plain ++
      (retryHeading.toList.map plain ++ (Hole.retryContextJson.mark.map plain ++
        (plain '\n' :: (Hole.endIf.mark.map plain ++ rest)))) := by
    simp [sectionText, sectionFront]
  rw [shape]
  exact printed_begins shows .ifRetryContext _

include shows in
/-- The marker of the section is found, at the latest where it stands. -/
theorem indexOf_ifRetryContext (texts : Field → List α) (rest : List α) :
    ∃ start ≤ (bodyText plain texts).length, indexOf key Hole.ifRetryContext.mark
      (bodyText plain texts ++ sectionText.map plain ++ rest) = some start := by
  rw [List.append_assoc]
  exact indexOf_le (section_begins shows rest) _

include shows in
theorem indexOf_endIf (texts : Field → List α) (rest : List α) :
    ∃ stop, stop + Hole.endIf.mark.length ≤
        (bodyText plain texts ++ sectionText.map plain).length ∧
      indexOf key Hole.endIf.mark (bodyText plain texts ++ sectionText.map plain ++ rest) =
        some stop := by
  have present : Hole.endIf.mark <:+: (bodyText plain texts ++ sectionText.map plain).map key := by
    rw [List.map_append, map_printed shows]
    exact ⟨(bodyText plain texts).map key ++ sectionFront, [], by simp [sectionText]⟩
  obtain ⟨stop, found, bound⟩ := indexOf_of_present present rest
  exact ⟨stop, bound, found⟩

include shows in
theorem renderWith_some {values : Field → List α} (json : List α) :
    renderWith key plain values (some json) =
      some (filledText plain (afterRetry key values json)) := by
  have found := indexOf_ifRetryContext shows
    (fun field => afterFields key plain values (.field field)) [plain '\n']
  obtain ⟨start, _, here⟩ := found
  rw [← filledText_afterFields, ← through_fields_template shows] at here
  rw [renderWith, here]
  simp only [Option.isSome_some, if_true]
  rw [through_retry_template shows]

include shows in
/-- Without a retry context the text is cut from the first opening marker to the first closing
one. -/
theorem renderWith_none {values : Field → List α} {rendered : List α} {start stop : Nat}
    (filled : filledText plain (afterFields key plain values) = rendered)
    (starts : indexOf key Hole.ifRetryContext.mark rendered = some start)
    (stops : indexOf key Hole.endIf.mark rendered = some stop) :
    renderWith key plain values none =
      some (rendered.take start ++ rendered.drop (stop + Hole.endIf.mark.length)) := by
  rw [renderWith, through_fields_template shows, filled, starts, stops]
  rfl

include shows in
/-- Where no text of a field has a mark in it that is still to come, the result is the text that
is meant. -/
theorem renderWith_intended {values : Field → List α} {retryContext : Option (List α)}
    (unhijacked : Unhijacked (fun field => (values field).map key) retryContext.isSome) :
    renderWith key plain values retryContext = some (intended plain values retryContext) := by
  cases retryContext with
  | some json =>
      rw [renderWith_some shows, intended]
      congr 2
      funext hole
      cases hole with
      | field field => exact afterRetry_unhijacked unhijacked field
      | ifRetryContext => rfl
      | retryContextJson => rfl
      | endIf => rfl
  | none =>
      have body : (fun field => afterFields key plain values (.field field)) = values :=
        funext (afterFields_unhijacked unhijacked)
      have absent : ∀ part ∈ printed plain templateBody,
          ¬ Hole.ifRetryContext.mark <:+: (values part.1).map key ∧
            ¬ Hole.endIf.mark <:+: (values part.1).map key :=
        fun part _ => ⟨(unhijacked part.1).2.1, (unhijacked part.1).2.2.1⟩
      have start : indexOf key Hole.ifRetryContext.mark
          (bodyText plain values ++ sectionText.map plain ++ [plain '\n']) =
            some (bodyText plain values).length := by
        rw [List.append_assoc, bodyText, indexOf_spell (body_blocks shows .ifRetryContext)
          fun part member => (absent part member).1, indexOf_of_begins (section_begins shows _)]
        rfl
      have stop : indexOf key Hole.endIf.mark
          (bodyText plain values ++ sectionText.map plain ++ [plain '\n']) =
            some ((bodyText plain values).length + sectionFront.length) := by
        rw [List.append_assoc, bodyText, indexOf_spell (body_blocks shows .endIf)
          fun part member => (absent part member).2, indexOf_endIf_section shows]
        rfl
      have whole : (bodyText plain values ++ sectionText.map plain).length =
          (bodyText plain values).length + sectionFront.length + Hole.endIf.mark.length := by
        rw [List.length_append, List.length_map, sectionText, List.length_append, Nat.add_assoc]
      have filled : filledText plain (afterFields key plain values) =
          bodyText plain values ++ sectionText.map plain ++ [plain '\n'] := by
        rw [filledText_afterFields, body]
      rw [renderWith_none shows filled start stop, List.drop_left' whole, List.append_assoc,
        List.take_left, intended]

end Verbatim

section Traced

/-- A character of the template. -/
def fromTemplate (char : Char) : Char × Option Hole := (char, none)

/-- A text that is put in for a placeholder. -/
def cameFrom (hole : Hole) (text : List Char) : List (Char × Option Hole) :=
  text.map fun char => (char, some hole)

def isLiteral (item : Char × Option Hole) : Bool := item.2.isNone

def isFrom (hole : Hole) (item : Char × Option Hole) : Bool := item.2 == some hole

def tracedValues (values : Field → List Char) (field : Field) : List (Char × Option Hole) :=
  cameFrom (.field field) (values field)

/-- Followed character by character, the result is the template with each placeholder replaced
once by its own text, and with the retry section as it should be: nothing in the text of a field is
replaced, removed or taken for a marker. -/
def Verbatim (values : Field → List Char) (retryContext : Option (List Char)) : Prop :=
  renderWith Prod.fst fromTemplate (tracedValues values)
      (retryContext.map (cameFrom .retryContextJson)) =
    some (intended fromTemplate (tracedValues values) (retryContext.map (cameFrom .retryContextJson)))

theorem map_fst_cameFrom (hole : Hole) (text : List Char) : (cameFrom hole text).map Prod.fst = text := by
  rw [cameFrom, List.map_map]
  exact List.map_id _

variable {values : Field → List Char}

theorem mem_through {steps : List (Hole × List (Char × Option Hole))}
    {text : List (Char × Option Hole)} {item : Char × Option Hole}
    (member : item ∈ through Prod.fst steps text) :
    item ∈ text ∨ ∃ step ∈ steps, item ∈ step.2 := by
  induction steps generalizing text with
  | nil => exact Or.inl member
  | cons step steps ih =>
      rcases ih member with before | ⟨later, listed, inserted⟩
      · rcases mem_replaceFrom before with kept | new
        · exact Or.inl kept
        · exact Or.inr ⟨step, List.mem_cons_self, new⟩
      · exact Or.inr ⟨later, List.mem_cons_of_mem _ listed, inserted⟩

theorem countP_through_le {marked : Char × Option Hole → Bool}
    {steps : List (Hole × List (Char × Option Hole))} (text : List (Char × Option Hole))
    (plain : ∀ step ∈ steps, step.2.countP marked = 0) :
    (through Prod.fst steps text).countP marked ≤ text.countP marked := by
  induction steps generalizing text with
  | nil => exact le_rfl
  | cons step steps ih =>
      rw [List.forall_mem_cons] at plain
      exact (ih _ plain.2).trans (countP_replaceFrom_le Prod.fst _ plain.1 text 0)

/-- A text that comes through unchanged has none of the marks in it, as a match would have taken
characters of it away. -/
theorem absent_of_through {field : Field} {text : List Char}
    {steps : List (Hole × List (Char × Option Hole))}
    (others : ∀ step ∈ steps, step.2.countP (isFrom (.field field)) = 0)
    (same : through Prod.fst steps (cameFrom (.field field) text) = cameFrom (.field field) text) :
    ∀ step ∈ steps, ¬ step.1.mark <:+: text := by
  induction steps with
  | nil => nofun
  | cons step steps ih =>
      rw [List.forall_mem_cons] at others ⊢
      have turn : through Prod.fst (step :: steps) (cameFrom (.field field) text) =
          through Prod.fst steps
            (replace Prod.fst step.1.mark step.2 (cameFrom (.field field) text)) := rfl
      have absent : ¬ step.1.mark <:+: text := by
        intro present
        have fewer : (replace Prod.fst step.1.mark step.2 (cameFrom (.field field) text)).countP
            (isFrom (.field field)) < (cameFrom (.field field) text).countP (isFrom (.field field)) := by
          apply countP_replace_lt others.1
          · obtain ⟨_, _, shape, _⟩ := (mark_opens step.1).shape
            simp [shape]
          · intro item member
            obtain ⟨char, _, rfl⟩ := List.mem_map.mp member
            exact beq_self_eq_true _
          · rwa [map_fst_cameFrom]
        have later := countP_through_le (replace Prod.fst step.1.mark step.2
          (cameFrom (.field field) text)) others.2
        rw [← turn, same] at later
        omega
      refine ⟨absent, ih others.2 ?_⟩
      rw [turn, replace_absent] at same
      · exact same
      · rwa [map_fst_cameFrom]

theorem not_mem_later (field : Field) : field ∉ field.later := by
  cases field <;> decide

theorem countP_cameFrom {hole other : Hole} (differ : other ≠ hole) (text : List Char) :
    (cameFrom other text).countP (isFrom hole) = 0 := by
  rw [List.countP_eq_zero]
  intro item member
  obtain ⟨char, _, rfl⟩ := List.mem_map.mp member
  simpa [isFrom] using differ

theorem laterSteps_others (values : Field → List Char) (field : Field) :
    ∀ step ∈ laterSteps (tracedValues values) field,
      step.2.countP (isFrom (.field field)) = 0 := by
  intro step member
  obtain ⟨other, later, rfl⟩ := List.mem_map.mp member
  apply countP_cameFrom
  rintro same
  cases same
  exact not_mem_later field later

theorem retrySteps_others (json : List Char) (field : Field) :
    ∀ step ∈ retrySteps (cameFrom .retryContextJson json),
      step.2.countP (isFrom (.field field)) = 0 := by
  have differ : Hole.retryContextJson ≠ .field field := nofun
  simp only [retrySteps, List.forall_mem_cons]
  exact ⟨rfl, rfl, countP_cameFrom differ json, nofun⟩

theorem isLiteral_cameFrom (hole : Hole) (text : List Char) :
    ∀ item ∈ cameFrom hole text, isLiteral item = false := by
  intro item member
  obtain ⟨char, _, rfl⟩ := List.mem_map.mp member
  rfl

/-- No text of a field takes anything from the template. -/
theorem isLiteral_through {field : Field} {steps : List (Hole × List (Char × Option Hole))}
    (inserted : ∀ step ∈ steps, ∀ item ∈ step.2, isLiteral item = false) :
    ∀ item ∈ through Prod.fst steps (tracedValues values field), isLiteral item = false := by
  intro item member
  rcases mem_through member with own | ⟨step, listed, new⟩
  · exact isLiteral_cameFrom _ _ item own
  · exact inserted step listed item new

theorem laterSteps_inserted (values : Field → List Char) (field : Field) :
    ∀ step ∈ laterSteps (tracedValues values) field, ∀ item ∈ step.2, isLiteral item = false := by
  intro step member
  obtain ⟨other, _, rfl⟩ := List.mem_map.mp member
  exact isLiteral_cameFrom _ _

theorem retrySteps_inserted (json : List Char) :
    ∀ step ∈ retrySteps (cameFrom .retryContextJson json), ∀ item ∈ step.2,
      isLiteral item = false := by
  simp only [retrySteps, List.forall_mem_cons]
  exact ⟨nofun, nofun, isLiteral_cameFrom _ _, nofun⟩

theorem body_literals : ∀ part ∈ printed fromTemplate templateBody,
    part.2 ≠ [] ∧ ∀ item ∈ part.2, isLiteral item = true := by
  intro part member
  obtain ⟨original, listed, rfl⟩ := List.mem_map.mp member
  have stands := literals_steady original.2 (List.mem_cons_of_mem _ (by
    rw [templateParts, List.map_append, List.map_map]
    exact List.mem_append_left _ (List.mem_map.mpr ⟨original, listed, rfl⟩)))
  constructor
  · intro empty
    rw [List.map_eq_nil_iff.mp empty] at stands
    cases stands
  · intro item inside
    obtain ⟨char, _, rfl⟩ := List.mem_map.mp inside
    rfl

theorem field_in_body {α : Type} (plain : Char → α) (field : Field) :
    ∃ part ∈ printed plain templateBody, part.1 = field := by
  have listed : field ∈ templateBody.map Prod.fst := by cases field <;> decide
  obtain ⟨original, member, same⟩ := List.mem_map.mp listed
  exact ⟨_, List.mem_map_of_mem member, same⟩

theorem value_in_body (values : Field → List Char) (field : Field) :
    values field <:+: (bodyText fromTemplate (tracedValues values)).map Prod.fst := by
  obtain ⟨part, member, rfl⟩ := field_in_body fromTemplate field
  have inside : tracedValues values part.1 <:+: bodyText fromTemplate (tracedValues values) :=
    infix_spell member
  have shown := inside.map Prod.fst
  rwa [tracedValues, map_fst_cameFrom] at shown

/-- The texts of the fields can be read off the text above the section. -/
theorem bodyText_inj {first second : Field → List (Char × Option Hole)}
    (firstMarked : ∀ field, ∀ item ∈ first field, isLiteral item = false)
    (secondMarked : ∀ field, ∀ item ∈ second field, isLiteral item = false)
    (same : bodyText fromTemplate first = bodyText fromTemplate second) (field : Field) :
    first field = second field := by
  obtain ⟨part, member, rfl⟩ := field_in_body fromTemplate field
  exact spell_inj body_literals (fun part _ => ⟨firstMarked part.1, secondMarked part.1⟩) same
    part member

theorem verbatim_of_unhijacked {retryContext : Option (List Char)}
    (unhijacked : Unhijacked values retryContext.isSome) : Verbatim values retryContext := by
  apply renderWith_intended fun _ => rfl
  have texts : (fun field => (tracedValues values field).map Prod.fst) = values :=
    funext fun field => map_fst_cameFrom _ _
  rwa [texts, Option.isSome_map]

theorem unhijacked_of_verbatim_retry {json : List Char} (verbatim : Verbatim values (some json)) :
    Unhijacked values true := by
  have shown : ∀ char, Prod.fst (fromTemplate char) = char := fun _ => rfl
  have same := verbatim
  rw [Verbatim, Option.map_some, renderWith_some shown, Option.some.injEq, intended] at same
  have bodies := List.append_cancel_right same
  intro field
  have own := bodyText_inj (fun field => isLiteral_through (List.forall_mem_append.mpr
    ⟨laterSteps_inserted values field, retrySteps_inserted json⟩))
    (fun field => isLiteral_cameFrom _ _) bodies field
  have absent := absent_of_through (List.forall_mem_append.mpr
    ⟨laterSteps_others values field, retrySteps_others json field⟩) own
  rw [List.forall_mem_append] at absent
  simp only [retrySteps, List.forall_mem_cons] at absent
  refine ⟨?_, absent.2.1, absent.2.2.1, fun _ => absent.2.2.2.1⟩
  intro other later
  exact absent.1 _ (List.mem_map_of_mem later)

theorem getLast?_text {first second : String} {char : Char}
    (ends : second.toList.getLast? = some char) :
    (first ++ second).toList.getLast? = some char := by
  rw [String.toList_append, List.getLast?_append, ends, Option.some_or]

/-- The text above the section ends in a newline of the template. -/
theorem bodyText_last (texts : Field → List (Char × Option Hole)) :
    ∃ front, bodyText fromTemplate texts = front ++ [fromTemplate '\n'] := by
  have ends : rulesText.toList.getLast? = some '\n' := by
    have lastLine : ("9. Sets `confidence_threshold` per the system-prompt guidance.\n" :
        String).toList.getLast? = some '\n' := by
      rw [String.toList_ofList]
      rfl
    exact getLast?_text (getLast?_text (getLast?_text lastLine))
  have split : rulesText.toList = rulesText.toList.dropLast ++ ['\n'] :=
    (List.dropLast_append_getLast? _ ends).symm
  obtain ⟨early, shape⟩ : ∃ early, templateBody = early ++ [(Field.findingId, rulesText)] :=
    ⟨templateBody.dropLast, rfl⟩
  refine ⟨spell (templateFirst.toList.map fromTemplate) (printed fromTemplate early) texts ++
    (texts .findingId ++ rulesText.toList.dropLast.map fromTemplate), ?_⟩
  have lastPart : rulesText.toList.map fromTemplate =
      rulesText.toList.dropLast.map fromTemplate ++ [fromTemplate '\n'] := by
    nth_rewrite 1 [split]
    rw [List.map_append]
    rfl
  rw [bodyText, shape, printed, List.map_append, spell_append]
  simp only [List.map_cons, List.map_nil, List.flatMap_cons, List.flatMap_nil, List.append_nil,
    lastPart, List.append_assoc]
  rfl

theorem sectionText_last : ∃ front, sectionText.map fromTemplate =
    front ++ [fromTemplate '\x7d'] := by
  refine ⟨(sectionFront ++ ('\x7b' :: '%' :: ' ' :: ("endif".toList ++ [' ', '%']))).map
    fromTemplate, ?_⟩
  simp only [sectionText, Hole.mark, statement, bracketed, List.map_append, List.map_cons,
    List.map_nil, List.append_assoc, List.cons_append, List.nil_append]

/-- The template's own characters above the section, whatever the texts of the fields. -/
theorem filter_bodyText {texts : Field → List (Char × Option Hole)}
    (marked : ∀ field, ∀ item ∈ texts field, isLiteral item = false) :
    (bodyText fromTemplate texts).filter isLiteral = templateFirst.toList.map fromTemplate ++
      (printed fromTemplate templateBody).flatMap Prod.snd := by
  apply filter_spell
  · intro item member
    obtain ⟨char, _, rfl⟩ := List.mem_map.mp member
    rfl
  · exact fun part member => (body_literals part member).2
  · exact fun part _ => marked part.1

theorem unhijacked_of_verbatim (verbatim : Verbatim values none) : Unhijacked values false := by
  have shown : ∀ char, Prod.fst (fromTemplate char) = char := fun _ => rfl
  let texts : Field → List (Char × Option Hole) :=
    fun field => afterFields Prod.fst fromTemplate (tracedValues values) (.field field)
  have textsMarked : ∀ field, ∀ item ∈ texts field, isLiteral item = false :=
    fun field => isLiteral_through (laterSteps_inserted values field)
  have ownMarked : ∀ field, ∀ item ∈ tracedValues values field, isLiteral item = false :=
    fun field => isLiteral_cameFrom _ _
  obtain ⟨start, startBound, startFound⟩ :=
    indexOf_ifRetryContext shown texts [fromTemplate '\n']
  obtain ⟨stop, stopBound, stopFound⟩ := indexOf_endIf shown texts [fromTemplate '\n']
  have same : (bodyText fromTemplate texts ++ sectionText.map fromTemplate ++
        [fromTemplate '\n']).take start ++ (bodyText fromTemplate texts ++
          sectionText.map fromTemplate ++ [fromTemplate '\n']).drop
            (stop + Hole.endIf.mark.length) =
      bodyText fromTemplate (tracedValues values) ++ [fromTemplate '\n'] := by
    have rendered := verbatim
    rw [Verbatim, Option.map_none,
      renderWith_none shown (filledText_afterFields _) startFound stopFound] at rendered
    exact Option.some.inj rendered
  have literals : (bodyText fromTemplate (tracedValues values)).filter isLiteral =
      (bodyText fromTemplate texts).filter isLiteral := by
    rw [filter_bodyText ownMarked, filter_bodyText textsMarked]
  obtain ⟨front, bodyEnds⟩ := bodyText_last texts
  obtain ⟨middle, sectionEnds⟩ := sectionText_last
  have cut : start = (bodyText fromTemplate texts).length ∧ stop + Hole.endIf.mark.length =
      (bodyText fromTemplate texts ++ sectionText.map fromTemplate).length := by
    rw [bodyEnds, sectionEnds] at same stopBound ⊢
    rw [bodyEnds] at literals startBound
    exact cut_eq rfl rfl (List.forall_mem_singleton.mpr rfl) (by decide) literals startBound
      stopBound same
  -- the cut is where it should be, so the texts came through and the markers were not in them
  rw [cut.1, cut.2, List.drop_left, List.append_assoc, List.take_left,
    List.append_cancel_right_eq] at same
  intro field
  have own := bodyText_inj textsMarked ownMarked same field
  have inside : ∀ hole : Hole, hole.mark <:+: values field →
      hole.mark <:+: (bodyText fromTemplate texts).map Prod.fst := by
    intro hole present
    rw [same]
    exact present.trans (value_in_body values field)
  have absent := absent_of_through (laterSteps_others values field) own
  refine ⟨fun other later => absent _ (List.mem_map_of_mem later), ?_, ?_, nofun⟩
  · intro present
    obtain ⟨index, found, bound⟩ := indexOf_of_present (inside .ifRetryContext present)
      (sectionText.map fromTemplate ++ [fromTemplate '\n'])
    rw [← List.append_assoc, startFound] at found
    have early := Option.some.inj found
    have long : 0 < Hole.ifRetryContext.mark.length := by
      rw [Hole.mark, statement, bracketed, List.length_cons]
      omega
    omega
  · intro present
    obtain ⟨index, found, bound⟩ := indexOf_of_present (inside .endIf present)
      (sectionText.map fromTemplate ++ [fromTemplate '\n'])
    rw [← List.append_assoc, stopFound] at found
    have early := Option.some.inj found
    have total := cut.2
    rw [sectionEnds, List.length_append, List.length_append, List.length_singleton] at total
    omega

theorem verbatim_iff_unhijacked (values : Field → List Char) (retryContext : Option (List Char)) :
    Verbatim values retryContext ↔ Unhijacked values retryContext.isSome := by
  constructor
  · intro verbatim
    cases retryContext with
    | none => exact unhijacked_of_verbatim verbatim
    | some json => exact unhijacked_of_verbatim_retry verbatim
  · exact verbatim_of_unhijacked

end Traced

section Prompts

variable {α : Type} {key : α → Char} {plain : Char → α}

theorem map_through (steps : List (Hole × List α)) (text : List α) :
    (through key steps text).map key =
      through id (steps.map fun step => (step.1, step.2.map key)) (text.map key) := by
  induction steps generalizing text with
  | nil => rfl
  | cons step steps ih =>
      have first : through key (step :: steps) text =
          through key steps (replace key step.1.mark step.2 text) := rfl
      rw [first, ih, map_replace]
      rfl

theorem map_spell {η : Type} (first : List Char) (parts : List (η × String))
    (content : η → List α) (shows : ∀ char, key (plain char) = char) :
    (spell (first.map plain) (printed plain parts) content).map key =
      spell (first.map id) (printed id parts) fun hole => (content hole).map key := by
  simp only [spell, printed, List.map_append, List.flatMap_map, List.map_flatMap,
    map_printed shows, List.map_id]

/-- The characters of a traced rendering are those of the plain one. -/
theorem map_renderWith (shows : ∀ char, key (plain char) = char) (values : Field → List α)
    (retryContext : Option (List α)) :
    (renderWith key plain values retryContext).map (List.map key) =
      renderWith id id (fun field => (values field).map key) (retryContext.map (List.map key)) := by
  have template : (templateText plain).map key = templateText id := by
    rw [templateText, map_spell _ _ _ shows]
    simp only [map_printed shows, templateText, List.map_id]
  have rendered : (through key (fieldSteps values) (templateText plain)).map key =
      through id (fieldSteps fun field => (values field).map key) (templateText id) := by
    rw [map_through, template, fieldSteps, List.map_map]
    rfl
  simp only [renderWith, ← rendered, indexOf_map]
  cases indexOf key Hole.ifRetryContext.mark (through key (fieldSteps values) (templateText plain)) with
  | none => rfl
  | some start =>
      cases retryContext with
      | some json =>
          simp only [Option.isSome_some, if_true, Option.map_some, map_through]
          rfl
      | none =>
          cases indexOf key Hole.endIf.mark
            (through key (fieldSteps values) (templateText plain)) with
          | none => rfl
          | some stop => simp [List.map_take, List.map_drop]

theorem map_intended (shows : ∀ char, key (plain char) = char) (values : Field → List α)
    (retryContext : Option (List α)) :
    (intended plain values retryContext).map key =
      intended id (fun field => (values field).map key) (retryContext.map (List.map key)) := by
  cases retryContext with
  | none =>
      simp only [intended, bodyText, List.map_append, map_spell _ _ _ shows, List.map_singleton,
        shows, Option.map_none, id]
  | some json =>
      simp only [intended, filledText, bodyText, List.map_append, List.map_cons,
        map_spell _ _ _ shows, map_printed shows, shows, Option.map_some, List.map_nil, List.map_id,
        id]

variable {texts : Texts} {session : PolicyGenerationSession} {values : Field → String}

/-- The prompt is the system text and what the template means for these texts of the fields, and
it is so character by character. -/
structure VerbatimPrompt (texts : Texts) (system : String) (session : PolicyGenerationSession)
    (values : Field → String) : Prop where
  traced : Verbatim (fun field => (values field).toList) (retryContextText texts session)
  text : renderPrompt texts system session = some (system ++ "\n\n" ++ String.ofList
    (intended id (fun field => (values field).toList) (retryContextText texts session)))

theorem renderPrompt_of_texts (system : String)
    (strings : ∀ field, fieldText texts session field = some (values field)) :
    renderPrompt texts system session =
      (renderWith id id (fun field => (values field).toList)
        (retryContextText texts session)).map fun rendered =>
          system ++ "\n\n" ++ String.ofList rendered := by
  have all : (Field.all.all fun field => (fieldText texts session field).isSome) = true := by
    rw [List.all_eq_true]
    intro field _
    rw [strings field]
    rfl
  rw [renderPrompt, if_pos all]
  simp only [strings, Option.getD_some]

theorem retryContextText_isSome (texts : Texts) (session : PolicyGenerationSession) :
    (retryContextText texts session).isSome = !session.validationErrors.isEmpty := by
  rw [retryContextText]
  cases session.validationErrors.isEmpty <;> rfl

theorem verbatimPrompt_of_traced (system : String)
    (strings : ∀ field, fieldText texts session field = some (values field))
    (traced : Verbatim (fun field => (values field).toList) (retryContextText texts session)) :
    VerbatimPrompt texts system session values := by
  refine ⟨traced, ?_⟩
  have shown : ∀ char, Prod.fst (fromTemplate char) = char := fun _ => rfl
  have erased := congrArg (Option.map (List.map Prod.fst)) traced
  rw [map_renderWith shown, Option.map_some, map_intended shown] at erased
  have own : (fun field => (tracedValues (fun field => (values field).toList) field).map Prod.fst) =
      fun field => (values field).toList := funext fun field => map_fst_cameFrom _ _
  have retry : ((retryContextText texts session).map (cameFrom .retryContextJson)).map
      (List.map Prod.fst) = retryContextText texts session := by
    rw [Option.map_map]
    exact (Option.map_congr fun json _ => map_fst_cameFrom _ json).trans Option.map_id_apply
  rw [own, retry] at erased
  rw [renderPrompt_of_texts system strings, erased, Option.map_some]

/-- For a session whose finding has texts for its fields, the prompt is what the template means
exactly if no text has a mark in it that is still to come. -/
theorem renderPrompt_verbatim_iff (texts : Texts) (system : String)
    (session : PolicyGenerationSession) (values : Field → String)
    (strings : ∀ field, fieldText texts session field = some (values field)) :
    VerbatimPrompt texts system session values ↔
      Unhijacked (fun field => (values field).toList) (!session.validationErrors.isEmpty) := by
  rw [← retryContextText_isSome texts session, ← verbatim_iff_unhijacked]
  exact ⟨VerbatimPrompt.traced, verbatimPrompt_of_traced system strings⟩

/-- Texts without the braces of placeholders and statements are safe. -/
theorem unhijacked_of_calm {values : Field → List Char} (quiet : ∀ field, calm (values field) = true)
    (retrying : Bool) : Unhijacked values retrying :=
  fun field => ⟨fun other _ => (mark_opens (.field other)).absent (quiet field),
    (mark_opens .ifRetryContext).absent (quiet field), (mark_opens .endIf).absent (quiet field),
    fun _ => (mark_opens .retryContextJson).absent (quiet field)⟩

/-- A session with the given finding id, and nothing else in the finding. -/
def bareSession (findingId : String) : PolicyGenerationSession where
  sessionId := "s-1"
  tenantId := "tenant-a"
  correlationId := "c-1"
  originatingFinding := [("finding_id", .str findingId)]
  startedAt := 0

def bareValues (findingId : String) : Field → String
  | .tenantId => "tenant-a"
  | .findingId => findingId
  | .vehicleScopeJson => "[]"
  | .candidateSignalsJson => "[]"
  | .upstreamConfidence => "0.0"
  | .sessionId => "s-1"
  | .anomalyType | .hypothesisClass | .hypothesisStatement => ""

theorem bareSession_texts (floatRepr : Rat → String) (findingId : String) (field : Field) :
    fieldText ⟨floatRepr, fun _ => "0.0"⟩ (bareSession findingId) field =
      some (bareValues findingId field) := by
  cases field <;> rfl

theorem renderPrompt_verbatim_bare :
    VerbatimPrompt ⟨fun _ => "0.0", fun _ => "0.0"⟩ "system" (bareSession "f-1") (bareValues "f-1") := by
  apply (renderPrompt_verbatim_iff _ "system" _ _ (bareSession_texts _ "f-1")).mpr
  apply unhijacked_of_calm
  intro field
  cases field <;> decide +kernel

/-- A finding whose id is the placeholder of the session id: the session id stands in its place. -/
theorem renderPrompt_hijacked :
    let findingId := String.ofList (Hole.field .sessionId).mark
    let values := fun field => (bareValues findingId field).toList
    afterFields Prod.fst fromTemplate (tracedValues values) (.field .findingId) =
        cameFrom (.field .sessionId) "s-1".toList ∧
      ¬ VerbatimPrompt ⟨fun _ => "0.0", fun _ => "0.0"⟩ "system" (bareSession findingId)
        (bareValues findingId) := by
  intro findingId values
  have own : values .findingId = (Hole.field .sessionId).mark := String.toList_ofList
  constructor
  · have shown : (tracedValues values .findingId).map Prod.fst = (Hole.field .sessionId).mark := by
      rw [tracedValues, map_fst_cameFrom, own]
    have split : laterSteps (tracedValues values) .findingId =
        [Field.anomalyType, .hypothesisClass, .hypothesisStatement, .vehicleScopeJson,
          .candidateSignalsJson, .upstreamConfidence].map
            (fun other => (Hole.field other, tracedValues values other)) ++
          [(.field .sessionId, tracedValues values .sessionId)] := rfl
    have early : through Prod.fst ([Field.anomalyType, .hypothesisClass, .hypothesisStatement,
        .vehicleScopeJson, .candidateSignalsJson, .upstreamConfidence].map
          fun other => (Hole.field other, tracedValues values other)) (tracedValues values .findingId) =
            tracedValues values .findingId := by
      apply through_absent
      intro step member
      rw [shown]
      apply marks_apart
      rintro same
      obtain ⟨other, listed, rfl⟩ := List.mem_map.mp member
      cases same
      revert listed
      decide
    have nonempty : tracedValues values .findingId ≠ [] := by
      intro empty
      rw [empty] at shown
      cases shown
    have turn : replace Prod.fst (Hole.field .sessionId).mark (tracedValues values .sessionId)
        (tracedValues values .findingId) = tracedValues values .sessionId :=
      replace_self nonempty shown
    rw [afterFields, split, through_append, early]
    exact turn
  · intro verbatim
    have unhijacked := (verbatim_iff_unhijacked _ _).mp verbatim.traced
    apply (unhijacked .findingId).1 .sessionId (by decide)
    exact own ▸ List.infix_rfl

end Prompts

end CollectMind.Graph
