import CollectMind.Library.Regex
import Mathlib.Data.Fin.Basic

set_option autoImplicit false

/- `_strip_pii` and `_pii_processor` of observability/logging.py. A Python string is a sequence of
code points, surrogates included. -/
namespace CollectMind.Observability

open Regex

abbrev CodePoint := Fin 0x110000

def point (char : Char) : CodePoint :=
  ⟨char.toNat, by
    have valid := char.valid
    simp only [UInt32.isValidChar, Nat.isValidChar] at valid
    change char.toNat < 0xd800 ∨ 0xdfff < char.toNat ∧ char.toNat < 0x110000 at valid
    omega⟩

def exactly (char : Char) (item : CodePoint) : Bool := item.val == char.toNat

/-- `[first-last]`. -/
def within (first last : Char) (item : CodePoint) : Bool :=
  decide (first.toNat ≤ item.val) && decide (item.val ≤ last.toNat)

/-- `[A-Za-z]`. -/
def letter (item : CodePoint) : Bool := within 'A' 'Z' item || within 'a' 'z' item

/-- What `\d`, `\s` and `\w` stand for in a pattern of text: classes of the Unicode database, with
their members among the ASCII characters. -/
structure CharClasses where
  digit : CodePoint → Bool
  space : CodePoint → Bool
  word : CodePoint → Bool
  digit_ascii : ∀ item, item.val < 128 → digit item = within '0' '9' item
  space_ascii : ∀ item, item.val < 128 →
    space item = (within '\t' '\r' item || within '\x1c' ' ' item)
  word_ascii : ∀ item, item.val < 128 →
    word item = (letter item || within '0' '9' item || exactly '_' item)
  word_of_digit : ∀ item, digit item = true → word item = true

section Patterns

variable (classes : CharClasses)

/-- `-?\d{1,3}\.\d{4,}`. -/
def coordinate : List (Atom CodePoint) :=
  [.items (exactly '-') 0 (some 1), .items classes.digit 1 (some 3),
    .items (exactly '.') 1 (some 1), .items classes.digit 4 none]

/-- `-?\d{1,3}\.\d{4,}\s*,\s*-?\d{1,3}\.\d{4,}`. -/
def coordinatePair : List (Atom CodePoint) :=
  coordinate classes ++ [.items classes.space 0 none, .items (exactly ',') 1 (some 1),
    .items classes.space 0 none] ++ coordinate classes

/-- `[-.\s]`. -/
def separator (item : CodePoint) : Bool :=
  exactly '-' item || exactly '.' item || classes.space item

/-- `\+?\d{1,3}[-.\s]?\(?\d{1,4}\)?[-.\s]?\d{3,4}[-.\s]?\d{4}`. -/
def phoneNumber : List (Atom CodePoint) :=
  [.items (exactly '+') 0 (some 1), .items classes.digit 1 (some 3),
    .items (separator classes) 0 (some 1), .items (exactly '(') 0 (some 1),
    .items classes.digit 1 (some 4), .items (exactly ')') 0 (some 1),
    .items (separator classes) 0 (some 1), .items classes.digit 3 (some 4),
    .items (separator classes) 0 (some 1), .items classes.digit 4 (some 4)]

/-- `[A-Za-z0-9.-]`. -/
def domainPart (item : CodePoint) : Bool :=
  letter item || within '0' '9' item || exactly '.' item || exactly '-' item

/-- `[A-Za-z0-9._%+-]`. -/
def localPart (item : CodePoint) : Bool :=
  domainPart item || exactly '_' item || exactly '%' item || exactly '+' item

/-- `[A-Za-z0-9._%+-]+@[A-Za-z0-9.-]+\.[A-Za-z]{2,}`. -/
def emailAddress : List (Atom CodePoint) :=
  [.items localPart 1 none, .items (exactly '@') 1 (some 1), .items domainPart 1 none,
    .items (exactly '.') 1 (some 1), .items letter 2 none]

/-- `\d{3}-\d{2}-\d{4}`. -/
def ssnDigits : List (Atom CodePoint) :=
  [.items classes.digit 3 (some 3), .items (exactly '-') 1 (some 1), .items classes.digit 2 (some 2),
    .items (exactly '-') 1 (some 1), .items classes.digit 4 (some 4)]

/-- `\b\d{3}-\d{2}-\d{4}\b`. -/
def ssn : List (Atom CodePoint) := .boundary :: (ssnDigits classes ++ [.boundary])

/-- `_PII_PATTERNS`. -/
def piiPatterns : List (List (Atom CodePoint)) :=
  [coordinatePair classes, phoneNumber classes, emailAddress, ssn classes]

end Patterns

/-- `_REDACTED`. -/
def redacted : List CodePoint := "[redacted]".toList.map point

/-- The values of a log event, as far as the processor tells them apart. -/
inductive LogValue (ω : Type) where
  | text (points : List CodePoint)
  | dict (entries : List (List CodePoint × LogValue ω))
  | other (value : ω)

section Processor

variable {ω : Type} (classes : CharClasses)

/-- `_strip_pii`. -/
def stripPii : LogValue ω → LogValue ω
  | .text points => .text (subAll classes.word (piiPatterns classes) redacted points)
  | value => value

/-- What `_pii_processor` puts in place of a value of the event. -/
def processed : LogValue ω → LogValue ω
  | .text points => stripPii classes (.text points)
  | .dict entries => .dict (entries.map fun entry => (entry.1, stripPii classes entry.2))
  | value => value

/-- `_pii_processor`. -/
def piiProcessor (event : List (List CodePoint × LogValue ω)) : List (List CodePoint × LogValue ω) :=
  event.map fun entry => (entry.1, processed classes entry.2)

end Processor

section Redaction

variable (classes : CharClasses)

theorem redacted_wrapped :
    redacted = wrapped (point '[') ("redacted".toList.map point) (point ']') := by
  decide +kernel

theorem false_of_all {points : List CodePoint} {check : CodePoint → Bool}
    (all : (points.all fun item => !check item) = true) : ∀ item ∈ points, check item = false := by
  intro item member
  simpa using List.all_eq_true.mp all item member

theorem redacted_ascii : ∀ item ∈ redacted, item.val < 128 := by
  have all : (redacted.all fun item => decide (item.val < 128)) = true := by decide +kernel
  intro item member
  exact of_decide_eq_true (List.all_eq_true.mp all item member)

theorem digit_redacted : ∀ item ∈ redacted, classes.digit item = false := by
  have all : (redacted.all fun item => !within '0' '9' item) = true := by decide +kernel
  intro item member
  rw [classes.digit_ascii item (redacted_ascii item member)]
  exact false_of_all all item member

theorem space_redacted : ∀ item ∈ redacted, classes.space item = false := by
  have all : (redacted.all fun item => !(within '\t' '\r' item || within '\x1c' ' ' item)) = true := by
    decide +kernel
  intro item member
  rw [classes.space_ascii item (redacted_ascii item member)]
  exact false_of_all all item member

theorem opening_mem : point '[' ∈ redacted := by decide +kernel

theorem closing_mem : point ']' ∈ redacted := by decide +kernel

theorem inner_mem {item : CodePoint} (inside : item ∈ "redacted".toList.map point) :
    item ∈ redacted := by
  rw [redacted_wrapped]
  exact List.mem_cons_of_mem _ (List.mem_append_left _ inside)

/-- The brackets of the replacement text are in no class of a pattern. -/
theorem takes_bracket {bracket : CodePoint} (member : bracket ∈ redacted)
    (fixed : (exactly '-' bracket || exactly '.' bracket || exactly ',' bracket ||
      exactly '+' bracket || exactly '(' bracket || exactly ')' bracket || exactly '@' bracket ||
      localPart bracket) = false) :
    ∀ pattern ∈ piiPatterns classes, ∀ atom ∈ pattern, atom.takes bracket = false := by
  have digit := digit_redacted classes bracket member
  have space := space_redacted classes bracket member
  simp only [localPart, domainPart, Bool.or_eq_false_iff] at fixed
  simp [piiPatterns, coordinatePair, coordinate, phoneNumber, emailAddress, ssn, ssnDigits,
    separator, localPart, domainPart, Atom.takes, digit, space, fixed]

theorem pattern_needs : ∀ pattern ∈ piiPatterns classes, ∃ belongs least most,
    .items belongs least most ∈ pattern ∧ 0 < least ∧
      ∀ item ∈ "redacted".toList.map point, belongs item = false := by
  have digits : ∀ item ∈ "redacted".toList.map point, classes.digit item = false :=
    fun item inside => digit_redacted classes item (inner_mem inside)
  have sign : (("redacted".toList.map point).all fun item => !exactly '@' item) = true := by
    decide +kernel
  simp only [piiPatterns, List.forall_mem_cons]
  refine ⟨⟨classes.digit, 1, some 3, ?_, by omega, digits⟩,
    ⟨classes.digit, 1, some 3, ?_, by omega, digits⟩,
    ⟨exactly '@', 1, some 1, ?_, by omega, false_of_all sign⟩,
    ⟨classes.digit, 3, some 3, ?_, by omega, digits⟩,
    List.forall_mem_nil _⟩
  · simp [coordinatePair, coordinate]
  · simp [phoneNumber]
  · simp [emailAddress]
  · simp [ssn, ssnDigits]

theorem patterns_apart : ∀ pattern ∈ piiPatterns classes,
    Apart pattern (point '[') ("redacted".toList.map point) (point ']') := by
  intro pattern listed
  have needs := pattern_needs classes pattern listed
  exact ⟨takes_bracket classes opening_mem (by decide +kernel) pattern listed,
    takes_bracket classes closing_mem (by decide +kernel) pattern listed, needs⟩

theorem coordinatePair_free : ∀ atom ∈ coordinatePair classes, atom.isBoundary = false := by
  simp [coordinatePair, coordinate, Atom.isBoundary]

theorem phoneNumber_free : ∀ atom ∈ phoneNumber classes, atom.isBoundary = false := by
  simp [phoneNumber, Atom.isBoundary]

theorem emailAddress_free : ∀ atom ∈ emailAddress, atom.isBoundary = false := by
  simp [emailAddress, Atom.isBoundary]

/-- A number beside a number is no match, since digits are word characters. -/
theorem ssn_seams (opening closing : CodePoint) :
    Seams classes.word (ssn classes) opening closing := by
  apply Seams.of_guarded
  · intro before after word holds
    obtain ⟨item, first, digit⟩ := head_of_matches (by omega) holds
    exact ⟨item, first, classes.word_of_digit item digit⟩
  · intro before after word holds
    obtain ⟨item, last, digit⟩ := last_of_matches (show 0 < 4 by omega)
      (show Matches classes.word ((ssnDigits classes).take 4 ++ [.items classes.digit 4 (some 4)])
        before word after from holds)
    exact ⟨item, last, classes.word_of_digit item digit⟩

theorem patterns_seams (opening closing : CodePoint) : ∀ pattern ∈ piiPatterns classes,
    Seams classes.word pattern opening closing := by
  simp only [piiPatterns, List.forall_mem_cons]
  exact ⟨.of_free (coordinatePair_free classes), .of_free (phoneNumber_free classes),
    .of_free emailAddress_free, ssn_seams classes opening closing, List.forall_mem_nil _⟩

/-- Only the last pattern has boundaries. -/
theorem patterns_free : (piiPatterns classes).Pairwise
    fun pattern _ => ∀ atom ∈ pattern, atom.isBoundary = false := by
  simp only [piiPatterns, List.pairwise_cons]
  exact ⟨fun _ _ => coordinatePair_free classes, fun _ _ => phoneNumber_free classes,
    fun _ _ => emailAddress_free, List.forall_mem_nil _, .nil⟩

/-- No pattern matches any part of the text. -/
def Clean (points : List CodePoint) : Prop :=
  ∀ pattern ∈ piiPatterns classes, Absent classes.word pattern points

theorem subAll_clean (points : List CodePoint) :
    Clean classes (subAll classes.word (piiPatterns classes) redacted points) := by
  rw [redacted_wrapped]
  exact subAll_absent (patterns_apart classes) (patterns_seams classes _ _) (patterns_free classes)
    points

theorem subAll_of_clean {points : List CodePoint} (clean : Clean classes points) :
    subAll classes.word (piiPatterns classes) redacted points = points :=
  subAll_of_absent (patterns_apart classes) redacted clean

theorem stripPii_stripPii {ω : Type} (value : LogValue ω) :
    stripPii classes (stripPii classes value) = stripPii classes value := by
  cases value with
  | text points => rw [stripPii, stripPii, subAll_of_clean classes (subAll_clean classes points)]
  | dict entries => rfl
  | other value => rfl

/-- The redacted text has no part that matches a pattern, word boundaries taken in the redacted
text, and redacting it again changes nothing. -/
theorem stripPii_complete_stable {ω : Type} (points : List CodePoint) :
    ∃ result, stripPii classes (LogValue.text points : LogValue ω) = .text result ∧
      (∀ pattern ∈ piiPatterns classes, ∀ front word back, result = front ++ (word ++ back) →
        ¬ Matches classes.word pattern front.getLast? word back.head?) ∧
      stripPii classes (LogValue.text result : LogValue ω) = .text result :=
  ⟨_, rfl, subAll_clean classes points, stripPii_stripPii classes (.text points)⟩

/-- The classes with no members beyond the ASCII characters. -/
def asciiClasses : CharClasses where
  digit := within '0' '9'
  space item := within '\t' '\r' item || within '\x1c' ' ' item
  word item := letter item || within '0' '9' item || exactly '_' item
  digit_ascii _ _ := rfl
  space_ascii _ _ := rfl
  word_ascii _ _ := rfl
  word_of_digit item digit := by rw [digit, Bool.or_true, Bool.true_or]

example : subAll asciiClasses.word (piiPatterns asciiClasses) redacted
    ("a.b@c.io 123-45-6789".toList.map point) = "[redacted] [redacted]".toList.map point := by
  decide +kernel

/-- The texts of a value that the processor looks at: not those of a dictionary in a dictionary. -/
def LogValue.reached {ω : Type} : LogValue ω → List (List CodePoint)
  | .text points => [points]
  | .dict entries => entries.filterMap fun entry =>
    match entry.2 with
    | .text points => some points
    | _ => none
  | .other _ => []

theorem reached_stripPii {ω : Type} {value : LogValue ω} {points : List CodePoint}
    (shown : stripPii classes value = .text points) : Clean classes points := by
  cases value with
  | text original =>
      cases shown
      exact subAll_clean classes original
  | dict entries => cases shown
  | other value => cases shown

/-- Every text that the processor looks at is clean afterwards. -/
theorem piiProcessor_clean {ω : Type} (event : List (List CodePoint × LogValue ω)) :
    ∀ entry ∈ piiProcessor classes event, ∀ points ∈ entry.2.reached, Clean classes points := by
  intro entry member points reached
  obtain ⟨original, _, rfl⟩ := List.mem_map.mp member
  dsimp only at reached
  cases value : original.2 with
  | text inner =>
      rw [value, processed, stripPii, LogValue.reached, List.mem_singleton] at reached
      rw [reached]
      exact subAll_clean classes inner
  | dict entries =>
      rw [value, processed, LogValue.reached] at reached
      obtain ⟨inner, listed, found⟩ := List.mem_filterMap.mp reached
      obtain ⟨field, _, rfl⟩ := List.mem_map.mp listed
      dsimp only at found
      split at found
      · rename_i shown
        cases found
        exact reached_stripPii classes shown
      · cases found
  | other value' =>
      rw [value] at reached
      cases reached

/-- The processor may run twice. -/
theorem piiProcessor_piiProcessor {ω : Type} (event : List (List CodePoint × LogValue ω)) :
    piiProcessor classes (piiProcessor classes event) = piiProcessor classes event := by
  have again : ∀ value : LogValue ω, processed classes (processed classes value) =
      processed classes value := by
    intro value
    cases value with
    | text points => exact stripPii_stripPii classes (.text points)
    | dict entries =>
        simp only [processed, List.map_map, Function.comp_def, stripPii_stripPii]
    | other value => rfl
  simp only [piiProcessor, List.map_map, Function.comp_def, again]

end Redaction

end CollectMind.Observability
