import Mathlib.Data.List.Infix

set_option autoImplicit false

/- The methods of Python's strings that a program decides by, on texts of ASCII letters, and what a
text begins with. -/
namespace Python

/-- `str.startswith`. -/
def startsWith (text start : String) : Bool := start.toList.isPrefixOf text.toList

/-- `str.lower`. -/
def lower (text : String) : List Char := text.toList.map Char.toLower

/-- `needle in text`. -/
def occursIn (needle : List Char) : List Char → Bool
  | [] => needle.isEmpty
  | char :: rest => needle.isPrefixOf (char :: rest) || occursIn needle rest

/-- `str.isspace` of one character. -/
def isSpace (char : Char) : Bool :=
  [9, 10, 11, 12, 13, 28, 29, 30, 31, 32, 133, 160, 5760, 8232, 8233, 8239, 8287, 12288].contains
      char.toNat ||
    (8192 ≤ char.toNat && char.toNat ≤ 8202)

/-- `str.strip`. -/
def strip (text : List Char) : String :=
  String.ofList ((text.dropWhile isSpace).reverse.dropWhile isSpace).reverse

/-- `str.split`. -/
def split (text : String) : List String :=
  ((text.toList.splitOnP isSpace).filter fun word => !word.isEmpty).map String.ofList

section Prefixes

variable {fixed start rest : String}

theorem startsWith_iff {text : String} :
    startsWith text start = true ↔ start.toList <+: text.toList := by
  rw [startsWith, List.isPrefixOf_iff_prefix]

/-- A text begins with nothing that parts from its own beginning. -/
theorem startsWith_apart (ahead : ¬ start.toList <+: fixed.toList)
    (behind : ¬ fixed.toList <+: start.toList) (rest : String) :
    startsWith (fixed ++ rest) start = false := by
  rw [Bool.eq_false_iff, ne_eq, startsWith_iff, String.toList_append]
  intro begins
  rcases List.prefix_or_prefix_of_prefix begins (List.prefix_append fixed.toList rest.toList) with
    shorter | longer
  · exact ahead shorter
  · exact behind longer

theorem startsWith_inside (inside : start.toList <+: fixed.toList) (rest : String) :
    startsWith (fixed ++ rest) start = true := by
  rw [startsWith_iff, String.toList_append]
  exact inside.trans (List.prefix_append _ _)

/-- What both begin with plays no part. -/
theorem startsWith_append (fixed start rest : String) :
    startsWith (fixed ++ rest) (fixed ++ start) = startsWith rest start := by
  rw [Bool.eq_iff_iff, startsWith_iff, startsWith_iff, String.toList_append, String.toList_append,
    List.prefix_append_right_inj]

theorem append_ne (apart : ¬ fixed.toList <+: start.toList) (rest : String) :
    fixed ++ rest ≠ start := by
  intro same
  apply apart
  rw [← same, String.toList_append]
  exact List.prefix_append _ _

end Prefixes

/-- Neither text continues the other. -/
def diverge (first second : String) : Bool :=
  !first.toList.isPrefixOf second.toList && !second.toList.isPrefixOf first.toList

theorem startsWith_diverge {fixed start : String} (apart : diverge fixed start = true) (rest : String) :
    startsWith (fixed ++ rest) start = false ∧ fixed ++ rest ≠ start := by
  simp only [diverge, Bool.and_eq_true, Bool.not_eq_true', Bool.eq_false_iff, ne_eq,
    List.isPrefixOf_iff_prefix] at apart
  exact ⟨startsWith_apart apart.2 apart.1 rest, append_ne apart.1 rest⟩

theorem any_startsWith_diverge {fixed : String} {starts : List String}
    (apart : ∀ start ∈ starts, diverge fixed start = true) (rest : String) :
    starts.any (startsWith (fixed ++ rest)) = false := by
  rw [List.any_eq_false]
  intro start member begins
  rw [(startsWith_diverge (apart start member) rest).1] at begins
  cases begins

end Python
