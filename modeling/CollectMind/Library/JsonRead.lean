import Mathlib.Tactic.IntervalCases
import CollectMind.Library.CanonicalJson

set_option autoImplicit false

/- `json.loads`: the reader of JSON text, with its blanks, escapes and numbers, and that it reads
back what `json.dumps` writes. -/
namespace Python

section Strings

/-- A string behind its opening quote. The first argument bounds its length. -/
def scanString : Nat → List Char → Option (List Char × List Char)
  | 0, _ => none
  | bound + 1, text =>
    if text.head? = some '"' then some ([], text.tail)
    else do
      let (char, rest) ← scanChar text
      let (chars, rest) ← scanString bound rest
      some (char :: chars, rest)

theorem scanString_escape (text rest : List Char) :
    ∀ bound, text.length < bound →
      scanString bound (text.flatMap escapeChar ++ '"' :: rest) = some (text, rest) := by
  induction text with
  | nil =>
      intro bound enough
      obtain ⟨bound, rfl⟩ := Nat.exists_eq_succ_of_ne_zero (Nat.pos_iff_ne_zero.mp enough)
      rfl
  | cons char text ih =>
      intro bound enough
      obtain ⟨bound, rfl⟩ := Nat.exists_eq_succ_of_ne_zero
        (Nat.pos_iff_ne_zero.mp (Nat.zero_lt_of_lt enough))
      obtain ⟨first, others, shape, differ⟩ := escapeChar_head char
      have opened : ((char :: text).flatMap escapeChar ++ '"' :: rest).head? ≠ some '"' := by
        rw [List.flatMap_cons, shape]
        simpa using differ
      have read := scanChar_escapeChar char (text.flatMap escapeChar ++ '"' :: rest)
      rw [scanString, if_neg opened, List.flatMap_cons, List.append_assoc, read]
      simp only [Option.bind_eq_bind, Option.bind_some]
      rw [ih bound (by simpa using enough)]
      rfl

end Strings

section Numbers

/-- `0|[1-9]\d*` here, and what comes after it. -/
def scanNatural (text : List Char) : Option (List Char × List Char) :=
  if text.head? = some '0' then some (['0'], text.tail)
  else if text.head?.any Char.isDigit then
    some (text.takeWhile Char.isDigit, text.dropWhile Char.isDigit)
  else none

def scanInteger (text : List Char) : Option (List Char × List Char) :=
  if text.head? = some '-' then (scanNatural text.tail).map fun read => ('-' :: read.1, read.2)
  else scanNatural text

/-- `(\.\d+)?`. -/
def scanFraction : List Char → List Char × List Char
  | '.' :: rest =>
    if rest.head?.any Char.isDigit then
      ('.' :: rest.takeWhile Char.isDigit, rest.dropWhile Char.isDigit)
    else ([], '.' :: rest)
  | text => ([], text)

/-- `([eE][-+]?\d+)?`. -/
def scanExponent : List Char → List Char × List Char
  | [] => ([], [])
  | letter :: rest =>
    if letter = 'e' ∨ letter = 'E' then
      let sign := rest.take (if rest.head? = some '-' ∨ rest.head? = some '+' then 1 else 0)
      let digits := rest.drop sign.length
      if digits.head?.any Char.isDigit then
        (letter :: (sign ++ digits.takeWhile Char.isDigit), digits.dropWhile Char.isDigit)
      else ([], letter :: rest)
    else ([], letter :: rest)

/-- A number, given the float that a text denotes. -/
def scanNumber (floatOf : String → PyFloat) (text : List Char) : Option (Json × List Char) :=
  (scanInteger text).map fun integer =>
    let fraction := scanFraction integer.2
    let exponent := scanExponent fraction.2
    if fraction.1.isEmpty && exponent.1.isEmpty then (.int (intOfText integer.1), exponent.2)
    else (.float (floatOf (String.ofList (integer.1 ++ fraction.1 ++ exponent.1))), exponent.2)

/-- No number could go on here. -/
def Ends (rest : List Char) : Prop :=
  ∀ char ∈ rest.head?, (char.isDigit || char == '.' || char == 'e' || char == 'E') = false

theorem ends_cons {char : Char}
    (other : (char.isDigit || char == '.' || char == 'e' || char == 'E') = false)
    (rest : List Char) : Ends (char :: rest) := by
  intro first here
  cases here
  exact other

theorem Ends.no_digit {rest : List Char} (ends : Ends rest) :
    rest.takeWhile Char.isDigit = [] ∧ rest.dropWhile Char.isDigit = rest := by
  cases rest with
  | nil => exact ⟨rfl, rfl⟩
  | cons char rest =>
      have digit : char.isDigit = false := by
        have other := ends char rfl
        simp only [Bool.or_eq_false_iff] at other
        exact other.1.1.1
      exact ⟨List.takeWhile_cons_of_neg (by simp [digit]),
        List.dropWhile_cons_of_neg (by simp [digit])⟩

theorem Ends.scanFraction {rest : List Char} (ends : Ends rest) :
    Python.scanFraction rest = ([], rest) := by
  unfold Python.scanFraction
  split
  · have other := ends '.' rfl
    cases other
  · rfl

theorem Ends.scanExponent {rest : List Char} (ends : Ends rest) :
    Python.scanExponent rest = ([], rest) := by
  cases rest with
  | nil => rfl
  | cons char rest =>
      have other := ends char rfl
      simp only [Bool.or_eq_false_iff, beq_eq_false_iff_ne] at other
      rw [Python.scanExponent, if_neg]
      rintro (rfl | rfl)
      · exact other.1.2 rfl
      · exact other.2 rfl

theorem head_toDigits_pos {value : Nat} (positive : 0 < value) :
    (Nat.toDigits 10 value).head? ≠ some '0' := by
  induction value using Nat.strong_induction_on with
  | _ value ih =>
      rw [Nat.toDigits_eq_if (by decide)]
      split
      · rename_i small
        interval_cases value <;> decide
      · rename_i large
        have before := ih (value / 10) (by omega) (by omega)
        obtain ⟨first, rest, shape⟩ :=
          List.exists_cons_of_ne_nil (@Nat.toDigits_ne_nil (value / 10) 10)
        rw [shape] at before ⊢
        exact before

theorem scanNatural_repr (value : Nat) {rest : List Char} (ends : Ends rest) :
    scanNatural (value.repr.toList ++ rest) = some (value.repr.toList, rest) := by
  rw [Nat.toList_repr]
  rcases Nat.eq_zero_or_pos value with rfl | positive
  · rfl
  · have all : ∀ char ∈ Nat.toDigits 10 value, char.isDigit = true :=
      fun char member => Nat.isDigit_of_mem_toDigits (by decide) (by decide) member
    have first := head_toDigits_pos positive
    obtain ⟨char, digits, shape⟩ := List.exists_cons_of_ne_nil (@Nat.toDigits_ne_nil value 10)
    have digit : char.isDigit = true := all char (by rw [shape]; exact List.mem_cons_self)
    have head : (Nat.toDigits 10 value ++ rest).head? = some char := by rw [shape]; rfl
    rw [shape, List.head?_cons] at first
    rw [scanNatural, head, if_neg first, Option.any_some, if_pos digit,
      List.takeWhile_append_of_pos all, List.dropWhile_append_of_pos all, ends.no_digit.1,
      ends.no_digit.2, List.append_nil]

theorem scanInteger_toString (value : Int) {rest : List Char} (ends : Ends rest) :
    scanInteger ((toString value).toList ++ rest) = some ((toString value).toList, rest) := by
  cases value with
  | ofNat value =>
      change scanInteger (value.repr.toList ++ rest) = some (value.repr.toList, rest)
      have unsigned : (value.repr.toList ++ rest).head? ≠ some '-' := by
        have unsigned := head_toDigits_unsigned value
        obtain ⟨char, digits, shape⟩ := List.exists_cons_of_ne_nil (@Nat.toDigits_ne_nil value 10)
        rw [Nat.toList_repr, shape]
        rwa [shape] at unsigned
      rw [scanInteger, if_neg unsigned, scanNatural_repr value ends]
  | negSucc value =>
      rw [negSucc_text, List.cons_append, scanInteger, List.head?_cons, if_pos rfl, List.tail_cons,
        scanNatural_repr (value + 1) ends]
      rfl

theorem scanNumber_toString (floatOf : String → PyFloat) (value : Int) {rest : List Char}
    (ends : Ends rest) :
    scanNumber floatOf ((toString value).toList ++ rest) = some (.int value, rest) := by
  rw [scanNumber, scanInteger_toString value ends, Option.map_some]
  simp only [ends.scanFraction, ends.scanExponent, intOfText_toString, List.isEmpty_nil,
    Bool.and_self, if_true]

end Numbers

section Values

/-- What may stand between two tokens. -/
def blank (char : Char) : Bool := char == ' ' || char == '\t' || char == '\n' || char == '\r'

def skipBlanks (text : List Char) : List Char := text.dropWhile blank

section Containers

variable {α : Type} (read : List Char → Option (α × List Char)) (closing : Char)

/-- The items of a container up to its closing bracket; the number bounds how many there are. -/
def scanItems : Nat → List Char → Option (List α × List Char)
  | 0, _ => none
  | bound + 1, text =>
    match read text with
    | none => none
    | some (item, rest) =>
      match skipBlanks rest with
      | [] => none
      | next :: rest =>
        if next = ',' then
          (scanItems bound (skipBlanks rest)).map fun more => (item :: more.1, more.2)
        else if next = closing then some ([item], rest)
        else none

/-- A container behind its opening bracket. -/
def scanContainer (text : List Char) : Option (List α × List Char) :=
  let text := skipBlanks text
  if text.head? = some closing then some ([], text.tail) else scanItems read closing text.length text

end Containers

/-- A key, a colon and a value. -/
def scanMember (value : List Char → Option (Json × List Char)) (text : List Char) :
    Option ((String × Json) × List Char) :=
  if text.head? = some '"' then
    match scanString text.length text.tail with
    | none => none
    | some (key, rest) =>
      let rest := skipBlanks rest
      if rest.head? = some ':' then
        (value (skipBlanks rest.tail)).map fun read => ((String.ofList key, read.1), read.2)
      else none
  else none

/-- Of a key that comes twice the last value stands. -/
def dictOf (members : List (String × Json)) : Dict :=
  members.foldl (fun dict member => dict.set member.1 member.2) []

def scanWord (word : String) (value : Json) (text : List Char) : Option (Json × List Char) :=
  if word.toList.isPrefixOf text then some (value, text.drop word.toList.length) else none

/-- What the first character of a value says about the rest. -/
inductive Start where
  | string
  | array
  | object
  | word (text : String) (value : Json)
  | number

def startOf : Char → Start
  | '"' => .string
  | '[' => .array
  | '\x7b' => .object
  | 'n' => .word "null" .null
  | 't' => .word "true" (.bool true)
  | 'f' => .word "false" (.bool false)
  | 'N' => .word "NaN" (.float .nan)
  | 'I' => .word "Infinity" (.float .posInf)
  | _ => .number

/-- A value with less than so many containers around one another. -/
def scanValue (floatOf : String → PyFloat) : Nat → List Char → Option (Json × List Char)
  | 0, _ => none
  | _ + 1, [] => none
  | depth + 1, first :: rest =>
    match startOf first with
    | .string =>
      (scanString (rest.length + 1) rest).map fun read => (.str (String.ofList read.1), read.2)
    | .array =>
      (scanContainer (scanValue floatOf depth) ']' rest).map fun read => (.arr read.1, read.2)
    | .object =>
      (scanContainer (scanMember (scanValue floatOf depth)) '\x7d' rest).map fun read =>
        (.obj (dictOf read.1), read.2)
    | .word text value => scanWord text value (first :: rest)
    | .number =>
      (scanNumber floatOf (first :: rest)).or (scanWord "-Infinity" (.float .negInf) (first :: rest))

/-- `json.loads(text)`; `none` is a `JSONDecodeError`. -/
def loads (floatOf : String → PyFloat) (text : List Char) : Option Json :=
  match scanValue floatOf (text.length + 1) (skipBlanks text) with
  | none => none
  | some (value, rest) => if (skipBlanks rest).isEmpty then some value else none

end Values

section RoundTrip

theorem skipBlanks_cons {char : Char} (shown : blank char = false) (rest : List Char) :
    skipBlanks (char :: rest) = char :: rest := List.dropWhile_cons_of_neg (by simp [shown])

/-- The text begins with something that is no blank and does not close a container. -/
def Opening (closing : Char) (text : List Char) : Prop :=
  ∃ first rest, text = first :: rest ∧ blank first = false ∧ first ≠ closing

variable {α : Type} {read : List Char → Option (α × List Char)} {write : α → List Char}
  {closing : Char}

/-- Items between commas and blanks are read one by one. -/
theorem scanItems_separated (shown : blank closing = false) (apart : closing ≠ ',')
    (number : Ends [closing]) {item : α} {items : List α} (rest : List Char)
    (opens : ∀ other ∈ item :: items, Opening closing (write other))
    (reads : ∀ other ∈ item :: items, ∀ rest, Ends rest →
      read (write other ++ rest) = some (other, rest)) :
    ∀ bound, items.length < bound →
      scanItems read closing bound
          (write item ++ (items.flatMap (fun other => ',' :: ' ' :: write other) ++ closing :: rest)) =
        some (item :: items, rest) := by
  induction items generalizing item with
  | nil =>
      intro bound enough
      obtain ⟨bound, rfl⟩ := Nat.exists_eq_succ_of_ne_zero (Nat.pos_iff_ne_zero.mp enough)
      have ends : Ends (closing :: rest) := ends_cons (number closing rfl) rest
      rw [List.flatMap_nil, List.nil_append, scanItems, reads item List.mem_cons_self _ ends]
      simp only [skipBlanks_cons shown, if_neg apart, if_true]
  | cons next items ih =>
      intro bound enough
      obtain ⟨bound, rfl⟩ := Nat.exists_eq_succ_of_ne_zero
        (Nat.pos_iff_ne_zero.mp (Nat.zero_lt_of_lt enough))
      have later := ih (fun other member => opens other (List.mem_cons_of_mem _ member))
        (fun other member => reads other (List.mem_cons_of_mem _ member)) bound
        (by simpa using enough)
      obtain ⟨first, more, shape, visible, _⟩ :=
        opens next (List.mem_cons_of_mem _ List.mem_cons_self)
      rw [List.flatMap_cons, List.cons_append, List.cons_append, List.append_assoc, scanItems,
        reads item List.mem_cons_self _ (ends_cons (by decide) _)]
      have passed : skipBlanks (' ' :: (write next ++
          (items.flatMap (fun other => ',' :: ' ' :: write other) ++ closing :: rest))) =
          write next ++ (items.flatMap (fun other => ',' :: ' ' :: write other) ++
            closing :: rest) := by
        rw [shape]
        exact skipBlanks_cons visible _
      simp only [skipBlanks_cons (show blank ',' = false by decide), if_true, List.cons_append,
        passed, later, Option.map_some]

/-- The text of a container behind its first bracket, with a blank after each comma. -/
def spaced (closing : Char) : List (List Char) → List Char
  | [] => [closing]
  | item :: items => item ++ (items.flatMap (fun item => ',' :: ' ' :: item) ++ [closing])

theorem enclose_plain (level : Nat) (opening closing : Char) (items : List (List Char)) :
    enclose .plain level opening closing items = opening :: spaced closing items := by
  have joined : ∀ (item : List Char) (items : List (List Char)),
      [',', ' '].intercalate (item :: items) =
        item ++ items.flatMap (fun item => ',' :: ' ' :: item) := by
    intro item items
    induction items generalizing item with
    | nil => simp
    | cons next items ih =>
        rw [List.intercalate_cons_cons, ih, List.flatMap_cons]
        simp
  cases items with
  | nil => rfl
  | cons item items =>
      have text : enclose .plain level opening closing (item :: items) =
          opening :: ([',', ' '].intercalate (item :: items) ++ [closing]) := rfl
      rw [text, joined, List.append_assoc]
      rfl

theorem length_spaced {items : List α} (opens : ∀ item ∈ items, Opening closing (write item)) :
    items.length < (spaced closing (items.map write)).length := by
  have each : ∀ others : List α, others.length ≤
      ((others.map write).flatMap fun item => ',' :: ' ' :: item).length := by
    intro others
    induction others with
    | nil => exact Nat.le_refl 0
    | cons other others ih =>
        simp only [List.map_cons, List.flatMap_cons, List.length_cons, List.length_append]
        omega
  cases items with
  | nil => exact Nat.zero_lt_one
  | cons item items =>
      obtain ⟨first, rest, shape, _⟩ := opens item List.mem_cons_self
      have others := each items
      simp only [List.map_cons, spaced, shape, List.length_cons, List.length_append,
        List.length_nil]
      omega

theorem scanContainer_spaced (shown : blank closing = false) (apart : closing ≠ ',')
    (number : Ends [closing]) {items : List α} (rest : List Char)
    (opens : ∀ item ∈ items, Opening closing (write item))
    (reads : ∀ item ∈ items, ∀ rest, Ends rest → read (write item ++ rest) = some (item, rest)) :
    scanContainer read closing (spaced closing (items.map write) ++ rest) = some (items, rest) := by
  have long := length_spaced opens
  cases items with
  | nil =>
      rw [scanContainer, List.map_nil, spaced, List.singleton_append, skipBlanks_cons shown]
      exact if_pos rfl
  | cons item items =>
      obtain ⟨first, more, shape, visible, other⟩ := opens item List.mem_cons_self
      have text : spaced closing ((item :: items).map write) ++ rest = write item ++
          (items.flatMap (fun other => ',' :: ' ' :: write other) ++ closing :: rest) := by
        simp [spaced, List.flatMap_map]
      have passed : skipBlanks (spaced closing ((item :: items).map write) ++ rest) =
          spaced closing ((item :: items).map write) ++ rest := by
        rw [text, shape]
        exact skipBlanks_cons visible _
      have inside : (spaced closing ((item :: items).map write) ++ rest).head? ≠ some closing := by
        rw [text, shape]
        simpa using other
      rw [scanContainer, passed, if_neg inside]
      have bound : items.length < (spaced closing ((item :: items).map write) ++ rest).length := by
        rw [List.length_cons] at long
        rw [List.length_append]
        omega
      rw [text] at bound ⊢
      exact scanItems_separated shown apart number rest opens reads _ bound

/-- A field as it stands in the text. -/
def spacedEntry (repr : Rat → String) (level : Nat) (field : String × Json) : List Char :=
  quote field.1.toList ++ ':' :: ' ' :: dumps .plain repr level field.2

variable (repr : Rat → String) (floatOf : String → PyFloat)

theorem dumps_plain_arr (level : Nat) (items : List Json) :
    dumps .plain repr level (.arr items) =
      '[' :: spaced ']' (items.map (dumps .plain repr (level + 1))) := by
  rw [dumps, dumpsItems_eq, enclose_plain]

theorem dumps_plain_obj (level : Nat) (fields : Dict) :
    dumps .plain repr level (.obj fields) =
      '\x7b' :: spaced '\x7d' (fields.map (spacedEntry repr (level + 1))) := by
  rw [dumps, dumpsFields_eq]
  simp only [DumpsStyle.plain, Bool.false_eq_true, if_false, List.map_map]
  rw [show (⟨none, [',', ' '], [':', ' '], false⟩ : DumpsStyle) = .plain from rfl, enclose_plain]
  congr 2
  apply List.map_congr_left
  intro field _
  simp [spacedEntry]

theorem dictOf_distinct {fields : Dict} (distinct : (fields.map Prod.fst).Nodup) :
    dictOf fields = fields := by
  have append : ∀ (later earlier : Dict), ((earlier ++ later).map Prod.fst).Nodup →
      later.foldl (fun dict member => dict.set member.1 member.2) earlier = earlier ++ later := by
    intro later
    induction later with
    | nil =>
        intro earlier _
        exact (List.append_nil earlier).symm
    | cons field later ih =>
        intro earlier distinct
        have fresh : Dict.hasKey earlier field.1 = false := by
          rw [Dict.hasKey, Option.isSome_eq_false_iff, Option.isNone_iff_eq_none]
          apply Dict.get_eq_none
          intro other member same
          rw [List.map_append, List.nodup_append] at distinct
          exact distinct.2.2 other.1 (List.mem_map_of_mem member) field.1 (by simp) same
        have set : earlier.set field.1 field.2 = earlier ++ [field] := by
          rw [Dict.set, fresh]
          rfl
        have split : earlier ++ field :: later = earlier ++ [field] ++ later := by simp
        rw [split] at distinct ⊢
        rw [List.foldl_cons, set, ih _ distinct]
  exact append fields [] distinct

theorem startOf_numeral {char : Char} (known : numeral char = true) : startOf char = .number := by
  unfold startOf
  split
  case h_9 => rfl
  all_goals cases known

theorem numeral_opening {char : Char} (known : numeral char = true) :
    blank char = false ∧ char ≠ ']' := by
  constructor
  · cases shown : blank char with
    | false => rfl
    | true =>
        simp only [blank, Bool.or_eq_true, beq_iff_eq] at shown
        rcases shown with ((rfl | rfl) | rfl) | rfl <;> cases known
  · rintro rfl
    cases known

theorem dumps_opening {value : Json} (plain : Plain value) (level : Nat) :
    Opening ']' (dumps .plain repr level value) := by
  cases plain with
  | null => exact ⟨'n', ['u', 'l', 'l'], by rw [dumps]; decide, by decide, by decide⟩
  | bool value =>
      cases value with
      | false => exact ⟨'f', ['a', 'l', 's', 'e'], by rw [dumps]; decide, by decide, by decide⟩
      | true => exact ⟨'t', ['r', 'u', 'e'], by rw [dumps]; decide, by decide, by decide⟩
  | int value =>
      obtain ⟨first, rest, shape⟩ := List.exists_cons_of_ne_nil (int_ne_nil value)
      have known := int_numerals value first (by rw [shape]; exact List.mem_cons_self)
      exact ⟨first, rest, by rw [dumps, shape], numeral_opening known⟩
  | str value => exact ⟨'"', _, by rw [dumps, quote], by decide, by decide⟩
  | arr all => exact ⟨'[', _, dumps_plain_arr repr level _, by decide, by decide⟩
  | obj distinct all => exact ⟨'\x7b', _, dumps_plain_obj repr level _, by decide, by decide⟩

theorem length_escape (text : List Char) : text.length ≤ (text.flatMap escapeChar).length := by
  induction text with
  | nil => exact Nat.le_refl 0
  | cons char text ih =>
      obtain ⟨first, rest, shape, _⟩ := escapeChar_head char
      rw [List.flatMap_cons, List.length_append, shape, List.length_cons, List.length_cons]
      omega

theorem scanString_quote (text rest : List Char) {bound : Nat}
    (enough : (quote text ++ rest).length ≤ bound + 1) :
    scanString bound (text.flatMap escapeChar ++ '"' :: rest) = some (text, rest) := by
  apply scanString_escape
  have short := length_escape text
  simp only [quote, List.cons_append, List.length_cons, List.length_append, List.append_assoc,
    List.length_nil] at enough
  omega

theorem scanMember_entry {value : List Char → Option (Json × List Char)} {field : String × Json}
    {level : Nat} {rest : List Char} (opens : Opening ']' (dumps .plain repr level field.2))
    (reads : value (dumps .plain repr level field.2 ++ rest) = some (field.2, rest)) :
    scanMember value (spacedEntry repr level field ++ rest) = some (field, rest) := by
  obtain ⟨first, more, shape, shown, _⟩ := opens
  have text : spacedEntry repr level field ++ rest = '"' :: (field.1.toList.flatMap escapeChar ++
      '"' :: ':' :: ' ' :: (dumps .plain repr level field.2 ++ rest)) := by
    simp [spacedEntry, quote]
  have key : scanString (spacedEntry repr level field ++ rest).length
      (field.1.toList.flatMap escapeChar ++
        '"' :: ':' :: ' ' :: (dumps .plain repr level field.2 ++ rest)) =
      some (field.1.toList, ':' :: ' ' :: (dumps .plain repr level field.2 ++ rest)) :=
    scanString_quote _ _ (by simp [spacedEntry])
  have passed : skipBlanks (' ' :: (dumps .plain repr level field.2 ++ rest)) =
      dumps .plain repr level field.2 ++ rest := by
    rw [shape]
    exact skipBlanks_cons shown _
  rw [text] at key ⊢
  rw [scanMember, List.head?_cons, if_pos rfl, List.tail_cons, key]
  simp only [skipBlanks_cons (show blank ':' = false by decide), List.head?_cons, if_true,
    List.tail_cons, passed, reads, Option.map_some, String.ofList_toList]

theorem scanWord_self (word : String) (value : Json) (rest : List Char) :
    scanWord word value (word.toList ++ rest) = some (value, rest) := by
  have here : word.toList.isPrefixOf (word.toList ++ rest) = true :=
    List.isPrefixOf_iff_prefix.mpr (List.prefix_append _ _)
  rw [scanWord, if_pos here, List.drop_left]

theorem length_le_spaced {text : List Char} {texts : List (List Char)} (member : text ∈ texts) :
    text.length ≤ (spaced closing texts).length := by
  cases texts with
  | nil => cases member
  | cons first texts =>
      rw [spaced, List.length_append]
      rcases List.mem_cons.mp member with rfl | later
      · exact Nat.le_add_right _ _
      · have inside : text <:+: texts.flatMap fun item => ',' :: ' ' :: item := by
          obtain ⟨before, after, rfl⟩ := List.append_of_mem later
          refine ⟨before.flatMap (fun item => ',' :: ' ' :: item) ++ [',', ' '],
            after.flatMap (fun item => ',' :: ' ' :: item), ?_⟩
          simp
        have shorter := inside.length_le
        rw [List.length_append]
        omega

theorem dumps_depth {value : Json} (plain : Plain value) {level depth : Nat}
    (deep : (dumps .plain repr level value).length ≤ depth) : ∃ less, depth = less + 1 := by
  obtain ⟨first, more, shape, _⟩ := dumps_opening repr plain level
  rw [shape, List.length_cons] at deep
  exact ⟨depth - 1, by omega⟩

/-- Whatever stands after it, a value is read back from the text that `json.dumps` writes. -/
theorem scanValue_dumps {value : Json} (plain : Plain value) {level depth : Nat} {rest : List Char}
    (deep : (dumps .plain repr level value).length ≤ depth) (ends : Ends rest) :
    scanValue floatOf depth (dumps .plain repr level value ++ rest) = some (value, rest) := by
  obtain ⟨less, rfl⟩ := dumps_depth repr plain deep
  induction plain generalizing level less rest with
  | null =>
      have word : scanValue floatOf (less + 1) (dumps .plain repr level .null ++ rest) =
          scanWord "null" .null ("null".toList ++ rest) := by rw [dumps]; rfl
      rw [word, scanWord_self]
  | bool value =>
      cases value with
      | false =>
          have word : scanValue floatOf (less + 1) (dumps .plain repr level (.bool false) ++ rest) =
              scanWord "false" (.bool false) ("false".toList ++ rest) := by rw [dumps]; rfl
          rw [word, scanWord_self]
      | true =>
          have word : scanValue floatOf (less + 1) (dumps .plain repr level (.bool true) ++ rest) =
              scanWord "true" (.bool true) ("true".toList ++ rest) := by rw [dumps]; rfl
          rw [word, scanWord_self]
  | int value =>
      have number := scanNumber_toString floatOf value ends
      obtain ⟨first, more, shape⟩ := List.exists_cons_of_ne_nil (int_ne_nil value)
      have known := int_numerals value first (by rw [shape]; exact List.mem_cons_self)
      rw [dumps]
      rw [shape, List.cons_append] at number ⊢
      rw [scanValue, startOf_numeral known]
      simp only [number, Option.some_or]
  | str value =>
      have text : dumps .plain repr level (.str value) ++ rest =
          '"' :: (value.toList.flatMap escapeChar ++ '"' :: rest) := by
        rw [dumps, quote]
        simp
      have read : scanString ((value.toList.flatMap escapeChar ++ '"' :: rest).length + 1)
          (value.toList.flatMap escapeChar ++ '"' :: rest) = some (value.toList, rest) :=
        scanString_quote _ _ (by simp [quote])
      rw [text, scanValue, show startOf '"' = .string from rfl]
      simp only [read, Option.map_some, String.ofList_toList]
  | @arr items all ih =>
      rw [dumps_plain_arr, List.length_cons] at deep
      have reads : ∀ item ∈ items, ∀ rest, Ends rest →
          scanValue floatOf less (dumps .plain repr (level + 1) item ++ rest) =
            some (item, rest) := by
        intro item member rest ends
        have short : (dumps .plain repr (level + 1) item).length ≤ less :=
          Nat.le_trans (length_le_spaced (List.mem_map_of_mem member)) (Nat.le_of_succ_le_succ deep)
        obtain ⟨less, rfl⟩ := dumps_depth repr (all item member) short
        exact ih item member ends less short
      have body := scanContainer_spaced (by decide) (by decide) (ends_cons (by decide) [])
        rest (fun item member => dumps_opening repr (all item member) (level + 1)) reads
      rw [dumps_plain_arr, List.cons_append, scanValue, show startOf '[' = .array from rfl]
      simp only [body, Option.map_some]
  | @obj fields distinct all ih =>
      rw [dumps_plain_obj, List.length_cons] at deep
      have reads : ∀ field ∈ fields, ∀ rest, Ends rest →
          scanMember (scanValue floatOf less) (spacedEntry repr (level + 1) field ++ rest) =
            some (field, rest) := by
        intro field member rest ends
        have entry : (spacedEntry repr (level + 1) field).length ≤ less :=
          Nat.le_trans (length_le_spaced (List.mem_map_of_mem member)) (Nat.le_of_succ_le_succ deep)
        have short : (dumps .plain repr (level + 1) field.2).length ≤ less := by
          rw [spacedEntry, List.length_append, List.length_cons, List.length_cons] at entry
          omega
        apply scanMember_entry repr (dumps_opening repr (all field member) (level + 1))
        obtain ⟨less, rfl⟩ := dumps_depth repr (all field member) short
        exact ih field member ends less short
      have opens : ∀ field ∈ fields, Opening '\x7d' (spacedEntry repr (level + 1) field) :=
        fun field _ => ⟨'"', _, rfl, by decide, by decide⟩
      have body := scanContainer_spaced (by decide) (by decide) (ends_cons (by decide) []) rest opens
        reads
      rw [dumps_plain_obj, List.cons_append, scanValue, show startOf '\x7b' = .object from rfl]
      simp only [body, Option.map_some, dictOf_distinct distinct]

/-- `json.loads(json.dumps(value))` is the value. -/
theorem loads_dumps {value : Json} (plain : Plain value) :
    loads floatOf (dumps .plain repr 0 value) = some value := by
  obtain ⟨first, rest, shape, shown, _⟩ := dumps_opening repr plain 0
  have passed : skipBlanks (dumps .plain repr 0 value) = dumps .plain repr 0 value := by
    rw [shape]
    exact skipBlanks_cons shown rest
  have ends : Ends [] := nofun
  have read := scanValue_dumps repr floatOf plain (Nat.le_succ (dumps .plain repr 0 value).length) ends
  rw [List.append_nil] at read
  rw [loads, passed, read]
  rfl

end RoundTrip

end Python
