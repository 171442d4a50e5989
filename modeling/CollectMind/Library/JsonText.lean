import Mathlib.Data.List.Sort
import Mathlib.Data.String.Basic
import CollectMind.Library.Json

set_option autoImplicit false

/- The text that `json.dumps` writes: its escapes, which `json.loads` undoes one by one, its
separators, indents and sorted keys. -/
namespace Python

section Strings

/-- The escapes of two characters, by their letter. -/
def shortEscape : Char → Option Char
  | '"' => some '"'
  | '\\' => some '\\'
  | '\n' => some 'n'
  | '\r' => some 'r'
  | '\t' => some 't'
  | '\x0c' => some 'f'
  | '\x08' => some 'b'
  | _ => none

def hexDigit (digit : Nat) : Char := Char.ofNat (if digit < 10 then 48 + digit else 87 + digit)

/-- `\uXXXX`. -/
def unicodeEscape (unit : Nat) : List Char :=
  ['\\', 'u', hexDigit (unit / 4096 % 16), hexDigit (unit / 256 % 16), hexDigit (unit / 16 % 16),
    hexDigit (unit % 16)]

/-- One character with `ensure_ascii`; beyond the first plane it takes two surrogates. -/
def escapeChar (char : Char) : List Char :=
  match shortEscape char with
  | some letter => ['\\', letter]
  | none =>
    if 0x20 ≤ char.toNat ∧ char.toNat ≤ 0x7e then [char]
    else if char.toNat < 0x10000 then unicodeEscape char.toNat
    else unicodeEscape (0xd800 + (char.toNat - 0x10000) / 0x400) ++
      unicodeEscape (0xdc00 + (char.toNat - 0x10000) % 0x400)

def quote (text : List Char) : List Char := '"' :: (text.flatMap escapeChar ++ ['"'])

/-- The letters after a backslash, without `u`. -/
def unescape : Char → Option Char
  | '"' => some '"'
  | '\\' => some '\\'
  | '/' => some '/'
  | 'b' => some '\x08'
  | 'f' => some '\x0c'
  | 'n' => some '\n'
  | 'r' => some '\r'
  | 't' => some '\t'
  | _ => none

def hexOf (digit : Char) : Option Nat :=
  if digit.isDigit then some (digit.toNat - 48)
  else if 'a' ≤ digit && digit ≤ 'f' then some (digit.toNat - 87)
  else if 'A' ≤ digit && digit ≤ 'F' then some (digit.toNat - 55)
  else none

/-- The four digits after `\u`. -/
def scanUnit : List Char → Option (Nat × List Char)
  | a :: b :: c :: d :: rest => do
    let a ← hexOf a
    let b ← hexOf b
    let c ← hexOf c
    let d ← hexOf d
    some (((a * 16 + b) * 16 + c) * 16 + d, rest)
  | _ => none

/-- What comes after `\u`: one unit, or two that make a pair. A surrogate on its own is refused,
since no `String` has it. -/
def scanUnicode (text : List Char) : Option (Char × List Char) := do
  let (unit, rest) ← scanUnit text
  if 0xd800 ≤ unit ∧ unit ≤ 0xdbff then
    match rest with
    | '\\' :: 'u' :: more => do
      let (low, rest) ← scanUnit more
      if 0xdc00 ≤ low ∧ low ≤ 0xdfff then
        some (Char.ofNat (0x10000 + (unit - 0xd800) * 0x400 + (low - 0xdc00)), rest)
      else none
    | _ => none
  else if 0xdc00 ≤ unit ∧ unit ≤ 0xdfff then none
  else some (Char.ofNat unit, rest)

/-- One character of a string; with `strict`, control characters have to be escaped. -/
def scanChar : List Char → Option (Char × List Char)
  | '\\' :: 'u' :: rest => scanUnicode rest
  | '\\' :: letter :: rest => (unescape letter).map fun char => (char, rest)
  | char :: rest => if char = '\\' ∨ char.toNat < 0x20 then none else some (char, rest)
  | [] => none

theorem hexOf_hexDigit : ∀ digit, digit < 16 → hexOf (hexDigit digit) = some digit := by decide

theorem scanUnit_unicodeEscape {unit : Nat} (small : unit < 0x10000) (rest : List Char) :
    scanUnit ((unicodeEscape unit).drop 2 ++ rest) = some (unit, rest) := by
  have digit : ∀ place, hexOf (hexDigit (unit / place % 16)) = some (unit / place % 16) :=
    fun place => hexOf_hexDigit _ (Nat.mod_lt _ (by decide))
  have last := digit 1
  rw [Nat.div_one] at last
  have value : ((unit / 4096 % 16 * 16 + unit / 256 % 16) * 16 + unit / 16 % 16) * 16 + unit % 16 =
      unit := by omega
  simp [unicodeEscape, scanUnit, digit, last, value]

theorem char_valid (char : Char) :
    char.toNat < 0xd800 ∨ 0xdfff < char.toNat ∧ char.toNat < 0x110000 := char.valid

theorem scanUnicode_single {unit : Nat} (small : unit < 0x10000)
    (single : unit < 0xd800 ∨ 0xdfff < unit) (rest : List Char) :
    scanUnicode ((unicodeEscape unit).drop 2 ++ rest) = some (Char.ofNat unit, rest) := by
  have high : ¬ (0xd800 ≤ unit ∧ unit ≤ 0xdbff) := by omega
  have low : ¬ (0xdc00 ≤ unit ∧ unit ≤ 0xdfff) := by omega
  rw [scanUnicode, scanUnit_unicodeEscape small]
  simp [high, low]

theorem scanUnicode_pair {value : Nat} (small : value < 0x100000) (rest : List Char) :
    scanUnicode ((unicodeEscape (0xd800 + value / 0x400)).drop 2 ++
        (unicodeEscape (0xdc00 + value % 0x400) ++ rest)) =
      some (Char.ofNat (0x10000 + value), rest) := by
  have high : 0xd800 ≤ 0xd800 + value / 0x400 ∧ 0xd800 + value / 0x400 ≤ 0xdbff := by omega
  have low : 0xdc00 ≤ 0xdc00 + value % 0x400 ∧ 0xdc00 + value % 0x400 ≤ 0xdfff := by omega
  have second := scanUnit_unicodeEscape (show 0xdc00 + value % 0x400 < 0x10000 by omega) rest
  have joined : 0x10000 + (0xd800 + value / 0x400 - 0xd800) * 0x400 +
      (0xdc00 + value % 0x400 - 0xdc00) = 0x10000 + value := by omega
  have shape : unicodeEscape (0xdc00 + value % 0x400) ++ rest = '\\' :: 'u' ::
      ((unicodeEscape (0xdc00 + value % 0x400)).drop 2 ++ rest) := rfl
  rw [scanUnicode, scanUnit_unicodeEscape (by omega), shape]
  simp only [Option.bind_eq_bind, Option.bind_some, if_pos high, second, if_pos low, joined]

theorem scanChar_unicodeEscape (unit : Nat) (rest : List Char) :
    scanChar (unicodeEscape unit ++ rest) = scanUnicode ((unicodeEscape unit).drop 2 ++ rest) := rfl

theorem shortEscape_unescape {char letter : Char} (short : shortEscape char = some letter) :
    letter ≠ 'u' ∧ unescape letter = some char := by
  unfold shortEscape at short
  split at short
  case h_8 => cases short
  all_goals
    cases short
    decide

theorem scanChar_escapeChar (char : Char) (rest : List Char) :
    scanChar (escapeChar char ++ rest) = some (char, rest) := by
  have valid := char_valid char
  unfold escapeChar
  split
  · rename_i letter short
    have spec := shortEscape_unescape short
    simp [scanChar, spec.1, spec.2]
  · rename_i long
    have slash : char ≠ '\\' := by
      rintro rfl
      cases long
    split
    · rename_i printable
      simp [scanChar, slash, printable.1]
    · split
      · rename_i small
        have read := scanUnicode_single small (by omega) rest
        rw [scanChar_unicodeEscape, read, Char.ofNat_toNat]
      · rename_i large
        have read := scanUnicode_pair (show char.toNat - 0x10000 < 0x100000 by omega) rest
        have back : 0x10000 + (char.toNat - 0x10000) = char.toNat := by omega
        rw [List.append_assoc, scanChar_unicodeEscape, read, back, Char.ofNat_toNat]

theorem escapeChar_head (char : Char) : ∃ first rest, escapeChar char = first :: rest ∧ first ≠ '"' := by
  unfold escapeChar
  split
  · exact ⟨_, _, rfl, by decide⟩
  · rename_i long
    split
    · refine ⟨char, [], rfl, ?_⟩
      rintro rfl
      cases long
    · split
      · exact ⟨_, _, rfl, by decide⟩
      · exact ⟨_, _, rfl, by decide⟩

/-- A text is read back from its escapes, and with it where they end. -/
theorem escape_append_inj {first second rest tail : List Char}
    (same : first.flatMap escapeChar ++ '"' :: rest = second.flatMap escapeChar ++ '"' :: tail) :
    first = second ∧ rest = tail := by
  have apart : ∀ (char : Char) (text more : List Char), '"' :: text ≠ escapeChar char ++ more := by
    intro char text more equal
    obtain ⟨head, others, shape, differ⟩ := escapeChar_head char
    rw [shape, List.cons_append, List.cons.injEq] at equal
    exact differ equal.1.symm
  induction first generalizing second with
  | nil =>
      cases second with
      | nil => exact ⟨rfl, (List.cons.inj same).2⟩
      | cons char second =>
          rw [List.flatMap_cons, List.append_assoc] at same
          exact absurd same (apart char rest _)
  | cons char first ih =>
      cases second with
      | nil =>
          rw [List.flatMap_cons, List.append_assoc] at same
          exact absurd same.symm (apart char tail _)
      | cons other second =>
          rw [List.flatMap_cons, List.flatMap_cons, List.append_assoc, List.append_assoc] at same
          have read := congrArg scanChar same
          rw [scanChar_escapeChar, scanChar_escapeChar, Option.some.injEq, Prod.mk.injEq] at read
          obtain ⟨texts, rests⟩ := ih read.2
          exact ⟨by rw [read.1, texts], rests⟩

theorem quote_append_inj {first second rest tail : List Char}
    (same : quote first ++ rest = quote second ++ tail) : first = second ∧ rest = tail := by
  simp only [quote, List.cons_append, List.append_assoc, List.nil_append, List.cons.injEq,
    true_and] at same
  exact escape_append_inj same

end Strings

section Dumps

/-- The arguments of `json.dumps` that the text depends on. -/
structure DumpsStyle where
  indent : Option Nat
  itemSeparator : List Char
  keySeparator : List Char
  sortKeys : Bool

/-- `json.dumps(value)`. -/
def DumpsStyle.plain : DumpsStyle := ⟨none, [',', ' '], [':', ' '], false⟩

/-- `json.dumps(value, indent=width)`. -/
def DumpsStyle.indented (width : Nat) : DumpsStyle := ⟨some width, [','], [':', ' '], false⟩

/-- `json.dumps(value, sort_keys=True, separators=(",", ":"))`. -/
def DumpsStyle.canonical : DumpsStyle := ⟨none, [','], [':'], true⟩

/-- The items of a container inside its brackets. -/
def enclose (style : DumpsStyle) (level : Nat) (opening closing : Char)
    (items : List (List Char)) : List Char :=
  if items.isEmpty then [opening, closing]
  else
    match style.indent with
    | none => opening :: (style.itemSeparator.intercalate items ++ [closing])
    | some width =>
      let newline (depth : Nat) := '\n' :: List.replicate (width * depth) ' '
      opening :: (newline (level + 1) ++
        (style.itemSeparator ++ newline (level + 1)).intercalate items ++ newline level ++ [closing])

/-- On one line, what stands after the first item does not depend on it. -/
theorem enclose_first {style : DumpsStyle} (flat : style.indent = none) (level : Nat)
    (opening closing : Char) (rest : List (List Char)) :
    ∃ back, ∀ item, enclose style level opening closing (item :: rest) =
      opening :: (item ++ back) := by
  cases rest with
  | nil =>
      refine ⟨[closing], ?_⟩
      intro item
      simp [enclose, flat]
  | cons next rest =>
      refine ⟨style.itemSeparator ++ style.itemSeparator.intercalate (next :: rest) ++ [closing], ?_⟩
      intro item
      simp [enclose, flat, List.intercalate_cons_cons]

def dumpsFloat (repr : Rat → String) : PyFloat → String
  | .finite value => repr value
  | .posInf => "Infinity"
  | .negInf => "-Infinity"
  | .nan => "NaN"

mutual

/-- `json.dumps` at a depth, given how a finite float is written. -/
def dumps (style : DumpsStyle) (repr : Rat → String) (level : Nat) : Json → List Char
  | .null => "null".toList
  | .bool value => if value then "true".toList else "false".toList
  | .int value => (toString value).toList
  | .float value => (dumpsFloat repr value).toList
  | .str value => quote value.toList
  | .arr items => enclose style level '[' ']' (dumpsItems style repr (level + 1) items)
  | .obj fields =>
    let written := dumpsFields style repr (level + 1) fields
    let ordered := if style.sortKeys then written.insertionSort (fun a b => a.1 ≤ b.1) else written
    enclose style level '\x7b' '\x7d'
      (ordered.map fun field => quote field.1.toList ++ style.keySeparator ++ field.2)

def dumpsItems (style : DumpsStyle) (repr : Rat → String) (level : Nat) :
    List Json → List (List Char)
  | [] => []
  | item :: rest => dumps style repr level item :: dumpsItems style repr level rest

def dumpsFields (style : DumpsStyle) (repr : Rat → String) (level : Nat) :
    List (String × Json) → List (String × List Char)
  | [] => []
  | (name, value) :: rest => (name, dumps style repr level value) :: dumpsFields style repr level rest

end

end Dumps

end Python
