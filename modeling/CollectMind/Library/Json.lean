import Mathlib.Data.Rat.Defs
import Mathlib.Algebra.Order.Ring.Rat
import CollectMind.Library.Assoc
import CollectMind.Library.Checked

set_option autoImplicit false

/- JSON values as Python holds them after decoding, and how a schema library reads
them: which inputs a field accepts, in its lax mode, and which it refuses. -/
namespace Python

inductive PyFloat where
  | finite (value : Rat)
  | posInf
  | negInf
  | nan
  deriving DecidableEq, Repr

inductive Json where
  | null
  | bool (value : Bool)
  | int (value : Int)
  | float (value : PyFloat)
  | str (value : String)
  | arr (items : List Json)
  | obj (fields : List (String × Json))

/-- A dictionary with string keys, in insertion order. -/
abbrev Dict := List (String × Json)

def Dict.get (dict : Dict) (key : String) : Option Json := dict.lookup key

def Dict.hasKey (dict : Dict) (key : String) : Bool := (dict.lookup key).isSome

/-- `dict[key]`, with the text of the `KeyError` of a missing key. -/
def Dict.item (dict : Dict) (key : String) : Except String Json :=
  match dict.get key with
  | some value => .ok value
  | none => .error ("'" ++ key ++ "'")

/-- `dict.setdefault(key, value)`. -/
def Dict.setDefault (dict : Dict) (key : String) (value : Json) : Dict :=
  if dict.hasKey key then dict else dict ++ [(key, value)]

/-- The dictionary with the value under the key, wherever the key stands. -/
def Dict.set (dict : Dict) (key : String) (value : Json) : Dict :=
  if dict.hasKey key then dict.map fun field => if field.1 = key then (key, value) else field
  else dict ++ [(key, value)]

def Json.truthy : Json → Bool
  | .null => false
  | .bool value => value
  | .int value => value != 0
  | .float value => value != .finite 0
  | .str value => value != ""
  | .arr items => !items.isEmpty
  | .obj fields => !fields.isEmpty

/-- The value is this text. -/
def Json.isStr (text : String) : Json → Bool
  | .str value => value == text
  | _ => false

mutual

/-- A text is one of the strings of a value, at any depth. -/
def Json.mentions (text : String) : Json → Bool
  | .str value => value == text
  | .arr items => itemsMention text items
  | .obj fields => fieldsMention text fields
  | _ => false

def itemsMention (text : String) : List Json → Bool
  | [] => false
  | item :: rest => item.mentions text || itemsMention text rest

def fieldsMention (text : String) : List (String × Json) → Bool
  | [] => false
  | (_, value) :: rest => value.mentions text || fieldsMention text rest

end

/-- `list(value)`; iterating a number or a boolean raises. -/
def Json.toList : Json → Option (List Json)
  | .str value => some (value.toList.map fun char => .str char.toString)
  | .arr items => some items
  | .obj fields => some (fields.map fun field => .str field.1)
  | _ => none

/-- `value[index]` for an index from 0; `none` where it raises. -/
def Json.index : Json → Nat → Option Json
  | .str value, index => value.toList[index]?.map fun char => .str char.toString
  | .arr items, index => items[index]?
  | _, _ => none

/-- `int(value)`, given how a string is read; `none` where it raises. -/
def Json.toInt (intOfStr : String → Option Int) : Json → Option Int
  | .int value => some value
  | .bool value => some (if value then 1 else 0)
  | .float (.finite value) => some (value.num.tdiv value.den)
  | .str value => intOfStr value
  | _ => none

/-- `int(text)` of a text that is all digits; more than 4300 of them raise. -/
def intOfDigits (digits : List Char) : Option Nat :=
  if digits.length ≤ 4300 then some (Nat.ofDigitChars 10 digits 0) else none

/-- The double next to an integer, the even one of two; `none` where there is no finite one. -/
def doubleOfInt (value : Int) : Option Rat :=
  let size := value.natAbs
  if size < 2 ^ 53 then some value
  else
    let unit := 2 ^ (size.log2 - 52)
    let quotient := size / unit
    let rest := 2 * (size % unit)
    let rounded := if rest < unit ∨ (rest = unit ∧ quotient % 2 = 0) then quotient else quotient + 1
    if rounded * unit < 2 ^ 1024 then some (value.sign * (rounded * unit : Nat) : Int) else none

/-- `float(value)`, given how a string is read; `none` where it raises. -/
def Json.toFloat (floatOfStr : String → Option PyFloat) : Json → Option PyFloat
  | .float value => some value
  | .int value => (doubleOfInt value).map .finite
  | .bool value => some (.finite (if value then 1 else 0))
  | .str value => floatOfStr value
  | _ => none

/-- `str(value)`, given the text of a float and of a container. -/
def Json.toStr (repr : Json → String) : Json → String
  | .str value => value
  | .null => "None"
  | .bool value => if value then "True" else "False"
  | .int value => toString value
  | value => repr value

/-- `value or []`, where a missing key reads `None`. -/
def orEmpty : Option Json → Json
  | some value => if value.truthy then value else .arr []
  | none => .arr []

/-- What the schema library leaves to its own parsers: digits of a pattern, numbers
and dates written as text, and the text of a failed validation. -/
structure Parsers where
  digit : Char → Bool
  intOfStr : String → Option Int
  floatOfStr : String → Option PyFloat
  datetime : Json → Bool
  describe : Json → String

section Fields

variable {α : Type} (parsers : Parsers)

/-- A model with `extra="forbid"`: a dictionary with no key outside `allowed`. -/
def closed (allowed : List String) : Json → Option Dict
  | .obj fields => if fields.all (fun field => allowed.contains field.1) then some fields else none
  | _ => none

def required (parse : Json → Option α) (dict : Dict) (key : String) : Option α :=
  dict.get key >>= parse

def withDefault (parse : Json → Option α) (dict : Dict) (key : String) (default : α) : Option α :=
  match dict.get key with
  | some value => parse value
  | none => some default

/-- `T | None`. -/
def nullable (parse : Json → Option α) : Json → Option (Option α)
  | .null => some none
  | value => (parse value).map some

def parseStr : Json → Option String
  | .str value => some value
  | _ => none

def parseFloat (value : Json) : Option PyFloat := value.toFloat parsers.floatOfStr

/-- Floats with a fractional part, infinities and NaN are not integers, and a float must fit in
64 bits. -/
def parseInt : Json → Option Int
  | .int value => some value
  | .bool value => some (if value then 1 else 0)
  | .float (.finite value) =>
    if value.den = 1 ∧ -2 ^ 63 < value.num ∧ value.num < 2 ^ 63 then some value.num else none
  | .str value => parsers.intOfStr value
  | _ => none

def boolOfStr (value : String) : Option Bool :=
  let lower := value.map Char.toLower
  if ["1", "t", "y", "on", "yes", "true"].contains lower then some true
  else if ["0", "f", "n", "no", "off", "false"].contains lower then some false
  else none

def parseBool : Json → Option Bool
  | .bool value => some value
  | .int value => if value = 1 then some true else if value = 0 then some false else none
  | .float value =>
    if value = .finite 1 then some true else if value = .finite 0 then some false else none
  | .str value => boolOfStr value
  | _ => none

def parseList (parse : Json → Option α) : Json → Option (List α)
  | .arr items => items.mapM parse
  | _ => none

def parseDict : Json → Option Dict
  | .obj fields => some fields
  | _ => none

/-- Keep a parsed value only if it satisfies a constraint, and remember that it does. -/
def satisfying (constraint : α → Prop) [DecidablePred constraint] (value : α) :
    Option { value : α // constraint value } :=
  if holds : constraint value then some ⟨value, holds⟩ else none

end Fields

theorem satisfying_eq_some {α : Type} {constraint : α → Prop} [DecidablePred constraint] {value : α}
    {kept : { value : α // constraint value }} (success : satisfying constraint value = some kept) :
    kept.val = value := by
  unfold satisfying at success
  split at success
  · cases success
    rfl
  · cases success

theorem bind_some {α β : Type} {first : Option α} {next : α → Option β} {result : β}
    (success : first >>= next = some result) :
    ∃ value, first = some value ∧ next value = some result :=
  Option.bind_eq_some_iff.mp success

theorem parseStr_eq_some {value : Json} {text : String} (success : parseStr value = some text) :
    value = .str text := by
  cases value with
  | str raw =>
      cases success
      rfl
  | _ => cases success

theorem Dict.item_ok {dict : Dict} {key : String} {value : Json} (success : dict.item key = .ok value) :
    dict.get key = some value := by
  unfold Dict.item at success
  split at success
  · rename_i found
    cases success
    exact found
  · cases success

theorem Dict.get_eq_none {dict : Dict} {key : String} (absent : ∀ field ∈ dict, field.1 ≠ key) :
    dict.get key = none := by
  rw [Dict.get, List.lookup_eq_none_iff]
  intro field member
  rw [bne_iff_ne]
  exact fun same => absent field member same.symm

/-- A closed model accepts dictionaries only, and no key outside its fields. -/
theorem closed_eq_some {allowed : List String} {value : Json} {dict : Dict}
    (success : closed allowed value = some dict) :
    value = .obj dict ∧ ∀ key, key ∉ allowed → dict.get key = none := by
  cases value with
  | obj fields =>
      rw [closed] at success
      split at success
      · rename_i inside
        cases success
        refine ⟨rfl, fun key outside => Dict.get_eq_none ?_⟩
        intro field member same
        have known := List.all_eq_true.mp inside field member
        rw [List.contains_iff_mem, same] at known
        exact outside known
      · cases success
  | _ => cases success

theorem Dict.mem_set (dict : Dict) (key : String) (value : Json) :
    (key, value) ∈ dict.set key value := by
  unfold Dict.set
  split
  · rename_i present
    have stands : ∃ field ∈ dict, field.1 = key := by
      by_contra absent
      have missing : dict.get key = none := by
        apply Dict.get_eq_none
        intro field member same
        exact absent ⟨field, member, same⟩
      rw [Dict.hasKey, ← Dict.get, missing] at present
      cases present
    obtain ⟨field, member, same⟩ := stands
    exact List.mem_map.mpr ⟨field, member, if_pos same⟩
  · exact List.mem_append_right _ (List.mem_singleton.mpr rfl)

theorem Dict.get_set_other {key other : String} (apart : other ≠ key) (dict : Dict) (value : Json) :
    (dict.set key value).get other = dict.get other :=
  Assoc.lookup_set_other apart dict value

theorem Dict.get_set_same (dict : Dict) (key : String) (value : Json) :
    (dict.set key value).get key = some value :=
  Assoc.lookup_set_same dict key value

theorem Dict.mem_of_get {dict : Dict} {key : String} {value : Json}
    (found : dict.get key = some value) : (key, value) ∈ dict := by
  obtain ⟨front, back, rfl, _⟩ := List.lookup_eq_some_iff.mp found
  exact List.mem_append_right _ List.mem_cons_self

theorem Dict.get_append (first second : Dict) (key : String) :
    Dict.get (first ++ second) key = (first.get key).or (second.get key) :=
  List.lookup_append

theorem fieldsMention_of_mem {text : String} {fields : Dict} {field : String × Json}
    (member : field ∈ fields) (mentioned : field.2.mentions text = true) :
    (Json.obj fields).mentions text = true := by
  unfold Json.mentions
  induction fields with
  | nil => cases member
  | cons first rest ih =>
      rw [fieldsMention, Bool.or_eq_true]
      rcases List.mem_cons.mp member with here | later
      · rw [here] at mentioned
        exact Or.inl mentioned
      · exact Or.inr (ih later)

theorem fieldsMention_append (text : String) (first second : Dict) :
    fieldsMention text (first ++ second) = (fieldsMention text first || fieldsMention text second) := by
  induction first with
  | nil => rfl
  | cons field rest ih => rw [List.cons_append, fieldsMention, fieldsMention, ih, Bool.or_assoc]

theorem parseList_eq_some {α : Type} {parse : Json → Option α} {value : Json} {results : List α}
    (success : parseList parse value = some results) :
    ∃ items, value = .arr items ∧ items.mapM parse = some results := by
  cases value with
  | arr items => exact ⟨items, rfl, success⟩
  | _ => cases success

section MapM

variable {α β : Type} {parse : α → Option β} {items : List α} {results : List β}

theorem mapM_eq_none : items.mapM parse = none ↔ ∃ item ∈ items, parse item = none := by
  induction items with
  | nil => simp
  | cons item rest ih =>
      rw [List.mapM_cons]
      cases first : parse item with
      | none => simp [first]
      | some result =>
          cases others : rest.mapM parse with
          | none => simpa [first] using ih.mp others
          | some results => simpa [first, others] using ih

theorem mapM_eq_some_mem (success : items.mapM parse = some results) {item : α}
    (member : item ∈ items) : ∃ result ∈ results, parse item = some result :=
  Checked.forall₂_exists ((Checked.mapM_some_iff _ _ _).mp success) member

theorem mem_of_mapM_eq_some (success : items.mapM parse = some results) {result : β}
    (member : result ∈ results) : ∃ item ∈ items, parse item = some result :=
  Checked.forall₂_exists ((Checked.mapM_some_iff _ _ _).mp success).flip member

end MapM

/-- A list whose every item parses is determined by what it parsed to. -/
theorem mapM_eq_some_of_inverse {α : Type} {parse : Json → Option α} {render : α → Json}
    (inverse : ∀ value result, parse value = some result → value = render result)
    {items : List Json} {results : List α} (success : items.mapM parse = some results) :
    items = results.map render := by
  have pointwise := ((Checked.mapM_some_iff _ _ _).mp success).imp inverse
  rw [← List.forall₂_map_right_iff, List.forall₂_eq_eq_eq] at pointwise
  exact pointwise

end Python
