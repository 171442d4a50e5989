import CollectMind.Library.JsonText
import CollectMind.Library.Segments

set_option autoImplicit false

/- The canonical text of a JSON value, with sorted keys and no blanks, and the value that it can be
read back to. -/
namespace Python

section Values

mutual

/-- Equality of JSON values: dictionaries are compared key by key, and a boolean is no number. -/
def Json.same : Json → Json → Bool
  | .null, .null => true
  | .bool first, .bool second => first == second
  | .int first, .int second => first == second
  | .float first, .float second => decide (first = second)
  | .str first, .str second => first == second
  | .arr first, .arr second => itemsSame first second
  | .obj first, .obj second => first.length == second.length && fieldsSame first second
  | _, _ => false

def itemsSame : List Json → List Json → Bool
  | [], [] => true
  | first :: firsts, second :: seconds => first.same second && itemsSame firsts seconds
  | _, _ => false

def fieldsSame : List (String × Json) → Dict → Bool
  | [], _ => true
  | (name, value) :: rest, other =>
    (match other.get name with
      | some value' => value.same value'
      | none => false) && fieldsSame rest other

end

/-- A value without floats whose dictionaries have no key twice. -/
inductive Plain : Json → Prop
  | null : Plain .null
  | bool (value : Bool) : Plain (.bool value)
  | int (value : Int) : Plain (.int value)
  | str (value : String) : Plain (.str value)
  | arr {items : List Json} (all : ∀ item ∈ items, Plain item) : Plain (.arr items)
  | obj {fields : Dict} (distinct : (fields.map Prod.fst).Nodup)
      (all : ∀ field ∈ fields, Plain field.2) : Plain (.obj fields)

theorem itemsSame_iff {first second : List Json} :
    itemsSame first second = true ↔ List.Forall₂ (fun a b => a.same b = true) first second := by
  induction first generalizing second with
  | nil => cases second <;> simp [itemsSame]
  | cons item items ih => cases second <;> simp [itemsSame, ih]

theorem fieldsSame_iff {fields other : Dict} :
    fieldsSame fields other = true ↔
      ∀ field ∈ fields, ∃ value, other.get field.1 = some value ∧ field.2.same value = true := by
  induction fields with
  | nil => simp [fieldsSame]
  | cons field fields ih =>
      rw [fieldsSame, Bool.and_eq_true, ih, List.forall_mem_cons]
      apply and_congr_left'
      cases other.get field.1 <;> simp

theorem same_obj_iff {first second : Dict} :
    (Json.obj first).same (.obj second) = true ↔ first.length = second.length ∧
      ∀ field ∈ first, ∃ value, second.get field.1 = some value ∧ field.2.same value = true := by
  rw [Json.same, Bool.and_eq_true, beq_iff_eq, fieldsSame_iff]

theorem Dict.get_of_mem {dict : Dict} (distinct : (dict.map Prod.fst).Nodup)
    {field : String × Json} (member : field ∈ dict) : dict.get field.1 = some field.2 := by
  obtain ⟨front, back, rfl⟩ := List.append_of_mem member
  rw [List.map_append, List.map_cons, List.nodup_append] at distinct
  refine List.lookup_eq_some_iff.mpr ⟨front, back, rfl, ?_⟩
  intro other listed
  have differ := distinct.2.2 other.1 (List.mem_map_of_mem listed) field.1 List.mem_cons_self
  simpa using Ne.symm differ

end Values

section Order

/-- The fields in the order of their keys. -/
def sortedFields (fields : Dict) : Dict :=
  fields.insertionSort fun first second => first.1 ≤ second.1

theorem mem_sortedFields {fields : Dict} {field : String × Json} :
    field ∈ sortedFields fields ↔ field ∈ fields := (List.perm_insertionSort _ fields).mem_iff

theorem length_sortedFields (fields : Dict) : (sortedFields fields).length = fields.length :=
  (List.perm_insertionSort _ fields).length_eq

theorem keys_sortedFields (fields : Dict) :
    (sortedFields fields).map Prod.fst = (fields.map Prod.fst).insertionSort (· ≤ ·) :=
  List.map_insertionSort _ _ _ _ fun _ _ _ _ => Iff.rfl

theorem insertionSort_eq_of_perm {first second : List String} (perm : first.Perm second) :
    first.insertionSort (· ≤ ·) = second.insertionSort (· ≤ ·) := by
  have sorted := (List.perm_insertionSort (· ≤ ·) first).trans
    (perm.trans (List.perm_insertionSort (· ≤ ·) second).symm)
  exact sorted.eq_of_pairwise (fun _ _ _ _ => le_antisymm) (List.pairwise_insertionSort _ _)
    (List.pairwise_insertionSort _ _)

end Order

section Text

variable (repr : Rat → String)

/-- A field as it stands in the text. -/
def fieldEntry (level : Nat) (field : String × Json) : List Char :=
  quote field.1.toList ++ ':' :: dumps .canonical repr level field.2

theorem dumpsItems_eq (style : DumpsStyle) (level : Nat) (items : List Json) :
    dumpsItems style repr level items = items.map (dumps style repr level) := by
  induction items with
  | nil => rw [dumpsItems, List.map_nil]
  | cons item items ih => rw [dumpsItems, ih, List.map_cons]

theorem dumpsFields_eq (style : DumpsStyle) (level : Nat) (fields : Dict) :
    dumpsFields style repr level fields =
      fields.map fun field => (field.1, dumps style repr level field.2) := by
  induction fields with
  | nil => rw [dumpsFields, List.map_nil]
  | cons field fields ih => rw [dumpsFields, ih, List.map_cons]

theorem dumps_arr (level : Nat) (items : List Json) :
    dumps .canonical repr level (.arr items) =
      enclose .canonical level '[' ']' (items.map (dumps .canonical repr (level + 1))) := by
  rw [dumps, dumpsItems_eq]

theorem dumps_obj (level : Nat) (fields : Dict) :
    dumps .canonical repr level (.obj fields) =
      enclose .canonical level '\x7b' '\x7d'
        ((sortedFields fields).map (fieldEntry repr (level + 1))) := by
  have sorted : (fields.map fun field =>
      (field.1, dumps .canonical repr (level + 1) field.2)).insertionSort
        (fun first second => first.1 ≤ second.1) =
      (sortedFields fields).map fun field =>
        (field.1, dumps .canonical repr (level + 1) field.2) :=
    (List.map_insertionSort (fun first second : String × Json => first.1 ≤ second.1)
      (fun first second : String × List Char => first.1 ≤ second.1) _ fields
      fun _ _ _ _ => Iff.rfl).symm
  rw [dumps, dumpsFields_eq]
  simp only [DumpsStyle.canonical, if_true]
  rw [show (⟨none, [','], [':'], true⟩ : DumpsStyle) = .canonical from rfl, sorted, List.map_map]
  congr 1
  apply List.map_congr_left
  intro field _
  simp [fieldEntry]

end Text

section Reading

/-- What an integer is written with. -/
def numeral (char : Char) : Bool := char.isDigit || char == '-'

/-- No integer could go on here. -/
def Stops (rest : List Char) : Prop := ∀ char ∈ rest.head?, numeral char = false

theorem stops_cons {char : Char} (other : numeral char = false) (rest : List Char) :
    Stops (char :: rest) := by
  intro first here
  cases here
  exact other

theorem nat_numerals (value : Nat) : ∀ char ∈ value.repr.toList, numeral char = true := by
  intro char member
  rw [Nat.toList_repr] at member
  rw [numeral, Nat.isDigit_of_mem_toDigits (by decide) (by decide) member, Bool.true_or]

theorem negSucc_text (value : Nat) :
    (toString (Int.negSucc value)).toList = '-' :: (value + 1).repr.toList := by
  change ("-" ++ (value + 1).repr).toList = _
  rw [String.toList_append]
  rfl

theorem int_numerals (value : Int) : ∀ char ∈ (toString value).toList, numeral char = true := by
  cases value with
  | ofNat value => exact nat_numerals value
  | negSucc value =>
      rw [negSucc_text, List.forall_mem_cons]
      exact ⟨rfl, nat_numerals (value + 1)⟩

theorem int_ne_nil (value : Int) : (toString value).toList ≠ [] := by
  cases value with
  | ofNat value =>
      change value.repr.toList ≠ []
      rw [Nat.toList_repr]
      exact Nat.toDigits_ne_nil
  | negSucc value =>
      rw [negSucc_text]
      exact List.cons_ne_nil _ _

/-- `int(text)` of an integer part. -/
def intOfText (text : List Char) : Int :=
  if text.head? = some '-' then -(Nat.ofDigitChars 10 text.tail 0 : Int)
  else Nat.ofDigitChars 10 text 0

theorem head_toDigits_unsigned (value : Nat) : (Nat.toDigits 10 value).head? ≠ some '-' := by
  intro signed
  have digit : '-'.isDigit = true :=
    @Nat.isDigit_of_mem_toDigits 10 value '-' (by decide) (by decide) (List.mem_of_mem_head? signed)
  cases digit

theorem intOfText_toString (value : Int) : intOfText (toString value).toList = value := by
  cases value with
  | ofNat value =>
      change intOfText value.repr.toList = value
      rw [Nat.toList_repr, intOfText, if_neg (head_toDigits_unsigned value),
        Nat.ofDigitChars_ten_toDigits]
  | negSucc value =>
      rw [negSucc_text, intOfText, List.head?_cons, if_pos rfl, List.tail_cons, Nat.toList_repr,
        Nat.ofDigitChars_ten_toDigits]
      rfl

theorem takeWhile_numeral {text rest : List Char} (all : ∀ char ∈ text, numeral char = true)
    (stops : Stops rest) : (text ++ rest).takeWhile numeral = text := by
  rw [List.takeWhile_append_of_pos all]
  have nothing : rest.takeWhile numeral = [] := by
    cases rest with
    | nil => rfl
    | cons char rest => rw [List.takeWhile_cons_of_neg (by rw [stops char rfl]; decide)]
  rw [nothing, List.append_nil]

theorem int_append_inj {first second : Int} {rest tail : List Char} (stops : Stops rest)
    (stops' : Stops tail)
    (same : (toString first).toList ++ rest = (toString second).toList ++ tail) :
    first = second ∧ rest = tail := by
  have texts := congrArg (List.takeWhile numeral) same
  rw [takeWhile_numeral (int_numerals first) stops,
    takeWhile_numeral (int_numerals second) stops'] at texts
  rw [texts] at same
  have values := congrArg intOfText texts
  rw [intOfText_toString, intOfText_toString] at values
  exact ⟨values, List.append_cancel_left same⟩

/-- The text of a container behind its first bracket. -/
def enclosed (closing : Char) : List (List Char) → List Char
  | [] => [closing]
  | item :: items => item ++ (items.flatMap (fun item => ',' :: item) ++ [closing])

theorem enclose_canonical (level : Nat) (opening closing : Char) (items : List (List Char)) :
    enclose .canonical level opening closing items = opening :: enclosed closing items := by
  cases items with
  | nil => rfl
  | cons item items =>
      have text : enclose .canonical level opening closing (item :: items) =
          opening :: ([','].intercalate (item :: items) ++ [closing]) := rfl
      rw [text, Segments.intercalate_cons, List.append_assoc]
      rfl

section Items

variable {α : Type} {write : α → List Char} {related : α → α → Prop} {closing : Char}

theorem stops_separated (stops : numeral closing = false) (texts : List (List Char))
    (rest : List Char) : Stops (texts.flatMap (fun item => ',' :: item) ++ closing :: rest) := by
  cases texts with
  | nil => exact stops_cons stops rest
  | cons text texts => exact stops_cons (by decide) _

/-- The rest of a container is read back item by item. -/
theorem separated_inj (ends : closing ≠ ',') (stops : numeral closing = false)
    {items others : List α} {rest tail : List Char}
    (reads : ∀ item ∈ items, ∀ other ∈ others, ∀ {rest tail : List Char}, Stops rest → Stops tail →
      write item ++ rest = write other ++ tail → related item other ∧ rest = tail)
    (same : (items.map write).flatMap (fun item => ',' :: item) ++ closing :: rest =
      (others.map write).flatMap (fun item => ',' :: item) ++ closing :: tail) :
    List.Forall₂ related items others ∧ rest = tail := by
  induction items generalizing others with
  | nil =>
      cases others with
      | nil => exact ⟨.nil, (List.cons.inj same).2⟩
      | cons other others => exact absurd (List.cons.inj same).1 ends
  | cons item items ih =>
      cases others with
      | nil => exact absurd (List.cons.inj same).1.symm ends
      | cons other others =>
          simp only [List.map_cons, List.flatMap_cons, List.cons_append, List.append_assoc,
            List.cons.injEq, true_and] at same
          obtain ⟨here, later⟩ := reads item List.mem_cons_self other List.mem_cons_self
            (stops_separated stops _ _) (stops_separated stops _ _) same
          obtain ⟨others, same⟩ := ih (fun item member other member' =>
            reads item (List.mem_cons_of_mem _ member) other (List.mem_cons_of_mem _ member')) later
          exact ⟨.cons here others, same⟩

/-- So is the whole container. -/
theorem enclosed_inj (ends : closing ≠ ',') (stops : numeral closing = false)
    {items others : List α} {rest tail : List Char}
    (begins : ∀ item ∈ items ++ others, ∃ first more, write item = first :: more ∧ first ≠ closing)
    (reads : ∀ item ∈ items, ∀ other ∈ others, ∀ {rest tail : List Char}, Stops rest → Stops tail →
      write item ++ rest = write other ++ tail → related item other ∧ rest = tail)
    (same : enclosed closing (items.map write) ++ rest =
      enclosed closing (others.map write) ++ tail) :
    List.Forall₂ related items others ∧ rest = tail := by
  have closed : ∀ item ∈ items ++ others, ∀ rest more, closing :: rest ≠ write item ++ more := by
    intro item member rest more equal
    obtain ⟨first, _, shape, differ⟩ := begins item member
    rw [shape, List.cons_append, List.cons.injEq] at equal
    exact differ equal.1.symm
  cases items with
  | nil =>
      cases others with
      | nil => exact ⟨.nil, (List.cons.inj same).2⟩
      | cons other others =>
          simp only [List.map_cons, List.map_nil, enclosed, List.append_assoc,
            List.singleton_append] at same
          exact absurd same (closed other (by simp) _ _)
  | cons item items =>
      cases others with
      | nil =>
          simp only [List.map_cons, List.map_nil, enclosed, List.append_assoc,
            List.singleton_append] at same
          exact absurd same.symm (closed item (by simp) _ _)
      | cons other others =>
          simp only [List.map_cons, enclosed, List.append_assoc, List.singleton_append] at same
          obtain ⟨here, later⟩ := reads item List.mem_cons_self other List.mem_cons_self
            (stops_separated stops _ _) (stops_separated stops _ _) same
          obtain ⟨more, rests⟩ := separated_inj ends stops (fun item member other member' =>
            reads item (List.mem_cons_of_mem _ member) other (List.mem_cons_of_mem _ member')) later
          exact ⟨.cons here more, rests⟩

end Items

/-- The kinds of values that their first characters tell apart. -/
inductive Kind where
  | null
  | bool
  | number
  | str
  | arr
  | obj
  deriving DecidableEq

def Json.kind : Json → Kind
  | .null => .null
  | .bool _ => .bool
  | .int _ => .number
  | .float _ => .number
  | .str _ => .str
  | .arr _ => .arr
  | .obj _ => .obj

def headKind (char : Char) : Option Kind :=
  if numeral char then some .number
  else
    match char with
    | 'n' => some .null
    | 't' => some .bool
    | 'f' => some .bool
    | '"' => some .str
    | '[' => some .arr
    | '\x7b' => some .obj
    | _ => none

variable (repr : Rat → String)

theorem dumps_head {value : Json} (plain : Plain value) (level : Nat) :
    ∃ first rest, dumps .canonical repr level value = first :: rest ∧
      headKind first = some value.kind := by
  cases plain with
  | null => exact ⟨'n', ['u', 'l', 'l'], by rw [dumps]; decide, by decide⟩
  | bool value =>
      cases value with
      | false => exact ⟨'f', ['a', 'l', 's', 'e'], by rw [dumps]; decide, by decide⟩
      | true => exact ⟨'t', ['r', 'u', 'e'], by rw [dumps]; decide, by decide⟩
  | int value =>
      obtain ⟨first, rest, shape⟩ := List.exists_cons_of_ne_nil (int_ne_nil value)
      have numeral := int_numerals value first (by rw [shape]; exact List.mem_cons_self)
      refine ⟨first, rest, by rw [dumps, shape], ?_⟩
      unfold headKind
      exact if_pos numeral
  | str value =>
      have known : headKind '"' = some .str := by decide
      exact ⟨'"', _, by rw [dumps, quote], known⟩
  | arr all =>
      have known : headKind '[' = some .arr := by decide
      exact ⟨'[', _, by rw [dumps_arr, enclose_canonical], known⟩
  | obj distinct all =>
      have known : headKind '\x7b' = some .obj := by decide
      exact ⟨'\x7b', _, by rw [dumps_obj, enclose_canonical], known⟩

theorem kind_eq {first second : Json} (plain : Plain first) (plain' : Plain second) {level : Nat}
    {rest tail : List Char}
    (same : dumps .canonical repr level first ++ rest = dumps .canonical repr level second ++ tail) :
    first.kind = second.kind := by
  obtain ⟨head, _, shape, known⟩ := dumps_head repr plain level
  obtain ⟨head', _, shape', known'⟩ := dumps_head repr plain' level
  rw [shape, shape', List.cons_append, List.cons_append, List.cons.injEq] at same
  rw [same.1, known', Option.some.injEq] at known
  exact known.symm

theorem exists_of_forall₂ {α : Type} {related : α → α → Prop} {first second : List α}
    (pairs : List.Forall₂ related first second) :
    ∀ item ∈ first, ∃ other ∈ second, related item other := by
  induction pairs with
  | nil => exact nofun
  | cons here _ ih =>
      rw [List.forall_mem_cons]
      refine ⟨⟨_, List.mem_cons_self, here⟩, ?_⟩
      intro item member
      obtain ⟨other, listed, holds⟩ := ih item member
      exact ⟨other, List.mem_cons_of_mem _ listed, holds⟩

/-- A field is read back if its value is. -/
theorem fieldEntry_append_inj {field field' : String × Json} {level : Nat} {rest tail : List Char}
    (reads : dumps .canonical repr level field.2 ++ rest =
      dumps .canonical repr level field'.2 ++ tail →
        field.2.same field'.2 = true ∧ rest = tail)
    (same : fieldEntry repr level field ++ rest = fieldEntry repr level field' ++ tail) :
    (field.1 = field'.1 ∧ field.2.same field'.2 = true) ∧ rest = tail := by
  rw [fieldEntry, fieldEntry, List.append_assoc, List.append_assoc] at same
  obtain ⟨names, values⟩ := quote_append_inj same
  rw [List.cons_append, List.cons_append, List.cons.injEq] at values
  have read := reads values.2
  exact ⟨⟨String.toList_inj.mp names, read.1⟩, read.2⟩

/-- Dictionaries are equal if their fields are, one by one in the order of the keys. -/
theorem same_of_sorted {fields fields' : Dict} (distinct : (fields'.map Prod.fst).Nodup)
    (pairs : List.Forall₂ (fun field field' => field.1 = field'.1 ∧ field.2.same field'.2 = true)
      (sortedFields fields) (sortedFields fields')) :
    (Json.obj fields).same (.obj fields') = true := by
  refine same_obj_iff.mpr ⟨?_, ?_⟩
  · rw [← length_sortedFields fields, ← length_sortedFields fields']
    exact pairs.length_eq
  · intro field member
    obtain ⟨field', listed, names, values⟩ :=
      exists_of_forall₂ pairs field (mem_sortedFields.mpr member)
    refine ⟨field'.2, ?_, values⟩
    rw [names]
    exact Dict.get_of_mem distinct (mem_sortedFields.mp listed)

/-- A canonical text is read back to its value, and with it where the text ends. -/
theorem dumps_append_inj {first second : Json} (plain : Plain first) (plain' : Plain second)
    {level : Nat} {rest tail : List Char} (stops : Stops rest) (stops' : Stops tail)
    (same : dumps .canonical repr level first ++ rest = dumps .canonical repr level second ++ tail) :
    first.same second = true ∧ rest = tail := by
  induction plain generalizing second level rest tail with
  | null =>
      have kinds := kind_eq repr .null plain' same
      cases plain' with
      | null => exact ⟨by rw [Json.same], List.append_cancel_left same⟩
      | _ => cases kinds
  | bool value =>
      have kinds := kind_eq repr (.bool value) plain' same
      cases plain' with
      | bool value' =>
          rw [dumps, dumps] at same
          cases value <;> cases value'
          · exact ⟨by rw [Json.same, beq_self_eq_true], List.append_cancel_left same⟩
          · exact absurd (List.cons.inj same).1 (by decide)
          · exact absurd (List.cons.inj same).1 (by decide)
          · exact ⟨by rw [Json.same, beq_self_eq_true], List.append_cancel_left same⟩
      | _ => cases kinds
  | int value =>
      have kinds := kind_eq repr (.int value) plain' same
      cases plain' with
      | int value' =>
          rw [dumps, dumps] at same
          obtain ⟨rfl, rests⟩ := int_append_inj stops stops' same
          exact ⟨by rw [Json.same, beq_self_eq_true], rests⟩
      | _ => cases kinds
  | str value =>
      have kinds := kind_eq repr (.str value) plain' same
      cases plain' with
      | str value' =>
          rw [dumps, dumps] at same
          obtain ⟨texts, rests⟩ := quote_append_inj same
          rw [String.toList_inj] at texts
          exact ⟨by rw [Json.same, texts, beq_self_eq_true], rests⟩
      | _ => cases kinds
  | @arr items all ih =>
      have kinds := kind_eq repr (.arr all) plain' same
      cases plain' with
      | @arr items' all' =>
          rw [dumps_arr, dumps_arr, enclose_canonical, enclose_canonical, List.cons_append,
            List.cons_append, List.cons.injEq] at same
          have begins : ∀ item ∈ items ++ items', ∃ first more,
              dumps .canonical repr (level + 1) item = first :: more ∧ first ≠ ']' := by
            intro item member
            have plain := (List.mem_append.mp member).elim (all item) (all' item)
            obtain ⟨first, more, shape, known⟩ := dumps_head repr plain (level + 1)
            refine ⟨first, more, shape, ?_⟩
            rintro rfl
            cases known
          have read := enclosed_inj (by decide) (by decide) begins
            (fun item member item' member' {_ _} stops stops' same =>
              ih item member (all' item' member') stops stops' same) same.2
          exact ⟨by rw [Json.same]; exact itemsSame_iff.mpr read.1, read.2⟩
      | _ => cases kinds
  | @obj fields distinct all ih =>
      have kinds := kind_eq repr (.obj distinct all) plain' same
      cases plain' with
      | @obj fields' distinct' all' =>
          rw [dumps_obj, dumps_obj, enclose_canonical, enclose_canonical, List.cons_append,
            List.cons_append, List.cons.injEq] at same
          have begins : ∀ field ∈ sortedFields fields ++ sortedFields fields', ∃ first more,
              fieldEntry repr (level + 1) field = first :: more ∧ first ≠ '\x7d' :=
            fun field _ => ⟨'"', _, rfl, by decide⟩
          have read := enclosed_inj (by decide) (by decide) begins
            (fun field member field' member' {_ _} stops stops' same =>
              fieldEntry_append_inj repr (ih field (mem_sortedFields.mp member)
                (all' field' (mem_sortedFields.mp member')) stops stops') same) same.2
          exact ⟨same_of_sorted distinct' read.1, read.2⟩
      | _ => cases kinds

end Reading

section Same

variable (repr : Rat → String)

theorem map_eq_of_forall₂ {α β : Type} {related : α → α → Prop} {write : α → β}
    {first second : List α} (pairs : List.Forall₂ related first second)
    (agree : ∀ item ∈ first, ∀ other ∈ second, related item other → write item = write other) :
    first.map write = second.map write := by
  induction pairs with
  | nil => rfl
  | cons here _ ih =>
      rw [List.map_cons, List.map_cons, agree _ List.mem_cons_self _ List.mem_cons_self here,
        ih fun item member other member' => agree item (List.mem_cons_of_mem _ member)
          other (List.mem_cons_of_mem _ member')]

/-- Equal dictionaries have the same keys. -/
theorem keys_perm {first second : Dict} (distinct : (first.map Prod.fst).Nodup)
    (length : first.length = second.length)
    (found : ∀ field ∈ first, ∃ value, second.get field.1 = some value) :
    (first.map Prod.fst).Perm (second.map Prod.fst) := by
  have subset : first.map Prod.fst ⊆ second.map Prod.fst := by
    intro name member
    obtain ⟨field, listed, rfl⟩ := List.mem_map.mp member
    obtain ⟨value, here⟩ := found field listed
    obtain ⟨front, back, rfl, _⟩ := List.lookup_eq_some_iff.mp here
    exact List.mem_map.mpr ⟨(field.1, value), by simp, rfl⟩
  apply (List.subperm_of_subset distinct subset).perm_of_length_le
  rw [List.length_map, List.length_map, length]

/-- Equal values have one canonical text. -/
theorem dumps_eq_of_same {first second : Json} (plain : Plain first) (plain' : Plain second)
    (same : first.same second = true) (level : Nat) :
    dumps .canonical repr level first = dumps .canonical repr level second := by
  induction plain generalizing second level with
  | null =>
      cases plain' with
      | null => rfl
      | _ => cases same
  | bool value =>
      cases plain' with
      | bool value' =>
          rw [Json.same, beq_iff_eq] at same
          rw [same]
      | _ => cases same
  | int value =>
      cases plain' with
      | int value' =>
          rw [Json.same, beq_iff_eq] at same
          rw [same]
      | _ => cases same
  | str value =>
      cases plain' with
      | str value' =>
          rw [Json.same, beq_iff_eq] at same
          rw [same]
      | _ => cases same
  | @arr items all ih =>
      cases plain' with
      | @arr items' all' =>
          rw [Json.same, itemsSame_iff] at same
          rw [dumps_arr, dumps_arr]
          congr 1
          apply map_eq_of_forall₂ same
          intro item member item' member' values
          exact ih item member (all' item' member') values (level + 1)
      | _ => cases same
  | @obj fields distinct all ih =>
      cases plain' with
      | @obj fields' distinct' all' =>
          obtain ⟨length, found⟩ := same_obj_iff.mp same
          have keys : (sortedFields fields).map Prod.fst = (sortedFields fields').map Prod.fst := by
            rw [keys_sortedFields, keys_sortedFields]
            apply insertionSort_eq_of_perm
            apply keys_perm distinct length
            intro field member
            obtain ⟨value, here, _⟩ := found field member
            exact ⟨value, here⟩
          rw [← List.forall₂_eq_eq_eq, List.forall₂_map_left_iff, List.forall₂_map_right_iff] at keys
          rw [dumps_obj, dumps_obj]
          congr 1
          apply map_eq_of_forall₂ keys
          intro field member field' member' names
          rw [mem_sortedFields] at member member'
          obtain ⟨value, here, values⟩ := found field member
          rw [names, Dict.get_of_mem distinct' member', Option.some.injEq] at here
          rw [← here] at values
          rw [fieldEntry, fieldEntry, names, ih field member (all' field' member') values]
      | _ => cases same

/-- The canonical text is the same for equal values and for no others. -/
theorem dumps_canonical_iff {first second : Json} (plain : Plain first) (plain' : Plain second) :
    dumps .canonical repr 0 first = dumps .canonical repr 0 second ↔ first.same second = true := by
  constructor
  · intro texts
    have stops : Stops [] := nofun
    exact (dumps_append_inj repr plain plain' stops stops (congrArg (· ++ []) texts)).1
  · intro same
    exact dumps_eq_of_same repr plain plain' same 0

end Same

end Python
