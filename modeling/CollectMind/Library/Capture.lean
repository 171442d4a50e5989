import CollectMind.Library.Regex
import CollectMind.Library.Replacement

set_option autoImplicit false

/- The search for a pattern with one group: the items of the group in the leftmost match that a
backtracking engine finds. The results are about patterns that begin with a literal text, and say
where in a text their first match can be. -/
namespace Regex

open Replacement

/-- A pattern with one group in it. -/
structure Grouped (α : Type) where
  before : List (Atom α)
  group : List (Atom α)
  after : List (Atom α)

def literal {α : Type} [DecidableEq α] (item : α) : Atom α :=
  .items (fun other => decide (other = item)) 1 (some 1)

def literals {α : Type} [DecidableEq α] (text : List α) : List (Atom α) := text.map literal

section Search

variable {α : Type} (isWord : α → Bool)

/-- The group of the match at this place. -/
def groupAt (pattern : Grouped α) (before : Option α) (text : List α) : Option (List α) :=
  (parts isWord (pattern.before ++ (pattern.group ++ pattern.after)) before text).map fun taken =>
    ((taken.drop pattern.before.length).take pattern.group.length).flatten

def searchFrom (pattern : Grouped α) : Option α → List α → Option (List α)
  | before, [] => groupAt isWord pattern before []
  | before, item :: rest =>
    (groupAt isWord pattern before (item :: rest)).or (searchFrom pattern (some item) rest)

/-- `re.search(pattern, text)` and `group(1)` of it. -/
def search (pattern : Grouped α) (text : List α) : Option (List α) :=
  searchFrom isWord pattern none text

end Search

section Parts

variable {α : Type} {isWord : α → Bool} {pattern : List (Atom α)}

theorem counts_of_le {least most : Nat} (few : least ≤ most) :
    ∃ fewer, counts least most = most :: fewer := by
  refine ⟨((List.range most).filter fun count => decide (least ≤ count)).reverse, ?_⟩
  rw [counts, List.range_succ, List.filter_append, List.reverse_append]
  simp [few]

/-- A class that is taken as often as it goes takes all it can, if the rest matches then. -/
theorem parts_greedy {belongs : α → Bool} {least : Nat} {front rest : List α}
    (all : ∀ item ∈ front, belongs item = true) (stops : ∀ item ∈ rest.head?, belongs item = false)
    (enough : least ≤ front.length) {before : Option α} {taken : List (List α)}
    (matched : parts isWord pattern (lastOf before front) rest = some taken) :
    parts isWord (.items belongs least none :: pattern) before (front ++ rest) =
      some (front :: taken) := by
  have ended : rest.takeWhile belongs = [] := by
    cases rest with
    | nil => rfl
    | cons item rest => exact List.takeWhile_cons_of_neg (by simp [stops item rfl])
  have taken_all : available belongs none (front ++ rest) = front.length := by
    rw [available, List.takeWhile_append_of_pos all, ended, List.append_nil]
  obtain ⟨fewer, first⟩ := counts_of_le enough
  rw [parts, taken_all, first, List.findSome?_cons, List.take_left, List.drop_left, matched]
  rfl

variable [DecidableEq α]

theorem parts_literal (item : α) (before : Option α) (rest : List α) :
    parts isWord (literal item :: pattern) before (item :: rest) =
      (parts isWord pattern (some item) rest).map ([item] :: ·) := by
  have one : available (fun other => decide (other = item)) (some 1) (item :: rest) = 1 := by
    rw [available, List.takeWhile_cons_of_pos (by simp), List.length_cons]
    omega
  rw [literal, parts, one, show counts 1 1 = [1] from rfl, List.findSome?_singleton]
  rfl

theorem parts_literal_other {item : α} {text : List α} (other : text.head? ≠ some item)
    (before : Option α) : parts isWord (literal item :: pattern) before text = none := by
  have nothing : available (fun other => decide (other = item)) (some 1) text = 0 := by
    cases text with
    | nil => rfl
    | cons first rest =>
        have differ : first ≠ item := fun same => other (by rw [same]; rfl)
        rw [available, List.takeWhile_cons_of_neg (by simp [differ])]
        rfl
  rw [literal, parts, nothing]
  rfl

theorem parts_literals (text : List α) (before : Option α) (rest : List α) :
    parts isWord (literals text ++ pattern) before (text ++ rest) =
      (parts isWord pattern (lastOf before text) rest).map (text.map ([·]) ++ ·) := by
  induction text generalizing before with
  | nil => simp [literals]
  | cons item text ih =>
      have first := @parts_literal _ isWord (literals text ++ pattern) _ item before (text ++ rest)
      rw [literals, List.map_cons, List.cons_append, List.cons_append, ← literals, first, ih,
        lastOf_cons, Option.map_map]
      rfl

theorem parts_literals_absent {text : List α} {place : List α} (absent : ¬ text <+: place)
    (before : Option α) : parts isWord (literals text ++ pattern) before place = none := by
  induction text generalizing place before with
  | nil => exact absurd List.nil_prefix absent
  | cons item text ih =>
      rw [literals, List.map_cons, List.cons_append, ← literals]
      cases place with
      | nil => exact parts_literal_other (by simp) before
      | cons first place =>
          by_cases same : first = item
          · subst same
            have later : ¬ text <+: place := fun begins =>
              absent (List.cons_prefix_cons.mpr ⟨rfl, begins⟩)
            rw [parts_literal, ih later]
            rfl
          · exact parts_literal_other (by simpa using same) before

end Parts

section Places

variable {α : Type} [DecidableEq α] {isWord : α → Bool} {pattern : Grouped α} {label : List α}
  {more : List (Atom α)}

/-- The label can begin nowhere in this part of a text, whatever comes after it. -/
def Passed (label part : List α) : Prop :=
  ∀ place, place <:+ part → place ≠ [] → ∀ after, begins id label (place ++ after) = false

/-- No place of a part is the beginning of the label if none of its items is. -/
theorem passed_cons {item : α} {part : List α}
    (here : ∀ after, begins id label (item :: (part ++ after)) = false) (later : Passed label part) :
    Passed label (item :: part) := by
  intro place suffix nonempty after
  rcases List.suffix_cons_iff.mp suffix with rfl | tail
  · exact here after
  · exact later place tail nonempty after

theorem passed_literal {border : List α} (blocks : barrier label border = true) :
    Passed label border := by
  have blocked : barrier label (border.map id) = true := by rwa [List.map_id]
  exact fun place suffix nonempty after => barrier_not_begins blocked suffix nonempty after

theorem passed_append {first second : List α} (passed : Passed label first)
    (later : Passed label second) : Passed label (first ++ second) := by
  induction first with
  | nil => exact later
  | cons item first ih =>
      refine passed_cons (fun after => ?_) (ih fun place suffix => passed place
        (suffix.trans (List.suffix_cons item first)))
      have here := passed (item :: first) List.suffix_rfl (List.cons_ne_nil _ _) (second ++ after)
      simpa using here

theorem passed_flatten {passages : List (List α)} (passed : ∀ part ∈ passages, Passed label part) :
    Passed label passages.flatten := by
  induction passages with
  | nil => exact fun place suffix nonempty => absurd (List.suffix_nil.mp suffix) nonempty
  | cons part passages ih =>
      rw [List.forall_mem_cons] at passed
      exact passed_append passed.1 (ih passed.2)

theorem passed_of_barrier {content border : List α} (absent : ¬ label <:+: content)
    (blocks : barrier label border = true) : Passed label (content ++ border) := by
  obtain ⟨first, rest, shape, outside, _⟩ := barrier_iff.mp blocks
  induction content with
  | nil => exact passed_literal blocks
  | cons item content ih =>
      rw [List.infix_cons_iff, not_or] at absent
      refine passed_cons (fun after => ?_) (ih absent.2)
      have cut := @begins_append_cons _ _ _ id label first outside (item :: content) (rest ++ after)
      have whole : item :: (content ++ border ++ after) =
          item :: content ++ first :: (rest ++ after) := by simp [shape]
      change begins id label (item :: (content ++ border ++ after)) = false
      rw [whole, cut, ← Bool.not_eq_true, begins_iff, List.map_id]
      exact absent.1

/-- A part without some item that the label has cannot hold the label, and the label cannot go on
behind it with an item that it does not have so early. -/
theorem passed_of_gap {front back content border : List α} {gap next : α} {rest : List α}
    (shape : label = front ++ gap :: back) (free : gap ∉ content)
    (follows : border = next :: rest) (early : next ∉ front) (apart : next ≠ gap)
    (blocked : (border.tails.all fun place =>
      place.isEmpty || (!label.isPrefixOf place && !place.isPrefixOf label)) = true) :
    Passed label (content ++ border) := by
  induction content with
  | nil =>
      intro place suffix nonempty after
      have apart := List.all_eq_true.mp blocked place ((List.mem_tails _ _).mpr suffix)
      simp only [List.isEmpty_eq_false_iff.mpr nonempty, Bool.false_or, Bool.and_eq_true,
        Bool.not_eq_true', ← Bool.not_eq_true, List.isPrefixOf_iff_prefix] at apart
      exact not_begins_inside (by simpa using apart.1) (by simpa using apart.2)
  | cons item content ih =>
      rw [List.mem_cons, not_or] at free
      refine passed_cons (fun after => ?_) (ih free.2)
      rw [← Bool.not_eq_true, begins_iff, List.map_id]
      intro begun
      -- up to the gap the label would have to be in the part itself
      have start : front ++ [gap] <+: item :: content ++ next :: (rest ++ after) := by
        rw [follows] at begun
        have whole : label = front ++ [gap] ++ back := by simp [shape]
        rw [whole] at begun
        simpa using (List.prefix_append (front ++ [gap]) back).trans begun
      have outside : next ∉ front ++ [gap] := by simp [early, apart]
      have cut := @begins_append_cons _ _ _ id (front ++ [gap]) next outside (item :: content)
        (rest ++ after)
      rw [begins, List.map_id, List.isPrefixOf_iff_prefix.mpr start] at cut
      have inside := begins_iff.mp cut.symm
      rw [List.map_id] at inside
      have member := inside.subset (show gap ∈ front ++ [gap] by simp)
      rcases List.mem_cons.mp member with same | later
      · exact free.1 same
      · exact free.2 later

theorem groupAt_absent (starts : pattern.before = literals label ++ more) {place : List α}
    (absent : begins id label place = false) (before : Option α) :
    groupAt isWord pattern before place = none := by
  have nowhere : ¬ label <+: place := by
    intro here
    have found : begins id label place = true := begins_iff.mpr (by rwa [List.map_id])
    rw [absent] at found
    cases found
  rw [groupAt, starts, List.append_assoc, parts_literals_absent nowhere]
  rfl

/-- A part that the label cannot begin in is passed over. -/
theorem searchFrom_passed (starts : pattern.before = literals label ++ more) {part : List α}
    (passed : Passed label part) (before : Option α) (after : List α) :
    searchFrom isWord pattern before (part ++ after) =
      searchFrom isWord pattern (lastOf before part) after := by
  induction part generalizing before with
  | nil => rfl
  | cons item part ih =>
      have here : begins id label (item :: (part ++ after)) = false :=
        passed (item :: part) List.suffix_rfl (List.cons_ne_nil _ _) after
      have later : Passed label part :=
        fun place suffix => passed place (suffix.trans (List.suffix_cons item part))
      rw [List.cons_append, searchFrom, groupAt_absent starts here, Option.none_or, ih later,
        lastOf_cons]

/-- The first match is behind the parts that the label cannot begin in. -/
theorem search_behind (starts : pattern.before = literals label ++ more) {passages : List (List α)}
    (passed : ∀ part ∈ passages, Passed label part) {place found : List α}
    (here : ∀ before, groupAt isWord pattern before place = some found) :
    search isWord pattern (passages.flatten ++ place) = some found := by
  rw [search, searchFrom_passed starts (passed_flatten passed)]
  cases place with
  | nil => exact here _
  | cons item rest => rw [searchFrom, here, Option.some_or]

/-- The group of a match behind the label. -/
theorem groupAt_label {group after : List (Atom α)} {rest : List α}
    {skipped taken : List (List α)}
    (matched : ∀ before, parts isWord (more ++ (group ++ after)) before rest = some (skipped ++ taken))
    (as : skipped.length = more.length) (before : Option α) :
    groupAt isWord ⟨literals label ++ more, group, after⟩ before (label ++ rest) =
      some (taken.take group.length).flatten := by
  have whole := @parts_literals _ isWord (more ++ (group ++ after)) _ label before rest
  have count : (literals label ++ more).length = (label.map ([·]) ++ skipped).length := by
    simp [literals, as]
  rw [matched, Option.map_some, ← List.append_assoc (label.map _)] at whole
  rw [groupAt]
  dsimp only
  rw [List.append_assoc (literals label), whole, Option.map_some, count, List.drop_left]

end Places

end Regex
