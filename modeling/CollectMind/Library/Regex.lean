import Mathlib.Data.List.Infix
import Mathlib.Data.List.TakeWhile

set_option autoImplicit false

/- Regular expressions that are sequences of repeated character classes and word boundaries, with
the greedy match of a backtracking engine and the substitution of its leftmost matches from left
to right. The results are about a replacement text that matches cannot run into. -/
namespace Regex

/-- A class of items that is taken as often as it goes between two bounds, or a place between a
word and something else. -/
inductive Atom (α : Type) where
  | items (belongs : α → Bool) (least : Nat) (most : Option Nat)
  | boundary

variable {α : Type} (isWord : α → Bool)

/-- The item before a place, after some items have been passed. -/
def lastOf (before : Option α) (passed : List α) : Option α := passed.getLast?.or before

def atBoundary (before after : Option α) : Bool := before.any isWord != after.any isWord

/-- How many items a class can take here. -/
def available (belongs : α → Bool) (most : Option Nat) (text : List α) : Nat :=
  match most with
  | none => (text.takeWhile belongs).length
  | some bound => min bound (text.takeWhile belongs).length

/-- The numbers of items to try, the greatest first. -/
def counts (least most : Nat) : List Nat :=
  ((List.range (most + 1)).filter fun count => decide (least ≤ count)).reverse

/-- What each atom takes in the match that a backtracking engine finds at this place. -/
def parts : List (Atom α) → Option α → List α → Option (List (List α))
  | [], _, _ => some []
  | .boundary :: rest, before, text =>
    if atBoundary isWord before text.head? then (parts rest before text).map ([] :: ·) else none
  | .items belongs least most :: rest, before, text =>
    (counts least (available belongs most text)).findSome? fun count =>
      (parts rest (lastOf before (text.take count)) (text.drop count)).map (text.take count :: ·)

/-- The length of that match. -/
def matchAt (pattern : List (Atom α)) (before : Option α) (text : List α) : Option Nat :=
  (parts isWord pattern before text).map fun taken => taken.flatten.length

/-- A text matches as a whole, between the items around it. -/
def Matches : List (Atom α) → Option α → List α → Option α → Prop
  | [], _, word, _ => word = []
  | .boundary :: rest, before, word, after =>
    atBoundary isWord before (word.head?.or after) = true ∧ Matches rest before word after
  | .items belongs least most :: rest, before, word, after =>
    ∃ front back, word = front ++ back ∧ least ≤ front.length ∧
      (∀ bound ∈ most, front.length ≤ bound) ∧ (∀ item ∈ front, belongs item = true) ∧
      Matches rest (lastOf before front) back after

/-- Substitute from here on, after some items of a match that are still to be passed over. A match
of no items counts as none. -/
def subFrom (pattern : List (Atom α)) (new : List α) : Nat → Option α → List α → List α
  | _, _, [] => []
  | skip + 1, _, item :: rest => subFrom pattern new skip (some item) rest
  | 0, before, item :: rest =>
    match matchAt isWord pattern before (item :: rest) with
    | some (length + 1) => new ++ subFrom pattern new length (some item) rest
    | _ => item :: subFrom pattern new 0 (some item) rest

/-- `pattern.sub(new, text)`. -/
def sub (pattern : List (Atom α)) (new text : List α) : List α :=
  subFrom isWord pattern new 0 none text

/-- One substitution after the other. -/
def subAll (patterns : List (List (Atom α))) (new text : List α) : List α :=
  patterns.foldl (fun text pattern => sub isWord pattern new text) text

/-- No part of the text matches where it stands. -/
def Absent (pattern : List (Atom α)) (text : List α) : Prop :=
  ∀ front word back, text = front ++ (word ++ back) →
    ¬ Matches isWord pattern front.getLast? word back.head?

section Places

@[simp] theorem lastOf_nil (before : Option α) : lastOf before [] = before := rfl

theorem lastOf_append (before : Option α) (first second : List α) :
    lastOf before (first ++ second) = lastOf (lastOf before first) second := by
  simp only [lastOf, List.getLast?_append, Option.or_assoc]

theorem lastOf_cons (before : Option α) (item : α) (rest : List α) :
    lastOf before (item :: rest) = lastOf (some item) rest :=
  lastOf_append before [item] rest

theorem lastOf_of_ne_nil {passed : List α} (nonempty : passed ≠ []) (before : Option α) :
    lastOf before passed = passed.getLast? := by
  rw [lastOf, List.getLast?_eq_some_getLast nonempty, Option.some_or]

theorem head?_or_of_ne_nil {word : List α} (nonempty : word ≠ []) (after : Option α) :
    word.head?.or after = word.head? := by
  rw [List.head?_eq_some_head nonempty, Option.some_or]

end Places

section Engine

variable {isWord} {pattern : List (Atom α)} {before : Option α}

theorem mem_counts {least most count : Nat} :
    count ∈ counts least most ↔ least ≤ count ∧ count ≤ most := by
  simp only [counts, List.mem_reverse, List.mem_filter, List.mem_range, decide_eq_true_eq]
  omega

theorem available_le (belongs : α → Bool) (most : Option Nat) (text : List α) :
    available belongs most text ≤ (text.takeWhile belongs).length ∧
      ∀ bound ∈ most, available belongs most text ≤ bound := by
  cases most with
  | none => exact ⟨le_rfl, nofun⟩
  | some bound =>
      refine ⟨Nat.min_le_right _ _, ?_⟩
      intro other same
      cases same
      exact Nat.min_le_left _ _

theorem le_available {belongs : α → Bool} {most : Option Nat} {front : List α}
    (bounded : ∀ bound ∈ most, front.length ≤ bound) (all : ∀ item ∈ front, belongs item = true)
    (rest : List α) : front.length ≤ available belongs most (front ++ rest) := by
  have run : front.length ≤ ((front ++ rest).takeWhile belongs).length := by
    rw [List.takeWhile_append_of_pos all, List.length_append]
    omega
  cases most with
  | none => exact run
  | some bound => exact Nat.le_min.mpr ⟨bounded bound rfl, run⟩

theorem belongs_of_mem_take {belongs : α → Bool} {text : List α} {count : Nat}
    (few : count ≤ (text.takeWhile belongs).length) :
    ∀ item ∈ text.take count, belongs item = true := by
  intro item member
  have inside : text.take count <+: text.takeWhile belongs :=
    List.prefix_of_prefix_length_le (List.take_prefix _ _) (List.takeWhile_prefix _)
      ((List.length_take_le _ _).trans few)
  exact List.mem_takeWhile_imp (inside.subset member)

/-- What the engine finds is a match. -/
theorem parts_sound {text : List α} {taken : List (List α)}
    (found : parts isWord pattern before text = some taken) :
    ∃ behind, text = taken.flatten ++ behind ∧
      Matches isWord pattern before taken.flatten behind.head? := by
  induction pattern generalizing before text taken with
  | nil =>
      cases found
      exact ⟨text, rfl, rfl⟩
  | cons atom rest ih =>
      cases atom with
      | boundary =>
          rw [parts] at found
          split at found
          · rename_i here
            obtain ⟨more, later, rfl⟩ := Option.map_eq_some_iff.mp found
            obtain ⟨behind, rfl, holds⟩ := ih later
            rw [List.head?_append] at here
            exact ⟨behind, rfl, here, holds⟩
          · cases found
      | items belongs least most =>
          rw [parts] at found
          obtain ⟨count, tried, success⟩ := List.exists_of_findSome?_eq_some found
          obtain ⟨more, later, rfl⟩ := Option.map_eq_some_iff.mp success
          rw [mem_counts] at tried
          have few := tried.2.trans (available_le belongs most text).1
          have short : count ≤ text.length := few.trans (List.takeWhile_prefix _).length_le
          have length : (text.take count).length = count := List.length_take_of_le short
          obtain ⟨behind, left, holds⟩ := ih later
          refine ⟨behind, ?_, text.take count, more.flatten, rfl, ?_, ?_, ?_, holds⟩
          · rw [List.flatten_cons, List.append_assoc, ← left, List.take_append_drop]
          · omega
          · intro bound known
            have limit := (available_le belongs most text).2 bound known
            omega
          · exact belongs_of_mem_take few

/-- Where there is a match, the engine finds one. -/
theorem parts_complete {word after : List α}
    (holds : Matches isWord pattern before word after.head?) :
    (parts isWord pattern before (word ++ after)).isSome = true := by
  induction pattern generalizing before word with
  | nil => rfl
  | cons atom rest ih =>
      cases atom with
      | boundary =>
          rw [parts, List.head?_append, if_pos holds.1, Option.isSome_map]
          exact ih holds.2
      | items belongs least most =>
          obtain ⟨front, back, rfl, many, bounded, all, later⟩ := holds
          rw [parts, List.findSome?_isSome_iff]
          refine ⟨front.length, ?_, ?_⟩
          · rw [List.append_assoc]
            exact mem_counts.mpr ⟨many, le_available bounded all _⟩
          · rw [List.append_assoc, List.take_left, List.drop_left, Option.isSome_map]
            exact ih later

theorem matchAt_sound {text : List α} {length : Nat}
    (found : matchAt isWord pattern before text = some length) :
    length ≤ text.length ∧
      Matches isWord pattern before (text.take length) (text.drop length).head? := by
  obtain ⟨taken, parted, rfl⟩ := Option.map_eq_some_iff.mp found
  obtain ⟨behind, rfl, holds⟩ := parts_sound parted
  rw [List.take_left, List.drop_left, List.length_append]
  exact ⟨Nat.le_add_right _ _, holds⟩

theorem matchAt_complete {word after : List α}
    (holds : Matches isWord pattern before word after.head?) :
    (matchAt isWord pattern before (word ++ after)).isSome = true := by
  rw [matchAt, Option.isSome_map]
  exact parts_complete holds

end Engine

section Patterns

variable {isWord} {pattern : List (Atom α)} {before after : Option α} {word : List α}

def Atom.takes : Atom α → α → Bool
  | .items belongs _ _, item => belongs item
  | .boundary, _ => false

def Atom.isBoundary : Atom α → Bool
  | .items _ _ _ => false
  | .boundary => true

theorem takes_of_matches (holds : Matches isWord pattern before word after) :
    ∀ item ∈ word, ∃ atom ∈ pattern, atom.takes item = true := by
  induction pattern generalizing before word with
  | nil =>
      have empty : word = [] := holds
      intro item member
      rw [empty] at member
      cases member
  | cons atom rest ih =>
      intro item member
      cases atom with
      | boundary =>
          obtain ⟨taker, listed, takes⟩ := ih holds.2 item member
          exact ⟨taker, List.mem_cons_of_mem _ listed, takes⟩
      | items belongs least most =>
          obtain ⟨front, back, rfl, _, _, all, later⟩ := holds
          rcases List.mem_append.mp member with here | there
          · exact ⟨_, List.mem_cons_self, all item here⟩
          · obtain ⟨taker, listed, takes⟩ := ih later item there
            exact ⟨taker, List.mem_cons_of_mem _ listed, takes⟩

/-- A class that has to be taken is in every match. -/
theorem exists_belongs {belongs : α → Bool} {least : Nat} {most : Option Nat}
    (listed : .items belongs least most ∈ pattern) (positive : 0 < least)
    (holds : Matches isWord pattern before word after) : ∃ item ∈ word, belongs item = true := by
  induction pattern generalizing before word with
  | nil => cases listed
  | cons atom rest ih =>
      cases atom with
      | boundary =>
          have later := (List.mem_cons.mp listed).resolve_left nofun
          exact ih later holds.2
      | items belongs' least' most' =>
          obtain ⟨front, back, rfl, many, _, all, later⟩ := holds
          rcases List.mem_cons.mp listed with same | there
          · cases same
            obtain ⟨item, member⟩ := List.exists_mem_of_length_pos (show 0 < front.length by omega)
            exact ⟨item, List.mem_append_left _ member, all item member⟩
          · obtain ⟨item, member, inside⟩ := ih there later
            exact ⟨item, List.mem_append_right _ member, inside⟩

/-- Without boundaries it does not matter what stands around a match. -/
theorem matches_of_free (free : ∀ atom ∈ pattern, atom.isBoundary = false)
    (holds : Matches isWord pattern before word after) (before' after' : Option α) :
    Matches isWord pattern before' word after' := by
  induction pattern generalizing before before' word with
  | nil => exact holds
  | cons atom rest ih =>
      rw [List.forall_mem_cons] at free
      cases atom with
      | boundary => cases free.1
      | items belongs least most =>
          obtain ⟨front, back, split, many, bounded, all, later⟩ := holds
          exact ⟨front, back, split, many, bounded, all, ih free.2 later _⟩

theorem matches_append (pattern rest : List (Atom α)) (before : Option α) (word : List α)
    (after : Option α) :
    Matches isWord (pattern ++ rest) before word after ↔
      ∃ front back, word = front ++ back ∧ Matches isWord pattern before front (back.head?.or after) ∧
        Matches isWord rest (lastOf before front) back after := by
  induction pattern generalizing before word with
  | nil =>
      constructor
      · intro holds
        exact ⟨[], word, rfl, rfl, holds⟩
      · rintro ⟨front, back, rfl, empty, holds⟩
        have nothing : front = [] := empty
        subst nothing
        exact holds
  | cons atom others ih =>
      cases atom with
      | boundary =>
          rw [List.cons_append, Matches, ih]
          constructor
          · rintro ⟨here, front, back, rfl, first, second⟩
            rw [List.head?_append, Option.or_assoc] at here
            exact ⟨front, back, rfl, ⟨here, first⟩, second⟩
          · rintro ⟨front, back, rfl, ⟨here, first⟩, second⟩
            rw [List.head?_append, Option.or_assoc]
            exact ⟨here, front, back, rfl, first, second⟩
      | items belongs least most =>
          rw [List.cons_append, Matches]
          constructor
          · rintro ⟨front, back, rfl, many, bounded, all, later⟩
            obtain ⟨middle, tail, rfl, first, second⟩ := (ih _ _).mp later
            refine ⟨front ++ middle, tail, (List.append_assoc _ _ _).symm,
              ⟨front, middle, rfl, many, bounded, all, first⟩, ?_⟩
            rwa [lastOf_append]
          · rintro ⟨_, tail, rfl, ⟨front, middle, rfl, many, bounded, all, first⟩, second⟩
            rw [lastOf_append] at second
            refine ⟨front, middle ++ tail, List.append_assoc _ _ _, many, bounded, all, ?_⟩
            exact (ih _ _).mpr ⟨middle, tail, rfl, first, second⟩

end Patterns

section Substitution

/-- A replacement text between two items of its own. -/
def wrapped (opening : α) (inner : List α) (closing : α) : List α := opening :: (inner ++ [closing])

theorem getLast?_wrapped (opening : α) (inner : List α) (closing : α) :
    (wrapped opening inner closing).getLast? = some closing := by
  rw [wrapped, ← List.cons_append, List.getLast?_concat]

theorem lastOf_wrapped (before : Option α) (opening : α) (inner : List α) (closing : α) :
    lastOf before (wrapped opening inner closing) = some closing := by
  rw [lastOf, getLast?_wrapped, Option.some_or]

/-- Matches have neither of the two items, and something that the text between them has not. -/
structure Apart (pattern : List (Atom α)) (opening : α) (inner : List α) (closing : α) : Prop where
  opening : ∀ atom ∈ pattern, atom.takes opening = false
  closing : ∀ atom ∈ pattern, atom.takes closing = false
  needs : ∃ belongs least most, .items belongs least most ∈ pattern ∧ 0 < least ∧
    ∀ item ∈ inner, belongs item = false

/-- The item next to a replaced match may be another in the result, but that makes no new match. -/
structure Seams (pattern : List (Atom α)) (opening closing : α) : Prop where
  right : ∀ {before after : Option α} {word next : List α}, word ≠ [] → next ≠ [] →
    Matches isWord pattern before word (some opening) →
    Matches isWord pattern word.getLast? next after → Matches isWord pattern before word next.head?
  left : ∀ {before after : Option α} {word next : List α}, word ≠ [] → next ≠ [] →
    Matches isWord pattern before word next.head? →
    Matches isWord pattern (some closing) next after → Matches isWord pattern word.getLast? next after

/-- All that a substitution does, from a place on. -/
inductive Substitutes (pattern : List (Atom α)) (new : List α) : Option α → List α → List α → Prop
  | done (before : Option α) : Substitutes pattern new before [] []
  | keep {before : Option α} {item : α} {text result : List α}
      (nothing : ∀ word back, item :: text = word ++ back →
        ¬ Matches isWord pattern before word back.head?)
      (rest : Substitutes pattern new (some item) text result) :
      Substitutes pattern new before (item :: text) (item :: result)
  | swap {before : Option α} {word text result : List α} (nonempty : word ≠ [])
      (found : Matches isWord pattern before word text.head?)
      (rest : Substitutes pattern new word.getLast? text result) :
      Substitutes pattern new before (word ++ text) (new ++ result)

variable {isWord} {pattern : List (Atom α)} {new inner : List α} {opening closing : α}

theorem subFrom_skip (pattern : List (Atom α)) (new : List α) (skip : Nat) (before : Option α)
    (text : List α) :
    subFrom isWord pattern new skip before text =
      subFrom isWord pattern new 0 (lastOf before (text.take skip)) (text.drop skip) := by
  induction skip generalizing before text with
  | zero => rw [List.take_zero, lastOf_nil, List.drop_zero]
  | succ skip ih =>
      cases text with
      | nil => rfl
      | cons item rest =>
          rw [subFrom, ih, List.take_succ_cons, lastOf_cons, List.drop_succ_cons]

theorem subFrom_substitutes (proper : ∀ before after, ¬ Matches isWord pattern before [] after)
    (new : List α) (before : Option α) (text : List α) :
    Substitutes isWord pattern new before text (subFrom isWord pattern new 0 before text) := by
  induction size : text.length using Nat.strong_induction_on generalizing before text with
  | _ length ih =>
      cases text with
      | nil => exact .done before
      | cons item rest =>
          have shorter : rest.length < length := by
            rw [← size, List.length_cons]
            omega
          cases found : matchAt isWord pattern before (item :: rest) with
          | none =>
              rw [subFrom, found]
              refine .keep ?_ (ih _ shorter _ _ rfl)
              intro word back split holds
              have finds := matchAt_complete holds
              rw [← split, found] at finds
              cases finds
          | some count =>
              have sound := matchAt_sound found
              cases count with
              | zero => exact absurd sound.2 (proper _ _)
              | succ count =>
                  have whole : item :: rest =
                      (item :: rest).take (count + 1) ++ (item :: rest).drop (count + 1) :=
                    (List.take_append_drop _ _).symm
                  have nonempty : (item :: rest).take (count + 1) ≠ [] := List.cons_ne_nil _ _
                  have last : lastOf (some item) (rest.take count) =
                      ((item :: rest).take (count + 1)).getLast? := by
                    rw [← lastOf_of_ne_nil nonempty none, List.take_succ_cons, lastOf_cons]
                  have fewer : (rest.drop count).length < length := by
                    rw [List.length_drop]
                    omega
                  rw [subFrom, found]
                  dsimp only
                  rw [subFrom_skip, last]
                  nth_rewrite 1 [whole]
                  exact .swap nonempty sound.2 (ih _ fewer _ _ rfl)

variable (apart : Apart pattern opening inner closing)

include apart in
theorem Apart.matches {before after : Option α} {word : List α}
    (holds : Matches isWord pattern before word after) :
    opening ∉ word ∧ closing ∉ word ∧ word ≠ [] ∧ ¬ word <:+: wrapped opening inner closing := by
  have unused : ∀ {item : α}, (∀ atom ∈ pattern, atom.takes item = false) → item ∉ word := by
    intro item never member
    obtain ⟨atom, listed, takes⟩ := takes_of_matches holds item member
    rw [never atom listed] at takes
    cases takes
  obtain ⟨belongs, least, most, listed, positive, outside⟩ := apart.needs
  obtain ⟨item, member, inside⟩ := exists_belongs listed positive holds
  refine ⟨unused apart.opening, unused apart.closing, List.ne_nil_of_mem member, ?_⟩
  intro part
  rcases List.mem_cons.mp (part.subset member) with rfl | later
  · exact unused apart.opening member
  · rcases List.mem_append.mp later with within | last
    · rw [outside item within] at inside
      cases inside
    · rw [List.mem_singleton.mp last] at member
      exact unused apart.closing member

/-- A part without the closing item is behind the replacement text or within it. -/
theorem behind_or_within {front word back result : List α} (outside : closing ∉ word)
    (split : wrapped opening inner closing ++ result = front ++ (word ++ back)) :
    (∃ rest, front = wrapped opening inner closing ++ rest ∧ result = rest ++ (word ++ back)) ∨
      word <:+: wrapped opening inner closing := by
  rcases List.append_eq_append_iff.mp split with ⟨rest, first, second⟩ | ⟨rest, first, second⟩
  · exact Or.inl ⟨rest, first, second⟩
  · rcases List.append_eq_append_iff.mp second with ⟨more, reach, left⟩ | ⟨more, reach, left⟩
    · right
      rw [first, reach]
      exact ⟨front, more, List.append_assoc _ _ _⟩
    · cases rest using List.reverseRecOn with
      | nil =>
          left
          rw [List.append_nil] at first
          refine ⟨[], ?_, ?_⟩
          · rw [first, List.append_nil]
          · simpa using second.symm
      | append_singleton rest last =>
          have ends := congrArg List.getLast? first
          rw [getLast?_wrapped, ← List.append_assoc, List.getLast?_concat, Option.some.injEq] at ends
          have member : closing ∈ word := by
            rw [reach, ends]
            simp
          exact absurd member outside

variable {before : Option α} {text result : List α}

/-- The front of the result, up to the next replacement, is the front of the text. -/
theorem Substitutes.front
    (steps : Substitutes isWord pattern (wrapped opening inner closing) before text result)
    {word back : List α} (outside : opening ∉ word) (split : result = word ++ back) :
    ∃ behind, text = word ++ behind ∧ (behind.head? = back.head? ∨
      back.head? = some opening ∧ ∃ next after, next ≠ [] ∧ behind.head? = next.head? ∧
        Matches isWord pattern (lastOf before word) next after) := by
  induction steps generalizing word with
  | done before =>
      obtain ⟨rfl, rfl⟩ := List.append_eq_nil_iff.mp split.symm
      exact ⟨[], rfl, Or.inl rfl⟩
  | keep nothing rest ih =>
      cases word with
      | nil =>
          rw [List.nil_append] at split
          rw [← split]
          exact ⟨_, rfl, Or.inl rfl⟩
      | cons first word =>
          rw [List.cons_append, List.cons.injEq] at split
          rw [List.mem_cons, not_or] at outside
          obtain ⟨rfl, later⟩ := split
          obtain ⟨behind, rfl, ends⟩ := ih outside.2 later
          refine ⟨behind, rfl, ?_⟩
          rwa [lastOf_cons]
  | swap nonempty found rest ih =>
      cases word with
      | nil =>
          rw [List.nil_append] at split
          rw [← split]
          refine ⟨_, (List.nil_append _).symm, Or.inr ⟨rfl, _, _, nonempty, ?_, found⟩⟩
          rw [List.head?_append, head?_or_of_ne_nil nonempty]
      | cons first word =>
          rw [wrapped, List.cons_append, List.cons_append, List.cons.injEq] at split
          exact absurd (split.1 ▸ List.mem_cons_self) outside

/-- A part of the result without the two items is a part of the text or of the replacement. -/
theorem Substitutes.part
    (steps : Substitutes isWord pattern (wrapped opening inner closing) before text result)
    {front word back : List α} (nonempty : word ≠ []) (opens : opening ∉ word)
    (closes : closing ∉ word) (split : result = front ++ (word ++ back)) :
    word <:+: text ∨ word <:+: wrapped opening inner closing := by
  induction steps generalizing front with
  | done before =>
      have empty := (List.append_eq_nil_iff.mp split.symm).2
      exact absurd (List.append_eq_nil_iff.mp empty).1 nonempty
  | keep nothing rest ih =>
      cases front with
      | nil =>
          left
          obtain ⟨behind, whole, _⟩ := (Substitutes.keep nothing rest).front opens split
          rw [whole]
          exact (List.prefix_append _ _).isInfix
      | cons first front =>
          rw [List.cons_append, List.cons.injEq] at split
          exact (ih split.2).imp_left List.infix_cons
  | swap _ found rest ih =>
      rcases behind_or_within closes split with ⟨front', _, later⟩ | within
      · refine (ih later).imp_left ?_
        intro part
        exact part.trans (List.suffix_append _ _).isInfix
      · exact Or.inr within

/-- What stands before a place of the result: the item of the text, or the closing item where a
match was replaced just before. -/
inductive Shown (isWord : α → Bool) (pattern : List (Atom α)) (closing : α) :
    Option α → List α → Option α → Prop
  | same (before : Option α) (text : List α) : Shown isWord pattern closing before text before
  | seam {earlier : Option α} {word text : List α} (nonempty : word ≠ [])
      (found : Matches isWord pattern earlier word text.head?) :
      Shown isWord pattern closing word.getLast? text (some closing)

include apart in
/-- The pattern has no match in the result. -/
theorem Substitutes.absent (seams : Seams isWord pattern opening closing)
    (steps : Substitutes isWord pattern (wrapped opening inner closing) before text result)
    {shown : Option α} (context : Shown isWord pattern closing before text shown)
    {front word back : List α} (split : result = front ++ (word ++ back)) :
    ¬ Matches isWord pattern (lastOf shown front) word back.head? := by
  intro holds
  have word_apart := apart.matches holds
  induction steps generalizing shown front with
  | done before =>
      have empty := (List.append_eq_nil_iff.mp split.symm).2
      exact word_apart.2.2.1 (List.append_eq_nil_iff.mp empty).1
  | @keep before item text result nothing rest ih =>
      cases front with
      | nil =>
          -- a match at this place of the result would be one at this place of the text
          obtain ⟨behind, whole, ends⟩ :=
            (Substitutes.keep nothing rest).front word_apart.1 split
          rw [lastOf_nil] at holds
          have ended : Matches isWord pattern shown word behind.head? := by
            rcases ends with same | ⟨opened, next, after, nonempty, same, found⟩
            · rwa [same]
            · rw [opened] at holds
              rw [lastOf_of_ne_nil word_apart.2.2.1] at found
              rw [same]
              exact seams.right word_apart.2.2.1 nonempty holds found
          have begun : Matches isWord pattern before word behind.head? := by
            cases context with
            | same => exact ended
            | seam nonempty found =>
                rw [whole, List.head?_append, head?_or_of_ne_nil word_apart.2.2.1] at found
                exact seams.left nonempty word_apart.2.2.1 found ended
          exact nothing word behind whole begun
      | cons first front =>
          rw [List.cons_append, List.cons.injEq] at split
          obtain ⟨rfl, later⟩ := split
          rw [lastOf_cons] at holds
          exact ih (.same _ _) later holds
  | swap nonempty found rest ih =>
      rcases behind_or_within word_apart.2.1 split with ⟨front', rfl, later⟩ | within
      · rw [lastOf_append, lastOf_wrapped] at holds
        exact ih (.seam nonempty found) later holds
      · exact word_apart.2.2.2 within

end Substitution

section Results

variable {isWord} {pattern other : List (Atom α)} {opening closing : α} {inner text : List α}

theorem Apart.substitutes (apart : Apart pattern opening inner closing) (new text : List α) :
    Substitutes isWord pattern new none text (sub isWord pattern new text) :=
  subFrom_substitutes (fun _ _ holds => (apart.matches holds).2.2.1 rfl) new none text

/-- A substitution leaves no match of its pattern. -/
theorem sub_absent (apart : Apart pattern opening inner closing)
    (seams : Seams isWord pattern opening closing) (text : List α) :
    Absent isWord pattern (sub isWord pattern (wrapped opening inner closing) text) := by
  intro front word back split holds
  have nothing := (apart.substitutes (wrapped opening inner closing) text).absent apart seams
    (.same none text) split
  rw [lastOf, Option.or_none] at nothing
  exact nothing holds

/-- A substitution makes no match of another pattern, if that has no boundaries. -/
theorem sub_keeps_absent (apart : Apart pattern opening inner closing)
    (apart' : Apart other opening inner closing) (free : ∀ atom ∈ other, atom.isBoundary = false)
    (absent : Absent isWord other text) :
    Absent isWord other (sub isWord pattern (wrapped opening inner closing) text) := by
  intro front word back split holds
  obtain ⟨opens, closes, nonempty, outside⟩ := apart'.matches holds
  have part := (apart.substitutes (wrapped opening inner closing) text).part nonempty opens closes
    split
  obtain ⟨front', back', whole⟩ := part.resolve_right outside
  rw [List.append_assoc] at whole
  exact absent front' word back' whole.symm (matches_of_free free holds _ _)

theorem sub_of_absent (apart : Apart pattern opening inner closing) (new : List α)
    (absent : Absent isWord pattern text) : sub isWord pattern new text = text := by
  have unchanged : ∀ {before : Option α} {rest result : List α},
      Substitutes isWord pattern new before rest result →
      (∀ front word back, rest = front ++ (word ++ back) →
        ¬ Matches isWord pattern (lastOf before front) word back.head?) → result = rest := by
    intro before rest result steps
    induction steps with
    | done before => exact fun _ => rfl
    | keep nothing rest ih =>
        intro nowhere
        rw [ih]
        intro front word back split
        have later := nowhere (_ :: front) word back (congrArg _ split)
        rwa [lastOf_cons] at later
    | swap nonempty found rest ih =>
        intro nowhere
        exact absurd found (nowhere [] _ _ rfl)
  apply unchanged (apart.substitutes new text)
  intro front word back split
  rw [lastOf, Option.or_none]
  exact absent front word back split

theorem subAll_keeps_absent (patterns : List (List (Atom α)))
    (apart : ∀ pattern ∈ patterns, Apart pattern opening inner closing)
    (apart' : Apart other opening inner closing) (free : ∀ atom ∈ other, atom.isBoundary = false)
    (absent : Absent isWord other text) :
    Absent isWord other (subAll isWord patterns (wrapped opening inner closing) text) := by
  induction patterns generalizing text with
  | nil => exact absent
  | cons pattern patterns ih =>
      rw [List.forall_mem_cons] at apart
      exact ih apart.2 (sub_keeps_absent apart.1 apart' free absent)

/-- After substitutions one after the other no pattern has a match left, if only the last of them
has boundaries. -/
theorem subAll_absent {patterns : List (List (Atom α))}
    (apart : ∀ pattern ∈ patterns, Apart pattern opening inner closing)
    (seams : ∀ pattern ∈ patterns, Seams isWord pattern opening closing)
    (free : patterns.Pairwise fun pattern _ => ∀ atom ∈ pattern, atom.isBoundary = false)
    (text : List α) : ∀ pattern ∈ patterns,
      Absent isWord pattern (subAll isWord patterns (wrapped opening inner closing) text) := by
  induction patterns generalizing text with
  | nil => exact nofun
  | cons pattern patterns ih =>
      rw [List.forall_mem_cons] at apart seams ⊢
      rw [List.pairwise_cons] at free
      have first := sub_absent apart.1 seams.1 text
      refine ⟨?_, ih apart.2 seams.2 free.2 _⟩
      cases patterns with
      | nil => exact first
      | cons next patterns =>
          have unbounded := free.1 next List.mem_cons_self
          exact subAll_keeps_absent (next :: patterns) apart.2 apart.1 unbounded first

theorem subAll_of_absent {patterns : List (List (Atom α))}
    (apart : ∀ pattern ∈ patterns, Apart pattern opening inner closing) (new : List α)
    (absent : ∀ pattern ∈ patterns, Absent isWord pattern text) :
    subAll isWord patterns new text = text := by
  induction patterns with
  | nil => rfl
  | cons pattern patterns ih =>
      rw [List.forall_mem_cons] at apart absent
      have first : subAll isWord (pattern :: patterns) new text =
          subAll isWord patterns new (sub isWord pattern new text) := rfl
      rw [first, sub_of_absent apart.1 new absent.1]
      exact ih apart.2 absent.2

theorem Seams.of_free (free : ∀ atom ∈ pattern, atom.isBoundary = false) :
    Seams isWord pattern opening closing :=
  ⟨fun _ _ holds _ => matches_of_free free holds _ _,
    fun _ _ _ holds => matches_of_free free holds _ _⟩

theorem atBoundary_words {first second : α} (firstWord : isWord first = true)
    (secondWord : isWord second = true) : atBoundary isWord (some first) (some second) = false := by
  simp [atBoundary, firstWord, secondWord]

theorem matches_guarded {middle : List (Atom α)} {before after : Option α} {word : List α}
    (holds : Matches isWord (.boundary :: (middle ++ [.boundary])) before word after) :
    atBoundary isWord before (word.head?.or after) = true ∧
      atBoundary isWord (lastOf before word) after = true ∧
      Matches isWord middle before word after := by
  obtain ⟨front, back, rfl, inside, ends⟩ := (matches_append _ _ _ _ _).mp holds.2
  have empty : back = [] := ends.2
  subst empty
  rw [List.append_nil] at holds ⊢
  exact ⟨holds.1, ends.1, inside⟩

/-- A pattern between boundaries whose matches begin and end with word items does not match right
beside a match. -/
theorem Seams.of_guarded {middle : List (Atom α)}
    (first : ∀ {before after : Option α} {word : List α}, Matches isWord middle before word after →
      ∃ item, word.head? = some item ∧ isWord item = true)
    (last : ∀ {before after : Option α} {word : List α}, Matches isWord middle before word after →
      ∃ item, word.getLast? = some item ∧ isWord item = true) :
    Seams isWord (.boundary :: (middle ++ [.boundary])) opening closing := by
  have never : ∀ {before after before' after' : Option α} {word next : List α},
      Matches isWord middle before word after → Matches isWord middle before' next after' →
      atBoundary isWord word.getLast? next.head? = false := by
    intro before after before' after' word next left right
    obtain ⟨_, ends, leftWord⟩ := last left
    obtain ⟨_, starts, rightWord⟩ := first right
    rw [ends, starts]
    exact atBoundary_words leftWord rightWord
  constructor
  · intro before after word next nonempty nonempty' holds found
    have left := matches_guarded holds
    have right := matches_guarded found
    rw [head?_or_of_ne_nil nonempty', never left.2.2 right.2.2] at right
    cases right.1
  · intro before after word next nonempty nonempty' found holds
    have left := matches_guarded found
    have right := matches_guarded holds
    rw [lastOf_of_ne_nil nonempty, never left.2.2 right.2.2] at left
    cases left.2.1

/-- What a match begins with, if its first class has to be taken. -/
theorem head_of_matches {belongs : α → Bool} {least : Nat} {most : Option Nat}
    {rest : List (Atom α)} (positive : 0 < least) {before after : Option α} {word : List α}
    (holds : Matches isWord (.items belongs least most :: rest) before word after) :
    ∃ item, word.head? = some item ∧ belongs item = true := by
  obtain ⟨front, back, rfl, many, _, all, _⟩ := holds
  cases front with
  | nil =>
      rw [List.length_nil] at many
      omega
  | cons item front => exact ⟨item, rfl, all item List.mem_cons_self⟩

/-- And what it ends with, by its last class. -/
theorem last_of_matches {belongs : α → Bool} {least : Nat} {most : Option Nat}
    {init : List (Atom α)} (positive : 0 < least) {before after : Option α} {word : List α}
    (holds : Matches isWord (init ++ [.items belongs least most]) before word after) :
    ∃ item, word.getLast? = some item ∧ belongs item = true := by
  obtain ⟨front, _, rfl, _, back, tail, rfl, many, _, all, ends⟩ :=
    (matches_append _ _ _ _ _).mp holds
  have empty : tail = [] := ends
  subst empty
  have nonempty : back ≠ [] := by
    rintro rfl
    rw [List.length_nil] at many
    omega
  refine ⟨back.getLast nonempty, ?_, all _ (List.getLast_mem nonempty)⟩
  rw [List.append_nil, List.getLast?_append, List.getLast?_eq_some_getLast nonempty, Option.some_or]

end Results

end Regex
