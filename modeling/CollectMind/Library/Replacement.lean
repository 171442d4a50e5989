import Mathlib.Data.List.Infix
import Mathlib.Data.List.Count

set_option autoImplicit false

/- Search and replace in a text, from left to right and without overlaps. The items of the text
may carry more than what they are compared by: a key says what that is, so that one text can be
followed through with and without marks on its items. Literals that no match can touch cut a text
into parts that are replaced on their own. -/
namespace Replacement

variable {α β κ η : Type} [DecidableEq κ] (key : α → κ)

def begins (old : List κ) (text : List α) : Bool := old.isPrefixOf (text.map key)

/-- Replace from here on, after some items of a match that are still to be passed over. -/
def replaceFrom (old : List κ) (new : List α) : Nat → List α → List α
  | _, [] => []
  | skip + 1, _ :: rest => replaceFrom old new skip rest
  | 0, item :: rest =>
    if begins key old (item :: rest) then new ++ replaceFrom old new (old.length - 1) rest
    else item :: replaceFrom old new 0 rest

def replace (old : List κ) (new text : List α) : List α := replaceFrom key old new 0 text

/-- Where a text begins for the first time. -/
def indexOf (old : List κ) : List α → Option Nat
  | [] => if old.isEmpty then some 0 else none
  | item :: rest =>
    if begins key old (item :: rest) then some 0 else (indexOf old rest).map (· + 1)

/-- A literal that no match of `old` can touch, whatever stands around it. -/
def barrier (old literal : List κ) : Bool :=
  !literal.isEmpty && literal.head?.all (fun first => !old.contains first) &&
    literal.tails.all fun part => part.isEmpty || (!old.isPrefixOf part && !part.isPrefixOf old)

/-- Literals with a part before each of them but the first. -/
def spell (first : List α) (rest : List (η × List α)) (content : η → List α) : List α :=
  first ++ rest.flatMap fun part => content part.1 ++ part.2

section Matches

variable {key} {old : List κ} {new text : List α}

theorem begins_iff : begins key old text = true ↔ old <+: text.map key := by
  rw [begins, List.isPrefixOf_iff_prefix]

theorem begins_length (here : begins key old text = true) : old.length ≤ text.length := by
  have shorter := (begins_iff.mp here).length_le
  rwa [List.length_map] at shorter

theorem barrier_iff {literal : List κ} :
    barrier old literal = true ↔
      ∃ first rest, literal = first :: rest ∧ first ∉ old ∧
        ∀ part, part <:+ literal → part ≠ [] → ¬ old <+: part ∧ ¬ part <+: old := by
  cases literal with
  | nil => simp [barrier]
  | cons first rest =>
      simp only [barrier, List.isEmpty_cons, Bool.not_false, List.head?_cons, Option.all_some,
        Bool.true_and, Bool.and_eq_true, Bool.not_eq_true', List.all_eq_true, List.mem_tails,
        Bool.or_eq_true, List.isEmpty_iff]
      constructor
      · rintro ⟨outside, parts⟩
        refine ⟨first, rest, rfl, by simpa using outside, ?_⟩
        intro part tail nonempty
        have apart := (parts part tail).resolve_left nonempty
        simpa [Bool.eq_false_iff, List.isPrefixOf_iff_prefix] using apart
      · rintro ⟨_, _, same, outside, parts⟩
        cases same
        refine ⟨by simpa using outside, ?_⟩
        intro part tail
        by_cases empty : part = []
        · exact Or.inl empty
        · right
          simpa [Bool.eq_false_iff, List.isPrefixOf_iff_prefix] using parts part tail empty

/-- A match does not go past an item that it does not have. -/
theorem begins_append_cons {item : α} (outside : key item ∉ old) (before after : List α) :
    begins key old (before ++ item :: after) = begins key old before := by
  rw [Bool.eq_iff_iff, begins_iff, begins_iff, List.map_append, List.map_cons]
  constructor
  · intro here
    rcases List.prefix_or_prefix_of_prefix here (List.prefix_append (before.map key) _) with
      inside | ⟨more, longer⟩
    · exact inside
    · cases more with
      | nil =>
          rw [List.append_nil] at longer
          rw [longer]
      | cons next more =>
          rw [← longer, List.prefix_append_right_inj, List.cons_prefix_cons] at here
          apply absurd _ outside
          rw [← longer, ← here.1]
          exact List.mem_append_right _ List.mem_cons_self
  · intro here
    exact here.trans (List.prefix_append _ _)

theorem not_begins_inside {part after : List α} (apart : ¬ old <+: part.map key)
    (behind : ¬ part.map key <+: old) : begins key old (part ++ after) = false := by
  rw [Bool.eq_false_iff, ne_eq, begins_iff, List.map_append]
  intro here
  rcases List.prefix_or_prefix_of_prefix here (List.prefix_append (part.map key) _) with
    inside | outside
  · exact apart inside
  · exact behind outside

end Matches

section Replace

variable {key} {old : List κ} {new text : List α}

theorem replaceFrom_append_cons {item : α} (outside : key item ∉ old) (after : List α) :
    ∀ (before : List α) (skip : Nat), skip ≤ before.length →
      replaceFrom key old new skip (before ++ item :: after) =
        replaceFrom key old new skip before ++ replaceFrom key old new 0 (item :: after) := by
  intro before
  induction before with
  | nil =>
      intro skip bound
      rw [Nat.le_zero.mp bound]
      rfl
  | cons first before ih =>
      intro skip bound
      cases skip with
      | succ skip => exact ih skip (Nat.le_of_succ_le_succ bound)
      | zero =>
          have same := begins_append_cons outside (first :: before) after
          rw [List.cons_append] at same ⊢
          rw [replaceFrom, replaceFrom, same]
          by_cases here : begins key old (first :: before) = true
          · have fits := begins_length here
            rw [List.length_cons] at fits
            rw [if_pos here, if_pos here, ih _ (by omega), List.append_assoc]
          · rw [if_neg here, if_neg here, ih 0 (Nat.zero_le _), List.cons_append]

/-- Where no match begins, the text stays. -/
theorem replaceFrom_append_of_not_begins (new after : List α) :
    ∀ literal : List α,
      (∀ part, part <:+ literal → part ≠ [] → begins key old (part ++ after) = false) →
      replaceFrom key old new 0 (literal ++ after) = literal ++ replaceFrom key old new 0 after := by
  intro literal
  induction literal with
  | nil => exact fun _ => rfl
  | cons item rest ih =>
      intro nowhere
      have here := nowhere (item :: rest) (List.suffix_refl _) (List.cons_ne_nil _ _)
      rw [List.cons_append] at here ⊢
      rw [replaceFrom, here, if_neg Bool.false_ne_true, ih, List.cons_append]
      intro part tail nonempty
      exact nowhere part (tail.trans (List.suffix_cons item rest)) nonempty

theorem barrier_not_begins {literal part : List α} (blocks : barrier old (literal.map key) = true)
    (tail : part <:+ literal) (nonempty : part ≠ []) (after : List α) :
    begins key old (part ++ after) = false := by
  obtain ⟨_, _, _, _, parts⟩ := barrier_iff.mp blocks
  have apart := parts (part.map key) (tail.map key) (by simpa using nonempty)
  exact not_begins_inside apart.1 apart.2

/-- A barrier cuts the text. -/
theorem replace_append_barrier {literal : List α} (blocks : barrier old (literal.map key) = true)
    (new before after : List α) :
    replace key old new (before ++ (literal ++ after)) =
      replace key old new before ++ (literal ++ replace key old new after) := by
  have inside := replaceFrom_append_of_not_begins new after literal
    fun part tail nonempty => barrier_not_begins blocks tail nonempty after
  obtain ⟨first, rest, shape, outside, _⟩ := barrier_iff.mp blocks
  cases literal with
  | nil => cases shape
  | cons item literal =>
      rw [List.map_cons, List.cons.injEq] at shape
      rw [← shape.1] at outside
      rw [List.cons_append] at inside ⊢
      rw [replace, replace, replaceFrom_append_cons outside _ before 0 (Nat.zero_le _), inside]
      rfl

/-- Between barriers every part is replaced on its own. -/
theorem replace_spell {first : List α} {rest : List (η × List α)}
    (blocks : ∀ literal ∈ first :: rest.map Prod.snd, barrier old (literal.map key) = true)
    (new : List α) (content : η → List α) :
    replace key old new (spell first rest content) =
      spell first rest fun hole => replace key old new (content hole) := by
  rw [List.forall_mem_cons] at blocks
  have parts : replace key old new (rest.flatMap fun part => content part.1 ++ part.2) =
      rest.flatMap fun part => replace key old new (content part.1) ++ part.2 := by
    have later := blocks.2
    clear blocks
    induction rest with
    | nil => rfl
    | cons part rest ih =>
        rw [List.map_cons, List.forall_mem_cons] at later
        rw [List.flatMap_cons, List.append_assoc, replace_append_barrier later.1, ih later.2,
          List.flatMap_cons, List.append_assoc]
  have whole := replace_append_barrier blocks.1 new [] (rest.flatMap fun part =>
    content part.1 ++ part.2)
  rw [spell, spell, ← parts]
  exact whole

theorem replaceFrom_length (rest : List α) : replaceFrom key old new rest.length rest = [] := by
  induction rest with
  | nil => rfl
  | cons item rest ih => exact ih

theorem replace_self (nonempty : text ≠ []) (same : text.map key = old) :
    replace key old new text = new := by
  cases text with
  | nil => exact absurd rfl nonempty
  | cons item rest =>
      have here : begins key old (item :: rest) = true := by
        rw [begins_iff, same]
      have left : old.length - 1 = rest.length := by
        rw [← same, List.length_map, List.length_cons]
        omega
      rw [replace, replaceFrom, if_pos here, left, replaceFrom_length, List.append_nil]

theorem replace_absent (absent : ¬ old <:+: text.map key) :
    replace key old new text = text := by
  have nowhere : ∀ part, part <:+ text → part ≠ [] → begins key old (part ++ []) = false := by
    intro part tail _
    rw [Bool.eq_false_iff, ne_eq, begins_iff, List.append_nil]
    intro here
    exact absent (here.isInfix.trans (tail.map key).isInfix)
  have stays := replaceFrom_append_of_not_begins new [] text nowhere
  rw [List.append_nil] at stays
  rw [replace, stays]
  exact List.append_nil _

theorem mem_replaceFrom {item : α} :
    ∀ {skip : Nat} {text : List α}, item ∈ replaceFrom key old new skip text →
      item ∈ text ∨ item ∈ new := by
  intro skip text
  induction text generalizing skip with
  | nil => intro member; cases skip <;> cases member
  | cons first rest ih =>
      intro member
      cases skip with
      | succ skip => exact (ih member).imp_left (List.mem_cons_of_mem _)
      | zero =>
          rw [replaceFrom] at member
          split at member
          · rcases List.mem_append.mp member with inserted | later
            · exact Or.inr inserted
            · exact (ih later).imp_left (List.mem_cons_of_mem _)
          · rcases List.mem_cons.mp member with rfl | later
            · exact Or.inl List.mem_cons_self
            · exact (ih later).imp_left (List.mem_cons_of_mem _)

/-- Replacing with marked items is replacing, with marks. -/
theorem map_replace (key : α → κ) (old : List κ) (new text : List α) :
    (replace key old new text).map key = replace id old (new.map key) (text.map key) := by
  unfold replace
  generalize 0 = skip
  induction text generalizing skip with
  | nil => rw [replaceFrom, List.map_nil, replaceFrom]
  | cons item rest ih =>
      cases skip with
      | succ skip => exact ih skip
      | zero =>
          have same : begins id old ((item :: rest).map key) = begins key old (item :: rest) := by
            rw [begins, begins, List.map_id]
          rw [List.map_cons] at same ⊢
          rw [replaceFrom, replaceFrom, same]
          by_cases here : begins key old (item :: rest) = true
          · rw [if_pos here, if_pos here, List.map_append, ih]
          · rw [if_neg here, if_neg here, List.map_cons, ih]

end Replace

section Counting

variable {key} {old : List κ} {new text : List α} {marked : α → Bool}

theorem countP_replaceFrom_le (key : α → κ) (old : List κ) (plain : new.countP marked = 0)
    (text : List α) (skip : Nat) :
    (replaceFrom key old new skip text).countP marked ≤ text.countP marked := by
  induction text generalizing skip with
  | nil => rw [replaceFrom]
  | cons item rest ih =>
      have grows : rest.countP marked ≤ (item :: rest).countP marked := by
        rw [List.countP_cons]
        omega
      cases skip with
      | succ skip => exact (ih skip).trans grows
      | zero =>
          rw [replaceFrom]
          by_cases here : begins key old (item :: rest) = true
          · rw [if_pos here, List.countP_append, plain, Nat.zero_add]
            exact (ih _).trans grows
          · have later := ih 0
            rw [if_neg here, List.countP_cons, List.countP_cons]
            omega

/-- A match takes marked items away. -/
theorem countP_replace_lt (plain : new.countP marked = 0) (nonempty : old ≠ [])
    (all : ∀ item ∈ text, marked item = true) (present : old <:+: text.map key) :
    (replace key old new text).countP marked < text.countP marked := by
  induction text with
  | nil => exact absurd (List.infix_nil.mp present) nonempty
  | cons item rest ih =>
      rw [List.forall_mem_cons] at all
      rw [replace, replaceFrom, List.countP_cons, if_pos all.1]
      by_cases here : begins key old (item :: rest) = true
      · have later := countP_replaceFrom_le key old plain rest (old.length - 1)
        rw [if_pos here, List.countP_append, plain]
        omega
      · rw [List.map_cons, List.infix_cons_iff] at present
        have behind := present.resolve_left fun front => here (begins_iff.mpr front)
        have later := ih all.2 behind
        rw [replace] at later
        rw [if_neg here, List.countP_cons, if_pos all.1]
        omega

/-- Items that no match has are kept. -/
theorem countP_le_replace (new : List α) (nonempty : old ≠ [])
    (outside : ∀ item, marked item = true → key item ∉ old)
    (text : List α) : text.countP marked ≤ (replace key old new text).countP marked := by
  -- the items still to be passed over are the rest of a match
  suffices from_ : ∀ (skip : Nat) (text : List α), (∀ item ∈ text.take skip, key item ∈ old) →
      text.countP marked ≤ (replaceFrom key old new skip text).countP marked from
    from_ 0 text (by simp)
  intro skip text
  induction text generalizing skip with
  | nil => simp
  | cons item rest ih =>
      intro passed
      cases skip with
      | succ skip =>
          rw [List.take_succ_cons, List.forall_mem_cons] at passed
          have gone : ¬ marked item = true := fun kept => outside item kept passed.1
          rw [replaceFrom, List.countP_cons_of_neg gone]
          exact ih skip passed.2
      | zero =>
          rw [replaceFrom]
          by_cases here : begins key old (item :: rest) = true
          · have inside : ∀ other ∈ (item :: rest).take old.length, key other ∈ old := by
              intro other member
              have front := List.prefix_iff_eq_take.mp (begins_iff.mp here)
              rw [front, ← List.map_take]
              exact List.mem_map_of_mem member
            rw [if_pos here, List.countP_append]
            cases old with
            | nil => exact absurd rfl nonempty
            | cons first others =>
                rw [List.length_cons, List.take_succ_cons, List.forall_mem_cons] at inside
                have gone : ¬ marked item = true := fun kept => outside item kept inside.1
                have later := ih others.length inside.2
                rw [List.countP_cons_of_neg gone]
                simp only [List.length_cons, Nat.add_sub_cancel]
                omega
          · have later := ih 0 (by simp)
            rw [if_neg here, List.countP_cons, List.countP_cons]
            omega

end Counting

section Index

variable {key} {old : List κ}

theorem indexOf_of_begins {text : List α} (here : begins key old text = true) :
    indexOf key old text = some 0 := by
  cases text with
  | nil =>
      have empty := List.prefix_nil.mp (begins_iff.mp here)
      rw [indexOf, empty]
      rfl
  | cons item rest => rw [indexOf, if_pos here]

/-- A text is found no later than where it stands. -/
theorem indexOf_le {after : List α} (here : begins key old after = true) (before : List α) :
    ∃ index ≤ before.length, indexOf key old (before ++ after) = some index := by
  induction before with
  | nil => exact ⟨0, le_rfl, indexOf_of_begins here⟩
  | cons item before ih =>
      obtain ⟨index, bound, found⟩ := ih
      rw [List.cons_append, indexOf]
      by_cases first : begins key old (item :: (before ++ after)) = true
      · exact ⟨0, Nat.zero_le _, if_pos first⟩
      · refine ⟨index + 1, Nat.succ_le_succ bound, ?_⟩
        rw [if_neg first, found]
        rfl

/-- A text that is in the front part is found there. -/
theorem indexOf_of_present {front : List α} (present : old <:+: front.map key) (rest : List α) :
    ∃ index, indexOf key old (front ++ rest) = some index ∧
      index + old.length ≤ front.length := by
  obtain ⟨before, after, split⟩ := present
  obtain ⟨first, second, rfl, firstMap, rfl⟩ := List.map_eq_append_iff.mp split.symm
  obtain ⟨head, middle, rfl, rfl, middleMap⟩ := List.map_eq_append_iff.mp firstMap
  have here : begins key old (middle ++ (second ++ rest)) = true := by
    rw [begins_iff, List.map_append, middleMap]
    exact List.prefix_append _ _
  obtain ⟨index, bound, found⟩ := indexOf_le here head
  have long : old.length = middle.length := by rw [← middleMap, List.length_map]
  refine ⟨index, ?_, ?_⟩
  · rw [← found]
    simp only [List.append_assoc]
  · simp only [List.length_append]
    omega

/-- Where no match begins, the search goes on. -/
theorem indexOf_append {before after : List α}
    (nowhere : ∀ part, part <:+ before → part ≠ [] → begins key old (part ++ after) = false) :
    indexOf key old (before ++ after) = (indexOf key old after).map (before.length + ·) := by
  induction before with
  | nil => simp
  | cons item before ih =>
      have here := nowhere (item :: before) (List.suffix_refl _) (List.cons_ne_nil _ _)
      rw [List.cons_append] at here ⊢
      rw [indexOf, if_neg (Bool.eq_false_iff.mp here), ih]
      · rw [Option.map_map, List.length_cons]
        congr 1
        funext index
        simp only [Function.comp_apply]
        omega
      · intro part tail nonempty
        exact nowhere part (tail.trans (List.suffix_cons item before)) nonempty

theorem shift_shift (found : Option Nat) (first second : Nat) :
    (found.map (second + ·)).map (first + ·) = found.map (first + second + ·) := by
  cases found with
  | none => rfl
  | some index => simp only [Option.map_some, Nat.add_assoc]

theorem indexOf_append_barrier {content literal : List α}
    (absent : ¬ old <:+: content.map key) (blocks : barrier old (literal.map key) = true)
    (after : List α) :
    indexOf key old (content ++ (literal ++ after)) =
      (indexOf key old after).map ((content ++ literal).length + ·) := by
  have inside : indexOf key old (literal ++ after) =
      (indexOf key old after).map (literal.length + ·) :=
    indexOf_append fun part tail nonempty => barrier_not_begins blocks tail nonempty after
  have before : indexOf key old (content ++ (literal ++ after)) =
      (indexOf key old (literal ++ after)).map (content.length + ·) := by
    apply indexOf_append
    intro part tail _
    obtain ⟨first, rest, shape, outside, _⟩ := barrier_iff.mp blocks
    cases literal with
    | nil => cases shape
    | cons item literal =>
        rw [List.map_cons, List.cons.injEq] at shape
        rw [← shape.1] at outside
        rw [List.cons_append, begins_append_cons outside, Bool.eq_false_iff, ne_eq, begins_iff]
        intro here
        exact absent (here.isInfix.trans (tail.map key).isInfix)
  rw [before, inside, shift_shift, List.length_append]

/-- The search passes over parts that do not have the text, and over the barriers between. -/
theorem indexOf_spell {first : List α} {rest : List (η × List α)} {content : η → List α}
    (blocks : ∀ literal ∈ first :: rest.map Prod.snd, barrier old (literal.map key) = true)
    (absent : ∀ part ∈ rest, ¬ old <:+: (content part.1).map key) (after : List α) :
    indexOf key old (spell first rest content ++ after) =
      (indexOf key old after).map ((spell first rest content).length + ·) := by
  rw [List.forall_mem_cons] at blocks
  have parts : indexOf key old ((rest.flatMap fun part => content part.1 ++ part.2) ++ after) =
      (indexOf key old after).map
        ((rest.flatMap fun part => content part.1 ++ part.2).length + ·) := by
    have later := blocks.2
    clear blocks
    induction rest with
    | nil => simp
    | cons part rest ih =>
        rw [List.map_cons, List.forall_mem_cons] at later
        rw [List.forall_mem_cons] at absent
        rw [List.flatMap_cons, List.append_assoc, List.append_assoc,
          indexOf_append_barrier absent.1 later.1, ih absent.2 later.2, shift_shift,
          ← List.length_append, List.append_assoc]
  have whole := indexOf_append fun part tail nonempty =>
    barrier_not_begins blocks.1 tail nonempty
      ((rest.flatMap fun part => content part.1 ++ part.2) ++ after)
  rw [spell, List.append_assoc, whole, parts, shift_shift, ← List.length_append]

theorem indexOf_map (key : α → κ) (old : List κ) (text : List α) :
    indexOf id old (text.map key) = indexOf key old text := by
  induction text with
  | nil => rfl
  | cons item rest ih =>
      have same : begins id old ((item :: rest).map key) = begins key old (item :: rest) := by
        rw [begins, begins, List.map_id]
      rw [List.map_cons] at same ⊢
      rw [indexOf, indexOf, same, ih]

end Index

section Spelled

variable {plain : α → Bool}

theorem spell_append (first : List α) (parts others : List (η × List α)) (content : η → List α) :
    spell first (parts ++ others) content =
      spell first parts content ++ others.flatMap fun part => content part.1 ++ part.2 := by
  rw [spell, spell, List.flatMap_append, List.append_assoc]

theorem infix_spell {first : List α} {rest : List (η × List α)} {content : η → List α}
    {part : η × List α} (member : part ∈ rest) : content part.1 <:+: spell first rest content := by
  obtain ⟨front, back, rfl⟩ := List.append_of_mem member
  refine ⟨first ++ front.flatMap (fun part => content part.1 ++ part.2),
    part.2 ++ back.flatMap (fun part => content part.1 ++ part.2), ?_⟩
  simp only [spell, List.flatMap_append, List.flatMap_cons, List.append_assoc]

/-- Parts without plain items before a plain one are the same. -/
theorem append_cons_inj {first second : List α} {item other : α} {rest tail : List α}
    (firstMarked : ∀ x ∈ first, plain x = false) (secondMarked : ∀ x ∈ second, plain x = false)
    (itemPlain : plain item = true) (otherPlain : plain other = true)
    (same : first ++ item :: rest = second ++ other :: tail) :
    first = second ∧ item :: rest = other :: tail := by
  induction first generalizing second with
  | nil =>
      cases second with
      | nil => exact ⟨rfl, same⟩
      | cons next second =>
          rw [List.nil_append, List.cons_append, List.cons.injEq] at same
          rw [same.1, secondMarked next List.mem_cons_self] at itemPlain
          cases itemPlain
  | cons next first ih =>
      cases second with
      | nil =>
          rw [List.nil_append, List.cons_append, List.cons.injEq] at same
          rw [← same.1, firstMarked next List.mem_cons_self] at otherPlain
          cases otherPlain
      | cons head second =>
          rw [List.cons_append, List.cons_append, List.cons.injEq] at same
          rw [List.forall_mem_cons] at firstMarked secondMarked
          have parts := ih firstMarked.2 secondMarked.2 same.2
          exact ⟨by rw [same.1, parts.1], parts.2⟩

/-- If the literals are plain and the parts are not, the text determines the parts. -/
theorem spell_inj {first : List α} {rest : List (η × List α)} {content other : η → List α}
    (literals : ∀ part ∈ rest, part.2 ≠ [] ∧ ∀ x ∈ part.2, plain x = true)
    (contents : ∀ part ∈ rest, (∀ x ∈ content part.1, plain x = false) ∧
      ∀ x ∈ other part.1, plain x = false)
    (same : spell first rest content = spell first rest other) :
    ∀ part ∈ rest, content part.1 = other part.1 := by
  have parts := List.append_cancel_left same
  clear same
  induction rest with
  | nil => simp
  | cons part rest ih =>
      rw [List.forall_mem_cons] at literals contents
      rw [List.flatMap_cons, List.flatMap_cons, List.append_assoc, List.append_assoc] at parts
      obtain ⟨item, tail, shape⟩ := List.exists_cons_of_ne_nil literals.1.1
      have itemPlain : plain item = true := literals.1.2 item (by simp [shape])
      rw [shape, List.cons_append, List.cons_append] at parts
      obtain ⟨own, later⟩ :=
        append_cons_inj contents.1.1 contents.1.2 itemPlain itemPlain parts
      rw [List.cons.injEq] at later
      rw [List.forall_mem_cons]
      exact ⟨own, ih literals.2 contents.2 (List.append_cancel_left later.2)⟩

/-- The plain items of a text are its literals. -/
theorem filter_spell {first : List α} {rest : List (η × List α)} {content : η → List α}
    (head : ∀ x ∈ first, plain x = true)
    (literals : ∀ part ∈ rest, ∀ x ∈ part.2, plain x = true)
    (contents : ∀ part ∈ rest, ∀ x ∈ content part.1, plain x = false) :
    (spell first rest content).filter plain = first ++ rest.flatMap Prod.snd := by
  rw [spell, List.filter_append, List.filter_eq_self.mpr head]
  congr 1
  induction rest with
  | nil => rfl
  | cons part rest ih =>
      rw [List.forall_mem_cons] at literals contents
      have none : (content part.1).filter plain = [] := by
        rw [List.filter_eq_nil_iff]
        intro x member
        rw [contents.1 x member]
        exact Bool.false_ne_true
      rw [List.flatMap_cons, List.filter_append, List.filter_append, none,
        List.filter_eq_self.mpr literals.1, ih literals.2 contents.2, List.flatMap_cons,
        List.nil_append]

/-- Cut out of a text whose literals are plain, a plain middle leaves what was around it only if
the cut is made at its two ends. -/
theorem cut_eq {before body middle tail : List α} {last final : α} {start stop : Nat}
    (lastPlain : plain last = true) (finalPlain : plain final = true)
    (tailPlain : ∀ x ∈ tail, plain x = true) (apart : last ≠ final)
    (literals : before.filter plain = (body ++ [last]).filter plain)
    (startBound : start ≤ (body ++ [last]).length)
    (stopBound : stop ≤ (body ++ [last] ++ (middle ++ [final])).length)
    (same : (body ++ [last] ++ (middle ++ [final]) ++ tail).take start ++
      (body ++ [last] ++ (middle ++ [final]) ++ tail).drop stop = before ++ tail) :
    start = (body ++ [last]).length ∧
      stop = (body ++ [last] ++ (middle ++ [final])).length := by
  have plains := congrArg (List.filter plain) same
  have front : (body ++ [last] ++ (middle ++ [final]) ++ tail).take start =
      (body ++ [last]).take start := by
    rw [List.append_assoc, List.take_append_of_le_length startBound]
  have ends : (body ++ [last]).filter plain = body.filter plain ++ [last] := by
    rw [List.filter_append, List.filter_cons_of_pos lastPlain, List.filter_nil]
  rw [front, List.drop_append_of_le_length stopBound, List.filter_append, List.filter_append,
    List.filter_append, literals, ends, List.filter_eq_self.mpr tailPlain, ← List.append_assoc,
    List.append_cancel_right_eq] at plains
  have total : (body ++ [last] ++ (middle ++ [final])).length =
      (body ++ [last] ++ middle).length + 1 := by
    simp only [List.length_append, List.length_singleton]
    omega
  by_cases inside : stop ≤ (body ++ [last] ++ middle).length
  · -- the end of the middle is left over, where the literals have their own last item
    rw [← List.append_assoc, List.drop_append_of_le_length inside, List.filter_append,
      List.filter_cons_of_pos finalPlain, List.filter_nil, ← List.append_assoc] at plains
    have tails := (List.append_inj' plains rfl).2
    exact absurd (List.singleton_inj.mp tails).symm apart
  · have stopped : stop = (body ++ [last] ++ (middle ++ [final])).length := by omega
    refine ⟨?_, stopped⟩
    rw [stopped, List.drop_length, List.filter_nil, List.append_nil] at plains
    by_contra short
    rw [List.length_append, List.length_singleton] at short startBound
    rw [List.take_append_of_le_length (by omega)] at plains
    have fewer := ((List.take_sublist start body).filter plain).length_le
    have lengths := congrArg List.length plains
    rw [List.length_append, List.length_singleton] at lengths
    omega

end Spelled

end Replacement
