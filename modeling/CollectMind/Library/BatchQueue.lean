import Mathlib.Data.List.Sort
import Mathlib.Data.List.Nodup

set_option autoImplicit false

/- A backlog of jobs that is worked off in batches, in the order of their ranks. -/
namespace BatchQueue

variable {α β κ : Type} [LinearOrder β] [DecidableEq κ]

/-- Batches of at most `limit` jobs, each from the front of the backlog. Jobs of the same rank
stand in any order, and in another one for the next batch. -/
inductive Drains (limit : Nat) (rank : α → β) :
    Nat → List α → List α → List α → Prop where
  | none (backlog : List α) : Drains limit rank 0 backlog [] backlog
  | batch {count : Nat} {backlog ordered rest processed waiting : List α}
      (arranged : ordered.Perm backlog)
      (sorted : ordered.Pairwise fun first second => rank first ≤ rank second)
      (left : rest.Perm (ordered.drop limit))
      (later : Drains limit rank count rest processed waiting) :
      Drains limit rank (count + 1) backlog (ordered.take limit ++ processed) waiting

section Drains

variable {limit count : Nat} {rank : α → β} {backlog processed waiting : List α}

theorem Drains.perm (drains : Drains limit rank count backlog processed waiting) :
    (processed ++ waiting).Perm backlog := by
  induction drains with
  | none backlog => exact List.Perm.refl _
  | @batch count backlog ordered rest processed waiting arranged sorted left later ih =>
      calc
        ordered.take limit ++ processed ++ waiting = ordered.take limit ++ (processed ++ waiting) :=
          List.append_assoc _ _ _
        List.Perm _ (ordered.take limit ++ ordered.drop limit) := (ih.trans left).append_left _
        _ = ordered := List.take_append_drop _ _
        List.Perm _ backlog := arranged

theorem Drains.length_processed (drains : Drains limit rank count backlog processed waiting) :
    processed.length = min (limit * count) backlog.length := by
  induction drains with
  | none backlog => simp
  | @batch count backlog ordered rest processed waiting arranged sorted left later ih =>
      have remaining := left.length_eq
      have total := arranged.length_eq
      rw [List.length_drop] at remaining
      rw [List.length_append, List.length_take, ih, Nat.mul_succ]
      omega

/-- What is left is never due before what has been taken. -/
theorem Drains.ordered (drains : Drains limit rank count backlog processed waiting) :
    ∀ first ∈ processed, ∀ second ∈ waiting, rank first ≤ rank second := by
  induction drains with
  | none backlog =>
      intro first member
      cases member
  | @batch count backlog ordered rest processed waiting arranged sorted left later ih =>
      intro first member second kept
      rcases List.mem_append.mp member with taken | processed
      · rw [← List.take_append_drop limit ordered] at sorted
        have dropped : second ∈ ordered.drop limit := by
          apply left.mem_iff.mp
          apply later.perm.mem_iff.mp
          exact List.mem_append_right _ kept
        exact (List.pairwise_append.mp sorted).2.2 first taken second dropped
      · exact ih first processed second kept

end Drains

/-- Jobs with keys of their own: taking out the keys of the first `n` leaves the others. -/
theorem filter_eq_drop (key : α → κ) {jobs : List α} (distinct : (jobs.map key).Nodup) (n : Nat) :
    jobs.filter (fun job => decide (key job ∉ (jobs.take n).map key)) = jobs.drop n := by
  have split : (jobs.take n).map key ++ (jobs.drop n).map key = jobs.map key := by
    rw [← List.map_append, List.take_append_drop]
  rw [← split] at distinct
  have apart := (List.nodup_append.mp distinct).2.2
  calc
    jobs.filter (fun job => decide (key job ∉ (jobs.take n).map key)) =
        (jobs.take n ++ jobs.drop n).filter
          (fun job => decide (key job ∉ (jobs.take n).map key)) := by
      rw [List.take_append_drop]
    _ = [] ++ jobs.drop n := by
      rw [List.filter_append]
      congr 1
      · rw [List.filter_eq_nil_iff]
        intro job member
        simp only [decide_eq_true_eq, not_not]
        exact List.mem_map_of_mem member
      · rw [List.filter_eq_self]
        intro job member
        simp only [decide_eq_true_eq]
        intro taken
        exact apart (key job) taken (key job) (List.mem_map_of_mem member) rfl
    _ = jobs.drop n := List.nil_append _

/-- What begins behind the first `n` jobs is not cut by taking these away. -/
theorem sublist_drop {jobs chain : List α} {first : α} {n : Nat}
    (inside : (first :: chain).Sublist jobs) (later : first ∉ jobs.take n) :
    (first :: chain).Sublist (jobs.drop n) := by
  rw [← List.take_append_drop n jobs, List.sublist_append_iff] at inside
  obtain ⟨front, back, split, early, late⟩ := inside
  cases front with
  | nil =>
      rw [split]
      exact late
  | cons head rest =>
      obtain ⟨same, _⟩ := List.cons.inj split
      have taken := early.subset List.mem_cons_self
      rw [← same] at taken
      exact absurd taken later

section Sorting

variable (rank : α → β)

def sort (jobs : List α) : List α :=
  jobs.insertionSort fun first second => rank first ≤ rank second

theorem sort_perm (jobs : List α) : (sort rank jobs).Perm jobs := List.perm_insertionSort _ _

theorem sort_sorted (jobs : List α) :
    (sort rank jobs).Pairwise fun first second => rank first ≤ rank second := by
  have total : Std.Total fun first second : α => rank first ≤ rank second :=
    ⟨fun first second => le_total _ _⟩
  have trans : IsTrans α fun first second => rank first ≤ rank second :=
    ⟨fun _ _ _ => le_trans⟩
  exact List.pairwise_insertionSort _ _

theorem filter_orderedInsert (keep : α → Bool) (job : α) {jobs : List α}
    (sorted : jobs.Pairwise fun first second => rank first ≤ rank second) :
    (jobs.orderedInsert (fun first second => rank first ≤ rank second) job).filter keep =
      if keep job then
        (jobs.filter keep).orderedInsert (fun first second => rank first ≤ rank second) job
      else jobs.filter keep := by
  induction jobs with
  | nil =>
      by_cases kept : keep job = true
      · simp [kept]
      · simp [kept]
  | cons head rest ih =>
      obtain ⟨first, others⟩ := List.pairwise_cons.mp sorted
      rw [List.orderedInsert_cons]
      by_cases before : rank job ≤ rank head
      · rw [if_pos before, List.filter_cons]
        by_cases kept : keep job = true
        · rw [if_pos kept, if_pos kept]
          -- the job stands before everything that is kept
          cases remaining : (head :: rest).filter keep with
          | nil => rfl
          | cons next _ =>
              have member : next ∈ head :: rest := by
                apply List.mem_of_mem_filter (p := keep)
                rw [remaining]
                exact List.mem_cons_self
              have early : rank job ≤ rank next := by
                rcases List.mem_cons.mp member with same | later
                · rw [same]
                  exact before
                · exact le_trans before (first next later)
              rw [List.orderedInsert_cons, if_pos early]
        · rw [if_neg kept, if_neg kept]
      · rw [if_neg before, List.filter_cons, List.filter_cons, ih others]
        by_cases kept : keep job = true
        · rw [if_pos kept, if_pos kept]
          by_cases stays : keep head = true
          · rw [if_pos stays, if_pos stays, List.orderedInsert_cons, if_neg before]
          · rw [if_neg stays, if_neg stays]
        · rw [if_neg kept, if_neg kept]

/-- Sorting is stable: it does not matter whether jobs are taken out before or after. -/
theorem sort_filter (keep : α → Bool) (jobs : List α) :
    sort rank (jobs.filter keep) = (sort rank jobs).filter keep := by
  induction jobs with
  | nil => rfl
  | cons job rest ih =>
      have sorted := sort_sorted rank rest
      have inserted := filter_orderedInsert rank keep job sorted
      rw [List.filter_cons]
      by_cases kept : keep job = true
      · rw [if_pos kept] at inserted ⊢
        unfold sort at ih inserted ⊢
        rw [List.insertionSort_cons, List.insertionSort_cons, ih, inserted]
      · rw [if_neg kept] at inserted ⊢
        unfold sort at ih inserted ⊢
        rw [List.insertionSort_cons, ih, inserted]

end Sorting

end BatchQueue
