import Clausal.Grouping.Loose
import Mathlib.Data.List.Sort

/-!
# Sorting by a comparison that may fail

A sort keeps the leading run and puts every later value behind its equals by bisection.
If the comparison answers for all the given values, and answers by the order of their
keys, then the sort answers, too, with the same values in the order of the keys.

Nothing is said here of a comparison that fails on two of the values. Whether the sort
then meets the two depends on the run and on the bisection.
-/

namespace Clausal.Sorting

variable {α ε κ : Type} [LinearOrder κ] {less : α → α → Except ε Bool} {key : α → κ}

/-- Among the values the comparison answers by the order of the keys. -/
def Compares (less : α → α → Except ε Bool) (key : α → κ) (values : List α) : Prop :=
  ∀ later ∈ values, ∀ earlier ∈ values,
    less later earlier = .ok (decide (key later < key earlier))

/-- No value has a greater key than a later one. -/
abbrev Ascending (key : α → κ) (values : List α) : Prop :=
  values.Pairwise fun earlier later => key earlier ≤ key later

/-- A comparison that is right on some values is right on fewer. -/
theorem Compares.mono {values more : List α} (compares : Compares less key more)
    (included : values ⊆ more) : Compares less key values :=
  fun later laterListed earlier earlierListed =>
    compares later (included laterListed) earlier (included earlierListed)

/-- The later value goes on with a run that descends, or with one that does not. -/
def GoesOn (key : α → κ) (descending : Bool) (later earlier : α) : Prop :=
  decide (key later < key earlier) = descending

/-- What goes on with a value goes on with everything that the value went on with, in either
direction of the run. -/
theorem GoesOn.trans {descending : Bool} {third second first : α}
    (latest : GoesOn key descending third second) (later : GoesOn key descending second first) :
    GoesOn key descending third first := by
  unfold GoesOn at *
  cases descending with
  | true =>
    rw [decide_eq_true_iff] at *
    exact latest.trans later
  | false =>
    rw [decide_eq_false_iff_not, not_lt] at *
    exact later.trans latest

/-- The rest of a run. The induction is on the values that are still to be looked at; the
run taken so far stands latest first. -/
theorem takeRun_spec {descending : Bool} {last : α} {taken rest : List α}
    (compares : Compares less key (last :: rest))
    (runs : (last :: taken).Pairwise (GoesOn key descending)) :
    ∃ run remaining, takeRun less descending last taken rest = .ok (run, remaining) ∧
      run.reverse ++ remaining = (last :: taken).reverse ++ rest ∧
      run.Pairwise (GoesOn key descending) := by
  induction rest generalizing last taken with
  | nil => exact ⟨last :: taken, [], rfl, rfl, runs⟩
  | cons next rest inductionHypothesis =>
    have compared := compares next (by simp) last (by simp)
    rw [takeRun, compared]
    by_cases onward : GoesOn key descending next last
    · have further : (next :: last :: taken).Pairwise (GoesOn key descending) := by
        refine List.pairwise_cons.mpr ⟨?_, runs⟩
        intro earlier listed
        rcases List.mem_cons.mp listed with rfl | before
        · exact onward
        · exact onward.trans (List.rel_of_pairwise_cons runs before)
      obtain ⟨run, remaining, taking, whole, runs⟩ :=
        inductionHypothesis (compares.mono (List.subset_cons_self _ _)) further
      refine ⟨run, remaining, ?_, ?_, runs⟩
      · exact (if_pos onward).trans taking
      · rw [whole, List.reverse_cons, List.append_assoc]
        rfl
    · exact ⟨last :: taken, next :: rest, if_neg onward, rfl, runs⟩

/-- The leading run ascends, once it is turned round if it has to be. A descending run is strict,
so turning it round keeps equal values in order. -/
theorem leadingRun_spec {values : List α} (compares : Compares less key values) :
    ∃ run rest, leadingRun less values = .ok (run, rest) ∧ (run ++ rest).Perm values ∧
      Ascending key run := by
  match values with
  | [] => exact ⟨[], [], rfl, List.Perm.refl _, List.Pairwise.nil⟩
  | [value] => exact ⟨[value], [], rfl, List.Perm.refl _, List.pairwise_singleton _ _⟩
  | first :: second :: rest =>
    have compared := compares second (by simp) first (by simp)
    have begun : [second, first].Pairwise (GoesOn key (decide (key second < key first))) :=
      List.pairwise_pair.mpr rfl
    obtain ⟨run, remaining, taking, whole, runs⟩ :=
      takeRun_spec (compares.mono (List.subset_cons_self _ _)) begun
    have permuted : (run ++ remaining).Perm (first :: second :: rest) :=
      ((List.reverse_perm run).symm.append_right remaining).trans (List.Perm.of_eq whole)
    rw [leadingRun, compared]
    simp only [bind, Except.bind, taking]
    by_cases descends : key second < key first
    -- A descending run is kept latest first, so it ascends as it stands.
    · refine ⟨run, remaining, by simp [descends, pure, Except.pure], permuted, ?_⟩
      apply runs.imp
      intro earlier later onward
      rw [GoesOn, decide_eq_true descends, decide_eq_true_iff] at onward
      exact onward.le
    · refine ⟨run.reverse, remaining, by simp [descends, pure, Except.pure], ?_, ?_⟩
      · exact ((List.reverse_perm run).append_right remaining).trans permuted
      · apply List.pairwise_reverse.mpr
        apply runs.imp
        intro later earlier onward
        rw [GoesOn, decide_eq_false descends, decide_eq_false_iff_not] at onward
        exact not_lt.mp onward

/-- The value in the middle has as many before it as half the length says. -/
theorem exists_below {sorted above : List α} {middle : α}
    (parted : sorted.drop (sorted.length / 2) = middle :: above) :
    ∃ below, sorted = below ++ middle :: above ∧ sorted.length / 2 = below.length := by
  refine ⟨sorted.take (sorted.length / 2), ?_, ?_⟩
  · rw [← parted, List.take_append_drop]
  · rw [List.length_take]
    omega

/-- Bisection parts an ascending list behind what is not greater than the value. The
induction is on the length, which is halved. -/
theorem position_spec {value : α} {sorted : List α} (compares : Compares less key (value :: sorted))
    (ascending : Ascending key sorted) :
    ∃ front back, sorted = front ++ back ∧ position less value sorted = .ok front.length ∧
      (∀ earlier ∈ front, key earlier ≤ key value) ∧ ∀ later ∈ back, key value < key later := by
  induction size : sorted.length using Nat.strong_induction_on generalizing sorted with
  | _ length inductionHypothesis =>
    rw [position]
    split
    · next nothing =>
      have empty : sorted = [] := by
        have short := List.drop_eq_nil_iff.mp nothing
        exact List.eq_nil_of_length_eq_zero (by omega)
      exact ⟨[], [], empty, rfl, by simp, by simp⟩
    · next middle above parted =>
      obtain ⟨below, rfl, half⟩ := exists_below parted
      rw [half, List.take_left]
      obtain ⟨belowAscends, restAscends, belowFirst⟩ := List.pairwise_append.mp ascending
      obtain ⟨middleFirst, aboveAscends⟩ := List.pairwise_cons.mp restAscends
      rw [compares value (by simp) middle (by simp)]
      rw [List.length_append, List.length_cons] at size
      by_cases smaller : key value < key middle
      · obtain ⟨front, back, rfl, found, notGreater, greater⟩ := inductionHypothesis below.length
          (by omega) (compares.mono (by simp)) belowAscends rfl
        refine ⟨front, back ++ middle :: above, by simp, ?_, notGreater, ?_⟩
        · simpa [smaller, bind, Except.bind] using found
        · intro later listed
          rcases List.mem_append.mp listed with inBack | inRest
          · exact greater later inBack
          · rcases List.mem_cons.mp inRest with rfl | inAbove
            · exact smaller
            · exact smaller.trans_le (middleFirst later inAbove)
      · have listed : value :: above ⊆ value :: (below ++ middle :: above) :=
          List.cons_subset_cons value
            (List.subset_append_of_subset_right below (List.subset_cons_self middle above))
        obtain ⟨front, back, rfl, found, notGreater, greater⟩ := inductionHypothesis above.length
          (by omega) (compares.mono listed) aboveAscends rfl
        refine ⟨below ++ middle :: front, back, by simp, ?_, ?_, greater⟩
        · simp [smaller, bind, Except.bind, found, pure, Except.pure]
          omega
        · intro earlier listed
          rcases List.mem_append.mp listed with inBelow | inRest
          · exact (belowFirst earlier inBelow middle (by simp)).trans (not_lt.mp smaller)
          · rcases List.mem_cons.mp inRest with rfl | inFront
            · exact not_lt.mp smaller
            · exact notGreater earlier inFront

/-- Values inserted one after the other keep an ascending list ascending, and no comparison
fails. The induction is on the values still to be inserted. -/
theorem insertAll_spec {sorted rest : List α} (compares : Compares less key (sorted ++ rest))
    (ascending : Ascending key sorted) :
    ∃ result, insertAll less sorted rest = .ok result ∧ result.Perm (sorted ++ rest) ∧
      Ascending key result := by
  induction rest generalizing sorted with
  | nil => exact ⟨sorted, rfl, by simp, ascending⟩
  | cons value rest inductionHypothesis =>
    have listed : value :: sorted ⊆ sorted ++ value :: rest :=
      List.cons_subset.mpr ⟨by simp, List.subset_append_left sorted _⟩
    obtain ⟨front, back, rfl, found, notGreater, greater⟩ :=
      position_spec (compares.mono listed) ascending
    obtain ⟨frontAscends, backAscends, frontFirst⟩ := List.pairwise_append.mp ascending
    have inserted : Ascending key (front ++ value :: back) := by
      refine List.pairwise_append.mpr ⟨frontAscends, ?_, ?_⟩
      · exact List.pairwise_cons.mpr ⟨fun later listed => (greater later listed).le, backAscends⟩
      · intro earlier inFront later listed
        rcases List.mem_cons.mp listed with rfl | inBack
        · exact notGreater earlier inFront
        · exact frontFirst earlier inFront later inBack
    have moved : (front ++ value :: back ++ rest).Perm (front ++ back ++ value :: rest) := by
      rw [List.append_assoc, List.append_assoc]
      exact List.perm_middle.symm.append_left front
    obtain ⟨result, inserting, permuted, ascends⟩ :=
      inductionHypothesis (compares.mono moved.subset) inserted
    refine ⟨result, ?_, permuted.trans moved, ascends⟩
    rw [insertAll, found]
    simpa [bind, Except.bind] using inserting

/-- A comparison by keys sorts: the same values come in the order of their keys. -/
theorem sort_spec {values : List α} (compares : Compares less key values) :
    ∃ sorted, sort less values = .ok sorted ∧ sorted.Perm values ∧
      Ascending key sorted := by
  obtain ⟨run, rest, leading, whole, ascending⟩ := leadingRun_spec compares
  obtain ⟨sorted, inserting, permuted, ascends⟩ :=
    insertAll_spec (compares.mono whole.subset) ascending
  refine ⟨sorted, ?_, permuted.trans whole, ascends⟩
  rw [sort, leading]
  exact inserting

end Clausal.Sorting
