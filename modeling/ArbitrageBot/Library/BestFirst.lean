/-
Rows by descending key, as `sorted(rows, key=..., reverse=True)` puts them, and the first few of
them: what a list of so many leaves out is no better than what it shows, and rows of equal keys
stay in their order.
-/

import ArbitrageBot.Library.LatestPerKey

namespace BestFirst

open LatestPerKey

variable {α κ : Type*} [LinearOrder κ] {key : α → κ} {rows : List α}

def bestFirst (key : α → κ) (rows : List α) : List α := newestFirst key rows

theorem bestFirst_perm (rows : List α) : (bestFirst key rows).Perm rows :=
  newestFirst_perm rows

theorem mem_bestFirst {row : α} : row ∈ bestFirst key rows ↔ row ∈ rows :=
  mem_newestFirst

theorem bestFirst_ordered (rows : List α) :
    (bestFirst key rows).Pairwise fun first second => key second ≤ key first :=
  newestFirst_ordered rows

theorem mem_shown_or_leftOut {limit : Nat} {row : α} :
    row ∈ rows ↔ row ∈ (bestFirst key rows).take limit ∨ row ∈ (bestFirst key rows).drop limit := by
  rw [← List.mem_append, List.take_append_drop, mem_bestFirst]

theorem leftOut_le_shown {limit : Nat} {shown leftOut : α}
    (inTop : shown ∈ (bestFirst key rows).take limit)
    (below : leftOut ∈ (bestFirst key rows).drop limit) : key leftOut ≤ key shown := by
  have ordered := @bestFirst_ordered _ _ _ key rows
  rw [← List.take_append_drop limit (bestFirst key rows)] at ordered
  exact (List.pairwise_append.mp ordered).2.2 shown inTop leftOut below

/-- Something is left out only of a full list. -/
theorem length_shown_of_leftOut {limit : Nat} {leftOut : α}
    (below : leftOut ∈ (bestFirst key rows).drop limit) :
    ((bestFirst key rows).take limit).length = limit := by
  have longer : limit < (bestFirst key rows).length := by
    by_contra short
    rw [List.drop_eq_nil_of_le (not_lt.mp short)] at below
    cases below
  rw [List.length_take]
  omega

theorem filter_orderedInsert {test : α → Bool}
    (same : ∀ first second, test first = true → test second = true → key first = key second)
    (row : α) (ranked : List α) :
    (ranked.orderedInsert (fun first second => key second ≤ key first) row).filter test =
      (row :: ranked).filter test := by
  induction ranked with
  | nil => rfl
  | cons head rest ih =>
      rw [List.orderedInsert_cons]
      by_cases before : key head ≤ key row
      · rw [if_pos before]
      · rw [if_neg before]
        cases passes : test row with
        | false => simp only [List.filter_cons, ih, passes, Bool.false_eq_true, if_false]
        | true =>
            -- what stands before the row has a greater key, so it fails the test
            have skipped : ¬test head = true := by
              intro passing
              exact before (same head row passing passes).le
            simp only [List.filter_cons, ih, passes, skipped, if_true]
            rfl

/-- Rows of equal keys keep their order. -/
theorem filter_bestFirst {test : α → Bool}
    (same : ∀ first second, test first = true → test second = true → key first = key second)
    (rows : List α) : (bestFirst key rows).filter test = rows.filter test := by
  induction rows with
  | nil => rfl
  | cons row rest ih =>
      unfold bestFirst newestFirst at ih ⊢
      rw [List.insertionSort_cons, filter_orderedInsert same, List.filter_cons, List.filter_cons,
        ih]

end BestFirst
