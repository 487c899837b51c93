/-
The newest row of a key, found in two ways: by a query for the one key, and by one pass over the
newest rows of all keys that keeps the first row it sees of each. The pass agrees with the query
on the keys whose newest row it reaches, and those it reaches are counted by the rows that are
newer still.
-/

import Mathlib.Data.List.Induction
import Mathlib.Data.List.Sort

namespace LatestPerKey

variable {α κ τ : Type*}

/-! ### The first row of each key -/

section First

variable [DecidableEq κ] (key : α → κ)

def keep (kept : List α) (row : α) : List α :=
  if kept.any fun earlier => key earlier = key row then kept else kept ++ [row]

/-- One pass, keeping the rows whose key it has not seen. -/
def keepFirst (rows : List α) : List α := rows.foldl (keep key) []

theorem keepFirst_concat (rows : List α) (row : α) :
    keepFirst key (rows ++ [row]) = keep key (keepFirst key rows) row := by
  rw [keepFirst, List.foldl_append]
  rfl

variable {key}

theorem filter_keep (kept : List α) (row : α) (wanted : κ) :
    (keep key kept row).filter (fun other => key other = wanted) =
      if key row = wanted ∧ (kept.filter fun other => key other = wanted) = [] then [row]
      else kept.filter fun other => key other = wanted := by
  have unseen : (kept.any fun earlier => key earlier = key row) = false ↔
      (kept.filter fun other => key other = key row) = [] := by
    rw [List.filter_eq_nil_iff, List.any_eq_false]
  by_cases here : key row = wanted
  · subst here
    cases seen : kept.any fun earlier => key earlier = key row with
    | true =>
        have skip : ¬(key row = key row ∧ (kept.filter fun other => key other = key row) = []) := by
          rintro ⟨-, none_⟩
          rw [unseen.mpr none_] at seen
          cases seen
        rw [keep, seen, if_pos rfl, if_neg skip]
    | false =>
        have none_ := unseen.mp seen
        rw [keep, seen, if_neg (by nofun), if_pos ⟨rfl, none_⟩, List.filter_append, none_]
        simp
  · have skip : ¬(key row = wanted ∧ (kept.filter fun other => key other = wanted) = []) :=
      fun both => here both.1
    rw [if_neg skip, keep]
    split
    · rfl
    · rw [List.filter_append]
      simp [here]

/-- The pass keeps, of each key, the first row and no other. -/
theorem filter_keepFirst (rows : List α) (wanted : κ) :
    (keepFirst key rows).filter (fun row => key row = wanted) =
      (rows.find? fun row => key row = wanted).toList := by
  -- the last row adds only a key that no earlier row has
  induction rows using List.reverseRecOn with
  | nil => rfl
  | append_singleton rows row ih =>
      rw [keepFirst_concat, filter_keep, ih, List.find?_append]
      cases rows.find? fun other => key other = wanted with
      | some found => simp
      | none => by_cases here : key row = wanted <;> simp [here]

end First

/-- A search that stops early finds nothing or what the whole search does. -/
theorem find?_take_eq_or_none (rows : List α) (limit : Nat) (test : α → Bool) :
    (rows.take limit).find? test = rows.find? test ∨ (rows.take limit).find? test = none := by
  cases early : (rows.take limit).find? test with
  | none => exact .inr rfl
  | some found =>
      left
      rw [← List.take_append_drop limit rows, List.find?_append, early]
      rfl

/-- It finds the same exactly when it comes as far as what there is to find. -/
theorem find?_take_eq_iff {rows : List α} {limit : Nat} {test : α → Bool} :
    (rows.take limit).find? test = rows.find? test ↔
      ∀ found, rows.find? test = some found → found ∈ rows.take limit := by
  constructor
  · intro same found here
    exact List.mem_of_find?_eq_some (same.trans here)
  · intro reached
    rcases find?_take_eq_or_none rows limit test with same | early
    · exact same
    · cases late : rows.find? test with
      | none => exact early
      | some found =>
          have passed := List.find?_eq_none.mp early found (reached found late)
          exact absurd (List.find?_some late) passed

/-! ### Newest first -/

section Newest

variable [LinearOrder τ] {time : α → τ} {rows : List α}

def newestFirst (time : α → τ) (rows : List α) : List α :=
  rows.insertionSort fun first second => time second ≤ time first

/-- No row of the list that passes the test is newer. -/
def IsNewest (time : α → τ) (test : α → Bool) (rows : List α) (row : α) : Prop :=
  row ∈ rows ∧ test row = true ∧ ∀ other ∈ rows, test other = true → time other ≤ time row

theorem newestFirst_perm (rows : List α) : (newestFirst time rows).Perm rows :=
  List.perm_insertionSort _ rows

theorem mem_newestFirst {row : α} : row ∈ newestFirst time rows ↔ row ∈ rows :=
  (newestFirst_perm rows).mem_iff

theorem newestFirst_ordered (rows : List α) :
    (newestFirst time rows).Pairwise fun first second => time second ≤ time first :=
  @List.pairwise_insertionSort _ (fun first second => time second ≤ time first) _
    ⟨fun first second => le_total (time second) (time first)⟩
    ⟨fun _ _ _ front back => le_trans back front⟩ rows

theorem newestFirst_strict (distinct : (rows.map time).Nodup) :
    (newestFirst time rows).Pairwise fun first second => time second < time first := by
  have apart : ((newestFirst time rows).map time).Nodup :=
    ((newestFirst_perm rows).map time).nodup_iff.mpr distinct
  refine (newestFirst_ordered rows).imp₂ ?_ (List.pairwise_map.mp apart)
  intro first second notLater different
  exact lt_of_le_of_ne notLater different.symm

theorem isNewest_unique (distinct : (rows.map time).Nodup) {test : α → Bool} {row other : α}
    (newest : IsNewest time test rows row) (another : IsNewest time test rows other) :
    row = other :=
  List.inj_on_of_nodup_map distinct newest.1 another.1
    (le_antisymm (another.2.2 row newest.1 newest.2.1) (newest.2.2 other another.1 another.2.1))

theorem find?_isNewest {test : α → Bool} {row : α}
    (found : (newestFirst time rows).find? test = some row) : IsNewest time test rows row := by
  obtain ⟨passes, newer, older, split, skipped⟩ := List.find?_eq_some_iff_append.mp found
  have ordered := @newestFirst_ordered _ _ _ time rows
  rw [split] at ordered
  obtain ⟨behind, -⟩ := List.pairwise_cons.mp (List.pairwise_append.mp ordered).2.1
  refine ⟨mem_newestFirst.mp (List.mem_of_find?_eq_some found), passes, ?_⟩
  intro other member passing
  have place : other ∈ newer ++ row :: older := split ▸ mem_newestFirst.mpr member
  rcases List.mem_append.mp place with before | after
  · have failing := skipped other before
    rw [passing] at failing
    cases failing
  · rcases List.mem_cons.mp after with rfl | later
    · exact le_rfl
    · exact behind other later

/-- Among rows of different times, newest first, the first that passes a test is the newest of
those that do. -/
theorem find?_newestFirst (distinct : (rows.map time).Nodup) {test : α → Bool} {row : α} :
    (newestFirst time rows).find? test = some row ↔ IsNewest time test rows row := by
  refine ⟨find?_isNewest, fun newest => ?_⟩
  cases found : (newestFirst time rows).find? test with
  | none =>
      have skipped := List.find?_eq_none.mp found row (mem_newestFirst.mpr newest.1)
      exact absurd newest.2.1 skipped
  | some other => rw [isNewest_unique distinct newest (find?_isNewest found)]

/-- The query for the rows that pass a test finds the first of them in the whole list. -/
theorem head?_newestFirst_filter (distinct : (rows.map time).Nodup) (test : α → Bool) :
    (newestFirst time (rows.filter test)).head? = (newestFirst time rows).find? test := by
  have among : ((rows.filter test).map time).Nodup :=
    distinct.sublist (List.filter_sublist.map time)
  have first : ∀ ranked : List α, ranked.head? = ranked.find? fun _ => true := by
    intro ranked
    cases ranked <;> rfl
  apply Option.ext
  intro row
  rw [find?_newestFirst distinct, first, find?_newestFirst among]
  simp only [IsNewest, List.mem_filter, true_and]
  tauto

/-- How far the newest rows reach: up to the row that so many others are newer than. -/
theorem mem_take_iff {ranked : List α}
    (strict : ranked.Pairwise fun first second => time second < time first) {limit : Nat}
    {row : α} :
    row ∈ ranked.take limit ↔
      row ∈ ranked ∧ (ranked.countP fun other => time row < time other) < limit := by
  induction ranked generalizing limit with
  | nil => simp
  | cons first rest ih =>
      obtain ⟨behind, strict⟩ := List.pairwise_cons.mp strict
      cases limit with
      | zero => simp
      | succ limit =>
          rw [List.take_succ_cons, List.mem_cons, List.mem_cons, ih strict]
          constructor
          · rintro (rfl | ⟨member, few⟩)
            · have none_ : ((row :: rest).countP fun other => time row < time other) = 0 := by
                rw [List.countP_eq_zero]
                intro other member
                rcases List.mem_cons.mp member with rfl | later
                · simp
                · simpa using (behind other later).le
              exact ⟨.inl rfl, none_ ▸ Nat.succ_pos limit⟩
            · refine ⟨.inr member, ?_⟩
              rw [List.countP_cons]
              split <;> omega
          · rintro ⟨rfl | member, few⟩
            · exact .inl rfl
            · refine .inr ⟨member, ?_⟩
              rw [List.countP_cons_of_pos (by simpa using behind row member)] at few
              omega

theorem mem_take_newestFirst (distinct : (rows.map time).Nodup) {limit : Nat} {row : α} :
    row ∈ (newestFirst time rows).take limit ↔
      row ∈ rows ∧ (rows.countP fun other => time row < time other) < limit := by
  rw [mem_take_iff (newestFirst_strict distinct), mem_newestFirst,
    (newestFirst_perm rows).countP_eq]

/-- Looking at so many of the newest rows is enough exactly when the newest row that passes the
test has fewer than so many newer ones. -/
theorem find?_take_newestFirst (distinct : (rows.map time).Nodup) {limit : Nat}
    {test : α → Bool} :
    ((newestFirst time rows).take limit).find? test = (newestFirst time rows).find? test ↔
      ∀ row, IsNewest time test rows row →
        (rows.countP fun other => time row < time other) < limit := by
  rw [find?_take_eq_iff]
  refine forall_congr' fun row => ?_
  rw [find?_newestFirst distinct]
  refine forall_congr' fun newest => ?_
  rw [mem_take_newestFirst distinct]
  exact and_iff_right newest.1

end Newest

end LatestPerKey
