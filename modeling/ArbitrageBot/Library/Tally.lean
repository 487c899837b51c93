/-
Counts by key, as a dictionary in the order of first use.
-/

import Mathlib.Algebra.Ring.Nat
import Mathlib.Data.List.Induction
import ArbitrageBot.Library.PythonDict

namespace Tally

open PythonDict

abbrev Counts (κ : Type*) := List (κ × Nat)

variable {κ : Type*} [DecidableEq κ]

/-- `counts[key] = counts.get(key, 0) + 1` -/
def bump (key : κ) : Counts κ → Counts κ
  | [] => [(key, 1)]
  | (known, count) :: rest =>
      if known = key then (known, count + 1) :: rest else (known, count) :: bump key rest

def total (counts : Counts κ) : Nat :=
  (counts.map Prod.snd).sum

theorem total_bump (key : κ) (counts : Counts κ) : total (bump key counts) = total counts + 1 := by
  induction counts with
  | nil => rfl
  | cons first rest ih =>
      obtain ⟨known, count⟩ := first
      unfold bump
      split
      · simp only [total, List.map_cons, List.sum_cons]
        omega
      · simp only [total, List.map_cons, List.sum_cons] at ih ⊢
        omega

def tally (keys : List κ) : Counts κ :=
  keys.foldl (fun counts key => bump key counts) []

theorem tally_concat (keys : List κ) (key : κ) : tally (keys ++ [key]) = bump key (tally keys) := by
  rw [tally, List.foldl_append]
  rfl

theorem total_tally (keys : List κ) : total (tally keys) = keys.length := by
  induction keys using List.reverseRecOn with
  | nil => rfl
  | append_singleton keys key ih =>
      rw [tally_concat, total_bump, ih, List.length_append, List.length_singleton]

theorem bump_eq_update (key : κ) (counts : Counts κ) :
    bump key counts = update key (fun count => count.getD 0 + 1) counts := by
  induction counts with
  | nil => rfl
  | cons first rest ih =>
      obtain ⟨known, count⟩ := first
      rw [bump, update, ih, Option.getD_some]

theorem nodup_tally (keys : List κ) : ((tally keys).map Prod.fst).Nodup := by
  induction keys using List.reverseRecOn with
  | nil => exact List.nodup_nil
  | append_singleton keys key ih =>
      rw [tally_concat, bump_eq_update]
      exact nodup_update ih

theorem mem_keys_tally {keys : List κ} {key : κ} :
    key ∈ (tally keys).map Prod.fst ↔ key ∈ keys := by
  induction keys using List.reverseRecOn with
  | nil => exact Iff.rfl
  | append_singleton keys last ih =>
      rw [tally_concat, bump_eq_update, keys_update, List.mem_append, List.mem_singleton]
      split
      · rename_i seen
        constructor
        · exact fun before => .inl (ih.mp before)
        · rintro (before | rfl)
          · exact ih.mpr before
          · exact seen
      · rw [List.mem_append, List.mem_singleton, ih]

/-- What a dictionary says of a key, `counts.get(key, 0)`. -/
def countOf (key : κ) (counts : Counts κ) : Nat :=
  (counts.lookup key).getD 0

theorem countOf_bump (key wanted : κ) (counts : Counts κ) :
    countOf wanted (bump key counts) = countOf wanted counts + if key = wanted then 1 else 0 := by
  unfold countOf
  rw [bump_eq_update, lookup_update]
  by_cases here : wanted = key
  · rw [if_pos here, if_pos here.symm, here, Option.getD_some]
  · rw [if_neg here, if_neg (Ne.symm here), Nat.add_zero]

theorem countOf_tally (keys : List κ) (key : κ) : countOf key (tally keys) = keys.count key := by
  induction keys using List.reverseRecOn with
  | nil => rfl
  | append_singleton keys last ih =>
      rw [tally_concat, countOf_bump, ih, List.count_append, List.count_singleton]
      simp only [beq_iff_eq]

theorem mem_tally {keys : List κ} {key : κ} {count : Nat} (listed : (key, count) ∈ tally keys) :
    count = keys.count key := by
  rw [← countOf_tally, countOf, lookup_eq_of_mem (nodup_tally keys) listed, Option.getD_some]

/-- In another order of the keys, a dictionary says the same. -/
theorem countOf_of_perm {keys : List κ} {counts : Counts κ} (same : counts.Perm (tally keys))
    (key : κ) : countOf key counts = keys.count key := by
  have distinct : (counts.map Prod.fst).Nodup :=
    (same.map Prod.fst).nodup_iff.mpr (nodup_tally keys)
  by_cases seen : key ∈ counts.map Prod.fst
  · obtain ⟨⟨known, count⟩, listed, rfl⟩ := List.mem_map.mp seen
    rw [countOf, lookup_eq_of_mem distinct listed, Option.getD_some]
    exact mem_tally (same.mem_iff.mp listed)
  · have unseen : key ∉ keys := by
      rw [← mem_keys_tally, ← (same.map Prod.fst).mem_iff]
      exact seen
    have absent : counts.lookup key = none := by
      rw [← Option.not_isSome_iff_eq_none, ← mem_keys_iff]
      exact seen
    rw [List.count_eq_zero.mpr unseen, countOf, absent, Option.getD_none]

theorem sum_count_cons (wanted : List κ) (first : κ) (rest : List κ) :
    (wanted.map fun key => (first :: rest).count key).sum =
      (wanted.map fun key => rest.count key).sum + wanted.count first := by
  induction wanted with
  | nil => rfl
  | cons key others ih =>
      rw [List.map_cons, List.sum_cons, ih, List.map_cons, List.sum_cons, List.count_cons,
        List.count_cons]
      simp only [beq_iff_eq]
      by_cases same : first = key
      · rw [if_pos same, if_pos same.symm]
        omega
      · rw [if_neg same, if_neg (Ne.symm same)]
        omega

/-- Different keys are counted apart. -/
theorem sum_count_le {wanted : List κ} (distinct : wanted.Nodup) (keys : List κ) :
    (wanted.map fun key => keys.count key).sum ≤ keys.length := by
  induction keys with
  | nil => simp
  | cons first rest ih =>
      have once : wanted.count first ≤ 1 := List.nodup_iff_count_le_one.mp distinct first
      rw [sum_count_cons, List.length_cons]
      omega

/-- Different keys that leave none out count everything. -/
theorem sum_count_eq {wanted keys : List κ} (distinct : wanted.Nodup)
    (covered : ∀ key ∈ keys, key ∈ wanted) :
    (wanted.map fun key => keys.count key).sum = keys.length := by
  induction keys with
  | nil => simp
  | cons first rest ih =>
      obtain ⟨here, behind⟩ := List.forall_mem_cons.mp covered
      rw [sum_count_cons, ih behind, List.count_eq_one_of_mem distinct here, List.length_cons]

end Tally
