/-
Dictionaries as lists of entries in the order of insertion: a value is replaced in place, a new key
goes to the end.
-/

import Mathlib.Data.List.Basic
import Mathlib.Data.List.Nodup

namespace PythonDict

variable {κ β : Type*} [DecidableEq κ]

/-- `dict[key] = change(dict.get(key))` -/
def update (key : κ) (change : Option β → β) : List (κ × β) → List (κ × β)
  | [] => [(key, change none)]
  | (other, value) :: rest =>
      if other = key then (other, change (some value)) :: rest
      else (other, value) :: update key change rest

variable {change : Option β → β} {key : κ} {dict : List (κ × β)}

theorem lookup_cons_if (wanted other : κ) (value : β) (rest : List (κ × β)) :
    List.lookup wanted ((other, value) :: rest) =
      if wanted = other then some value else rest.lookup wanted := by
  rw [List.lookup_cons]
  by_cases same : wanted = other
  · rw [if_pos same, beq_iff_eq.mpr same]
  · rw [if_neg same, beq_false_of_ne same]

theorem lookup_update (wanted : κ) :
    (update key change dict).lookup wanted =
      if wanted = key then some (change (dict.lookup key)) else dict.lookup wanted := by
  induction dict with
  | nil => rw [update, lookup_cons_if, List.lookup_nil, List.lookup_nil]
  | cons entry rest ih =>
      obtain ⟨other, value⟩ := entry
      rw [update]
      by_cases here : other = key
      · subst here
        rw [if_pos rfl, lookup_cons_if, lookup_cons_if, lookup_cons_if, if_pos rfl]
        by_cases found : wanted = other
        · rw [if_pos found, if_pos found]
        · rw [if_neg found, if_neg found, if_neg found]
      · have different : key ≠ other := fun equal => here equal.symm
        rw [if_neg here, lookup_cons_if, lookup_cons_if, lookup_cons_if, ih, if_neg different]
        by_cases found : wanted = other
        · have unchanged : wanted ≠ key := fun equal => here (found.symm.trans equal)
          rw [if_pos found, if_pos found, if_neg unchanged]
        · rw [if_neg found, if_neg found]

theorem keys_update :
    (update key change dict).map Prod.fst =
      if key ∈ dict.map Prod.fst then dict.map Prod.fst else dict.map Prod.fst ++ [key] := by
  induction dict with
  | nil => rfl
  | cons entry rest ih =>
      obtain ⟨other, value⟩ := entry
      by_cases here : other = key
      · simp [update, here]
      · have different : key ≠ other := fun equal => here equal.symm
        simp only [update, if_neg here, List.map_cons, List.mem_cons, different, false_or, ih]
        split <;> rfl

theorem nodup_update (distinct : (dict.map Prod.fst).Nodup) :
    ((update key change dict).map Prod.fst).Nodup := by
  rw [keys_update]
  split
  · exact distinct
  · rename_i unseen
    exact List.nodup_append'.mpr
      ⟨distinct, List.nodup_singleton key, List.disjoint_singleton.mpr unseen⟩

theorem mem_keys_iff {wanted : κ} :
    wanted ∈ dict.map Prod.fst ↔ (dict.lookup wanted).isSome = true := by
  rw [List.lookup_isSome_iff, List.mem_map]
  constructor
  · rintro ⟨entry, member, rfl⟩
    exact ⟨entry, member, beq_self_eq_true _⟩
  · rintro ⟨entry, member, same⟩
    exact ⟨entry, member, (beq_iff_eq.mp same).symm⟩

theorem lookup_eq_of_mem (distinct : (dict.map Prod.fst).Nodup) {wanted : κ} {value : β}
    (listed : (wanted, value) ∈ dict) : dict.lookup wanted = some value := by
  induction dict with
  | nil => cases listed
  | cons entry rest ih =>
      obtain ⟨other, first⟩ := entry
      obtain ⟨fresh, distinct⟩ := List.nodup_cons.mp distinct
      rw [lookup_cons_if]
      rcases List.mem_cons.mp listed with same | later
      · cases same
        rw [if_pos rfl]
      · have different : wanted ≠ other := by
          rintro rfl
          exact fresh (List.mem_map.mpr ⟨_, later, rfl⟩)
        rw [if_neg different]
        exact ih distinct later

theorem lookup_map_values {γ : Type*} (change : β → γ) (wanted : κ) :
    (dict.map fun entry => (entry.1, change entry.2)).lookup wanted =
      (dict.lookup wanted).map change := by
  induction dict with
  | nil => rfl
  | cons entry rest ih =>
      obtain ⟨other, value⟩ := entry
      rw [List.map_cons, lookup_cons_if, lookup_cons_if, ih]
      split <;> rfl

end PythonDict
