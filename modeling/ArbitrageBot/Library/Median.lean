/-
The median of samples, `statistics.median`: the middle one of an odd number, the mean of the two
middle ones of an even number. At least half of the samples lie on either side of it.
-/

import Mathlib.Algebra.Order.Field.Basic
import Mathlib.Tactic.Linarith
import ArbitrageBot.Library.Quantile

namespace Median

open Quantile

section Ordered

variable {α : Type*} [LinearOrder α] {ranked : List α}

theorem countP_above (ordered : ranked.Pairwise (· ≤ ·)) {place : Nat}
    (inside : place < ranked.length) {bound : α} (reached : bound ≤ ranked[place]) :
    ranked.length - place ≤ ranked.countP fun sample => bound ≤ sample := by
  have above : ∀ sample ∈ ranked.drop place, decide (bound ≤ sample) = true := by
    intro sample member
    obtain ⟨offset, within, rfl⟩ := List.getElem_of_mem member
    rw [List.getElem_drop, decide_eq_true_eq]
    rcases Nat.eq_zero_or_pos offset with rfl | later
    · exact reached
    · exact reached.trans (List.pairwise_iff_getElem.mp ordered place (place + offset) inside
        (by rw [List.length_drop] at within; omega) (by omega))
  calc ranked.length - place = (ranked.drop place).length := List.length_drop.symm
    _ = (ranked.drop place).countP fun sample => bound ≤ sample :=
        (List.countP_eq_length.mpr above).symm
    _ ≤ ranked.countP fun sample => bound ≤ sample := (List.drop_sublist place ranked).countP_le

/-- At least half of the samples reach the middle from either side. -/
structure Halves (samples : List α) (middle : α) : Prop where
  below : samples.length ≤ 2 * samples.countP fun sample => sample ≤ middle
  above : samples.length ≤ 2 * samples.countP fun sample => middle ≤ sample

theorem halves_of_ranks {samples : List α} {low high : Nat} {middle : α}
    (lowInside : low < (sorted samples).length) (highInside : high < (sorted samples).length)
    (reachedLow : (sorted samples)[low] ≤ middle) (reachedHigh : middle ≤ (sorted samples)[high])
    (enoughLow : samples.length ≤ 2 * (low + 1)) (enoughHigh : 2 * high ≤ samples.length) :
    Halves samples middle := by
  have same : (sorted samples).Perm samples := List.perm_insertionSort _ samples
  have below := (getElem_le_iff (sorted_ordered samples) lowInside).mp reachedLow
  have above := countP_above (sorted_ordered samples) highInside reachedHigh
  rw [same.countP_eq] at below above
  rw [length_sorted] at above
  constructor <;> omega

end Ordered

variable {K : Type*} [Field K] [LinearOrder K]

/-- `statistics.median`, which raises without a sample. -/
def median (samples : List K) : Option K :=
  let ranked := sorted samples
  let middle := samples.length / 2
  if samples.length = 0 then none
  else if samples.length % 2 = 1 then ranked[middle]?
  else (ranked[middle - 1]?).bind fun low => ranked[middle]?.map fun high => (low + high) / 2

theorem median_found {samples : List K} (some_ : samples ≠ []) :
    ∃ middle, median samples = some middle := by
  have length := length_sorted samples
  have positive : samples.length ≠ 0 := fun empty => some_ (List.length_eq_zero_iff.mp empty)
  unfold median
  dsimp only
  rw [if_neg positive]
  split
  · exact ⟨_, List.getElem?_eq_getElem (by omega)⟩
  · rw [List.getElem?_eq_getElem (by omega), List.getElem?_eq_getElem (by omega)]
    exact ⟨_, rfl⟩

theorem median_halves [IsStrictOrderedRing K] {samples : List K} {middle : K}
    (found : median samples = some middle) :
    Halves samples middle := by
  have length := length_sorted samples
  unfold median at found
  dsimp only at found
  split at found
  · cases found
  · split at found
    · rename_i odd
      obtain ⟨inside, here⟩ := List.getElem?_eq_some_iff.mp found
      exact halves_of_ranks inside inside here.le here.ge (by omega) (by omega)
    · rename_i even
      obtain ⟨low, foundLow, rest⟩ := Option.bind_eq_some_iff.mp found
      obtain ⟨high, foundHigh, mean⟩ := Option.map_eq_some_iff.mp rest
      obtain ⟨lowInside, lowHere⟩ := List.getElem?_eq_some_iff.mp foundLow
      obtain ⟨highInside, highHere⟩ := List.getElem?_eq_some_iff.mp foundHigh
      have ordered : low ≤ high := by
        rw [← lowHere, ← highHere]
        exact List.pairwise_iff_getElem.mp (sorted_ordered samples) _ _ lowInside highInside
          (by omega)
      have aboveLow : low ≤ middle := by
        rw [← mean, le_div_iff₀ two_pos]
        linarith
      have belowHigh : middle ≤ high := by
        rw [← mean, div_le_iff₀ two_pos]
        linarith
      exact halves_of_ranks lowInside highInside (lowHere.le.trans aboveLow)
        (belowHigh.trans highHere.ge) (by omega) (by omega)

end Median
