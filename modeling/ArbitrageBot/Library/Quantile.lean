/-
Quantiles by nearest rank, the rank rounded half up. A quantile is the sample at its rank, and it
is within a bound exactly when more samples than its rank are. When some of the samples are
missing and a floor value is put in their place, the floors sort to the front and push every rank
back by their number.
-/

import Mathlib.Data.List.GetD
import Mathlib.Data.List.ReduceOption
import Mathlib.Data.List.Sort
import ArbitrageBot.Library.DecimalRounding

namespace Quantile

open DecimalRounding

/-- The position of a quantile among so many sorted samples. -/
def rank (share : Rat) (count : Nat) : Nat :=
  (max 0 (min (roundHalfUp ((count - 1 : Int) * share)) (count - 1))).toNat

section Samples

variable {α : Type*} [LinearOrder α]

def sorted (samples : List α) : List α := samples.insertionSort (· ≤ ·)

def quantile (share : Rat) (fallback : α) (samples : List α) : α :=
  match sorted samples with
  | [] => fallback
  | [only] => only
  | ranked => ranked.getD (rank share ranked.length) fallback

@[simp] theorem length_sorted (samples : List α) : (sorted samples).length = samples.length :=
  List.length_insertionSort _ samples

theorem sorted_append_floor {floor : α} (count : Nat) {samples : List α}
    (above : ∀ sample ∈ samples, floor ≤ sample) :
    sorted (List.replicate count floor ++ samples) =
      List.replicate count floor ++ sorted samples := by
  induction count with
  | zero => rfl
  | succ count ih =>
      rw [List.replicate_succ, List.cons_append, List.cons_append, ← ih]
      apply List.insertionSort_cons_of_forall_rel
      intro sample member
      rcases List.mem_append.mp member with filled | held
      · exact (List.eq_of_mem_replicate filled).ge
      · exact above sample held

theorem sorted_perm {first second : List α} (same : first.Perm second) :
    sorted first = sorted second := by
  have perm : (sorted first).Perm (sorted second) :=
    ((List.perm_insertionSort _ first).trans same).trans (List.perm_insertionSort _ second).symm
  exact perm.eq_of_pairwise' (List.pairwise_insertionSort _ first)
    (List.pairwise_insertionSort _ second)

/-- Missing samples filled in with the floor. -/
def filled (floor : α) (samples : List (Option α)) : List α :=
  samples.map fun sample => sample.getD floor

theorem filled_perm (floor : α) (samples : List (Option α)) :
    (filled floor samples).Perm
      (List.replicate (samples.count none) floor ++ samples.reduceOption) := by
  induction samples with
  | nil => exact List.Perm.nil
  | cons sample rest ih =>
      cases sample with
      | none =>
          rw [List.count_cons_self, List.replicate_succ, List.reduceOption_cons_of_none]
          exact ih.cons floor
      | some value =>
          rw [List.count_cons_of_ne (by simp), List.reduceOption_cons_of_some]
          exact (ih.cons value).trans List.perm_middle.symm

theorem sorted_filled {floor : α} {samples : List (Option α)}
    (above : ∀ sample ∈ samples.reduceOption, floor ≤ sample) :
    sorted (filled floor samples) =
      List.replicate (samples.count none) floor ++ sorted samples.reduceOption := by
  rw [sorted_perm (filled_perm floor samples), sorted_append_floor _ above]

theorem rank_one (share : Rat) : rank share 1 = 0 := by
  simp [rank]

theorem quantile_eq (share : Rat) (fallback : α) (samples : List α) :
    quantile share fallback samples =
      (sorted samples).getD (rank share samples.length) fallback := by
  unfold quantile
  rw [← length_sorted samples]
  split
  · rename_i empty
    rw [empty]
    rfl
  · rename_i only single
    rw [single, List.length_singleton, rank_one]
    rfl
  · rfl

/-! ### Order statistics -/

theorem sorted_ordered (samples : List α) : (sorted samples).Pairwise (· ≤ ·) :=
  List.pairwise_insertionSort _ samples

theorem mem_sorted {samples : List α} {sample : α} : sample ∈ sorted samples ↔ sample ∈ samples :=
  List.mem_insertionSort _

theorem rank_lt (share : Rat) {count : Nat} (some_ : 0 < count) : rank share count < count := by
  unfold rank
  omega

theorem rank_mono {lower upper : Rat} (ordered : lower ≤ upper) (count : Nat) :
    rank lower count ≤ rank upper count := by
  cases count with
  | zero => simp [rank]
  | succ count =>
      have scaled : ((count + 1 : Nat) - 1 : Int) * lower ≤ ((count + 1 : Nat) - 1 : Int) * upper :=
        mul_le_mul_of_nonneg_left ordered (by push_cast; simp)
      have rounded := roundHalfUp_mono scaled
      unfold rank
      omega

/-- In an ordered list what stands at a place is within a bound exactly when more samples than
stand before it are. -/
theorem getElem_le_iff {ranked : List α} (ordered : ranked.Pairwise (· ≤ ·)) {place : Nat}
    (inside : place < ranked.length) {bound : α} :
    ranked[place] ≤ bound ↔ place < ranked.countP fun sample => sample ≤ bound := by
  induction ranked generalizing place with
  | nil => exact absurd inside (Nat.not_lt_zero place)
  | cons first rest ih =>
      obtain ⟨least, ordered⟩ := List.pairwise_cons.mp ordered
      by_cases within : first ≤ bound
      · have more : (first :: rest).countP (fun sample => sample ≤ bound) =
            rest.countP (fun sample => sample ≤ bound) + 1 :=
          List.countP_cons_of_pos (decide_eq_true within)
        rw [more]
        cases place with
        | zero => exact iff_of_true within (Nat.succ_pos _)
        | succ place =>
            rw [List.getElem_cons_succ, ih ordered (Nat.lt_of_succ_lt_succ inside),
              Nat.succ_lt_succ_iff]
      · have beyond : ∀ sample ∈ first :: rest, ¬sample ≤ bound := by
          intro sample member
          rcases List.mem_cons.mp member with rfl | behind
          · exact within
          · exact fun reached => within ((least sample behind).trans reached)
        have none_ : (first :: rest).countP (fun sample => sample ≤ bound) = 0 :=
          List.countP_eq_zero.mpr fun sample member => by simpa using beyond sample member
        rw [none_]
        exact iff_of_false (beyond _ (List.getElem_mem inside)) (Nat.not_lt_zero place)

theorem quantile_eq_getElem (share : Rat) (fallback : α) {samples : List α}
    (some_ : 0 < samples.length) :
    ∃ inside : rank share samples.length < (sorted samples).length,
      quantile share fallback samples = (sorted samples)[rank share samples.length] := by
  have inside : rank share samples.length < (sorted samples).length := by
    rw [length_sorted]
    exact rank_lt share some_
  exact ⟨inside, by rw [quantile_eq, List.getD_eq_getElem _ _ inside]⟩

/-- A quantile is within a bound exactly when more samples than its rank are. -/
theorem quantile_le_iff (share : Rat) (fallback : α) {samples : List α}
    (some_ : 0 < samples.length) {bound : α} :
    quantile share fallback samples ≤ bound ↔
      rank share samples.length < samples.countP fun sample => sample ≤ bound := by
  obtain ⟨inside, here⟩ := quantile_eq_getElem share fallback some_
  have same : (sorted samples).Perm samples := List.perm_insertionSort _ samples
  rw [here, getElem_le_iff (sorted_ordered samples) inside, same.countP_eq]

theorem quantile_mem (share : Rat) (fallback : α) {samples : List α}
    (some_ : 0 < samples.length) : quantile share fallback samples ∈ samples := by
  obtain ⟨inside, here⟩ := quantile_eq_getElem share fallback some_
  rw [here, ← mem_sorted]
  exact List.getElem_mem inside

theorem quantile_perm (share : Rat) (fallback : α) {first second : List α}
    (same : first.Perm second) :
    quantile share fallback first = quantile share fallback second := by
  rw [quantile_eq, quantile_eq, sorted_perm same, same.length_eq]

theorem quantile_mono_share {lower upper : Rat} (ordered : lower ≤ upper) (fallback : α)
    {samples : List α} (some_ : 0 < samples.length) :
    quantile lower fallback samples ≤ quantile upper fallback samples := by
  rw [quantile_le_iff lower fallback some_]
  exact (rank_mono ordered samples.length).trans_lt
    ((quantile_le_iff upper fallback some_).mp le_rfl)

theorem countP_le_of_above {samples raised : List α} (above : List.Forall₂ (· ≤ ·) samples raised)
    (bound : α) :
    raised.countP (fun sample => sample ≤ bound) ≤
      samples.countP fun sample => sample ≤ bound := by
  induction above with
  | nil => exact le_rfl
  | @cons sample other samples raised here _rest ih =>
      by_cases within : other ≤ bound
      · have still : sample ≤ bound := here.trans within
        simp only [List.countP_cons, within, still, decide_true, if_true]
        omega
      · simp only [List.countP_cons, within, decide_false, Bool.false_eq_true, if_false]
        omega

/-- A quantile does not go down when samples go up. -/
theorem quantile_mono_samples (share : Rat) (fallback : α) {samples raised : List α}
    (some_ : 0 < samples.length) (above : List.Forall₂ (· ≤ ·) samples raised) :
    quantile share fallback samples ≤ quantile share fallback raised := by
  have many : 0 < raised.length := by rwa [← above.length_eq]
  rw [quantile_le_iff share fallback some_, above.length_eq]
  exact ((quantile_le_iff share fallback many).mp le_rfl).trans_le (countP_le_of_above above _)

/-! ### Missing samples -/

/-- A floor stands at the rank, or the sample that many floors below it. -/
theorem quantile_filled {share : Rat} {floor : α} {samples : List (Option α)}
    (above : ∀ sample ∈ samples.reduceOption, floor ≤ sample) :
    quantile share floor (filled floor samples) =
      if rank share samples.length < samples.count none then floor
      else (sorted samples.reduceOption).getD
        (rank share samples.length - samples.count none) floor := by
  rw [quantile_eq, sorted_filled above, filled, List.length_map]
  split
  · rename_i early
    rw [List.getD_append _ _ _ _ (by simpa using early), List.getD_replicate _ early]
  · rename_i late
    rw [List.getD_append_right _ _ _ _ (by simpa using late), List.length_replicate]

/-- At the rank among all samples stands what stands at the rank among those that are there. -/
def KeepsRank (share : Rat) (floor : α) (samples : List (Option α)) : Prop :=
  let ranked := sorted samples.reduceOption
  let place := rank share samples.length
  let missing := samples.count none
  let kept := ranked.getD (rank share ranked.length) floor
  place < missing ∧ kept = floor ∨ missing ≤ place ∧ ranked.getD (place - missing) floor = kept

instance {share : Rat} {floor : α} {samples : List (Option α)} :
    Decidable (KeepsRank share floor samples) :=
  inferInstanceAs (Decidable (_ ∧ _ ∨ _ ∧ _))

theorem quantile_filled_eq_iff {share : Rat} {floor : α} {samples : List (Option α)}
    (above : ∀ sample ∈ samples.reduceOption, floor ≤ sample) :
    quantile share floor (filled floor samples) = quantile share floor samples.reduceOption ↔
      KeepsRank share floor samples := by
  rw [quantile_filled above, quantile_eq share floor samples.reduceOption, KeepsRank, length_sorted]
  split
  · rename_i early
    constructor
    · exact fun same => .inl ⟨early, same.symm⟩
    · rintro (⟨-, same⟩ | ⟨late, -⟩)
      · exact same.symm
      · exact absurd early (not_lt.mpr late)
  · rename_i late
    constructor
    · exact fun same => .inr ⟨not_lt.mp late, same⟩
    · rintro (⟨early, -⟩ | ⟨-, same⟩)
      · exact absurd early late
      · exact same

/-! ### Sorted without repetitions -/

theorem sorted_ascending {samples : List α} (distinct : samples.Nodup) :
    (sorted samples).Pairwise (· < ·) := by
  have apart : (sorted samples).Nodup :=
    (List.perm_insertionSort _ samples).nodup_iff.mpr distinct
  exact ((sorted_ordered samples).sortedLE.sortedLT_of_nodup apart).pairwise

end Samples

end Quantile
