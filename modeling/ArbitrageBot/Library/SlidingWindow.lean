/-
Sliding windows over a queue whose old entries are dropped from the front. In an ordered
record the queue holds exactly the entries from its horizon on; an admission that finds
fewer than the limit in its own trailing window leaves at most the limit in every window,
wherever it is placed.
-/

import Mathlib.Algebra.Order.Group.Basic
import Mathlib.Data.List.Basic
import Mathlib.Data.List.Induction
import Mathlib.Data.List.TakeWhile

namespace SlidingWindow

section Prune

variable {τ : Type*} [LinearOrder τ]

def prune (horizon : τ) (times : List τ) : List τ :=
  times.dropWhile fun time => time < horizon

/-- Pruning is invisible from the horizon on, whether or not the queue is sorted. -/
theorem filter_prune {horizon cutoff : τ} (later : horizon ≤ cutoff) (times : List τ) :
    (prune horizon times).filter (fun time => cutoff ≤ time) =
      times.filter (fun time => cutoff ≤ time) := by
  induction times with
  | nil => rfl
  | cons first rest ih =>
      unfold prune at ih ⊢
      rw [List.dropWhile_cons]
      split
      · rename_i old
        have unseen : ¬cutoff ≤ first := not_le.mpr ((of_decide_eq_true old).trans_le later)
        rw [ih, List.filter_cons_of_neg (by simpa using unseen)]
      · rfl

theorem prune_prune {horizon cutoff : τ} (later : horizon ≤ cutoff) (times : List τ) :
    prune cutoff (prune horizon times) = prune cutoff times := by
  induction times with
  | nil => rfl
  | cons time rest ih =>
      unfold prune at ih ⊢
      by_cases old : time < horizon
      · have older : time < cutoff := old.trans_le later
        rw [List.dropWhile_cons_of_pos (by simpa using old), ih,
          List.dropWhile_cons_of_pos (by simpa using older)]
      · rw [@List.dropWhile_cons_of_neg _ (fun time => decide (time < horizon)) _ _
          (by simpa using old)]

theorem prune_append (cutoff : τ) (times fresh : List τ) :
    prune cutoff (times ++ fresh) =
      if prune cutoff times = [] then prune cutoff fresh else prune cutoff times ++ fresh := by
  unfold prune
  rw [List.dropWhile_append]
  simp only [List.isEmpty_iff]

/-- What is left of a longer queue depends on what is left of the queue. -/
theorem prune_append_congr {cutoff : τ} {first second : List τ}
    (same : prune cutoff first = prune cutoff second) (fresh : List τ) :
    prune cutoff (first ++ fresh) = prune cutoff (second ++ fresh) := by
  rw [prune_append, prune_append, same]

end Prune

section Entries

variable {ρ τ : Type*} [LinearOrder τ] {time : ρ → τ} {horizon : τ}

/-- In an ordered queue, nothing that is dropped or kept is out of its place. -/
theorem dropWhile_eq_filter {entries : List ρ}
    (ordered : entries.Pairwise fun earlier later => time earlier ≤ time later) :
    entries.dropWhile (fun entry => time entry < horizon) =
      entries.filter fun entry => horizon ≤ time entry := by
  induction entries with
  | nil => rfl
  | cons first rest ih =>
      obtain ⟨behind, ordered⟩ := List.pairwise_cons.mp ordered
      by_cases old : time first < horizon
      · rw [List.dropWhile_cons_of_pos (by simpa using old), ih ordered,
          List.filter_cons_of_neg (by simpa using old)]
      · have recent : horizon ≤ time first := not_lt.mp old
        rw [List.dropWhile_cons_of_neg (by simpa using recent), eq_comm, List.filter_eq_self]
        intro entry member
        rcases List.mem_cons.mp member with rfl | later
        · exact decide_eq_true recent
        · exact decide_eq_true (recent.trans (behind entry later))

/-- The queue holds the record from one horizon on, and after it has grown and been trimmed the
longer record from a later one on. -/
theorem dropWhile_window {before : τ} (moved : before ≤ horizon) {recorded fresh : List ρ}
    (ordered : (recorded ++ fresh).Pairwise fun earlier later => time earlier ≤ time later) :
    ((recorded.filter fun entry => before ≤ time entry) ++ fresh).dropWhile
        (fun entry => time entry < horizon) =
      (recorded ++ fresh).filter fun entry => horizon ≤ time entry := by
  have held : ((recorded.filter fun entry => before ≤ time entry) ++ fresh).Sublist
      (recorded ++ fresh) := List.filter_sublist.append_right fresh
  rw [dropWhile_eq_filter (ordered.sublist held), List.filter_append, List.filter_append,
    List.filter_filter]
  congr 1
  apply List.filter_congr
  intro entry _member
  by_cases recent : horizon ≤ time entry
  · simp [recent, moved.trans recent]
  · simp [recent]

end Entries

/-- In an ordered record, the last of what is still held is the last of everything. -/
theorem newest_of_suffix {α : Type*} {before : α → α → Prop} {held recorded : List α} {newest : α}
    (kept : held <:+ recorded) (last : held.getLast? = some newest)
    (ordered : recorded.Pairwise before) :
    newest ∈ recorded ∧ ∀ entry ∈ recorded, entry = newest ∨ before entry newest := by
  obtain ⟨front, rfl⟩ := kept
  obtain ⟨middle, rfl⟩ := List.getLast?_eq_some_iff.mp last
  rw [← List.append_assoc] at ordered ⊢
  obtain ⟨-, -, ahead⟩ := List.pairwise_append.mp ordered
  refine ⟨List.mem_append_right _ (List.mem_singleton_self newest), ?_⟩
  intro entry member
  rcases List.mem_append.mp member with earlier | same
  · exact .inr (ahead entry earlier newest (List.mem_singleton_self newest))
  · exact .inl (List.mem_singleton.mp same)

section Windows

variable {τ : Type*} [AddCommGroup τ] [LinearOrder τ] [IsOrderedAddMonoid τ]

/-- Each admission saw fewer than the limit in the window that ends with it. -/
def Admitted (limit : Nat) (width : τ) (times : List τ) : Prop :=
  ∀ front time back, times = front ++ time :: back →
    (front.filter fun earlier => time - width ≤ earlier).length < limit

def within (first width : τ) (times : List τ) : List τ :=
  times.filter fun time => first ≤ time ∧ time ≤ first + width

theorem within_length_le {limit : Nat} {width : τ} {times : List τ}
    (admitted : Admitted limit width times) (first : τ) :
    (within first width times).length ≤ limit := by
  induction times using List.reverseRecOn with
  | nil => exact Nat.zero_le limit
  | append_singleton earlier last ih =>
      have before : Admitted limit width earlier := by
        intro front time back split
        exact admitted front time (back ++ [last]) (by rw [split]; simp)
      have rest := ih before
      unfold within at rest ⊢
      rw [List.filter_append]
      by_cases inside : first ≤ last ∧ last ≤ first + width
      · -- what the window holds before its last time was in that time's own window
        have trailing : (earlier.filter fun time => first ≤ time ∧ time ≤ first + width).length ≤
            (earlier.filter fun time => last - width ≤ time).length := by
          apply List.Sublist.length_le
          apply List.monotone_filter_right
          intro time counted
          simp only [decide_eq_true_eq] at counted ⊢
          exact (sub_le_iff_le_add.mpr inside.2).trans counted.1
        have seen := admitted earlier last [] rfl
        rw [List.filter_cons_of_pos (by simpa using inside), List.filter_nil, List.length_append,
          List.length_singleton]
        omega
      · rw [List.filter_cons_of_neg (by simpa using inside), List.filter_nil, List.append_nil]
        exact rest

end Windows

end SlidingWindow
