/-
A watch that the first event of one kind starts, that an event of another kind
resets, and that all others leave alone. What it shows is the time of the first
event of the marked stretch, and that is compared with the stretch in which
every event has a property.
-/

import Mathlib.Data.List.DropRight
import Mathlib.Order.Lattice

namespace Stopwatch

inductive Sign
  | start
  | reset
  | pass
deriving DecidableEq

variable {Event Time : Type*}

def advance (sign : Event → Sign) (time : Event → Time) (mark : Option Time) (event : Event) :
    Option Time :=
  match sign event with
  | .start => some (mark.getD (time event))
  | .reset => none
  | .pass => mark

/-- The events from the one that started the watch on. -/
def marked (sign : Event → Sign) (events : List Event) : List Event :=
  (events.rtakeWhile fun event => sign event ≠ .reset).dropWhile fun event => sign event ≠ .start

/-- The longest closing stretch of events with the property. -/
def standing (holds : Event → Bool) (events : List Event) : List Event := events.rtakeWhile holds

section Marked

variable {sign : Event → Sign} {time : Event → Time} {events : List Event} {event : Event}

theorem marked_concat_start (starts : sign event = .start) :
    marked sign (events ++ [event]) = marked sign events ++ [event] := by
  rw [marked, List.rtakeWhile_concat_pos _ _ _ (by simp [starts]), List.dropWhile_append]
  split
  · rename_i empty
    rw [marked, List.isEmpty_iff.mp empty, List.dropWhile_cons_of_neg (by simp [starts]),
      List.nil_append]
  · rfl

theorem marked_concat_reset (resets : sign event = .reset) :
    marked sign (events ++ [event]) = [] := by
  rw [marked, List.rtakeWhile_concat_neg _ _ _ (by simp [resets]), List.dropWhile_nil]

theorem marked_concat_pass (passes : sign event = .pass) :
    marked sign (events ++ [event]) =
      if marked sign events = [] then [] else marked sign events ++ [event] := by
  rw [marked, List.rtakeWhile_concat_pos _ _ _ (by simp [passes]), List.dropWhile_append]
  simp only [List.isEmpty_iff, List.dropWhile_cons, passes, List.dropWhile_nil]
  rfl

theorem foldl_advance (sign : Event → Sign) (time : Event → Time) (events : List Event) :
    events.foldl (advance sign time) none = (marked sign events).head?.map time := by
  induction events using List.reverseRecOn with
  | nil => rfl
  | append_singleton events event ih =>
      rw [List.foldl_append, List.foldl_cons, List.foldl_nil, ih, advance]
      cases kind : sign event with
      | start =>
          rw [marked_concat_start kind]
          cases marked sign events <;> rfl
      | reset => rw [marked_concat_reset kind]; rfl
      | pass =>
          rw [marked_concat_pass kind]
          cases marked sign events <;> rfl

theorem head_marked_start (starts : sign event = .start) :
    ∃ mark, (marked sign (events ++ [event])).head? = some mark ∧
      time mark = ((marked sign events).head?.map time).getD (time event) := by
  rw [marked_concat_start starts]
  cases marked sign events with
  | nil => exact ⟨event, rfl, rfl⟩
  | cons mark rest => exact ⟨mark, rfl, rfl⟩

theorem marked_suffix (sign : Event → Sign) (events : List Event) :
    marked sign events <:+ events :=
  (List.dropWhile_suffix _).trans (List.rtakeWhile_suffix _ _)

end Marked

section Standing

variable {holds : Event → Bool} {events : List Event}

theorem standing_suffix (holds : Event → Bool) (events : List Event) :
    standing holds events <:+ events :=
  List.rtakeWhile_suffix _ _

theorem holds_of_mem_standing {event : Event} (member : event ∈ standing holds events) :
    holds event = true :=
  List.mem_rtakeWhile_imp member

theorem head_standing {event : Event} (held : holds event = true) :
    ∃ first, (standing holds (events ++ [event])).head? = some first := by
  rw [standing, List.rtakeWhile_concat_pos _ _ _ held]
  exact ⟨_, List.head?_eq_some_head (List.append_ne_nil_of_right_ne_nil _ (List.cons_ne_nil _ _))⟩

theorem standing_concat_neg {event : Event} (fails : ¬holds event = true) :
    standing holds (events ++ [event]) = [] :=
  List.rtakeWhile_concat_neg _ _ _ fails

/-- No closing stretch with the property is longer. -/
theorem suffix_standing {stretch : List Event} (closing : stretch <:+ events)
    (all : ∀ event ∈ stretch, holds event = true) : stretch <:+ standing holds events := by
  obtain ⟨front, rfl⟩ := closing
  induction stretch using List.reverseRecOn with
  | nil => exact List.nil_suffix
  | append_singleton stretch event ih =>
      rw [standing, ← List.append_assoc, List.rtakeWhile_concat_pos _ _ _ (all event (by simp)),
        List.suffix_append_self_iff]
      exact ih fun earlier member => all earlier (List.mem_append_left _ member)

end Standing

section Compared

variable {sign : Event → Sign} {time : Event → Time} {holds : Event → Bool}
  {events : List Event}

/-- From some event at the watch's own start on, every event has the property. -/
def Unbroken (sign : Event → Sign) (time : Event → Time) (holds : Event → Bool)
    (events : List Event) : Prop :=
  ∃ earlier rest, marked sign events = earlier ++ rest ∧
    rest.head?.map time = (marked sign events).head?.map time ∧ ∀ event ∈ rest, holds event = true

theorem unbroken_of_reset {event : Event} (resets : sign event = .reset) :
    Unbroken sign time holds (events ++ [event]) := by
  rw [Unbroken, marked_concat_reset resets]
  exact ⟨[], [], rfl, rfl, fun _ => nofun⟩

variable [LinearOrder Time] {first mark : Event}

theorem head_le {stretch : List Event} (ordered : stretch.Pairwise (time · ≤ time ·))
    (heads : stretch.head? = some first) {event : Event} (member : event ∈ stretch) :
    time first ≤ time event := by
  obtain ⟨rest, rfl⟩ := List.head?_eq_some_iff.mp heads
  rcases List.mem_cons.mp member with same | later
  · rw [same]
  · exact List.rel_of_pairwise_cons ordered later

/-- On a clock that does not go back the watch shows no more than the standing stretch has
lasted exactly when it was not broken. -/
theorem standing_le_mark_iff (ordered : events.Pairwise (time · ≤ time ·))
    (stands : (standing holds events).head? = some first)
    (marks : (marked sign events).head? = some mark) :
    time first ≤ time mark ↔ Unbroken sign time holds events := by
  have standingOrder := ordered.sublist (standing_suffix holds events).sublist
  have markedOrder := ordered.sublist (marked_suffix sign events).sublist
  constructor
  · intro early
    rcases List.suffix_or_suffix_of_suffix (marked_suffix sign events)
      (standing_suffix holds events) with inside | ⟨earlier, outside⟩
    · exact ⟨[], marked sign events, rfl, rfl, fun event member =>
        holds_of_mem_standing (inside.subset member)⟩
    · refine ⟨earlier, standing holds events, outside.symm, ?_, fun event =>
        holds_of_mem_standing⟩
      have member : first ∈ marked sign events := by
        rw [← outside]
        exact List.mem_append_right _ (List.mem_of_head? stands)
      rw [stands, marks, Option.map_some, Option.map_some,
        le_antisymm early (head_le markedOrder marks member)]
  · rintro ⟨earlier, rest, split, sameTime, all⟩
    have tail : rest <:+ marked sign events := split ▸ List.suffix_append earlier rest
    have closing : rest <:+ events := List.IsSuffix.trans tail (marked_suffix sign events)
    rw [marks, Option.map_some, Option.map_eq_some_iff] at sameTime
    obtain ⟨opening, heads, same⟩ := sameTime
    rw [← same]
    exact head_le standingOrder stands
      ((suffix_standing closing all).subset (List.mem_of_head? heads))

end Compared

end Stopwatch
