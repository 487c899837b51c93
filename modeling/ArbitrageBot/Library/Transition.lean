/-
Runs of a partial step function, with a permission on every step and a record
of what was done. A run remembers the state in which each event was taken, so a
history variable is a fold over the run and never a field of the state.
-/

import Mathlib.Data.List.Basic

namespace Transition

variable {σ ε η : Type*}

/-- Runs from `start`; the trace lists each event with the state before it. -/
inductive Reaches (step : σ → ε → Option σ) (allowed : σ → ε → Prop) (start : σ) :
    List (σ × ε) → σ → Prop
  | refl : Reaches step allowed start [] start
  | snoc {trace : List (σ × ε)} {state next : σ} {event : ε} :
      Reaches step allowed start trace state → allowed state event →
      step state event = some next →
      Reaches step allowed start (trace ++ [(state, event)]) next

def anyStep : σ → ε → Prop := fun _ _ => True

variable {step : σ → ε → Option σ} {allowed : σ → ε → Prop} {start state : σ}
  {trace : List (σ × ε)}

theorem Reaches.invariant (run : Reaches step allowed start trace state) {Holds : σ → Prop}
    (base : Holds start)
    (preserved : ∀ before event after, Holds before → allowed before event →
      step before event = some after → Holds after) :
    Holds state := by
  induction run with
  | refl => exact base
  | snoc _run permitted taken ih => exact preserved _ _ _ ih permitted taken

/-- The invariant rule with a history variable: `watch` folds the trace. -/
theorem Reaches.invariant_history (run : Reaches step allowed start trace state)
    {watch : η → σ × ε → η} {initial : η} {Holds : η → σ → Prop}
    (base : Holds initial start)
    (preserved : ∀ history before event after, Holds history before → allowed before event →
      step before event = some after → Holds (watch history (before, event)) after) :
    Holds (trace.foldl watch initial) state := by
  induction run with
  | refl => exact base
  | snoc _run permitted taken ih =>
      rw [List.foldl_append, List.foldl_cons, List.foldl_nil]
      exact preserved _ _ _ _ ih permitted taken

theorem Reaches.invariant_trace (run : Reaches step allowed start trace state)
    {Holds : List (σ × ε) → σ → Prop} (base : Holds [] start)
    (preserved : ∀ past before event after, Holds past before → allowed before event →
      step before event = some after → Holds (past ++ [(before, event)]) after) :
    Holds trace state := by
  induction run with
  | refl => exact base
  | snoc _run permitted taken ih => exact preserved _ _ _ _ ih permitted taken

theorem Reaches.of_mem (run : Reaches step allowed start trace state) {entry : σ × ε}
    (member : entry ∈ trace) :
    ∃ front, Reaches step allowed start front entry.1 ∧ allowed entry.1 entry.2 := by
  induction run with
  | refl => cases member
  | snoc earlier permitted _taken ih =>
      rcases List.mem_append.mp member with old | new
      · exact ih old
      · rw [List.mem_singleton.mp new]
        exact ⟨_, earlier, permitted⟩

/-- Every entry of a run is a step of it, taken from the state that the earlier ones lead to. -/
theorem Reaches.of_split (run : Reaches step allowed start trace state) {front back : List (σ × ε)}
    {entry : σ × ε} (split : trace = front ++ entry :: back) :
    Reaches step allowed start front entry.1 := by
  induction run generalizing back with
  | refl => simp at split
  | snoc earlier _permitted _taken ih =>
      rcases List.eq_nil_or_concat back with rfl | ⟨rest, last, rfl⟩
      · obtain ⟨rfl, same⟩ := List.append_inj' split rfl
        cases same
        exact earlier
      · have regrouped := split
        rw [List.concat_eq_append, ← List.cons_append, ← List.append_assoc] at regrouped
        exact ih (List.append_inj' regrouped rfl).1

/-! ### Running a given list of events -/

/-- Take the listed events in turn, keeping the trace. -/
def follow (step : σ → ε → Option σ) : σ → List ε → Option (List (σ × ε) × σ)
  | state, [] => some ([], state)
  | state, event :: rest =>
      match step state event with
      | none => none
      | some next => (follow step next rest).map fun done => ((state, event) :: done.1, done.2)

theorem Reaches.trans {middle : σ} {first second : List (σ × ε)}
    (front : Reaches step allowed start first middle)
    (back : Reaches step allowed middle second state) :
    Reaches step allowed start (first ++ second) state := by
  induction back with
  | refl => simpa using front
  | snoc _run permitted taken ih =>
      rw [← List.append_assoc]
      exact .snoc ih permitted taken

theorem reaches_of_follow {events : List ε} {done : List (σ × ε) × σ}
    (followed : follow step start events = some done)
    (permitted : ∀ entry ∈ done.1, allowed entry.1 entry.2) :
    Reaches step allowed start done.1 done.2 := by
  induction events generalizing start done with
  | nil =>
      cases followed
      exact .refl
  | cons event rest ih =>
      simp only [follow] at followed
      split at followed
      · cases followed
      · rename_i next taken
        obtain ⟨tail, tailRun, rfl⟩ := Option.map_eq_some_iff.mp followed
        have first : Reaches step allowed start [(start, event)] next :=
          .snoc .refl (permitted _ List.mem_cons_self) taken
        exact first.trans (ih tailRun fun entry member => permitted entry (.tail _ member))

theorem follow_events {events : List ε} {done : List (σ × ε) × σ}
    (followed : follow step start events = some done) : done.1.map Prod.snd = events := by
  induction events generalizing start done with
  | nil =>
      cases followed
      rfl
  | cons event rest ih =>
      simp only [follow] at followed
      split at followed
      · cases followed
      · obtain ⟨tail, tailRun, rfl⟩ := Option.map_eq_some_iff.mp followed
        exact congrArg (event :: ·) (ih tailRun)

/-- A run found by trying a list of events: the check is evaluated on what it reaches. -/
theorem exists_run {events : List ε} {check : List (σ × ε) × σ → Bool}
    (found : (follow step start events).any check = true)
    (permitted : ∀ done, check done = true → ∀ entry ∈ done.1, allowed entry.1 entry.2) :
    ∃ trace state, Reaches step allowed start trace state ∧ check (trace, state) = true := by
  obtain ⟨done, followed, checked⟩ := (Option.any_eq_true check _).mp found
  exact ⟨done.1, done.2, reaches_of_follow followed (permitted done checked), checked⟩

/-- The same for a run that passes through a given event. -/
theorem exists_run_through {first second : List ε} {event : ε}
    {passing check : List (σ × ε) × σ → Bool}
    (found : ((follow step start first).any fun past => (step past.2 event).any fun after =>
      passing past && (follow step after second).any check) = true)
    (permitted : ∀ done, check done = true → ∀ entry ∈ done.1, allowed entry.1 entry.2) :
    ∃ past before after trace state, Reaches step anyStep start past before ∧
      step before event = some after ∧ passing (past, before) = true ∧
      Reaches step allowed after trace state ∧ check (trace, state) = true := by
  obtain ⟨past, followed, stepped⟩ := (Option.any_eq_true _ _).mp found
  obtain ⟨after, taken, checked⟩ := (Option.any_eq_true _ _).mp stepped
  obtain ⟨passed, continued⟩ := Bool.and_eq_true_iff.mp checked
  obtain ⟨trace, state, run, reached⟩ := exists_run continued permitted
  exact ⟨past.1, past.2, after, trace, state, reaches_of_follow followed fun _ _ => trivial, taken,
    passed, run, reached⟩

end Transition
