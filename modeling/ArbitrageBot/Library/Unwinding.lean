/-
What an observer can tell of a run. Events that the observer is not concerned with are invisible
if each of them, one at a time, leaves what may be seen from then on as it was, and the others do
the same to states that look alike; what looks alike may be less as time goes on.
-/

import Mathlib.Data.List.Induction

namespace Unwinding

variable {σ ε τ : Type*} [LE τ]

/-- `alike now first second` says that nothing observed from now on tells the states apart. -/
structure Secure (step : σ → ε → σ) (time : ε → τ) (concerns : ε → Bool)
    (alike : τ → σ → σ → Prop) : Prop where
  later : ∀ {now after first second}, alike now first second → now ≤ after →
    alike after first second
  silent : ∀ {event first second}, concerns event = false → alike (time event) first second →
    alike (time event) (step first event) second
  shared : ∀ {event first second}, concerns event = true → alike (time event) first second →
    alike (time event) (step first event) (step second event)

variable {step : σ → ε → σ} {time : ε → τ} {concerns : ε → Bool} {alike : τ → σ → σ → Prop}

/-- A run looks like the run of the events that concern the observer. -/
theorem Secure.purged (secure : Secure step time concerns alike) {start : σ}
    (refl : ∀ now, alike now start start) {events : List ε} {now : τ}
    (ordered : events.Pairwise fun earlier later => time earlier ≤ time later)
    (past : ∀ event ∈ events, time event ≤ now) :
    alike now (events.foldl step start) ((events.filter concerns).foldl step start) := by
  -- each event meets states that look alike from the event before it on
  induction events using List.reverseRecOn generalizing now with
  | nil => exact refl now
  | append_singleton earlier last ih =>
      obtain ⟨before, -, behind⟩ := List.pairwise_append.mp ordered
      have upToLast := ih before fun event member =>
        behind event member last (List.mem_singleton_self last)
      have recent : time last ≤ now :=
        past last (List.mem_append_right _ (List.mem_singleton_self _))
      rw [List.foldl_append, List.foldl_cons, List.foldl_nil, List.filter_append]
      cases concerned : concerns last with
      | false =>
          rw [List.filter_cons_of_neg (by simp [concerned]), List.filter_nil, List.append_nil]
          exact secure.later (secure.silent concerned upToLast) recent
      | true =>
          rw [List.filter_cons_of_pos concerned, List.filter_nil, List.foldl_append,
            List.foldl_cons, List.foldl_nil]
          exact secure.later (secure.shared concerned upToLast) recent

end Unwinding
