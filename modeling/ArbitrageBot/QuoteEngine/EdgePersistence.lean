/-
How long an edge has stood. The engine keeps one start time a route, which the
first edge at its own profile's threshold writes and only an edge under its
own threshold deletes.
-/

import ArbitrageBot.Library.Stopwatch
import ArbitrageBot.Library.Transition
import ArbitrageBot.QuoteEngine.Engine

namespace ArbitrageBot

open Stopwatch Transition

namespace HyperDexDexQuoteEngine

/-! ### Calls of the engine -/

structure Call where
  route : Route
  amountIn : Rat
  modeProfile : RunMode
  venueA : Option DexAdapter
  venueB : Option DexAdapter
  times : QuoteTimes

def Call.quote (settings : Settings) (call : Call) (startedAt : EdgeTimes) :
    Except String QuoteAnswer × EdgeTimes :=
  quoteRoute settings call.route call.amountIn call.modeProfile call.venueA call.venueB call.times
    startedAt

def step (settings : Settings) (startedAt : EdgeTimes) (call : Call) : Option EdgeTimes :=
  some (call.quote settings startedAt).2

/-- A call, with the start times it finds. -/
abbrev Taken := EdgeTimes × Call

def Taken.outcome (settings : Settings) (taken : Taken) : Except String QuoteAnswer :=
  (taken.2.quote settings taken.1).1

/-- Where `_update_persistence` reads the clock. -/
def Taken.time (taken : Taken) : Instant := taken.2.times.judged

def Taken.OfRoute (routeId : String) (taken : Taken) : Bool := taken.2.route.id = routeId

def threshold (settings : Settings) (modeProfile : RunMode) : Int :=
  if modeProfile = .live then settings.liveMinNetEdgeBps else settings.shadowMinNetEdgeBps

/-- What a call does to the start time: nothing when a leg raises, whatever is raised later. -/
def Taken.sign (settings : Settings) (taken : Taken) : Sign :=
  let call := taken.2
  match quoteLegs call.route call.amountIn call.venueA call.venueB with
  | .error _ => .pass
  | .ok legs =>
      if threshold settings call.modeProfile ≤
          (edge settings call.route call.amountIn legs).modeledNetEdgeBps then .start
      else .reset

/-- The call returned an edge at or above the bound. -/
def Taken.reaches (settings : Settings) (bound : Int) (taken : Taken) : Bool :=
  match taken.outcome settings with
  | .ok found => bound ≤ found.quote.modeledNetEdgeBps
  | .error _ => false

def fresh : EdgeTimes := fun _ => none

def ClockForward (trace : List Taken) : Prop := trace.Pairwise fun earlier later =>
  earlier.time ≤ later.time

/-! ### The start time of a route -/

variable {settings : Settings}

theorem updatePersistence_other {bound : Int} {now : Instant} {changed routeId : String}
    {modeledEdgeBps : Rat} {startedAt : EdgeTimes} (other : routeId ≠ changed) :
    (updatePersistence bound now changed modeledEdgeBps startedAt).2 routeId =
      startedAt routeId := by
  unfold updatePersistence
  split <;> exact Function.update_of_ne other _ _

theorem Call.quote_of_legs {call : Call} {legs : Legs} (startedAt : EdgeTimes)
    (complete : quoteLegs call.route call.amountIn call.venueA call.venueB = .ok legs) :
    call.quote settings startedAt =
      let persistence := updatePersistence (threshold settings call.modeProfile) call.times.judged
        call.route.id (edge settings call.route call.amountIn legs).modeledNetEdgeBps startedAt
      (report settings call.route call.amountIn legs
        (totalSeconds (call.times.finish - call.times.start)) persistence.1, persistence.2) := by
  simp only [Call.quote, quoteRoute, complete, threshold]

theorem Call.quote_startedAt (startedAt : EdgeTimes) (call : Call) (routeId : String) :
    (call.quote settings startedAt).2 routeId =
      if Taken.OfRoute routeId (startedAt, call) then
        advance (Taken.sign settings) Taken.time (startedAt routeId) (startedAt, call)
      else startedAt routeId := by
  simp only [Taken.OfRoute, decide_eq_true_eq, advance, Taken.sign]
  cases complete : quoteLegs call.route call.amountIn call.venueA call.venueB with
  | error reason =>
      simp only [Call.quote, quoteRoute, complete]
      split <;> rfl
  | ok legs =>
      rw [call.quote_of_legs startedAt complete]
      by_cases same : call.route.id = routeId
      · subst same
        simp only [updatePersistence, if_true]
        split <;> exact Function.update_self _ _ _
      · rw [if_neg same]
        exact updatePersistence_other fun equal => same equal.symm

/-- The start time is when the watch was started, by a call of the route. -/
theorem startedAt_eq {trace : List Taken} {startedAt : EdgeTimes}
    (run : Reaches (step settings) anyStep fresh trace startedAt) (routeId : String) :
    startedAt routeId =
      (marked (Taken.sign settings) (trace.filter (Taken.OfRoute routeId))).head?.map
        Taken.time := by
  rw [← foldl_advance]
  induction run with
  | refl => rfl
  | @snoc past before after call earlier permitted taken ih =>
      obtain rfl := Option.some.inj taken
      rw [Call.quote_startedAt, List.filter_append, List.foldl_append, ← ih]
      cases ofRoute : Taken.OfRoute routeId (before, call) with
      | true => rw [List.filter_cons_of_pos ofRoute]; rfl
      | false => rw [List.filter_cons_of_neg (Bool.eq_false_iff.mp ofRoute)]; rfl

/-! ### What a call returns -/

variable {startedAt : EdgeTimes} {call : Call} {found : QuoteAnswer}

/-- An answer has been judged: its edge decides the sign, and the sign what is returned. -/
theorem Taken.answered (returned : Taken.outcome settings (startedAt, call) = .ok found) :
    (threshold settings call.modeProfile ≤ found.quote.modeledNetEdgeBps ∧
        Taken.sign settings (startedAt, call) = .start ∧
        found.quote.persistedSeconds =
          totalSeconds (call.times.judged - (startedAt call.route.id).getD call.times.judged)) ∨
      (¬threshold settings call.modeProfile ≤ found.quote.modeledNetEdgeBps ∧
        Taken.sign settings (startedAt, call) = .reset ∧ found.quote.persistedSeconds = 0) := by
  unfold Taken.outcome at returned
  cases complete : quoteLegs call.route call.amountIn call.venueA call.venueB with
  | error reason =>
      simp only [Call.quote, quoteRoute, complete] at returned
      cases returned
  | ok legs =>
      rw [call.quote_of_legs startedAt complete] at returned
      have reported := report_returns returned
      rw [reported.modeled, reported.persistedSeconds]
      simp only [Taken.sign, complete, updatePersistence]
      split
      · rename_i enough
        exact .inl ⟨enough, rfl, rfl⟩
      · rename_i low
        exact .inr ⟨low, rfl, rfl⟩

theorem totalSeconds_le_iff {now first mark : Instant} :
    totalSeconds (now - mark) ≤ totalSeconds (now - first) ↔ first ≤ mark := by
  unfold totalSeconds
  rw [div_le_div_iff_of_pos_right (by positivity), Int.cast_le]
  exact sub_le_sub_iff_left now

/-! ### Persistence against the calls themselves -/

/-- The calls of its route up to this one. -/
def callsUpTo (history : List Taken) (latest : Taken) : List Taken :=
  (history ++ [latest]).filter (Taken.OfRoute latest.2.route.id)

def Taken.bound (settings : Settings) (taken : Taken) : Int :=
  threshold settings taken.2.modeProfile

/-- The time since the first call of the longest closing stretch of calls that all returned an
edge at the bound of the latest one; none has passed when there is no such call. -/
def standingSeconds (settings : Settings) (history : List Taken) (latest : Taken) : Rat :=
  match (standing (Taken.reaches settings (latest.bound settings))
    (callsUpTo history latest)).head? with
  | some first => totalSeconds (latest.time - first.time)
  | none => 0

/-- What the latest call returns is no more than that. -/
def PersistenceBounded (settings : Settings) (history : List Taken) (latest : Taken) : Prop :=
  ∀ found, latest.outcome settings = .ok found →
    found.quote.persistedSeconds ≤ standingSeconds settings history latest

/-- From some call at the instant of the recorded start on, every call of the route returned an
edge at the bound of the latest one. -/
def EdgeUnbroken (settings : Settings) (history : List Taken) (latest : Taken) : Prop :=
  Unbroken (Taken.sign settings) Taken.time (Taken.reaches settings (latest.bound settings))
    (callsUpTo history latest)

theorem callsUpTo_eq (history : List Taken) (latest : Taken) :
    callsUpTo history latest =
      history.filter (Taken.OfRoute latest.2.route.id) ++ [latest] := by
  rw [callsUpTo, List.filter_append, List.filter_cons_of_pos (by simp [Taken.OfRoute]),
    List.filter_nil]

theorem persistence_bounded_iff_of_run {history : List Taken} {latest : Taken}
    (run : Reaches (step settings) anyStep fresh history latest.1)
    (clock : ClockForward (history ++ [latest])) :
    PersistenceBounded settings history latest ↔
      ∀ found, latest.outcome settings = .ok found → EdgeUnbroken settings history latest := by
  obtain ⟨startedAt, call⟩ := latest
  change Reaches _ _ _ history startedAt at run
  refine forall_congr' fun found => forall_congr' fun returned => ?_
  have ordered : (callsUpTo history (startedAt, call)).Pairwise fun earlier later =>
      earlier.time ≤ later.time := clock.sublist List.filter_sublist
  unfold EdgeUnbroken standingSeconds
  rw [callsUpTo_eq] at ordered ⊢
  rcases Taken.answered returned with ⟨enough, starts, persisted⟩ | ⟨low, resets, persisted⟩
  · have reached : Taken.reaches settings (Taken.bound settings (startedAt, call))
        (startedAt, call) = true := by
      simp only [Taken.reaches, returned]
      exact decide_eq_true enough
    obtain ⟨first, stands⟩ :=
      @head_standing _ _ (history.filter (Taken.OfRoute call.route.id)) _ reached
    obtain ⟨mark, marks, markTime⟩ :=
      @head_marked_start _ _ _ Taken.time (history.filter (Taken.OfRoute call.route.id)) _ starts
    have recorded : mark.time = (startedAt call.route.id).getD call.times.judged := by
      rw [startedAt_eq run, markTime]
      rfl
    rw [stands, persisted, ← recorded]
    exact totalSeconds_le_iff.trans (standing_le_mark_iff ordered stands marks)
  · have missed : ¬Taken.reaches settings (Taken.bound settings (startedAt, call))
        (startedAt, call) = true := by
      simp only [Taken.reaches, returned]
      exact fun reached => low (of_decide_eq_true reached)
    rw [persisted, standing_concat_neg missed]
    exact iff_of_true le_rfl (unbroken_of_reset resets)

/-- Each call of a run returns at most the time for which the edge has stood at its own bound,
exactly when no call of the route since the recorded start has raised or fallen short of it. -/
theorem persistence_bounded_iff {trace : List Taken} {startedAt : EdgeTimes}
    (run : Reaches (step settings) anyStep fresh trace startedAt) (clock : ClockForward trace)
    {history later : List Taken} {latest : Taken} (call : trace = history ++ latest :: later) :
    PersistenceBounded settings history latest ↔
      ∀ found, latest.outcome settings = .ok found → EdgeUnbroken settings history latest := by
  have regrouped : trace = history ++ [latest] ++ later := by
    rw [call, List.append_assoc]
    rfl
  rw [regrouped] at clock
  exact persistence_bounded_iff_of_run (run.of_split call)
    (clock.sublist (List.sublist_append_left _ later))

end HyperDexDexQuoteEngine

/-! ### Calls that gain, and one that raises between them -/

namespace Sample

open HyperDexDexQuoteEngine

def silentDex : DexAdapter := { dex with quoteExactInput := fun _ _ _ _ _ => .error "rpc timeout" }

def engineCall (adapter : DexAdapter) (now : Instant) : Call :=
  { route := route, amountIn := 100, modeProfile := .paper, venueA := some adapter
    venueB := some adapter, times := { start := now, finish := now, judged := now } }

def firstCall : Taken := (fresh, engineCall dex 0)

def failedCall : Taken := (((firstCall.2).quote shipped fresh).2, engineCall silentDex 10000000)

def lastCall : Taken :=
  ((failedCall.2.quote shipped failedCall.1).2, engineCall dex 25000000)

def secondCall : Taken := (failedCall.1, engineCall dex 25000000)

theorem steadyRun : Reaches (step shipped) anyStep fresh [firstCall, secondCall]
    (secondCall.2.quote shipped secondCall.1).2 :=
  .snoc (.snoc .refl trivial rfl) trivial rfl

theorem interruptedRun : Reaches (step shipped) anyStep fresh [firstCall, failedCall, lastCall]
    (lastCall.2.quote shipped lastCall.1).2 :=
  .snoc (.snoc (.snoc .refl trivial rfl) trivial rfl) trivial rfl

end Sample

/-- Two calls in a row that gain: the edge has stood since the first. -/
theorem HyperDexDexQuoteEngine.persistence_bounded_iff_steady :
    PersistenceBounded shipped [Sample.firstCall] Sample.secondCall := by
  have clock : ClockForward [Sample.firstCall, Sample.secondCall] := by
    unfold ClockForward
    decide
  refine (persistence_bounded_iff Sample.steadyRun clock rfl).mpr fun _ _ => ?_
  have first : Taken.sign shipped Sample.firstCall = .start := by decide +kernel
  have second : Taken.sign shipped Sample.secondCall = .start := by decide +kernel
  have both : marked (Taken.sign shipped) ([Sample.firstCall] ++ [Sample.secondCall]) =
      [Sample.firstCall, Sample.secondCall] := by
    rw [marked_concat_start second, ← List.nil_append [Sample.firstCall],
      marked_concat_start first]
    rfl
  have calls : callsUpTo [Sample.firstCall] Sample.secondCall =
      [Sample.firstCall] ++ [Sample.secondCall] := rfl
  unfold EdgeUnbroken Unbroken
  rw [calls, both]
  exact ⟨[], _, rfl, rfl, by decide +kernel⟩

/-- A call that raises leaves the start time, and the next one reports 25 seconds for an edge that
was last seen now. -/
theorem HyperDexDexQuoteEngine.raised_call_keeps_the_edge :
    Reaches (step shipped) anyStep fresh [Sample.firstCall, Sample.failedCall, Sample.lastCall]
        (Sample.lastCall.2.quote shipped Sample.lastCall.1).2 ∧
      ClockForward [Sample.firstCall, Sample.failedCall, Sample.lastCall] ∧
      ¬PersistenceBounded shipped [Sample.firstCall, Sample.failedCall] Sample.lastCall := by
  refine ⟨Sample.interruptedRun, ?_, ?_⟩
  · unfold ClockForward
    decide
  · intro bounded
    have stood :
        standingSeconds shipped [Sample.firstCall, Sample.failedCall] Sample.lastCall = 0 := by
      decide +kernel
    have overdue := bounded _ rfl
    rw [stood] at overdue
    exact absurd overdue (by decide +kernel)

end ArbitrageBot
