/-
An iteration of the loop from its start to its end. Whatever handlers do between its awaits, it
stores one opportunity for every listed route that it has an engine for, in the order of the
listing, and it takes a bounded number of steps.
-/

import ArbitrageBot.System.TradeLedger

namespace ArbitrageBot

open Transition
open Sample (tradingSettings)

instance : DecidablePred Route.served :=
  fun _ => inferInstanceAs (Decidable (_ ∨ _))

def servedIds (routes : List Route) : List String :=
  (routes.filter fun route => route.served).map Route.id

/-- What an iteration has done: the opportunities stored before it, its listing and its steps. It
is cut off by an exception, and before the first one there is nothing to complete. -/
structure Iteration where
  stored : Nat := 0
  listed : List Route := []
  steps : Nat := 0
  cutOff : Bool := true

def Iteration.counted (iteration : Iteration) : Iteration :=
  { iteration with steps := iteration.steps + 1 }

def iterationAfter (iteration : Iteration) (entry : Bot × Event) : Iteration :=
  match entry.2.2, entry.1.scan with
  | .scan _, .idle => { stored := entry.1.db.opportunities.length, steps := 1, cutOff := false }
  | .scan _, .routesPending _ =>
      { iteration.counted with listed := entry.1.db.getRoutes }
  | .scan _, _ => iteration.counted
  | .scanRaise, _ => { iteration with cutOff := true }
  | _, _ => iteration

def iterationOf (trace : List (Bot × Event)) : Iteration := trace.foldl iterationAfter {}

/-- The routes of the opportunities that the iteration has stored so far. -/
def Iteration.judged (iteration : Iteration) (db : Database) : List String :=
  (db.opportunities.drop iteration.stored).map fun row => row.quote.routeId

/-- The listed routes whose opportunity is still to be stored. -/
def ScanPc.ahead : ScanPc → List Route
  | .routesRead _ routes | .ddPausing _ _ routes => routes
  | .quoting cursor | .observing cursor _ _ => cursor.route :: cursor.rest
  | .judging cursor _ _ | .attempting cursor _ | .executing cursor _ _ | .persisting cursor _ _
  | .reporting cursor _ | .updating cursor _ _ | .recording cursor _ _ => cursor.rest
  | _ => []

/-- A bound on the steps up to the end of the iteration, once the routes are listed. -/
def ScanPc.left : ScanPc → Nat
  | .routesRead _ routes => 9 * (servedIds routes).length + 2
  | .ddPausing _ _ routes => 9 * (servedIds routes).length + 1
  | .quoting cursor => 9 * (servedIds cursor.rest).length + 9
  | .observing cursor _ _ => 9 * (servedIds cursor.rest).length + 8
  | .judging cursor _ _ => 9 * (servedIds cursor.rest).length + 7
  | .attempting cursor _ => 9 * (servedIds cursor.rest).length + 6
  | .executing cursor _ _ => 9 * (servedIds cursor.rest).length + 5
  | .persisting cursor _ _ => 9 * (servedIds cursor.rest).length + 4
  | .reporting cursor _ => 9 * (servedIds cursor.rest).length + 3
  | .updating cursor _ _ => 9 * (servedIds cursor.rest).length + 2
  | .recording cursor _ _ => 9 * (servedIds cursor.rest).length + 1
  | _ => 0

def stepBound (listed : List Route) : Nat := 9 * (servedIds listed).length + 5

theorem servedIds_cons_of_served {route : Route} (served : route.served) (rest : List Route) :
    servedIds (route :: rest) = route.id :: servedIds rest := by
  rw [servedIds, List.filter_cons_of_pos (by simpa using served)]
  rfl

theorem servedIds_cons_of_not {route : Route} (skipped : ¬route.served) (rest : List Route) :
    servedIds (route :: rest) = servedIds rest := by
  rw [servedIds, List.filter_cons_of_neg (by simpa using skipped)]
  rfl

/-- `for route in routes` loses no route that has an engine. -/
theorem forRoutes_ahead (mode : RunMode) (balance : Rat) (routes : List Route) :
    servedIds (ScanPc.forRoutes mode balance routes).ahead = servedIds routes ∧
      (ScanPc.forRoutes mode balance routes).left = 9 * (servedIds routes).length := by
  induction routes with
  | nil => exact ⟨rfl, rfl⟩
  | cons route rest ih =>
      unfold ScanPc.forRoutes
      split
      · rename_i served
        refine ⟨rfl, ?_⟩
        rw [servedIds_cons_of_served served, List.length_cons]
        simp only [ScanPc.left]
        omega
      · rename_i skipped
        rw [servedIds_cons_of_not skipped]
        exact ih

/-! ### The invariant -/

namespace Iteration

variable {iteration : Iteration} {db : Database}

/-- The routes judged so far and those still ahead make up the listing. -/
structure Covers (iteration : Iteration) (db : Database) (place : ScanPc) : Prop where
  since : iteration.stored ≤ db.opportunities.length
  listing : iteration.judged db ++ servedIds place.ahead = servedIds iteration.listed
  bound : iteration.steps + place.left ≤ stepBound iteration.listed

structure Begun (iteration : Iteration) (db : Database) (steps : Nat) : Prop where
  nothing : iteration.stored = db.opportunities.length
  unlisted : iteration.listed = []
  steps : iteration.steps = steps

structure Ended (iteration : Iteration) (db : Database) : Prop where
  complete : iteration.cutOff = false → iteration.judged db = servedIds iteration.listed
  bound : iteration.steps ≤ stepBound iteration.listed

def Advances (iteration : Iteration) (db : Database) : ScanPc → Prop
  | .idle => iteration.Ended db
  | .controlRead _ => iteration.Begun db 1
  | .routesPending _ => iteration.Begun db 2
  | place => iteration.Covers db place

theorem advances_forRoutes {mode : RunMode} {balance : Rat} {routes : List Route}
    (since : iteration.stored ≤ db.opportunities.length)
    (listing : iteration.judged db ++ servedIds routes = servedIds iteration.listed)
    (bound : iteration.steps + 9 * (servedIds routes).length ≤ stepBound iteration.listed) :
    iteration.Advances db (ScanPc.forRoutes mode balance routes) := by
  obtain ⟨ahead, left⟩ := forRoutes_ahead mode balance routes
  rw [← ahead] at listing
  rw [← left] at bound
  rcases ScanPc.forRoutes_cases mode balance routes with idle | ⟨cursor, quoting⟩
  · rw [idle] at listing bound ⊢
    refine ⟨fun _ => ?_, bound⟩
    rw [← listing]
    exact (List.append_nil _).symm
  · rw [quoting] at listing bound ⊢
    exact ⟨since, listing, bound⟩

theorem Covers.counted {place next : ScanPc} {grown : Database}
    (covers : iteration.Covers db place) (same : grown.opportunities = db.opportunities)
    (ahead : next.ahead = place.ahead) (less : next.left < place.left) :
    iteration.counted.Covers grown next := by
  obtain ⟨since, listing, bound⟩ := covers
  have kept : iteration.counted.judged grown = iteration.judged db := by
    rw [judged, same]
    rfl
  refine ⟨?_, ?_, ?_⟩
  · rw [same]
    exact since
  · rw [kept, ahead]
    exact listing
  · simp only [Iteration.counted]
    omega

theorem Covers.nextRoute {place : ScanPc} {cursor : ScanCursor} {grown : Database}
    (covers : iteration.Covers db place) (same : grown.opportunities = db.opportunities)
    (ahead : place.ahead = cursor.rest) (less : 9 * (servedIds cursor.rest).length < place.left) :
    iteration.counted.Advances grown cursor.nextRoute := by
  obtain ⟨since, listing, bound⟩ := covers
  have kept : iteration.counted.judged grown = iteration.judged db := by
    rw [judged, same]
    rfl
  apply advances_forRoutes
  · rw [same]
    exact since
  · rw [kept, ← ahead]
    exact listing
  · simp only [Iteration.counted]
    omega

theorem judged_insert (since : iteration.stored ≤ db.opportunities.length) (row : Opportunity) :
    iteration.judged (db.insertOpportunity row) = iteration.judged db ++ [row.quote.routeId] := by
  rw [judged, Database.insertOpportunity, List.drop_append_of_le_length since, List.map_append]
  rfl

theorem Covers.observed {cursor : ScanCursor} {quote : RouteQuote} {decision : OpportunityDecision}
    (covers : iteration.Covers db (.observing cursor quote decision)) {row : Opportunity}
    (labelled : row.quote.routeId = cursor.route.id) (served : cursor.route.served) :
    iteration.counted.Covers (db.insertOpportunity row) (.judging cursor quote decision) := by
  obtain ⟨since, listing, bound⟩ := covers
  simp only [ScanPc.ahead, servedIds_cons_of_served served, ScanPc.left] at listing bound
  refine ⟨?_, ?_, ?_⟩
  · rw [Database.insertOpportunity, List.length_append]
    exact since.trans (Nat.le_add_right _ _)
  · have grown : iteration.counted.judged (db.insertOpportunity row) =
        iteration.judged db ++ [row.quote.routeId] := judged_insert since row
    rw [grown, labelled, List.append_assoc]
    exact listing
  · simp only [Iteration.counted, ScanPc.left]
    omega

theorem Begun.listed {control : RuntimeControl} (begun : iteration.Begun db 2)
    (routes : List Route) :
    Covers { iteration.counted with listed := routes } db (.routesRead control routes) := by
  obtain ⟨nothing, -, steps⟩ := begun
  refine ⟨nothing.le, ?_, ?_⟩
  · rw [judged]
    simp only [Iteration.counted, nothing, List.drop_length, List.map_nil, List.nil_append,
      ScanPc.ahead]
  · simp only [Iteration.counted, ScanPc.left, stepBound]
    omega

end Iteration

/-- The loop judges what it has an engine for, and labels it with the route in its hands. -/
def ScanPc.Labelled : ScanPc → Prop
  | .quoting cursor => cursor.route.served
  | .observing cursor quote _ => quote.routeId = cursor.route.id ∧ cursor.route.served
  | _ => True

theorem ScanPc.labelled_forRoutes (mode : RunMode) (balance : Rat) (routes : List Route) :
    (ScanPc.forRoutes mode balance routes).Labelled := by
  rcases ScanPc.forRoutes_cases mode balance routes with idle | ⟨cursor, quoting⟩
  · rw [idle]
    trivial
  · rw [quoting]
    exact forRoutes_served (by rw [quoting]; rfl)

structure InIteration (iteration : Iteration) (bot : Bot) : Prop where
  advances : iteration.Advances bot.db bot.scan
  labelled : bot.scan.Labelled

/-! ### The step -/

section

variable {settings : Settings} {now : Instant} {iteration : Iteration} {bot after : Bot}
  {event : Event}

namespace InIteration

theorem scanStep (held : InIteration iteration bot) (answers : ScanAnswers) :
    InIteration (iterationAfter iteration (bot, (now, .scan answers)))
      (bot.scanStep settings now answers) := by
  obtain ⟨advances, labelled⟩ := held
  cases place : bot.scan with
  | idle =>
      simp only [Bot.scanStep, iterationAfter, place]
      exact ⟨⟨rfl, rfl, rfl⟩, trivial⟩
  | controlRead control =>
      rw [place] at advances
      simp only [Bot.scanStep, iterationAfter, place]
      exact ⟨⟨advances.nothing, advances.unlisted, congrArg (· + 1) advances.steps⟩, trivial⟩
  | routesPending control =>
      rw [place] at advances
      simp only [Bot.scanStep, iterationAfter, place]
      exact ⟨Iteration.Begun.listed advances bot.db.getRoutes, trivial⟩
  | routesRead control routes =>
      rw [place] at advances
      obtain ⟨since, listing, bound⟩ := advances
      simp only [ScanPc.left] at bound
      simp only [Bot.scanStep, iterationAfter, place, Iteration.counted]
      split
      · refine ⟨⟨since, listing, ?_⟩, trivial⟩
        simp only [ScanPc.left]
        omega
      · refine ⟨Iteration.advances_forRoutes since listing ?_, ScanPc.labelled_forRoutes ..⟩
        dsimp only
        omega
  | ddPausing control balance routes =>
      rw [place] at advances
      obtain ⟨since, listing, bound⟩ := advances
      simp only [ScanPc.left] at bound
      simp only [Bot.scanStep, iterationAfter, place, Iteration.counted]
      refine ⟨?_, ScanPc.labelled_forRoutes ..⟩
      split
      all_goals
        refine Iteration.advances_forRoutes since listing ?_
        dsimp only
        omega
  | quoting cursor =>
      rw [place] at advances labelled
      simp only [Bot.scanStep, iterationAfter, place]
      refine ⟨Iteration.Covers.counted advances rfl rfl (Nat.lt_succ_self _), ?_⟩
      exact ⟨ScanCursor.evaluation_routeId settings cursor answers, labelled⟩
  | observing cursor quote decision =>
      rw [place] at advances labelled
      simp only [Bot.scanStep, iterationAfter, place]
      exact ⟨Iteration.Covers.observed advances labelled.1 labelled.2, trivial⟩
  | judging cursor quote decision =>
      rw [place] at advances
      simp only [Bot.scanStep, iterationAfter, place]
      split
      · split
        · refine ⟨Iteration.Covers.nextRoute advances rfl rfl ?_, ScanPc.labelled_forRoutes ..⟩
          simp only [ScanPc.left]
          omega
        · exact ⟨Iteration.Covers.counted advances rfl rfl (Nat.lt_succ_self _), trivial⟩
      · cases Bot.blockOperation cursor decision with
        | none =>
            refine ⟨Iteration.Covers.nextRoute advances rfl rfl ?_, ScanPc.labelled_forRoutes ..⟩
            simp only [ScanPc.left]
            omega
        | some op =>
            simp only [Bot.mark]
            refine ⟨Iteration.Covers.counted advances rfl rfl ?_, trivial⟩
            simp only [ScanPc.left]
            omega
  | persisting cursor state trade =>
      rw [place] at advances
      simp only [Bot.scanStep, iterationAfter, place]
      cases trade with
      | none =>
          refine ⟨Iteration.Covers.nextRoute advances rfl rfl ?_, ScanPc.labelled_forRoutes ..⟩
          simp only [ScanPc.left]
          omega
      | some trade =>
          exact ⟨Iteration.Covers.counted advances rfl rfl (Nat.lt_succ_self _), trivial⟩
  | recording cursor trade triggered =>
      rw [place] at advances
      simp only [Bot.scanStep, iterationAfter, place]
      refine ⟨Iteration.Covers.nextRoute advances rfl rfl ?_, ScanPc.labelled_forRoutes ..⟩
      simp only [ScanPc.left]
      omega
  | _ =>
      rw [place] at advances
      simp only [Bot.scanStep, Bot.mark, iterationAfter, place]
      exact ⟨Iteration.Covers.counted advances rfl rfl (Nat.lt_succ_self _), trivial⟩

theorem of_same (held : InIteration iteration bot)
    (same : after.db.opportunities = bot.db.opportunities) (place : after.scan = bot.scan) :
    InIteration iteration after := by
  obtain ⟨advances, labelled⟩ := held
  have judged : iteration.judged after.db = iteration.judged bot.db := by
    rw [Iteration.judged, same]
    rfl
  refine ⟨?_, place ▸ labelled⟩
  rw [place]
  cases here : bot.scan with
  | idle =>
      rw [here] at advances
      exact ⟨fun finished => judged.trans (advances.complete finished), advances.bound⟩
  | controlRead | routesPending =>
      rw [here] at advances
      exact ⟨advances.nothing.trans (congrArg List.length same).symm, advances.unlisted,
        advances.steps⟩
  | _ =>
      rw [here] at advances
      refine ⟨?_, ?_, advances.bound⟩
      · rw [same]
        exact advances.since
      · rw [judged]
        exact advances.listing

theorem steps_le (held : InIteration iteration bot) :
    iteration.steps ≤ stepBound iteration.listed := by
  have advances := held.advances
  cases here : bot.scan with
  | idle =>
      rw [here] at advances
      exact advances.bound
  | controlRead | routesPending =>
      rw [here] at advances
      rw [advances.steps, stepBound]
      omega
  | _ =>
      rw [here] at advances
      have bound := advances.bound
      omega

theorem raised (held : InIteration iteration bot) (idle : after.scan = .idle) :
    InIteration { iteration with cutOff := true } after := by
  refine ⟨?_, ?_⟩
  · rw [idle]
    exact ⟨nofun, held.steps_le⟩
  · rw [idle]
    trivial

theorem step (held : InIteration iteration bot) (taken : bot.step settings event = some after) :
    InIteration (iterationAfter iteration (bot, event)) after := by
  obtain ⟨now, action⟩ := event
  rcases Bot.step_cases taken with ⟨answers, rfl, rfl⟩ | ⟨rfl, rfl⟩ | ⟨rfl, booted⟩ |
    ⟨request, rfl, -, rfl⟩ | ⟨index, rfl, handled⟩ | ⟨index, rfl, rfl⟩
  · have timed : InIteration iteration { bot with clock := now } := held.of_same rfl rfl
    exact timed.scanStep answers
  · exact held.raised rfl
  · apply held.of_same
    · rcases Bot.bootStep_some booted with ⟨-, rfl⟩ | ⟨rows, -, rfl⟩ <;> rfl
    · rcases Bot.bootStep_some booted with ⟨-, rfl⟩ | ⟨rows, -, rfl⟩ <;> rfl
  · exact held.of_same rfl rfl
  · obtain ⟨request, instr, rest, found, rfl⟩ := Bot.handlerStep_some handled
    refine held.of_same ?_ (Bot.runInstr_frame instr).2.1
    cases instr <;> rfl
  · exact held.of_same rfl rfl

theorem of_run {allowed : Bot → Event → Prop} {start : Bot} (idle : start.scan = .idle)
    {trace : List (Bot × Event)} (run : Reaches (Bot.step settings) allowed start trace bot) :
    InIteration (iterationOf trace) bot := by
  have base : InIteration {} start := by
    refine ⟨?_, ?_⟩
    · rw [idle]
      exact ⟨nofun, Nat.zero_le _⟩
    · rw [idle]
      trivial
  exact run.invariant_history base fun _ _ _ _ held _ taken => held.step taken

end InIteration

end

/-- An iteration that has come to its end without an exception has stored one opportunity for every
route of its listing that has an engine, in the order of the listing, and no other. -/
theorem iteration_judges_listing (settings : Settings) (start : Bot) (idle : start.scan = .idle)
    (trace : List (Bot × Event)) (bot : Bot)
    (run : Reaches (Bot.step settings) anyStep start trace bot)
    (ended : bot.scan = .idle) (finished : (iterationOf trace).cutOff = false) :
    (iterationOf trace).judged bot.db = servedIds (iterationOf trace).listed := by
  have advances := (InIteration.of_run idle run).advances
  rw [ended] at advances
  exact advances.complete finished

/-! ### The end of an iteration -/

def Action.isScan : Action → Bool
  | .scan _ => true
  | _ => false

def loopSteps (trace : List (Bot × Event)) : Nat := trace.countP fun entry => entry.2.2.isScan

/-- The run comes back to the start of the loop after its first step. -/
def ComesBackIdle (trace : List (Bot × Event)) (bot : Bot) : Prop :=
  (∃ entry ∈ trace.tail, entry.1.scan = .idle) ∨ bot.scan = .idle

theorem loopSteps_concat (trace : List (Bot × Event)) (entry : Bot × Event) :
    loopSteps (trace ++ [entry]) = loopSteps trace + if entry.2.2.isScan then 1 else 0 := by
  rw [loopSteps, List.countP_append, List.countP_singleton]
  rfl

theorem iterationOf_concat (trace : List (Bot × Event)) (entry : Bot × Event) :
    iterationOf (trace ++ [entry]) = iterationAfter (iterationOf trace) entry := by
  rw [iterationOf, List.foldl_append]
  rfl

/-- A step of the loop counts, and only the start of an iteration sets the count back. -/
theorem iterationAfter_steps {iteration : Iteration} {entry : Bot × Event} {before : Nat}
    (counted : before ≤ iteration.steps) (begins : entry.1.scan = .idle → before = 0) :
    before + (if entry.2.2.isScan then 1 else 0) ≤ (iterationAfter iteration entry).steps := by
  obtain ⟨bot, now, action⟩ := entry
  cases action with
  | scan answers =>
      cases place : bot.scan with
      | idle =>
          simp only [iterationAfter, place, Action.isScan, if_true, begins place]
          omega
      | _ =>
          simp only [iterationAfter, place, Action.isScan, if_true, Iteration.counted]
          omega
  | _ => exact counted

theorem loopSteps_le {settings : Settings} {bot later : Bot} {trace more : List (Bot × Event)}
    (onward : Reaches (Bot.step settings) anyStep bot more later)
    (away : ¬ComesBackIdle more later) :
    loopSteps more ≤ (iterationOf (trace ++ more)).steps := by
  suffices counted : (∀ entry ∈ more.tail, entry.1.scan ≠ .idle) →
      loopSteps more ≤ (iterationOf (trace ++ more)).steps from
    counted fun entry member idle => away (.inl ⟨entry, member, idle⟩)
  clear away
  induction onward with
  | refl => exact fun _ => Nat.zero_le _
  | snoc earlier _permitted _taken ih =>
      intro passing
      rename_i front state next event
      rw [loopSteps_concat, ← List.append_assoc, iterationOf_concat]
      rcases List.eq_nil_or_concat front with rfl | ⟨start, last, split⟩
      · exact iterationAfter_steps (Nat.zero_le _) fun _ => rfl
      · have nonempty : front ≠ [] := by simp [split]
        rw [List.tail_append_of_ne_nil nonempty] at passing
        refine iterationAfter_steps
          (ih fun entry member => passing entry (List.mem_append_left _ member)) ?_
        exact fun idle => absurd idle (passing _ (List.mem_append_right _ (by simp)))

/-- In the middle of an iteration, its bound is not yet used up. -/
theorem InIteration.steps_lt {iteration : Iteration} {bot : Bot} (held : InIteration iteration bot)
    (middle : bot.scan ≠ .idle) : iteration.steps < stepBound iteration.listed := by
  have advances := held.advances
  cases here : bot.scan with
  | idle => exact absurd here middle
  | controlRead | routesPending =>
      rw [here] at advances
      rw [advances.steps, stepBound]
      omega
  | _ =>
      rw [here] at advances
      have bound := advances.bound
      simp only [ScanPc.left] at bound
      omega

/-- From any reachable state: the loop can take its next step, an iteration has not taken more
steps than its listing allows, and a run in which the loop takes as many comes back to its start,
whatever happens between them. -/
theorem iteration_bounded (settings : Settings) (start : Bot) (idle : start.scan = .idle)
    (trace : List (Bot × Event)) (bot : Bot)
    (run : Reaches (Bot.step settings) anyStep start trace bot) :
    (∀ now answers, (bot.step settings (now, .scan answers)).isSome = true) ∧
      (iterationOf trace).steps ≤ stepBound (iterationOf trace).listed ∧
      ∀ more later, Reaches (Bot.step settings) anyStep bot more later →
        stepBound (iterationOf (trace ++ more)).listed ≤ loopSteps more →
          ComesBackIdle more later := by
  refine ⟨fun _ _ => rfl, (InIteration.of_run idle run).steps_le, ?_⟩
  intro more later onward enough
  by_contra away
  have taken := @loopSteps_le settings bot later trace more onward away
  have within := (InIteration.of_run idle (run.trans onward)).steps_lt fun back => away (.inr back)
  omega

def twoRoutes : Bot :=
  { Sample.serving with
    db := { Sample.db with
      routes := [Sample.route, { Sample.route with id := "s", strategy := "base_virtual_shadow" }] } }

def disabledMeanwhile : List Event :=
  let scans (first : Instant) (count : Nat) : List Event :=
    (List.range count).map fun (offset : Nat) =>
      (first + offset, .scan (Sample.tradingAnswers tradingSettings))
  scans 1 4 ++ [(5, .request (.disableRoute "s")), (6, .handler 0)] ++ scans 7 18

/-- The loop is idle again, and only one of the two routes it has judged is still enabled. -/
def judgedBoth (done : List (Bot × Event) × Bot) : Bool :=
  done.2.scan.mode? = none && !(iterationOf done.1).cutOff &&
    servedIds done.2.db.getRoutes = ["r"] && servedIds (iterationOf done.1).listed = ["r", "s"] &&
    (iterationOf done.1).steps = 22

theorem idle_of_mode? {place : ScanPc} (unread : place.mode? = none) : place = .idle := by
  cases place with
  | idle => rfl
  | _ => cases unread

theorem exists_judgedBoth :
    ∃ trace bot, Reaches (Bot.step tradingSettings) anyStep twoRoutes trace bot ∧
      judgedBoth (trace, bot) = true :=
  have found : (follow (Bot.step tradingSettings) twoRoutes disabledMeanwhile).any judgedBoth =
      true := by decide +kernel
  exists_run found fun _ _ _ _ => trivial

theorem iteration_judges_listing_disabled :
    ∃ trace bot, Reaches (Bot.step tradingSettings) anyStep twoRoutes trace bot ∧
      servedIds bot.db.getRoutes = ["r"] ∧ servedIds (iterationOf trace).listed = ["r", "s"] ∧
      (iterationOf trace).judged bot.db = servedIds (iterationOf trace).listed := by
  obtain ⟨trace, bot, run, checked⟩ := exists_judgedBoth
  simp only [judgedBoth, Bool.and_eq_true, decide_eq_true_eq, Bool.not_eq_true'] at checked
  obtain ⟨⟨⟨⟨unread, finished⟩, enabled⟩, listed⟩, -⟩ := checked
  exact ⟨trace, bot, run, enabled, listed,
    iteration_judges_listing tradingSettings twoRoutes rfl trace bot run (idle_of_mode? unread)
      finished⟩

/-- Four steps into the iteration; then one route is disabled and the loop takes 23 more. -/
theorem iteration_bounded_disabled :
    ∃ trace bot more later, Reaches (Bot.step tradingSettings) anyStep twoRoutes trace bot ∧
      Reaches (Bot.step tradingSettings) anyStep bot more later ∧
      (iterationOf trace).steps = 4 ∧ loopSteps more = 23 ∧ ComesBackIdle more later := by
  have found : (follow (Bot.step tradingSettings) twoRoutes (disabledMeanwhile.take 4)).any
      (fun past => (iterationOf past.1).steps = 4 &&
        (follow (Bot.step tradingSettings) past.2
          (disabledMeanwhile.drop 4 ++ disabledMeanwhile.drop 19)).any
          fun done => loopSteps done.1 = 23 &&
            stepBound (iterationOf (past.1 ++ done.1)).listed ≤ loopSteps done.1) = true := by
    decide +kernel
  obtain ⟨past, began, checked⟩ := (Option.any_eq_true _ _).mp found
  obtain ⟨four, continued⟩ := Bool.and_eq_true_iff.mp checked
  obtain ⟨done, ran, enough⟩ := (Option.any_eq_true _ _).mp continued
  obtain ⟨count, bound⟩ := Bool.and_eq_true_iff.mp enough
  have run : Reaches (Bot.step tradingSettings) anyStep twoRoutes past.1 past.2 :=
    reaches_of_follow began fun _ _ => trivial
  have onward : Reaches (Bot.step tradingSettings) anyStep past.2 done.1 done.2 :=
    reaches_of_follow ran fun _ _ => trivial
  obtain ⟨-, -, returns⟩ := iteration_bounded tradingSettings twoRoutes rfl past.1 past.2 run
  exact ⟨past.1, past.2, done.1, done.2, run, onward, of_decide_eq_true four,
    of_decide_eq_true count, returns done.1 done.2 onward (of_decide_eq_true bound)⟩

end ArbitrageBot
