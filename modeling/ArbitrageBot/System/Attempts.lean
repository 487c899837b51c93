/-
Which attempts an iteration inserts. The stored mode governs the DEX-DEX strategy only: the
shadow strategy is paper in every mode, stopped included. Nothing on the way from a quote to
an attempt looks at the route's live flag or at the router allowlist.
-/

import ArbitrageBot.QuoteEngine.Engine
import ArbitrageBot.System.Iteration

namespace ArbitrageBot

open PythonText Transition
open Sample (liveSettings tradingSettings)

/-! ### Stopped -/

def modeReadAfter (read : Option RunMode) (entry : Bot × Event) : Option RunMode :=
  match entry.2.2, entry.1.scan with
  | .scan _, .idle => some entry.1.db.control.mode
  | _, _ => read

def modeRead (trace : List (Bot × Event)) : Option RunMode :=
  trace.foldl modeReadAfter none

section Stopped

variable {settings : Settings} {now : Instant} {bot after : Bot} {event : Event}
  {read : Option RunMode}

theorem forRoutes_ne_attempting {mode : RunMode} {balance : Rat} {routes : List Route}
    {cursor : ScanCursor} {quote : RouteQuote} :
    ScanPc.forRoutes mode balance routes ≠ .attempting cursor quote := by
  rcases ScanPc.forRoutes_cases mode balance routes with idle | ⟨quoted, quoting⟩
  · rw [idle]
    nofun
  · rw [quoting]
    nofun

theorem scanStep_attempting {answers : ScanAnswers} {cursor : ScanCursor} {quote : RouteQuote}
    (attempting : (bot.scanStep settings now answers).scan = .attempting cursor quote) :
    cursor.strategyMode ≠ .stopped := by
  cases place : bot.scan with
  | judging judged quoted decision =>
      simp only [Bot.scanStep, place] at attempting
      split at attempting
      · split at attempting
        · exact absurd attempting forRoutes_ne_attempting
        · rename_i running
          cases attempting
          exact running
      · split at attempting
        · cases attempting
        · exact absurd attempting forRoutes_ne_attempting
  | routesRead mode routes =>
      simp only [Bot.scanStep, place] at attempting
      split at attempting
      · cases attempting
      · exact absurd attempting forRoutes_ne_attempting
  | ddPausing | recording =>
      simp only [Bot.scanStep, place] at attempting
      exact absurd attempting forRoutes_ne_attempting
  | persisting persisted state trade =>
      simp only [Bot.scanStep, place] at attempting
      cases trade with
      | none => exact absurd attempting forRoutes_ne_attempting
      | some trade => cases attempting
  | _ =>
      simp only [Bot.scanStep, place, Bot.mark] at attempting
      cases attempting

/-- What the loop carries belongs to the mode it has read. -/
structure ReadSound (read : Option RunMode) (bot : Bot) : Prop where
  mode : ∀ mode, bot.scan.mode? = some mode → read = some mode
  served : ∀ cursor, bot.scan.cursor? = some cursor → cursor.route.served
  attempting : ∀ cursor quote, bot.scan = .attempting cursor quote →
    cursor.strategyMode ≠ .stopped

theorem ReadSound.idle (idle : bot.scan = .idle) : ReadSound read bot := by
  refine ⟨fun mode held => ?_, fun cursor held => ?_, fun cursor quote held => ?_⟩
  all_goals
    rw [idle] at held
    cases held

theorem ReadSound.step (sound : ReadSound read bot) (taken : bot.step settings event = some after) :
    ReadSound (modeReadAfter read (bot, event)) after := by
  refine ⟨?_, Bot.step_served taken sound.served, ?_⟩
  · intro mode held
    obtain ⟨now, action⟩ := event
    rcases Bot.step_mode taken held with already | ⟨⟨answers, scanned⟩, idle, stored⟩
    · rw [← sound.mode mode already]
      unfold modeReadAfter
      split
      · rename_i idle
        change bot.scan = .idle at idle
        rw [idle] at already
        cases already
      · rfl
    · change action = .scan answers at scanned
      subst scanned
      simp only [modeReadAfter, idle, stored]
  · intro cursor quote attempting
    rcases Bot.step_scan taken with ⟨answers, -, moved⟩ | ⟨-, idle⟩ | ⟨-, same⟩
    · rw [moved] at attempting
      exact scanStep_attempting attempting
    · rw [idle] at attempting
      cases attempting
    · rw [same] at attempting
      exact sound.attempting cursor quote attempting

end Stopped

/-- An iteration that read `stopped` inserts attempts of the shadow strategy only, on paper. -/
theorem stopped_attempts_shadow (settings : Settings) (start : Bot) (idle : start.scan = .idle)
    (trace : List (Bot × Event)) (bot : Bot)
    (run : Reaches (Bot.step settings) anyStep start trace bot)
    (stopped : modeRead trace = some .stopped) (event : Event) (after : Bot)
    (taken : bot.step settings event = some after) (row : TradeAttempt)
    (inserted : row ∈ insertedAttempts bot.db after.db) :
    row.strategy = "base_virtual_shadow" ∧ row.mode = .paper := by
  have sound : ReadSound (modeRead trace) bot :=
    run.invariant_history (.idle idle) fun _ _ _ _ sound _ taken => sound.step taken
  obtain ⟨answers, cursor, quote, -, place, -, strategy, mode⟩ := Bot.step_inserted taken inserted
  have held : cursor.currentMode = .stopped := by
    have read := sound.mode cursor.currentMode (by rw [place]; rfl)
    rw [stopped] at read
    exact (Option.some.inj read).symm
  have running := sound.attempting cursor quote place
  rcases sound.served cursor (by rw [place]; rfl) with live | shadow
  · rw [ScanCursor.strategyMode, if_pos live] at running
    exact absurd held running
  · refine ⟨strategy.trans shadow, mode.trans ?_⟩
    rw [ScanCursor.strategyMode, if_neg]
    rw [shadow]
    decide

def servingShadow : Bot :=
  { Sample.serving with db := { Sample.db with routes := [Sample.shadowRoute] } }

def insertsAttempt (settings : Settings) (bot : Bot) (event : Event) : Bool :=
  (bot.step settings event).any fun after => !(insertedAttempts bot.db after.db).isEmpty

/-- Stopped with stop-all, resumed, and never switched to another mode. -/
def stoppedThenResumed : List Event :=
  [(1, .request .stopAll), (2, .handler 0), (3, .handler 0), (4, .handler 0), (5, .handler 0),
    (6, .request .resume), (7, .handler 1), (8, .handler 1), (9, .handler 1)]

def toAttempting (answers : ScanAnswers) (start : Instant) : List Event :=
  [0, 1, 2, 3, 4, 5, 6].map fun offset => (start + offset, .scan answers)

theorem stoppedThenResumed_found :
    (follow (Bot.step tradingSettings) servingShadow (stoppedThenResumed ++
      toAttempting (Sample.shadowAnswers tradingSettings) 10)).any
      (fun done => modeRead done.1 = some .stopped &&
        insertsAttempt tradingSettings done.2 (17, .scan {})) = true := by
  decide +kernel

theorem stopped_iteration_attempts :
    ∃ trace bot, Reaches (Bot.step tradingSettings) anyStep servingShadow trace bot ∧
      (modeRead trace = some .stopped && insertsAttempt tradingSettings bot (17, .scan {})) = true :=
  exists_run stoppedThenResumed_found fun _ _ _ _ => trivial

theorem stopped_attempts_shadow_resumed :
    ∃ trace bot after, Reaches (Bot.step tradingSettings) anyStep servingShadow trace bot ∧
      bot.step tradingSettings (17, .scan {}) = some after ∧
      ∃ row ∈ insertedAttempts bot.db after.db,
        row.strategy = "base_virtual_shadow" ∧ row.mode = .paper := by
  obtain ⟨trace, bot, run, checked⟩ : ∃ trace bot, Reaches (Bot.step tradingSettings) anyStep
      servingShadow trace bot ∧ _ := exists_run stoppedThenResumed_found fun _ _ _ _ => trivial
  obtain ⟨stopped, inserts⟩ := Bool.and_eq_true_iff.mp checked
  obtain ⟨after, taken, rows⟩ := (Option.any_eq_true _ _).mp inserts
  obtain ⟨row, inserted⟩ := List.exists_mem_of_ne_nil (insertedAttempts bot.db after.db)
    (by simpa using rows)
  exact ⟨trace, bot, after, run, taken, row, inserted,
    stopped_attempts_shadow tradingSettings servingShadow rfl trace bot run (of_decide_eq_true stopped) _
      after taken row inserted⟩

/-! ### Allowlists -/

def Route.liveAllowed (settings : Settings) (route : Route) : Bool :=
  route.isLiveAllowed && lower route.routerA ∈ settings.allowlistedRoutersSet &&
    lower route.routerB ∈ settings.allowlistedRoutersSet

/-- In live mode the loop is given no route of the live strategy that is not allowed. -/
def ListsAllowed (settings : Settings) (bot : Bot) (event : Event) : Prop :=
  ∀ answers control, event.2 = .scan answers → bot.scan = .routesPending control →
    control.mode = .live → ∀ route ∈ bot.db.getRoutes, route.strategy = "hyperevm_dex_dex" →
      route.liveAllowed settings = true

def HoldsAllowed (settings : Settings) (bot : Bot) : Prop :=
  bot.scan.mode? = some .live → ∀ route ∈ bot.scan.routes, route.strategy = "hyperevm_dex_dex" →
    route.liveAllowed settings = true

section Allowlists

variable {settings : Settings} {bot after : Bot} {event : Event}

theorem HoldsAllowed.step (held : HoldsAllowed settings bot)
    (permitted : ListsAllowed settings bot event)
    (taken : bot.step settings event = some after) : HoldsAllowed settings after := by
  unfold HoldsAllowed at held ⊢
  unfold ListsAllowed at permitted
  intro live route member
  rcases Bot.step_carried taken with ⟨⟨answers, scanned⟩, carried⟩ | idle | ⟨-, same⟩
  · generalize bot.scan = place, after.scan = next at carried live member held permitted
    cases carried with
    | kept unread modes routes cursors => exact held (modes .live live) route (routes route member)
    | read => cases member
    | listed control =>
        exact permitted answers control scanned rfl (Option.some.inj live) route member
  · rw [idle] at member
    cases member
  · rw [same] at live member
    exact held live route member

end Allowlists

/-- Under allowed lists, the route of every live attempt is allowed, and so are its routers. -/
theorem live_attempts_allowlisted (settings : Settings) (start : Bot) (idle : start.scan = .idle)
    (trace : List (Bot × Event)) (bot : Bot)
    (run : Reaches (Bot.step settings) (ListsAllowed settings) start trace bot) (event : Event)
    (after : Bot) (taken : bot.step settings event = some after) (row : TradeAttempt)
    (inserted : row ∈ insertedAttempts bot.db after.db) (live : row.mode = .live) :
    ∃ cursor, bot.scan.cursor? = some cursor ∧ cursor.route.id = row.routeId ∧
      cursor.route.liveAllowed settings = true := by
  have base : HoldsAllowed settings start := by
    intro held
    rw [idle] at held
    cases held
  have allowed := run.invariant base fun _ _ _ held permitted taken => held.step permitted taken
  obtain ⟨answers, cursor, quote, -, place, routeId, -, mode⟩ := Bot.step_inserted taken inserted
  rw [live, ScanCursor.strategyMode] at mode
  unfold HoldsAllowed at allowed
  rw [place] at allowed ⊢
  refine ⟨cursor, rfl, routeId.symm, ?_⟩
  split at mode
  · rename_i served
    exact allowed (congrArg some mode.symm) cursor.route List.mem_cons_self served
  · cases mode

/-! ### A live attempt past the allowlist -/

def strayRoute : Route :=
  { Sample.route with isLiveAllowed := false, routerB := "0x00000000000000000000000000000000000000ff" }

def servingLive (route : Route) : Bot :=
  { Sample.serving with db := { Sample.db with control := { mode := .live }, routes := [route] } }

def insertsUnlisted (settings : Settings) (bot : Bot) (event : Event) : Bool :=
  (bot.step settings event).any fun after =>
    (insertedAttempts bot.db after.db).any fun row => row.mode = .live &&
      bot.scan.cursor?.all fun cursor => !cursor.route.liveAllowed settings

theorem unlisted_route_attempts :
    ∃ trace bot, Reaches (Bot.step liveSettings) anyStep (servingLive strayRoute) trace bot ∧
      insertsUnlisted liveSettings bot (17, .scan {}) = true :=
  have found : (follow (Bot.step liveSettings) (servingLive strayRoute)
      (toAttempting (Sample.tradingAnswers liveSettings) 10)).any
      (fun done => insertsUnlisted liveSettings done.2 (17, .scan {})) = true := by decide +kernel
  exists_run found fun _ _ _ _ => trivial

theorem listsAllowed_of_all {settings : Settings} {bot : Bot} {event : Event}
    (allowed : bot.db.getRoutes.all (fun route => route.liveAllowed settings) = true) :
    ListsAllowed settings bot event :=
  fun _ _ _ _ _ route member _ => List.all_eq_true.mp allowed route member

theorem live_attempts_allowlisted_seeded :
    ∃ trace bot, Reaches (Bot.step liveSettings) (ListsAllowed liveSettings)
        (servingLive Sample.route) trace bot ∧
      ∃ cursor, bot.scan.cursor? = some cursor ∧ cursor.route.liveAllowed liveSettings = true := by
  have found : (follow (Bot.step liveSettings) (servingLive Sample.route)
      (toAttempting (Sample.tradingAnswers liveSettings) 10)).any
      (fun done => (done.1.all fun entry =>
          entry.1.db.getRoutes.all fun route => route.liveAllowed liveSettings) &&
        (done.2.step liveSettings (17, .scan {})).any fun after =>
          (insertedAttempts done.2.db after.db).any fun row => row.mode = .live) = true := by
    decide +kernel
  obtain ⟨trace, bot, run, checked⟩ : ∃ trace bot, Reaches (Bot.step liveSettings)
      (ListsAllowed liveSettings) (servingLive Sample.route) trace bot ∧ _ :=
    exists_run found fun done passed entry member => by
      obtain ⟨allowed, -⟩ := Bool.and_eq_true_iff.mp passed
      exact listsAllowed_of_all (List.all_eq_true.mp allowed entry member)
  obtain ⟨-, inserts⟩ := Bool.and_eq_true_iff.mp checked
  obtain ⟨after, taken, rows⟩ := (Option.any_eq_true _ _).mp inserts
  obtain ⟨row, inserted, live⟩ := List.any_eq_true.mp rows
  obtain ⟨cursor, here, -, allowed⟩ := live_attempts_allowlisted liveSettings
    (servingLive Sample.route) rfl trace bot run _ after taken row inserted (of_decide_eq_true live)
  exact ⟨trace, bot, run, cursor, here, allowed⟩

end ArbitrageBot
