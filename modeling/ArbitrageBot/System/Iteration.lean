/-
What one iteration of the loop carries from place to place: the control row it has read,
the mode it took from it and the routes it still has to visit. Everything the loop holds
came out of the database in an earlier step of the same iteration.
-/

import ArbitrageBot.System.ScanLoop

namespace ArbitrageBot

open Transition

/-- The mode that the iteration has read from `runtime_controls`. -/
def ScanPc.mode? : ScanPc → Option RunMode
  | .idle => none
  | .controlRead control => some control.mode
  | .routesPending control | .routesRead control _ | .ddPausing control _ _ => some control.mode
  | .quoting cursor | .observing cursor _ _ | .judging cursor _ _ | .attempting cursor _
  | .executing cursor _ _ | .persisting cursor _ _ | .reporting cursor _ | .updating cursor _ _
  | .recording cursor _ _ => some cursor.currentMode

def ScanPc.routes : ScanPc → List Route
  | .idle | .controlRead _ | .routesPending _ => []
  | .routesRead _ routes | .ddPausing _ _ routes => routes
  | .quoting cursor | .observing cursor _ _ | .judging cursor _ _ | .attempting cursor _
  | .executing cursor _ _ | .persisting cursor _ _ | .reporting cursor _ | .updating cursor _ _
  | .recording cursor _ _ => cursor.route :: cursor.rest

def ScanPc.cursor? : ScanPc → Option ScanCursor
  | .quoting cursor | .observing cursor _ _ | .judging cursor _ _ | .attempting cursor _
  | .executing cursor _ _ | .persisting cursor _ _ | .reporting cursor _ | .updating cursor _ _
  | .recording cursor _ _ => some cursor
  | _ => none

/-- The strategies that the loop has an engine for. -/
def Route.served (route : Route) : Prop :=
  route.strategy = "hyperevm_dex_dex" ∨ route.strategy = "base_virtual_shadow"

theorem forRoutes_mode {mode held : RunMode} {balance : Rat} {routes : List Route}
    (carried : (ScanPc.forRoutes mode balance routes).mode? = some held) : held = mode := by
  induction routes with
  | nil => cases carried
  | cons route rest ih =>
      unfold ScanPc.forRoutes at carried
      split at carried
      · exact (Option.some.inj carried).symm
      · exact ih carried

theorem forRoutes_routes {mode : RunMode} {balance : Rat} {routes : List Route} {route : Route}
    (carried : route ∈ (ScanPc.forRoutes mode balance routes).routes) : route ∈ routes := by
  induction routes with
  | nil => cases carried
  | cons first rest ih =>
      unfold ScanPc.forRoutes at carried
      split at carried
      · exact carried
      · exact .tail first (ih carried)

theorem forRoutes_served {mode : RunMode} {balance : Rat} {routes : List Route}
    {cursor : ScanCursor} (here : (ScanPc.forRoutes mode balance routes).cursor? = some cursor) :
    cursor.route.served := by
  induction routes with
  | nil => cases here
  | cons first rest ih =>
      unfold ScanPc.forRoutes at here
      split at here
      · rename_i served
        cases here
        exact served
      · exact ih here

/-- What the iteration had, or what the database answers to the read it makes at this place. -/
inductive Carried (db : Database) : ScanPc → ScanPc → Prop
  | kept {place next : ScanPc} : (∀ control, next ≠ .controlRead control) →
      (∀ mode, next.mode? = some mode → place.mode? = some mode) →
      (∀ route ∈ next.routes, route ∈ place.routes) →
      (∀ cursor, next.cursor? = some cursor → place.cursor? = some cursor ∨ cursor.route.served) →
      Carried db place next
  | read : Carried db .idle (.controlRead db.control)
  | listed (control : RuntimeControl) :
      Carried db (.routesPending control) (.routesRead control db.getRoutes)

namespace Bot

variable {settings : Settings} {now : Instant} {bot after : Bot} {event : Event}

theorem forRoutes_carried {db : Database} {place : ScanPc} {mode : RunMode} {balance : Rat}
    {routes : List Route} (held : place.mode? = some mode)
    (among : ∀ route ∈ routes, route ∈ place.routes) :
    Carried db place (.forRoutes mode balance routes) := by
  refine .kept ?_ ?_ ?_ ?_
  · intro control same
    rcases ScanPc.forRoutes_cases mode balance routes with idle | ⟨cursor, quoting⟩
    · rw [idle] at same
      cases same
    · rw [quoting] at same
      cases same
  · intro carried same
    rw [forRoutes_mode same]
    exact held
  · exact fun route member => among route (forRoutes_routes member)
  · exact fun _ here => .inr (forRoutes_served here)

theorem nextRoute_carried {db : Database} {place : ScanPc} {cursor : ScanCursor}
    (held : place.mode? = some cursor.currentMode)
    (here : place.routes = cursor.route :: cursor.rest) : Carried db place cursor.nextRoute :=
  forRoutes_carried held fun _ member => here ▸ List.mem_cons_of_mem cursor.route member

/-- Places that differ in nothing the iteration has read. -/
theorem carried_same {db : Database} {place next : ScanPc}
    (unread : ∀ control, next ≠ .controlRead control) (mode : next.mode? = place.mode?)
    (routes : next.routes = place.routes) (cursor : next.cursor? = place.cursor?) :
    Carried db place next :=
  .kept unread (fun _ same => mode ▸ same) (fun _ member => routes ▸ member)
    (fun _ here => .inl (cursor ▸ here))

theorem scanStep_carried (answers : ScanAnswers) :
    Carried bot.db bot.scan (bot.scanStep settings now answers).scan := by
  cases place : bot.scan with
  | idle =>
      simp only [scanStep, place]
      exact .read
  | controlRead control =>
      simp only [scanStep, place]
      exact carried_same (fun _ same => by cases same) rfl rfl rfl
  | routesPending control =>
      simp only [scanStep, place]
      exact .listed control
  | routesRead control routes =>
      simp only [scanStep, place]
      split
      · exact carried_same (fun _ same => by cases same) rfl rfl rfl
      · exact forRoutes_carried rfl fun _ => id
  | ddPausing control balance routes =>
      simp only [scanStep, place]
      exact forRoutes_carried rfl fun _ => id
  | judging cursor quote decision =>
      simp only [scanStep, place]
      split
      · split
        · exact nextRoute_carried rfl rfl
        · exact carried_same (fun _ same => by cases same) rfl rfl rfl
      · cases blockOperation cursor decision with
        | none => exact nextRoute_carried rfl rfl
        | some op => exact carried_same (fun _ same => by cases same) rfl rfl rfl
  | persisting cursor state trade =>
      simp only [scanStep, place]
      cases trade with
      | none => exact nextRoute_carried rfl rfl
      | some trade => exact carried_same (fun _ same => by cases same) rfl rfl rfl
  | recording cursor trade triggered =>
      simp only [scanStep, place]
      exact nextRoute_carried rfl rfl
  | quoting | observing | attempting | executing | reporting | updating =>
      simp only [scanStep, place, mark]
      exact carried_same (fun _ same => by cases same) rfl rfl rfl

theorem step_carried (taken : bot.step settings event = some after) :
    ((∃ answers, event.2 = .scan answers) ∧ Carried bot.db bot.scan after.scan) ∨
    after.scan = .idle ∨ (∀ answers, event.2 ≠ .scan answers) ∧ after.scan = bot.scan := by
  rcases step_scan taken with ⟨answers, scanned, moved⟩ | ⟨-, idle⟩ | others
  · refine .inl ⟨⟨answers, scanned⟩, ?_⟩
    rw [moved]
    exact scanStep_carried answers
  · exact .inr (.inl idle)
  · exact .inr (.inr others)

theorem step_mode (taken : bot.step settings event = some after) {mode : RunMode}
    (held : after.scan.mode? = some mode) :
    bot.scan.mode? = some mode ∨
      (∃ answers, event.2 = .scan answers) ∧ bot.scan = .idle ∧ mode = bot.db.control.mode := by
  rcases step_carried taken with ⟨scanned, carried⟩ | idle | ⟨-, same⟩
  · generalize place_ : bot.scan = place, next_ : after.scan = next at carried held
    cases carried with
    | kept unread modes routes cursors => exact .inl (modes mode held)
    | read => exact .inr ⟨scanned, rfl, (Option.some.inj held).symm⟩
    | listed => exact .inl held
  · rw [idle] at held
    cases held
  · rw [same] at held
    exact .inl held

theorem step_controlRead (taken : bot.step settings event = some after) {control : RuntimeControl}
    (read : after.scan = .controlRead control) :
    bot.scan = .controlRead control ∨ bot.scan = .idle ∧ control = bot.db.control := by
  rcases step_carried taken with ⟨-, carried⟩ | idle | ⟨-, same⟩
  · generalize place_ : bot.scan = place, next_ : after.scan = next at carried read
    cases carried with
    | kept unread modes routes cursors => exact absurd read (unread control)
    | read => exact .inr ⟨rfl, (ScanPc.controlRead.inj read).symm⟩
    | listed => cases read
  · rw [idle] at read
    cases read
  · rw [same] at read
    exact .inl read

theorem step_served (taken : bot.step settings event = some after)
    (served : ∀ cursor, bot.scan.cursor? = some cursor → cursor.route.served) :
    ∀ cursor, after.scan.cursor? = some cursor → cursor.route.served := by
  intro cursor here
  rcases step_carried taken with ⟨-, carried⟩ | idle | ⟨-, same⟩
  · generalize place_ : bot.scan = place, next_ : after.scan = next at carried here served
    cases carried with
    | kept unread modes routes cursors =>
        rcases cursors cursor here with already | found
        · exact served cursor already
        · exact found
    | read | listed => cases here
  · rw [idle] at here
    cases here
  · rw [same] at here
    exact served cursor here

end Bot

/-! ### The rows of `trade_attempts` -/

/-- The rows that a step has added; the outcome of an attempt is written over its row. -/
def insertedAttempts (before after : Database) : List TradeAttempt :=
  after.tradeAttempts.drop before.tradeAttempts.length

namespace Bot

variable {settings : Settings} {now : Instant} {bot after : Bot} {event : Event}

theorem insertedAttempts_of_length {before after : Database}
    (same : after.tradeAttempts.length = before.tradeAttempts.length) :
    insertedAttempts before after = [] := by
  rw [insertedAttempts, ← same, List.drop_length]

theorem scanStep_inserted {answers : ScanAnswers} {row : TradeAttempt}
    (inserted : row ∈ insertedAttempts bot.db (bot.scanStep settings now answers).db) :
    ∃ cursor quote, bot.scan = .attempting cursor quote ∧ row.routeId = cursor.route.id ∧
      row.strategy = cursor.route.strategy ∧ row.mode = cursor.strategyMode := by
  have nothing : (bot.scanStep settings now answers).db.tradeAttempts.length =
      bot.db.tradeAttempts.length → False := by
    intro same
    rw [insertedAttempts_of_length same] at inserted
    cases inserted
  cases place : bot.scan with
  | attempting cursor quote =>
      simp only [insertedAttempts, scanStep, place, Database.insertTradeAttempt,
        List.drop_left] at inserted
      rw [List.mem_singleton.mp inserted]
      exact ⟨cursor, quote, rfl, rfl, rfl, rfl⟩
  | routesRead | ddPausing =>
      refine absurd ?_ nothing
      simp only [scanStep, place]
      split <;> rfl
  | judging cursor quote decision =>
      refine absurd ?_ nothing
      simp only [scanStep, place]
      split
      · split <;> rfl
      · cases blockOperation cursor decision <;> rfl
  | updating cursor trade triggered =>
      refine absurd ?_ nothing
      simp only [scanStep, place, Database.updateTradeAttemptOutcome, List.length_modify]
  | _ =>
      refine absurd ?_ nothing
      simp only [scanStep, place] <;> rfl

/-- Only the loop inserts attempts, for the route in its hands. -/
theorem step_inserted (taken : bot.step settings event = some after) {row : TradeAttempt}
    (inserted : row ∈ insertedAttempts bot.db after.db) :
    ∃ answers cursor quote, event.2 = .scan answers ∧ bot.scan = .attempting cursor quote ∧
      row.routeId = cursor.route.id ∧ row.strategy = cursor.route.strategy ∧
      row.mode = cursor.strategyMode := by
  have nothing : after.db.tradeAttempts.length = bot.db.tradeAttempts.length → False := by
    intro same
    rw [insertedAttempts_of_length same] at inserted
    cases inserted
  obtain ⟨now, action⟩ := event
  rcases step_cases taken with ⟨answers, rfl, rfl⟩ | ⟨rfl, rfl⟩ | ⟨rfl, booted⟩ |
    ⟨request, rfl, -, rfl⟩ | ⟨index, rfl, handled⟩ | ⟨index, rfl, rfl⟩
  · obtain ⟨cursor, quote, found⟩ :=
      @scanStep_inserted settings now { bot with clock := now } answers row inserted
    exact ⟨answers, cursor, quote, rfl, found⟩
  · exact absurd rfl nothing
  · refine absurd ?_ nothing
    rcases bootStep_some booted with ⟨-, rfl⟩ | ⟨rows, -, rfl⟩ <;> rfl
  · exact absurd rfl nothing
  · refine absurd ?_ nothing
    obtain ⟨request, instr, rest, found, rfl⟩ := handlerStep_some handled
    cases instr <;> rfl
  · exact absurd rfl nothing

end Bot

end ArbitrageBot
