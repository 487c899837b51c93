/-
The rows of `route_runtime_states` against the manager. The loop and the handlers
each snapshot a route and write the snapshot some awaits later. The row ends with the
manager's state if nobody changes a route while a snapshot of it is in flight, and
nobody who owes an upsert gives up.
-/

import ArbitrageBot.Library.Transition
import ArbitrageBot.System.ScanLoop

namespace ArbitrageBot

open Transition

def Instr.persists (route : String) : Instr → Bool
  | .commitRouteState routeId _ | .snapshot none routeId => routeId = route
  | .snapshotAll => true
  | _ => false

def Instr.isOperation : Instr → Bool
  | .operate _ => true
  | _ => false

/-- What is left to do owes the route an upsert: one is to come, and the operation that makes it
due, if there is one, is done. -/
def owesRow (route : String) (todo : List Instr) : Bool :=
  todo.any (Instr.persists route) && todo.all fun instr => !instr.isOperation

namespace Bot

def persistDue (bot : Bot) (route : String) : Bool :=
  bot.scan.upsert.any (fun upsert => upsert.1 = route) ||
    bot.handlers.any fun handler => owesRow route handler.todo

end Bot

def touchedBy (settings : Settings) (route : String) (trace : List (Bot × Event)) : Bool :=
  trace.any fun entry => (entry.1.operations settings entry.2).any fun op => op.touches route

/-- The steps under which no update of the route's row is lost. -/
structure Serialised (settings : Settings) (route : String) (bot : Bot) (event : Event) : Prop where
  changes : ∀ op ∈ bot.operations settings event, op.touches route = true →
    ∀ state, (route, state) ∉ bot.upserts
  loopPersists : event.2 = .scanRaise → ∀ state, bot.scan.upsert ≠ some (route, state)
  handlerPersists : ∀ index handler, event.2 = .abort index →
    bot.handlers[index]? = some handler → owesRow route handler.todo = false

/-! ### The programs persist what they change -/

def Instr.followUp : Instr → List Instr
  | .snapshot _ routeId => [.snapshot none routeId]
  | _ => []

/-- Every operation on the route is followed by its upsert. -/
def Covered (route : String) : List Instr → Prop
  | [] => True
  | instr :: rest =>
      (∀ op ∈ instr.operations, op.touches route = true →
        owesRow route (instr.followUp ++ rest) = true) ∧ Covered route rest

section Programs

variable {settings : Settings} {route : String}

theorem covered_quiet {instr : Instr} {rest : List Instr} (covered : Covered route rest)
    (quiet : ∀ op ∈ instr.operations, op.touches route = false) :
    Covered route (instr :: rest) := by
  refine ⟨fun op member touched => ?_, covered⟩
  rw [quiet op member] at touched
  cases touched

theorem covered_append {added rest : List Instr} (covered : Covered route rest)
    (quiet : ∀ instr ∈ added, ∀ op ∈ instr.operations, op.touches route = false) :
    Covered route (added ++ rest) := by
  induction added with
  | nil => exact covered
  | cons instr later ih =>
      exact covered_quiet (ih fun other member => quiet other (.tail instr member))
        (quiet instr List.mem_cons_self)

theorem covered_of_quiet {todo : List Instr}
    (quiet : ∀ instr ∈ todo, ∀ op ∈ instr.operations, op.touches route = false) :
    Covered route todo := by
  have covered := @covered_append route todo [] trivial quiet
  rwa [List.append_nil] at covered

theorem covered_program (request : Request) : Covered route (request.program settings) := by
  cases request with
  | disableRoute routeId | enableRoute routeId =>
      refine covered_quiet ⟨fun op member touched => ?_, ?_⟩ (by simp [Instr.operations])
      · have same : op = _ := List.mem_singleton.mp member
        subst same
        have here : routeId = route := of_decide_eq_true touched
        simp [owesRow, Instr.followUp, Instr.persists, Instr.isOperation, here]
      · exact covered_of_quiet (by simp [Instr.operations])
  | clearCooldown routeId =>
      refine ⟨fun op member touched => ?_, ?_⟩
      · have same : op = .clearCooldown routeId := List.mem_singleton.mp member
        subst same
        by_cases all : routeId.getD "" = ""
        · simp [owesRow, Instr.followUp, Instr.persists, Instr.isOperation, all]
        · cases routeId with
          | none => exact absurd rfl all
          | some target =>
              have here : target = route := by
                simpa [RiskOp.touches, show target ≠ "" from all] using touched
              simp [owesRow, Instr.followUp, Instr.persists, Instr.isOperation, ← here,
                show target ≠ "" from all]
      · apply covered_of_quiet
        intro instr member op inOps
        simp only [List.mem_cons, List.not_mem_nil, or_false] at member
        rcases member with rfl | rfl
        · split at inOps <;> cases inOps
        · cases inOps
  | switchMode target token =>
      apply covered_of_quiet
      cases target with
      | live =>
          simp only [Request.program]
          split <;> simp [Instr.operations]
      | _ => simp [Request.program, Instr.operations]
  | _ =>
      apply covered_of_quiet
      simp [Request.program, Instr.operations, RiskOp.touches]

end Programs

/-! ### One step -/

section Step

variable {settings : Settings} {route : String} {bot after : Bot} {event : Event}

theorem owesRow_added {now : Instant} {instr : Instr} {rest : List Instr}
    (owed : owesRow route (instr.followUp ++ rest) = true) :
    owesRow route ((bot.runInstr settings now instr).2 ++ rest) = true := by
  cases instr with
  | snapshotAll =>
      simp only [owesRow, Instr.followUp, List.nil_append, Bool.and_eq_true] at owed
      simp only [owesRow, Bot.runInstr, List.any_append, List.all_append, Bool.and_eq_true,
        Bool.or_eq_true]
      refine ⟨.inr owed.1, ?_, owed.2⟩
      rw [List.all_map]
      exact List.all_eq_true.mpr fun _ _ => rfl
  | _ => exact owed

theorem persistDue_of_handler {handler : Handler} (member : handler ∈ bot.handlers)
    (owed : owesRow route handler.todo = true) : bot.persistDue route = true := by
  rw [Bot.persistDue, Bool.or_eq_true]
  exact .inr (List.any_eq_true.mpr ⟨handler, member, owed⟩)

theorem step_touches (serving : bot.boot = .serving)
    (covered : ∀ handler ∈ bot.handlers, Covered route handler.todo)
    (taken : bot.step settings event = some after) {op : RiskOp}
    (member : op ∈ bot.operations settings event) (touched : op.touches route = true) :
    after.persistDue route = true := by
  obtain ⟨now, action⟩ := event
  cases action with
  | scan answers =>
      have upsert := Bot.step_upsert_of_touches taken rfl member touched
      simp only [Bot.persistDue, upsert, Option.any_some, decide_true, Bool.true_or]
  | boot =>
      simp only [Bot.operations, serving] at member
      cases member
  | handler index =>
      rcases Bot.step_handlers taken with ⟨other, -⟩ | ⟨_, impossible, -⟩ |
        ⟨position, request, instr, rest, handled, found, moved⟩ | ⟨_, impossible, -⟩
      · exact absurd rfl (other index)
      · cases impossible
      · cases handled
        have next := Bot.instr?_of_found found
        simp only [Bot.operations, next, Option.map_some, Option.getD_some] at member
        have owed := (covered _ (List.mem_of_getElem? found)).1 op member touched
        obtain ⟨within, -⟩ := List.getElem?_eq_some_iff.mp found
        have present := List.mem_set within ⟨request, (bot.runInstr settings now instr).2 ++ rest⟩
        exact persistDue_of_handler (moved ▸ present) (owesRow_added owed)
      · cases impossible
  | _ => cases member

theorem owesRow_moved {now : Instant} {instr : Instr} {rest : List Instr}
    (known : route ∈ bot.db.routes.map Route.id)
    (owed : owesRow route (instr :: rest) = true) :
    (∃ state, instr = .commitRouteState route state) ∨
      owesRow route ((bot.runInstr settings now instr).2 ++ rest) = true := by
  simp only [owesRow, List.any_cons, List.all_cons, Bool.and_eq_true, Bool.or_eq_true] at owed
  obtain ⟨persists, plain, restPlain⟩ := owed
  have later : instr.persists route = false →
      owesRow route ((bot.runInstr settings now instr).2 ++ rest) = true := by
    intro other
    rw [other] at persists
    apply owesRow_added
    have followed : instr.followUp.all (fun later => !later.isOperation) = true := by
      cases instr <;> rfl
    simp only [owesRow, List.any_append, List.all_append, Bool.and_eq_true, Bool.or_eq_true]
    exact ⟨.inr (persists.resolve_left nofun), followed, restPlain⟩
  cases instr with
  | commitRouteState routeId state =>
      by_cases same : routeId = route
      · exact .inl ⟨state, by rw [same]⟩
      · exact .inr (later (by simp [Instr.persists, same]))
  | snapshot op routeId =>
      cases op with
      | none =>
          by_cases same : routeId = route
          · right
            simp only [owesRow, Bot.runInstr, List.cons_append, List.nil_append, List.any_cons,
              List.all_cons, Bool.and_eq_true, Bool.or_eq_true]
            exact ⟨.inl (decide_eq_true same), rfl, restPlain⟩
          · exact .inr (later (by simp [Instr.persists, same]))
      | some op => exact .inr (later rfl)
  | snapshotAll =>
      right
      obtain ⟨listed, member, same⟩ := List.mem_map.mp known
      simp only [owesRow, Bot.runInstr, List.any_append, List.all_append, Bool.and_eq_true,
        Bool.or_eq_true]
      refine ⟨.inl ?_, ?_, restPlain⟩
      · rw [List.any_map, List.any_eq_true]
        exact ⟨listed, Database.mem_listRoutes.mpr member, decide_eq_true same⟩
      · rw [List.all_map]
        exact List.all_eq_true.mpr fun _ _ => rfl
  | _ => exact .inr (later rfl)

theorem step_scanDue (permitted : Serialised settings route bot event)
    (taken : bot.step settings event = some after) {state : RouteState}
    (upsert : bot.scan.upsert = some (route, state)) :
    after.scan.upsert = some (route, state) ∨ bot.commits event = some (route, state) := by
  rcases Bot.step_scan taken with ⟨answers, scanned, -⟩ | ⟨raised, -⟩ | ⟨-, same⟩
  · right
    rw [Bot.commits, scanned]
    exact upsert
  · exact absurd upsert (permitted.loopPersists raised state)
  · left
    rw [same]
    exact upsert

theorem step_handlerDue (known : route ∈ bot.db.routes.map Route.id)
    (permitted : Serialised settings route bot event)
    (taken : bot.step settings event = some after) {handler : Handler}
    (member : handler ∈ bot.handlers) (owed : owesRow route handler.todo = true) :
    after.persistDue route = true ∨ ∃ state, bot.commits event = some (route, state) := by
  obtain ⟨index, found⟩ := List.mem_iff_getElem?.mp member
  rcases Bot.step_handler_fate taken found with still | ⟨instr, rest, handled, next, moved⟩ | aborted
  · exact .inl (persistDue_of_handler (List.mem_of_getElem? still) owed)
  · rw [next] at owed
    rcases @owesRow_moved settings route bot event.1 instr rest known owed with ⟨state, rfl⟩ | owes
    · right
      refine ⟨state, ?_⟩
      rw [Bot.commits, handled]
      simp only [Bot.instr?, found, next, Option.bind_some, List.head?_cons, Instr.upsert]
    · exact .inl (persistDue_of_handler moved owes)
  · rw [permitted.handlerPersists index handler aborted found] at owed
    cases owed

theorem step_persistDue (known : route ∈ bot.db.routes.map Route.id)
    (permitted : Serialised settings route bot event)
    (taken : bot.step settings event = some after) (due : bot.persistDue route = true) :
    after.persistDue route = true ∨ ∃ state, bot.commits event = some (route, state) := by
  rw [Bot.persistDue, Bool.or_eq_true] at due
  rcases due with inScan | inHandlers
  · obtain ⟨⟨routeId, state⟩, upsert, same⟩ := (Option.any_eq_true _ _).mp inScan
    have here : routeId = route := of_decide_eq_true same
    subst here
    rcases step_scanDue permitted taken upsert with still | committed
    · left
      simp only [Bot.persistDue, still, Option.any_some, decide_true, Bool.true_or]
    · exact .inr ⟨state, committed⟩
  · obtain ⟨handler, member, owed⟩ := List.any_eq_true.mp inHandlers
    exact step_handlerDue known permitted taken member owed

/-! ### The invariant -/

/-- Every snapshot in flight is current, and a route that was touched is written or due. -/
structure RowCurrent (route : String) (touched : Bool) (bot : Bot) : Prop where
  serving : bot.boot = .serving
  known : route ∈ bot.db.routes.map Route.id
  covered : ∀ handler ∈ bot.handlers, Covered route handler.todo
  current : ∀ state, (route, state) ∈ bot.upserts → state = bot.manager.getRouteState route
  settled : touched = true → bot.persistDue route = true ∨
    bot.db.getRouteRuntimeState route = some (bot.manager.getRouteState route)

def touchedAfter (settings : Settings) (route : String) (touched : Bool) (entry : Bot × Event) :
    Bool :=
  touched || (entry.1.operations settings entry.2).any fun op => op.touches route

theorem step_covered (covered : ∀ handler ∈ bot.handlers, Covered route handler.todo)
    (taken : bot.step settings event = some after) :
    ∀ handler ∈ after.handlers, Covered route handler.todo := by
  intro handler member
  rcases Bot.step_handler_origin taken member with old | ⟨request, -, rfl⟩ |
    ⟨index, instr, rest, -, found, moved⟩ | empty
  · exact covered handler old
  · exact covered_program request
  · rw [moved]
    apply covered_append (covered _ (List.mem_of_getElem? found)).2
    intro added inAdded op inOps
    rcases Bot.runInstr_added inAdded with ⟨routeId, state, rfl⟩ | ⟨routeId, rfl⟩ <;> cases inOps
  · rw [empty]
    trivial

theorem RowCurrent.step_settled {touched : Bool} (rows : RowCurrent route touched bot)
    (permitted : Serialised settings route bot event)
    (taken : bot.step settings event = some after)
    (same : after.manager.getRouteState route = bot.manager.getRouteState route)
    (before : touched = true) :
    after.persistDue route = true ∨
      after.db.getRouteRuntimeState route = some (after.manager.getRouteState route) := by
  rcases Bot.step_row taken route with ⟨state, upsert, written⟩ | ⟨notCommitted, kept⟩
  · right
    rw [written, same, rows.current state (Bot.commits_mem_upserts upsert)]
  · rcases rows.settled before with due | written
    · rcases step_persistDue rows.known permitted taken due with still | ⟨state, upsert⟩
      · exact .inl still
      · exact absurd upsert (notCommitted state)
    · right
      rw [kept, same]
      exact written

theorem RowCurrent.step {touched : Bool} (rows : RowCurrent route touched bot)
    (permitted : Serialised settings route bot event)
    (taken : bot.step settings event = some after) :
    RowCurrent route (touchedAfter settings route touched (bot, event)) after := by
  have serving : after.boot = .serving := by
    rcases Bot.step_boot taken with same | ⟨starting, -, -⟩ | ⟨listed, place, -, -⟩
    · exact same.trans rows.serving
    · rw [rows.serving] at starting
      cases starting
    · rw [rows.serving] at place
      cases place
  have known : route ∈ after.db.routes.map Route.id := by
    rw [(Bot.step_db taken).ids]
    exact rows.known
  have covered := step_covered rows.covered taken
  by_cases touches : ∃ op ∈ bot.operations settings event, op.touches route = true
  · obtain ⟨op, member, touching⟩ := touches
    refine ⟨serving, known, covered, fun state inFlight => ?_, fun _ => .inl ?_⟩
    · rcases Bot.step_upserts taken inFlight with already | snapshot
      · exact absurd already (permitted.changes op member touching state)
      · exact snapshot
    · exact step_touches rows.serving rows.covered taken member touching
  · have untouched : ∀ op ∈ bot.operations settings event, op.touches route = false :=
      fun op member => Bool.eq_false_iff.mpr fun touching => touches ⟨op, member, touching⟩
    have same : after.manager.getRouteState route = bot.manager.getRouteState route := by
      rw [Bot.step_getRouteState taken, GlobalRiskManager.getRouteState_applyAll untouched]
    refine ⟨serving, known, covered, fun state inFlight => ?_, fun now => ?_⟩
    · rcases Bot.step_upserts taken inFlight with already | snapshot
      · rw [same]
        exact rows.current state already
      · exact snapshot
    · refine rows.step_settled permitted taken same ?_
      have none : (bot.operations settings event).any (fun op => op.touches route) = false := by
        rw [List.any_eq_false]
        exact fun op member => Bool.eq_false_iff.mp (untouched op member)
      rwa [touchedAfter, none, Bool.or_false] at now

end Step

/-- When no upsert of a touched route is due any more, its row is what the manager says. -/
theorem row_matches_manager (settings : Settings) (route : String) (start : Bot)
    (serving : start.boot = .serving) (idle : start.scan = .idle)
    (noHandlers : start.handlers = []) (known : route ∈ start.db.routes.map Route.id)
    (trace : List (Bot × Event)) (bot : Bot)
    (run : Reaches (Bot.step settings) (Serialised settings route) start trace bot)
    (touched : touchedBy settings route trace = true) (settled : bot.persistDue route = false) :
    bot.db.getRouteRuntimeState route = some (bot.manager.getRouteState route) := by
  have base : RowCurrent route false start := by
    refine ⟨serving, known, ?_, ?_, nofun⟩
    · intro handler member
      rw [noHandlers] at member
      cases member
    · intro state inFlight
      simp only [Bot.upserts, idle, noHandlers, List.flatMap_nil, List.append_nil] at inFlight
      cases inFlight
  have history : ∀ (past : List (Bot × Event)),
      past.foldl (touchedAfter settings route) false = touchedBy settings route past := by
    intro past
    have general : ∀ flag, past.foldl (touchedAfter settings route) flag =
        (flag || touchedBy settings route past) := by
      induction past with
      | nil => simp [touchedBy]
      | cons entry rest ih =>
          intro flag
          rw [List.foldl_cons, ih]
          simp [touchedAfter, touchedBy, Bool.or_assoc]
    rw [general, Bool.false_or]
  have rows : RowCurrent route (touchedBy settings route trace) bot := by
    rw [← history]
    exact run.invariant_history base fun _ _ _ _ before permitted taken =>
      before.step permitted taken
  rcases rows.settled touched with due | written
  · rw [settled] at due
    cases due
  · exact written

def serialTest (settings : Settings) (route : String) (entry : Bot × Event) : Bool :=
  match entry.2.2 with
  | .scanRaise | .abort _ => false
  | _ =>
      (entry.1.operations settings entry.2).all (fun op => !op.touches route) ||
        entry.1.upserts.all fun upsert => upsert.1 ≠ route

theorem serialised_of_test {settings : Settings} {route : String} {bot : Bot} {event : Event}
    (passes : serialTest settings route (bot, event) = true) :
    Serialised settings route bot event := by
  have completes : (∀ index, event.2 ≠ .abort index) ∧ event.2 ≠ .scanRaise := by
    constructor
    · intro index aborted
      simp [serialTest, aborted] at passes
    · intro raised
      simp [serialTest, raised] at passes
  refine ⟨fun op member touched state inFlight => ?_, fun raised => absurd raised completes.2,
    fun index _ aborted => absurd aborted (completes.1 index)⟩
  unfold serialTest at passes
  split at passes
  · cases passes
  · cases passes
  · rcases Bool.or_eq_true_iff.mp passes with untouched | free
    · have kept := List.all_eq_true.mp untouched op member
      rw [touched] at kept
      cases kept
    · have other := List.all_eq_true.mp free (route, state) inFlight
      simp at other

def tradeAndSnapshot : List Event :=
  Sample.toEvaluation ++
    [(5, .scan Sample.answers), (6, .scan {}), (7, .scan {}), (8, .scan {}), (9, .scan {})]

def disableRoute : List Event :=
  [(10, .request (.disableRoute "r")), (11, .handler 0), (12, .handler 0), (13, .handler 0),
    (14, .handler 0)]

theorem row_matches_manager_disabled :
    ∃ trace bot, Reaches (Bot.step shipped) (Serialised shipped "r") Sample.serving trace bot ∧
      bot.db.getRouteRuntimeState "r" = some (bot.manager.getRouteState "r") ∧
      "r" ∈ bot.manager.routePaused := by
  have found : (follow (Bot.step shipped) Sample.serving
      (tradeAndSnapshot ++ [(9, .scan {})] ++ disableRoute)).any (fun done =>
        done.1.all (serialTest shipped "r") && touchedBy shipped "r" done.1 &&
          !done.2.persistDue "r" && "r" ∈ done.2.manager.routePaused) = true := by
    decide +kernel
  obtain ⟨trace, bot, run, checked⟩ := exists_run found fun done checked entry member => by
    simp only [Bool.and_eq_true] at checked
    exact serialised_of_test (List.all_eq_true.mp checked.1.1.1 entry member)
  simp only [Bool.and_eq_true, Bool.not_eq_true', decide_eq_true_eq] at checked
  exact ⟨trace, bot, run, row_matches_manager shipped "r" Sample.serving rfl rfl rfl
    List.mem_cons_self trace bot run checked.1.1.2 checked.1.2, checked.2⟩

/-- The route is disabled, to the end, while the trade's snapshot is in flight: with nothing left
to do, the row says that the route is not paused. -/
theorem stale_snapshot_overwrites_pause :
    ∃ trace bot, Reaches (Bot.step shipped) anyStep Sample.serving trace bot ∧
      (touchedBy shipped "r" trace && !bot.persistDue "r" &&
        bot.handlers.all (fun handler => handler.todo.isEmpty) &&
        "r" ∈ bot.manager.routePaused &&
        (bot.db.getRouteRuntimeState "r").any fun row => !row.paused) = true :=
  have found : (follow (Bot.step shipped) Sample.serving
      (tradeAndSnapshot ++ disableRoute ++ [(15, .scan {})])).any (fun done =>
        touchedBy shipped "r" done.1 && !done.2.persistDue "r" &&
          done.2.handlers.all (fun handler => handler.todo.isEmpty) &&
          "r" ∈ done.2.manager.routePaused &&
          (done.2.db.getRouteRuntimeState "r").any fun row => !row.paused) = true := by
    decide +kernel
  exists_run found fun _ _ _ _ => trivial

end ArbitrageBot
