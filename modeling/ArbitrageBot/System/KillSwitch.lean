/-
The kill switch lives twice, in `runtime_controls.global_pause` and in the
manager. A pause or stop-all that has returned holds as long as no copy of the row
that was read before it is applied afterwards, and no resume runs beside it.
-/

import ArbitrageBot.Library.Transition
import ArbitrageBot.System.ScanLoop

namespace ArbitrageBot

open Transition

def Request.halts : Request → Bool
  | .pause | .stopAll => true
  | _ => false

/-- The history: a pause or stop-all has returned, and no resume has started since. -/
def haltedAfter (halted : Bool) (entry : Bot × Event) : Bool :=
  match entry.2.2 with
  | .request .resume => false
  | .handler index =>
      match entry.1.handlers[index]? with
      | some { request, todo := [.reply] } => request.halts || halted
      | _ => halted
  | _ => halted

def haltedBy (trace : List (Bot × Event)) : Bool :=
  trace.foldl haltedAfter false

/-- The steps under which the switch holds: the loop does not clear the flag from a row that has
since been set, and a resume does not overlap with a pause or stop-all. -/
structure KeepsHalt (bot : Bot) (event : Event) : Prop where
  freshRow : ∀ answers control, event.2 = .scan answers → bot.scan = .controlRead control →
    control.globalPause = false → bot.manager.globalKillSwitch = true →
    bot.db.control.globalPause = false
  resumeAlone : event.2 = .request .resume →
    ∀ handler ∈ bot.handlers, handler.request.halts = true → handler.todo = []
  haltAlone : ∀ request, event.2 = .request request → request.halts = true →
    ∀ handler ∈ bot.handlers, handler.request = .resume → handler.todo = []

def Bot.noResume (bot : Bot) : Prop :=
  ∀ handler ∈ bot.handlers, handler.request = .resume → handler.todo = []

/-- How far a pause or stop-all handler has come, and what it has achieved by then. -/
structure HaltProgress (settings : Settings) (bot : Bot) (handler : Handler) : Prop where
  suffix : handler.todo <:+ handler.request.program settings
  row : handler.todo ≠ handler.request.program settings → bot.db.control.globalPause = true
  flag : handler.todo = [.reply] → bot.manager.globalKillSwitch = true
  alone : bot.noResume

structure HaltSound (settings : Settings) (halted : Bool) (bot : Bot) : Prop where
  lifting : ∀ handler ∈ bot.handlers, ∀ instr ∈ handler.todo, instr.lifts = true →
    handler.request = .resume
  progress : ∀ handler ∈ bot.handlers, handler.request.halts = true → handler.todo ≠ [] →
    HaltProgress settings bot handler
  held : halted = true →
    bot.db.control.globalPause = true ∧ bot.manager.globalKillSwitch = true ∧ bot.noResume

/-! ### The flag and the row under one step -/

theorem RiskOp.apply_globalKillSwitch {settings : Settings} {now : Instant}
    {manager : GlobalRiskManager} (op : RiskOp) :
    (op.apply settings now manager).globalKillSwitch =
      match op with
      | .setGlobalKill paused => paused
      | _ => manager.globalKillSwitch := by
  cases op with
  | clearCooldown routeId =>
      simp only [apply, GlobalRiskManager.clearCooldown]
      split <;> rfl
  | markSuccess routeId realizedPnl =>
      simp only [apply, GlobalRiskManager.markSuccess, GlobalRiskManager.resetDailyIfNeeded]
      split <;> rfl
  | _ => rfl

theorem applyAll_globalKillSwitch {settings : Settings} {now : Instant}
    {manager : GlobalRiskManager} {ops : List RiskOp}
    (kept : RiskOp.setGlobalKill false ∉ ops) (killed : manager.globalKillSwitch = true) :
    (manager.applyAll settings now ops).globalKillSwitch = true := by
  induction ops generalizing manager with
  | nil => exact killed
  | cons op rest ih =>
      rw [List.mem_cons, not_or] at kept
      refine ih kept.2 ?_
      rw [RiskOp.apply_globalKillSwitch]
      cases op with
      | setGlobalKill paused =>
          cases paused with
          | false => exact absurd rfl kept.1
          | true => rfl
      | _ => exact killed

theorem Instr.lifts_of_clears {instr : Instr}
    (clears : RiskOp.setGlobalKill false ∈ instr.operations) : instr.lifts = true := by
  cases instr with
  | operate op =>
      rw [← List.mem_singleton.mp clears]
      rfl
  | killAndDisarm => simp [operations] at clears
  | snapshot op routeId =>
      have same : op = some (.setGlobalKill false) := Option.mem_toList.mp clears
      rw [same]
      rfl
  | _ => cases clears

namespace Bot

variable {settings : Settings} {bot after : Bot} {event : Event}

theorem scanOperations_clears {answers : ScanAnswers}
    (cleared : RiskOp.setGlobalKill false ∈ bot.scanOperations settings answers) :
    ∃ control, bot.scan = .controlRead control ∧ control.globalPause = false := by
  unfold scanOperations at cleared
  split at cleared
  · rename_i control place
    exact ⟨control, place, (RiskOp.setGlobalKill.inj (List.mem_singleton.mp cleared)).symm⟩
  · split at cleared <;> simp at cleared
  · rename_i cursor quote decision place
    unfold blockOperation at cleared
    split at cleared
    · cases cleared
    · split at cleared <;> simp at cleared
  · unfold TradeOutcome.operation at cleared
    split at cleared <;> simp at cleared
  · cases cleared

/-- Without a resume in progress, no handler is about to lift the pause. -/
theorem lifts_of_noResume (alone : bot.noResume)
    (lifting : ∀ handler ∈ bot.handlers, ∀ instr ∈ handler.todo, instr.lifts = true →
      handler.request = .resume)
    {index : Nat} {instr : Instr} (next : bot.instr? index = some instr) :
    instr.lifts = false := by
  obtain ⟨handler, member, inTodo⟩ := instr?_some next
  apply Bool.eq_false_iff.mpr
  intro lifts
  rw [alone handler member (lifting handler member instr inTodo lifts)] at inTodo
  cases inTodo

theorem step_keeps_row (taken : bot.step settings event = some after) (alone : bot.noResume)
    (lifting : ∀ handler ∈ bot.handlers, ∀ instr ∈ handler.todo, instr.lifts = true →
      handler.request = .resume)
    (paused : bot.db.control.globalPause = true) : after.db.control.globalPause = true := by
  rw [(step_db taken).pause]
  cases write : bot.pauseWrite event with
  | none => exact paused
  | some value =>
      obtain ⟨now, action⟩ := event
      cases action with
      | scan answers =>
          cases place : bot.scan with
          | ddPausing =>
              simp only [pauseWrite, ScanPc.pauseWrite, place, Option.ite_none_left_eq_some,
                Option.some.injEq] at write
              exact write.2.symm
          | _ => simp [pauseWrite, ScanPc.pauseWrite, place] at write
      | handler index =>
          obtain ⟨instr, next, written⟩ := Option.bind_eq_some_iff.mp write
          have quiet := lifts_of_noResume alone lifting next
          cases instr with
          | commitGlobalPause stored =>
              cases written
              simpa [Instr.lifts] using quiet
          | _ => cases written
      | _ => cases write

theorem step_keeps_flag (taken : bot.step settings event = some after) (alone : bot.noResume)
    (permitted : KeepsHalt bot event)
    (lifting : ∀ handler ∈ bot.handlers, ∀ instr ∈ handler.todo, instr.lifts = true →
      handler.request = .resume)
    (paused : bot.db.control.globalPause = true)
    (killed : bot.manager.globalKillSwitch = true) : after.manager.globalKillSwitch = true := by
  rw [step_globalKillSwitch taken]
  refine applyAll_globalKillSwitch ?_ killed
  intro cleared
  obtain ⟨now, action⟩ := event
  cases action with
  | scan answers =>
      obtain ⟨control, place, lifted⟩ := scanOperations_clears cleared
      have fresh := permitted.freshRow answers control rfl place lifted killed
      rw [paused] at fresh
      cases fresh
  | boot =>
      simp only [operations] at cleared
      split at cleared <;> simp at cleared
  | handler index =>
      simp only [operations] at cleared
      cases next : bot.instr? index with
      | none => simp [next] at cleared
      | some instr =>
          simp only [next, Option.map_some, Option.getD_some] at cleared
          have quiet := lifts_of_noResume alone lifting next
          rw [Instr.lifts_of_clears cleared] at quiet
          cases quiet
  | _ => cases cleared

theorem step_noResume (taken : bot.step settings event = some after) (alone : bot.noResume)
    (notRequested : event.2 ≠ .request .resume) : after.noResume := by
  intro handler member resumes
  rcases step_handler_origin taken member with old | ⟨request, requested, rfl⟩ |
    ⟨index, instr, rest, -, found, -⟩ | empty
  · exact alone handler old resumes
  · change request = .resume at resumes
    rw [resumes] at requested
    exact absurd requested notRequested
  · have idle := alone _ (List.mem_of_getElem? found) resumes
    cases idle
  · exact empty

end Bot

/-! ### The programs of pause and stop-all -/

section Programs

variable {settings : Settings} {request : Request}

theorem program_of_halts (halts : request.halts = true) :
    ∃ rest, request.program settings = .commitGlobalPause true :: rest ∧ rest ≠ [] := by
  cases request with
  | pause | stopAll => exact ⟨_, rfl, nofun⟩
  | _ => cases halts

theorem program_ne_reply (halts : request.halts = true) :
    [.reply] ≠ request.program settings := by
  obtain ⟨rest, shape, -⟩ := @program_of_halts settings _ halts
  rw [shape]
  simp

theorem program_last_write {instr : Instr} (halts : request.halts = true)
    (suffix : [instr, .reply] <:+ request.program settings) :
    instr.operations = [.setGlobalKill true] := by
  cases request with
  | pause | stopAll =>
      simp only [Request.program, List.suffix_cons_iff, List.cons.injEq, reduceCtorEq,
        List.suffix_nil, and_false, false_or, or_false, and_true] at suffix
      subst suffix
      rfl
  | _ => cases halts

end Programs

/-! ### The invariant -/

section Invariant

variable {settings : Settings} {halted : Bool} {bot after : Bot} {event : Event}

theorem runInstr_added_of_halts {request : Request} {now : Instant} {instr : Instr}
    (halts : request.halts = true) (member : instr ∈ request.program settings) :
    (bot.runInstr settings now instr).2 = [] := by
  cases request with
  | pause | stopAll =>
      simp only [Request.program, List.mem_cons, List.not_mem_nil, or_false] at member
      rcases member with rfl | member
      · rfl
      · rcases member with rfl | member
        · rfl
        · rcases member with rfl | rfl <;> rfl
  | _ => cases halts

theorem HaltSound.step_lifting (sound : HaltSound settings halted bot)
    (taken : bot.step settings event = some after) :
    ∀ handler ∈ after.handlers, ∀ instr ∈ handler.todo, instr.lifts = true →
      handler.request = .resume :=
  Bot.step_instructions (fun _ _ member => (Bot.programmed member).lifts) (fun _ _ => nofun)
    (fun _ _ _ => nofun) sound.lifting taken

theorem HaltSound.step_moved (sound : HaltSound settings halted bot)
    (taken : bot.step settings event = some after)
    {handler : Handler} (halts : handler.request.halts = true) {index : Nat} {instr : Instr}
    {rest : List Instr} (handled : event.2 = .handler index)
    (found : bot.handlers[index]? = some ⟨handler.request, instr :: rest⟩)
    (moved : handler.todo = (bot.runInstr settings event.1 instr).2 ++ rest) :
    HaltProgress settings after handler := by
  have member := List.mem_of_getElem? found
  have progress := sound.progress _ member halts (List.cons_ne_nil _ _)
  rw [runInstr_added_of_halts halts (progress.suffix.subset List.mem_cons_self),
    List.nil_append] at moved
  have notRequest : event.2 ≠ .request .resume := by
    rw [handled]
    nofun
  obtain ⟨tail, program, -⟩ := @program_of_halts settings _ halts
  have head : bot.instr? index = some instr := Bot.instr?_of_found found
  -- the row was set before this step, or this step sets it
  have row : after.db.control.globalPause = true := by
    by_cases first : instr :: rest = handler.request.program settings
    · rw [program, List.cons.injEq] at first
      rw [(Bot.step_db taken).pause]
      simp only [Bot.pauseWrite, handled, head, first.1, Option.bind_some, Instr.pauseWrite,
        Option.getD_some]
    · exact Bot.step_keeps_row taken progress.alone sound.lifting (progress.row first)
  refine ⟨?_, fun _ => row, ?_, Bot.step_noResume taken progress.alone notRequest⟩
  · rw [moved]
    exact (List.suffix_cons instr rest).trans progress.suffix
  · intro last
    rw [moved] at last
    subst last
    have write := program_last_write halts progress.suffix
    rw [Bot.step_globalKillSwitch taken]
    simp only [Bot.operations, handled, head, Option.map_some, Option.getD_some, write]
    rfl

theorem HaltSound.step_progress (sound : HaltSound settings halted bot)
    (permitted : KeepsHalt bot event) (taken : bot.step settings event = some after) :
    ∀ handler ∈ after.handlers, handler.request.halts = true → handler.todo ≠ [] →
      HaltProgress settings after handler := by
  intro handler member halts busy
  rcases Bot.step_handler_origin taken member with old | ⟨request, requested, rfl⟩ |
    ⟨index, instr, rest, handled, found, moved⟩ | empty
  · have progress := sound.progress handler old halts busy
    have notRequest : event.2 ≠ .request .resume := fun requested =>
      busy (permitted.resumeAlone requested handler old halts)
    have keepsRow := Bot.step_keeps_row taken progress.alone sound.lifting
    refine ⟨progress.suffix, fun begun => keepsRow (progress.row begun), fun last => ?_,
      Bot.step_noResume taken progress.alone notRequest⟩
    have begun : handler.todo ≠ handler.request.program settings := by
      rw [last]
      exact program_ne_reply halts
    exact Bot.step_keeps_flag taken progress.alone permitted sound.lifting (progress.row begun)
      (progress.flag last)
  · have alone : bot.noResume := permitted.haltAlone request requested halts
    refine ⟨List.suffix_rfl, fun begun => absurd rfl begun,
      fun last => absurd last.symm (program_ne_reply halts), ?_⟩
    apply Bot.step_noResume taken alone
    intro resumed
    rw [requested, Action.request.injEq] at resumed
    change request.halts = true at halts
    rw [resumed] at halts
    cases halts
  · exact sound.step_moved taken halts handled found moved
  · exact absurd empty busy

theorem haltedAfter_cases (nowHalted : haltedAfter halted (bot, event) = true) :
    event.2 ≠ .request .resume ∧
      (halted = true ∨
        ∃ handler ∈ bot.handlers, handler.request.halts = true ∧ handler.todo = [.reply]) := by
  unfold haltedAfter at nowHalted
  dsimp only at nowHalted
  split at nowHalted
  · cases nowHalted
  · rename_i index handled
    refine ⟨by rw [handled]; nofun, ?_⟩
    split at nowHalted
    · rename_i request found
      rcases Bool.or_eq_true_iff.mp nowHalted with halts | already
      · exact .inr ⟨_, List.mem_of_getElem? found, halts, rfl⟩
      · exact .inl already
    · exact .inl nowHalted
  · rename_i notResume _
    exact ⟨notResume, .inl nowHalted⟩

theorem HaltSound.step (sound : HaltSound settings halted bot) (permitted : KeepsHalt bot event)
    (taken : bot.step settings event = some after) :
    HaltSound settings (haltedAfter halted (bot, event)) after := by
  refine ⟨sound.step_lifting taken, sound.step_progress permitted taken, fun nowHalted => ?_⟩
  obtain ⟨notRequest, cause⟩ := haltedAfter_cases nowHalted
  have before : bot.db.control.globalPause = true ∧ bot.manager.globalKillSwitch = true ∧
      bot.noResume := by
    rcases cause with already | ⟨handler, member, halts, last⟩
    · exact sound.held already
    · have progress := sound.progress handler member halts (by rw [last]; nofun)
      refine ⟨progress.row ?_, progress.flag last, progress.alone⟩
      rw [last]
      exact program_ne_reply halts
  obtain ⟨row, flag, alone⟩ := before
  exact ⟨Bot.step_keeps_row taken alone sound.lifting row,
    Bot.step_keeps_flag taken alone permitted sound.lifting row flag,
    Bot.step_noResume taken alone notRequest⟩

end Invariant

/-- After a pause or stop-all has returned, and before a later resume starts, nothing is
tradable. -/
theorem halted_blocks_evaluate (settings : Settings) (start : Bot) (idle : start.handlers = [])
    (trace : List (Bot × Event)) (bot : Bot)
    (run : Reaches (Bot.step settings) KeepsHalt start trace bot)
    (halted : haltedBy trace = true) (now : Instant) (input : Evaluation) :
    (bot.manager.evaluate settings now input).1.tradable = false := by
  have base : HaltSound settings false start := by
    refine ⟨?_, ?_, nofun⟩
    all_goals
      intro handler member
      rw [idle] at member
      cases member
  have sound : HaltSound settings (haltedBy trace) bot :=
    run.invariant_history base fun _ _ _ _ before permitted taken =>
      before.step permitted taken
  exact GlobalRiskManager.evaluate_blocked_of_globalKill (sound.held halted).2.1

theorem halted_blocks_evaluate_pause :
    ∃ trace bot, Reaches (Bot.step shipped) KeepsHalt Sample.serving trace bot ∧
      haltedBy trace = true ∧
      (bot.manager.evaluate shipped 8 (calmInput "r")).1.tradable = false := by
  have byHandler : ∀ bot now index, KeepsHalt bot (now, .handler index) :=
    fun _ _ _ => ⟨fun _ _ scan => (nomatch scan), fun request => (nomatch request),
      fun _ request => (nomatch request)⟩
  have asked : KeepsHalt Sample.serving (2, .request .pause) :=
    ⟨fun _ _ scan => (nomatch scan), fun request => (nomatch request),
      fun _ _ _ _ member => absurd member List.not_mem_nil⟩
  have requested : Reaches (Bot.step shipped) KeepsHalt Sample.serving _ _ :=
    .snoc .refl asked rfl
  have written : Reaches (Bot.step shipped) KeepsHalt Sample.serving _ _ :=
    .snoc requested (byHandler _ 3 0) rfl
  have switched : Reaches (Bot.step shipped) KeepsHalt Sample.serving _ _ :=
    .snoc written (byHandler _ 4 0) rfl
  have returned : Reaches (Bot.step shipped) KeepsHalt Sample.serving _ _ :=
    .snoc switched (byHandler _ 5 0) rfl
  exact ⟨_, _, returned, by decide +kernel,
    halted_blocks_evaluate shipped Sample.serving rfl _ _ returned (by decide +kernel) 8
      (calmInput "r")⟩

def staleRead : List Event :=
  [(1, .scan {}), (2, .request .pause), (3, .handler 0), (4, .handler 0), (5, .handler 0),
    (6, .scan {}), (7, .scan {}), (8, .scan Sample.answers)]

/-- With the pause returned and the row saying paused, the loop's next evaluation is tradable. -/
theorem stale_row_lifts_pause :
    ∃ trace bot, Reaches (Bot.step shipped) anyStep Sample.serving trace bot ∧
      (haltedBy trace && bot.db.control.globalPause &&
        bot.trades shipped (9, .scan Sample.answers)) = true :=
  have found : (follow (Bot.step shipped) Sample.serving staleRead).any (fun done =>
      haltedBy done.1 && done.2.db.control.globalPause &&
        done.2.trades shipped (9, .scan Sample.answers)) = true := by decide +kernel
  exists_run found fun _ _ _ _ => trivial

end ArbitrageBot
