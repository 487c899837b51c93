/-
Live mode is kept in the database and the arming of the live engine in memory. A process
starts disarmed whatever the stored mode is, and the loop never asks whether the engine is
armed; live attempts are armed as long as nothing separates the two.
-/

import ArbitrageBot.QuoteEngine.Engine
import ArbitrageBot.System.Iteration

namespace ArbitrageBot

open Sample (liveSettings)
open Transition

/-! ### Process lifetimes -/

inductive LifeEvent
  | running (event : Event)
  | restart (now : Instant)

/-- A restart keeps the database and nothing else. -/
def lifeStep (settings : Settings) (bot : Bot) : LifeEvent → Option Bot
  | .running event => bot.step settings event
  | .restart now => some (.launch settings bot.db now)

/-- The confirmation token behind the arming of this lifetime, if it is armed. -/
def armedAfter (armed : Option String) (entry : Bot × LifeEvent) : Option String :=
  match entry.2 with
  | .restart _ => none
  | .running (_, .handler index) =>
      match entry.1.handlers[index]? with
      | some { request := .switchMode .live token, todo := .armLive :: _ } => some token
      | some { request := _, todo := .disarmLive :: _ }
      | some { request := _, todo := .killAndDisarm :: _ } => none
      | _ => armed
  | .running _ => armed

def armedBy (trace : List (Bot × LifeEvent)) : Option String :=
  trace.foldl armedAfter none

/-! ### What a step does to the stored mode and to the arming -/

def Instr.modeWrite : Instr → Option RunMode
  | .commitMode mode => some mode
  | _ => none

def Instr.armWrite : Instr → Option Bool
  | .armLive => some true
  | .disarmLive | .killAndDisarm => some false
  | _ => none

namespace Bot

variable {settings : Settings} {now : Instant} {bot after : Bot} {event : Event}

def modeWrite (bot : Bot) (event : Event) : Option RunMode :=
  match event.2 with
  | .handler index => (bot.instr? index).bind Instr.modeWrite
  | _ => none

def armWrite (bot : Bot) (event : Event) : Option Bool :=
  match event.2 with
  | .handler index => (bot.instr? index).bind Instr.armWrite
  | _ => none

theorem scanStep_mode_armed (answers : ScanAnswers) :
    (bot.scanStep settings now answers).db.control.mode = bot.db.control.mode ∧
      (bot.scanStep settings now answers).runtimeArmed = bot.runtimeArmed := by
  unfold scanStep
  cases bot.scan with
  | routesRead | ddPausing =>
      dsimp only
      split <;> exact ⟨rfl, rfl⟩
  | judging cursor quote decision =>
      dsimp only
      split
      · split <;> exact ⟨rfl, rfl⟩
      · split <;> exact ⟨rfl, rfl⟩
  | _ => exact ⟨rfl, rfl⟩

theorem step_mode_armed (taken : bot.step settings event = some after) :
    after.db.control.mode = (bot.modeWrite event).getD bot.db.control.mode ∧
      after.runtimeArmed = (bot.armWrite event).getD bot.runtimeArmed := by
  obtain ⟨now, action⟩ := event
  rcases step_cases taken with ⟨answers, rfl, rfl⟩ | ⟨rfl, rfl⟩ | ⟨rfl, booted⟩ |
    ⟨request, rfl, -, rfl⟩ | ⟨index, rfl, handled⟩ | ⟨index, rfl, rfl⟩
  · exact @scanStep_mode_armed settings now { bot with clock := now } answers
  · exact ⟨rfl, rfl⟩
  · rcases bootStep_some booted with ⟨-, rfl⟩ | ⟨rows, -, rfl⟩ <;> exact ⟨rfl, rfl⟩
  · exact ⟨rfl, rfl⟩
  · obtain ⟨request, instr, rest, found, rfl⟩ := handlerStep_some handled
    have next : bot.instr? index = some instr := instr?_of_found found
    simp only [modeWrite, armWrite, next, Option.bind_some]
    cases instr <;> exact ⟨rfl, rfl⟩
  · exact ⟨rfl, rfl⟩

end Bot

/-! ### The programs that move the mode -/

def Request.movesMode : Request → Bool
  | .switchMode _ _ | .stopAll => true
  | _ => false

def Handler.entersLive (handler : Handler) : Bool :=
  match handler.todo with
  | .commitMode .live :: _ => true
  | _ => false

def Handler.leavesLive (handler : Handler) : Bool :=
  match handler.request, handler.todo with
  | .switchMode _ _, .commitMode mode :: _ => mode ≠ .live
  | _, _ => false

section Programs

variable {settings : Settings} {request : Request} {instr : Instr} {rest : List Instr}

/-- What stands around an instruction of a program that moves the mode. -/
structure Sequenced (settings : Settings) (request : Request) (instr : Instr)
    (rest : List Instr) : Prop where
  disarms : instr = .disarmLive → ∀ handler : Handler, handler.request = request →
    handler.todo = rest → handler.leavesLive = true
  enters : ∀ tail, rest = .commitMode .live :: tail → instr = .armLive
  arms : instr = .armLive → ∃ token, request = .switchMode .live token ∧
    settings.armsLive token = true

theorem sequenced (moves : request.movesMode = true)
    (suffix : instr :: rest <:+ request.program settings) :
    Sequenced settings request instr rest := by
  cases request with
  | stopAll =>
      simp only [Request.program, List.suffix_cons_iff, List.suffix_nil, List.cons.injEq,
        reduceCtorEq, or_false] at suffix
      rcases suffix with ⟨rfl, rfl⟩ | ⟨rfl, rfl⟩ | ⟨rfl, rfl⟩ | ⟨rfl, rfl⟩
      all_goals constructor <;> simp
  | switchMode target token =>
      cases target with
      | live =>
          simp only [Request.program] at suffix
          split at suffix
          · rename_i accepted
            simp only [Bool.and_eq_true] at accepted
            simp only [List.suffix_cons_iff, List.suffix_nil, List.cons.injEq, reduceCtorEq,
              or_false] at suffix
            rcases suffix with ⟨rfl, rfl⟩ | ⟨rfl, rfl⟩ | ⟨rfl, rfl⟩
            · exact ⟨by simp, fun _ _ => rfl, fun _ => ⟨token, rfl, accepted.2⟩⟩
            · constructor <;> simp
            · constructor <;> simp
          · simp at suffix
      | paper =>
          simp only [Request.program, List.suffix_cons_iff, List.suffix_nil, List.cons.injEq,
            reduceCtorEq, or_false] at suffix
          rcases suffix with ⟨rfl, rfl⟩ | ⟨rfl, rfl⟩ | ⟨rfl, rfl⟩
          · refine ⟨fun _ => ?_, by simp, by simp⟩
            rintro ⟨request, todo⟩ rfl rfl
            rfl
          · constructor <;> simp
          · constructor <;> simp
      | stopped =>
          simp only [Request.program, List.suffix_cons_iff, List.suffix_nil, List.cons.injEq,
            reduceCtorEq, or_false] at suffix
          rcases suffix with ⟨rfl, rfl⟩ | ⟨rfl, rfl⟩ | ⟨rfl, rfl⟩ | ⟨rfl, rfl⟩
          · refine ⟨fun _ => ?_, by simp, by simp⟩
            rintro ⟨request, todo⟩ rfl rfl
            rfl
          all_goals constructor <;> simp
  | _ => cases moves

end Programs

/-! ### Arming and mode along a run -/

/-- The steps under which live attempts are armed. A process never starts on a stored live mode;
the loop reads a stored live mode only when no switch has disarmed the engine and not stored
its own mode yet, and such a switch is not abandoned; and nothing is disarmed under an
iteration in live mode, under a switch to live mode or, by stop-all, on a stored live mode. -/
structure KeepsArmed (bot : Bot) (event : LifeEvent) : Prop where
  restart : ∀ now, event = .restart now → bot.db.control.mode ≠ .live
  read : ∀ now answers, event = .running (now, .scan answers) → bot.scan = .idle →
    bot.db.control.mode = .live → ∀ handler ∈ bot.handlers, handler.leavesLive = false
  abort : ∀ now index handler, event = .running (now, .abort index) →
    bot.handlers[index]? = some handler → handler.leavesLive = true → bot.db.control.mode ≠ .live
  disarm : ∀ now index instr, event = .running (now, .handler index) →
    bot.instr? index = some instr → instr.armWrite = some false →
    bot.scan.mode? ≠ some .live ∧ ∀ handler ∈ bot.handlers, handler.entersLive = false
  stopAll : ∀ now index, event = .running (now, .handler index) →
    bot.instr? index = some .killAndDisarm → bot.db.control.mode ≠ .live

structure ArmedSound (settings : Settings) (bot : Bot) : Prop where
  suffix : ∀ handler ∈ bot.handlers, handler.request.movesMode = true →
    handler.todo <:+ handler.request.program settings
  moving : ∀ handler ∈ bot.handlers, ∀ instr ∈ handler.todo,
    instr.modeWrite ≠ none ∨ instr.armWrite ≠ none → handler.request.movesMode = true
  row : bot.db.control.mode = .live →
    bot.runtimeArmed = true ∨ ∃ handler ∈ bot.handlers, handler.leavesLive = true
  scan : bot.scan.mode? = some .live → bot.runtimeArmed = true
  entering : ∀ handler ∈ bot.handlers, handler.entersLive = true → bot.runtimeArmed = true

section Sound

variable {settings : Settings} {bot after : Bot} {event : Event}

theorem program_moves {request : Request} {instr : Instr}
    (member : instr ∈ request.program settings)
    (moving : instr.modeWrite ≠ none ∨ instr.armWrite ≠ none) : request.movesMode = true := by
  have all : (request.program settings).all (fun instr =>
      instr.modeWrite.isNone && instr.armWrite.isNone || request.movesMode) = true := by
    cases request with
    | switchMode | stopAll => simp [Request.movesMode]
    | clearCooldown routeId =>
        simp only [Request.program]
        split <;> rfl
    | _ => rfl
  have checked := List.all_eq_true.mp all instr member
  simp only [Bool.or_eq_true, Bool.and_eq_true, Option.isNone_iff_eq_none] at checked
  rcases checked with ⟨mode, arm⟩ | moves
  · rcases moving with written | written
    · exact absurd mode written
    · exact absurd arm written
  · exact moves

theorem unexpanded_of_moves {request : Request} (moves : request.movesMode = true) {now : Instant}
    {instr : Instr} (member : instr ∈ request.program settings) :
    (bot.runInstr settings now instr).2 = [] := by
  cases request with
  | stopAll =>
      simp only [Request.program, List.mem_cons, List.not_mem_nil, or_false] at member
      rcases member with rfl | rfl | rfl | rfl <;> rfl
  | switchMode target token =>
      cases target with
      | live =>
          simp only [Request.program] at member
          split at member
          · simp only [List.mem_cons, List.not_mem_nil, or_false] at member
            rcases member with rfl | rfl | rfl <;> rfl
          · cases member
      | paper =>
          simp only [Request.program, List.mem_cons, List.not_mem_nil, or_false] at member
          rcases member with rfl | rfl | rfl <;> rfl
      | stopped =>
          simp only [Request.program, List.mem_cons, List.not_mem_nil, or_false] at member
          rcases member with rfl | rfl | rfl | rfl <;> rfl
  | _ => cases moves

/-- A handler that is about to store another mode is still about to, unless it just did. -/
theorem leaving_after (taken : bot.step settings event = some after) {handler : Handler}
    (member : handler ∈ bot.handlers) (leaves : handler.leavesLive = true)
    (notAborted : ∀ index, bot.handlers[index]? = some handler → event.2 ≠ .abort index) :
    (∃ handler ∈ after.handlers, handler.leavesLive = true) ∨
      ∃ mode, bot.modeWrite event = some mode ∧ mode ≠ .live := by
  obtain ⟨index, found⟩ := List.getElem?_of_mem member
  rcases Bot.step_handler_fate taken found with same | ⟨instr, rest, handled, todo, -⟩ | aborted
  · exact .inl ⟨handler, List.mem_of_getElem? same, leaves⟩
  · right
    obtain ⟨request, _todo⟩ := handler
    subst todo
    have next : bot.instr? index = some instr := Bot.instr?_of_found found
    unfold Handler.leavesLive at leaves
    split at leaves
    · rename_i target token mode tail asked standing
      cases standing
      refine ⟨mode, ?_, of_decide_eq_true leaves⟩
      simp only [Bot.modeWrite, handled, next, Option.bind_some, Instr.modeWrite]
    · cases leaves
  · exact absurd aborted (notAborted index found)

theorem armWrite_some {armed : Bool} (written : bot.armWrite event = some armed) :
    ∃ index instr request rest, event.2 = .handler index ∧
      bot.handlers[index]? = some ⟨request, instr :: rest⟩ ∧ instr.armWrite = some armed := by
  obtain ⟨now, action⟩ := event
  cases action with
  | handler index =>
      obtain ⟨instr, next, arms⟩ := Option.bind_eq_some_iff.mp written
      obtain ⟨⟨request, todo⟩, found, head⟩ := Option.bind_eq_some_iff.mp next
      cases todo with
      | nil => cases head
      | cons first rest =>
          cases head
          exact ⟨index, instr, request, rest, rfl, found, arms⟩
  | _ => cases written

theorem modeWrite_some {mode : RunMode} (written : bot.modeWrite event = some mode) :
    ∃ index request rest, event.2 = .handler index ∧
      bot.handlers[index]? = some ⟨request, .commitMode mode :: rest⟩ := by
  obtain ⟨now, action⟩ := event
  cases action with
  | handler index =>
      obtain ⟨instr, next, commits⟩ := Option.bind_eq_some_iff.mp written
      obtain ⟨⟨request, todo⟩, found, head⟩ := Option.bind_eq_some_iff.mp next
      cases todo with
      | nil => cases head
      | cons first rest =>
          cases head
          cases instr with
          | commitMode stored =>
              cases commits
              exact ⟨index, request, rest, rfl, found⟩
          | _ => cases commits
  | _ => cases written

theorem armed_after (taken : bot.step settings event = some after)
    (armed : bot.runtimeArmed = true) (kept : bot.armWrite event ≠ some false) :
    after.runtimeArmed = true := by
  rw [(Bot.step_mode_armed taken).2]
  cases written : bot.armWrite event with
  | none => exact armed
  | some value =>
      cases value with
      | true => rfl
      | false => exact absurd written kept

/-- A switch that disarms the engine goes on to store its own mode. -/
theorem ArmedSound.leaving_of_disarm (sound : ArmedSound settings bot)
    (permitted : KeepsArmed bot (.running event)) (taken : bot.step settings event = some after)
    (live : bot.db.control.mode = .live) (disarmed : bot.armWrite event = some false) :
    ∃ handler ∈ after.handlers, handler.leavesLive = true := by
  obtain ⟨index, instr, request, rest, handled, found, arms⟩ := armWrite_some disarmed
  have member := List.mem_of_getElem? found
  have running : event = (event.1, .handler index) := Prod.ext rfl handled
  cases instr with
  | disarmLive =>
      have moves := sound.moving _ member _ List.mem_cons_self (.inr (by simp [Instr.armWrite]))
      have order := sequenced moves (sound.suffix _ member moves)
      exact ⟨_, Bot.step_handler_moved taken handled found, order.disarms rfl _ rfl rfl⟩
  | killAndDisarm =>
      have notLive := permitted.stopAll event.1 index (congrArg LifeEvent.running running)
        (Bot.instr?_of_found found)
      exact absurd live notLive
  | _ => cases arms

theorem ArmedSound.step_row (sound : ArmedSound settings bot)
    (permitted : KeepsArmed bot (.running event)) (taken : bot.step settings event = some after)
    (live : after.db.control.mode = .live) :
    after.runtimeArmed = true ∨ ∃ handler ∈ after.handlers, handler.leavesLive = true := by
  have moved := (Bot.step_mode_armed taken).1
  cases written : bot.modeWrite event with
  | some mode =>
      rw [written, Option.getD_some] at moved
      rw [moved] at live
      subst live
      obtain ⟨index, request, rest, handled, found⟩ := modeWrite_some written
      left
      refine armed_after taken (sound.entering _ (List.mem_of_getElem? found) rfl) ?_
      simp [Bot.armWrite, handled, Bot.instr?_of_found found, Instr.armWrite]
  | none =>
      rw [written, Option.getD_none] at moved
      rw [moved] at live
      by_cases disarmed : bot.armWrite event = some false
      · exact .inr (sound.leaving_of_disarm permitted taken live disarmed)
      · rcases sound.row live with armed | ⟨handler, member, leaves⟩
        · exact .inl (armed_after taken armed disarmed)
        · right
          have notAborted : ∀ index, bot.handlers[index]? = some handler →
              event.2 ≠ .abort index := by
            intro index found aborted
            have running : event = (event.1, .abort index) := Prod.ext rfl aborted
            exact permitted.abort event.1 index handler (congrArg LifeEvent.running running) found
              leaves live
          rcases leaving_after taken member leaves notAborted with still | ⟨mode, stored, -⟩
          · exact still
          · rw [written] at stored
            cases stored

theorem ArmedSound.step_kept (permitted : KeepsArmed bot (.running event))
    (disarmed : bot.armWrite event = some false) :
    bot.scan.mode? ≠ some .live ∧ ∀ handler ∈ bot.handlers, handler.entersLive = false := by
  obtain ⟨index, instr, request, rest, handled, found, arms⟩ := armWrite_some disarmed
  have running : event = (event.1, .handler index) := Prod.ext rfl handled
  exact permitted.disarm event.1 index instr (congrArg LifeEvent.running running)
    (Bot.instr?_of_found found) arms

theorem ArmedSound.step_scan (sound : ArmedSound settings bot)
    (permitted : KeepsArmed bot (.running event)) (taken : bot.step settings event = some after)
    (live : after.scan.mode? = some .live) : after.runtimeArmed = true := by
  rcases Bot.step_mode taken live with already | ⟨⟨answers, scanned⟩, idle, stored⟩
  · refine armed_after taken (sound.scan already) fun disarmed => ?_
    exact (ArmedSound.step_kept permitted disarmed).1 already
  · have running : event = (event.1, .scan answers) := Prod.ext rfl scanned
    have settled := permitted.read event.1 answers (congrArg LifeEvent.running running) idle stored.symm
    have armed : bot.runtimeArmed = true := by
      rcases sound.row stored.symm with armed | ⟨handler, member, leaves⟩
      · exact armed
      · rw [settled handler member] at leaves
        cases leaves
    refine armed_after taken armed ?_
    simp [Bot.armWrite, scanned]

/-- No program begins by storing live mode. -/
theorem program_ne_entering {request : Request} {tail : List Instr} :
    request.program settings ≠ .commitMode .live :: tail := by
  cases request with
  | switchMode target token =>
      cases target with
      | live =>
          simp only [Request.program]
          split <;> simp
      | _ => simp [Request.program]
  | _ => simp [Request.program]

theorem ArmedSound.step_moving (sound : ArmedSound settings bot)
    (taken : bot.step settings event = some after) :
    ∀ handler ∈ after.handlers, ∀ instr ∈ handler.todo,
      instr.modeWrite ≠ none ∨ instr.armWrite ≠ none → handler.request.movesMode = true :=
  Bot.step_instructions (fun _ _ member => program_moves member)
    (fun _ _ moving => absurd moving (by simp [Instr.modeWrite, Instr.armWrite]))
    (fun _ _ _ moving => absurd moving (by simp [Instr.modeWrite, Instr.armWrite]))
    sound.moving taken

theorem ArmedSound.step_entering (sound : ArmedSound settings bot)
    (permitted : KeepsArmed bot (.running event)) (taken : bot.step settings event = some after)
    {handler : Handler} (member : handler ∈ after.handlers) (enters : handler.entersLive = true) :
    after.runtimeArmed = true := by
  have commits : ∃ tail, handler.todo = .commitMode .live :: tail := by
    unfold Handler.entersLive at enters
    split at enters
    · exact ⟨_, ‹_›⟩
    · cases enters
  obtain ⟨tail, todo⟩ := commits
  rcases Bot.step_handler_origin taken member with old | ⟨request, -, rfl⟩ |
    ⟨index, instr, rest, handled, found, moved⟩ | empty
  · refine armed_after taken (sound.entering handler old enters) fun disarmed => ?_
    rw [(ArmedSound.step_kept permitted disarmed).2 handler old] at enters
    cases enters
  · exact absurd todo program_ne_entering
  · have moves : handler.request.movesMode = true := by
      refine sound.step_moving taken handler member (.commitMode .live) ?_ (.inl ?_)
      · rw [todo]
        exact List.mem_cons_self
      · simp [Instr.modeWrite]
    have suffix := sound.suffix _ (List.mem_of_getElem? found) moves
    rw [unexpanded_of_moves moves (suffix.subset List.mem_cons_self), List.nil_append, todo] at moved
    have arming := (sequenced moves suffix).enters tail moved.symm
    subst arming
    rw [(Bot.step_mode_armed taken).2]
    simp [Bot.armWrite, handled, Bot.instr?_of_found found, Instr.armWrite]
  · rw [todo] at empty
    cases empty

theorem ArmedSound.step (sound : ArmedSound settings bot)
    (permitted : KeepsArmed bot (.running event)) (taken : bot.step settings event = some after) :
    ArmedSound settings after := by
  refine ⟨?_, sound.step_moving taken, sound.step_row permitted taken,
    sound.step_scan permitted taken, ?_⟩
  · exact Bot.step_suffix (fun _ moves _ member => unexpanded_of_moves moves member) sound.suffix
      taken
  · exact fun _ member enters => sound.step_entering permitted taken member enters

theorem ArmedSound.launch {db : Database} {now : Instant} (notLive : db.control.mode ≠ .live) :
    ArmedSound settings (.launch settings db now) :=
  ⟨fun _ member => absurd member List.not_mem_nil, fun _ member => absurd member List.not_mem_nil,
    fun live => absurd live notLive, nofun, fun _ member => absurd member List.not_mem_nil⟩

/-! ### The token behind the arming -/

theorem armedAfter_armed {armed : Option String} {index : Nat} {token : String} {rest : List Instr}
    (handled : event.2 = .handler index)
    (found : bot.handlers[index]? = some ⟨.switchMode .live token, .armLive :: rest⟩) :
    armedAfter armed (bot, .running event) = some token := by
  obtain ⟨now, action⟩ := event
  change action = .handler index at handled
  subst handled
  simp only [armedAfter, found]

theorem armedAfter_disarmed {armed : Option String} (disarmed : bot.armWrite event = some false) :
    armedAfter armed (bot, .running event) = none := by
  obtain ⟨index, instr, request, rest, handled, found, arms⟩ := armWrite_some disarmed
  obtain ⟨now, action⟩ := event
  change action = .handler index at handled
  subst handled
  cases instr with
  | disarmLive | killAndDisarm => simp only [armedAfter, found]
  | _ => cases arms

theorem armedAfter_kept {armed : Option String} (kept : bot.armWrite event = none) :
    armedAfter armed (bot, .running event) = armed := by
  obtain ⟨now, action⟩ := event
  cases action with
  | handler index =>
      have unwritten : ∀ request instr rest, bot.handlers[index]? = some ⟨request, instr :: rest⟩ →
          instr.armWrite = none := by
        intro request instr rest found
        simpa [Bot.armWrite, Bot.instr?_of_found found] using kept
      simp only [armedAfter]
      split
      · cases unwritten _ _ _ ‹_›
      · cases unwritten _ _ _ ‹_›
      · cases unwritten _ _ _ ‹_›
      · rfl
  | _ => rfl

/-- The arming is that of the last switch to live mode in this lifetime, made with a token. -/
structure ArmedWith (settings : Settings) (presented : Option String) (bot : Bot) : Prop where
  sound : ArmedSound settings bot
  armed : bot.runtimeArmed = presented.isSome
  accepted : ∀ token, presented = some token → settings.armsLive token = true

theorem ArmedWith.step {armed : Option String} (held : ArmedWith settings armed bot)
    (permitted : KeepsArmed bot (.running event)) (taken : bot.step settings event = some after) :
    ArmedWith settings (armedAfter armed (bot, .running event)) after := by
  have sound := held.sound.step permitted taken
  have moved := (Bot.step_mode_armed taken).2
  cases written : bot.armWrite event with
  | none =>
      rw [written, Option.getD_none] at moved
      rw [armedAfter_kept written]
      exact ⟨sound, moved.trans held.armed, held.accepted⟩
  | some value =>
      rw [written, Option.getD_some] at moved
      cases value with
      | false =>
          rw [armedAfter_disarmed written]
          exact ⟨sound, moved, nofun⟩
      | true =>
          obtain ⟨index, instr, request, rest, handled, found, arms⟩ := armWrite_some written
          have member := List.mem_of_getElem? found
          have moves := held.sound.moving _ member _ List.mem_cons_self (.inr (by rw [arms]; nofun))
          have arming : instr = .armLive := by
            cases instr with
            | armLive => rfl
            | _ => cases arms
          obtain ⟨token, rfl, accepted⟩ :=
            (sequenced moves (held.sound.suffix _ member moves)).arms arming
          subst arming
          rw [armedAfter_armed handled found]
          refine ⟨sound, moved, fun presented same => ?_⟩
          cases same
          exact accepted

theorem ArmedWith.lifeStep {armed : Option String} {lifeEvent : LifeEvent}
    (held : ArmedWith settings armed bot) (permitted : KeepsArmed bot lifeEvent)
    (taken : lifeStep settings bot lifeEvent = some after) :
    ArmedWith settings (armedAfter armed (bot, lifeEvent)) after := by
  cases lifeEvent with
  | running event => exact held.step permitted taken
  | restart now =>
      cases taken
      exact ⟨.launch (permitted.restart now rfl), rfl, nofun⟩

end Sound

/-- A live attempt is inserted only while the engine is armed, by a switch to live mode in this
lifetime that presented an accepted token. -/
theorem live_attempts_armed (settings : Settings) (db : Database) (started : Instant)
    (notLive : db.control.mode ≠ .live) (trace : List (Bot × LifeEvent)) (bot : Bot)
    (run : Reaches (lifeStep settings) KeepsArmed (.launch settings db started) trace bot)
    (event : LifeEvent) (after : Bot) (taken : lifeStep settings bot event = some after)
    (row : TradeAttempt) (inserted : row ∈ insertedAttempts bot.db after.db)
    (live : row.mode = .live) :
    bot.runtimeArmed = true ∧
      ∃ token, armedBy trace = some token ∧ settings.armsLive token = true := by
  have base : ArmedWith settings none (.launch settings db started) :=
    ⟨.launch notLive, rfl, nofun⟩
  have held : ArmedWith settings (armedBy trace) bot :=
    run.invariant_history base fun _ _ _ _ held permitted taken => held.lifeStep permitted taken
  have armed : bot.runtimeArmed = true := by
    cases event with
    | restart now =>
        cases taken
        have nothing : insertedAttempts bot.db bot.db = [] := Bot.insertedAttempts_of_length rfl
        change row ∈ insertedAttempts bot.db bot.db at inserted
        rw [nothing] at inserted
        cases inserted
    | running event =>
        obtain ⟨answers, cursor, quote, -, place, -, -, mode⟩ := Bot.step_inserted taken inserted
        apply held.sound.scan
        rw [place, ScanPc.mode?]
        rw [live, ScanCursor.strategyMode] at mode
        split at mode
        · rw [← mode]
        · cases mode
  obtain ⟨token, presented⟩ := Option.isSome_iff_exists.mp (held.armed ▸ armed)
  exact ⟨armed, token, presented, held.accepted token presented⟩

/-! ### Two lifetimes on one database -/

def insertsLive (settings : Settings) (bot : Bot) (event : LifeEvent) : Bool :=
  (lifeStep settings bot event).any fun after =>
    (insertedAttempts bot.db after.db).any fun row => row.mode = .live

def switchLive : List LifeEvent :=
  [(1, .boot), (2, .boot), (3, .request (.switchMode .live "DISABLED")), (4, .handler 0),
    (5, .handler 0), (6, .handler 0)].map .running

/-- An iteration up to the insertion of its first attempt. -/
def toAttempt (start : Instant) : List LifeEvent :=
  [0, 1, 2, 3, 4, 5, 6].map fun offset =>
    .running (start + offset, .scan (Sample.tradingAnswers liveSettings))

/-- Switched to live and restarted: the new process attempts live trades it was never armed for. -/
theorem restart_attempts_disarmed :
    ∃ trace bot, Reaches (lifeStep liveSettings) anyStep
        (.launch liveSettings Sample.db 0) trace bot ∧
      (!bot.runtimeArmed && insertsLive liveSettings bot (.running (20, .scan {}))) = true :=
  have found : (follow (lifeStep liveSettings) (.launch liveSettings Sample.db 0)
      (switchLive ++ [.restart 10] ++ toAttempt 11)).any (fun done =>
        !done.2.runtimeArmed && insertsLive liveSettings done.2 (.running (20, .scan {}))) = true := by
    decide +kernel
  exists_run found fun _ _ _ _ => trivial

/-- A test for `KeepsArmed` on runs that disarm nothing. -/
def keepsArmedTest (entry : Bot × LifeEvent) : Bool :=
  match entry.2 with
  | .restart _ | .running (_, .abort _) => entry.1.db.control.mode ≠ .live
  | .running (_, .handler index) => ((entry.1.instr? index).bind Instr.armWrite) ≠ some false
  | .running _ => entry.1.handlers.all fun handler => !handler.leavesLive

theorem keepsArmed_of_test {bot : Bot} {event : LifeEvent}
    (passed : keepsArmedTest (bot, event) = true) : KeepsArmed bot event := by
  refine ⟨?_, ?_, ?_, ?_, ?_⟩
  · rintro now rfl
    simpa [keepsArmedTest] using passed
  · rintro now answers rfl _idle _stored handler member
    simpa [keepsArmedTest] using List.all_eq_true.mp passed handler member
  · rintro now index handler rfl _found _leaves
    simpa [keepsArmedTest] using passed
  · rintro now index instr rfl next disarms
    simp [keepsArmedTest, next, disarms] at passed
  · rintro now index rfl next
    simp [keepsArmedTest, next, Instr.armWrite] at passed

theorem live_attempts_armed_switched :
    ∃ trace bot, Reaches (lifeStep liveSettings) KeepsArmed
        (.launch liveSettings Sample.db 0) trace bot ∧
      insertsLive liveSettings bot (.running (20, .scan {})) = true ∧ bot.runtimeArmed = true := by
  have found : (follow (lifeStep liveSettings) (.launch liveSettings Sample.db 0)
      (switchLive ++ toAttempt 11)).any (fun done =>
        done.1.all keepsArmedTest &&
          insertsLive liveSettings done.2 (.running (20, .scan {}))) = true := by decide +kernel
  obtain ⟨trace, bot, run, checked⟩ : ∃ trace bot, Reaches (lifeStep liveSettings) KeepsArmed
      (.launch liveSettings Sample.db 0) trace bot ∧ _ :=
    exists_run found fun done passed entry member => by
      obtain ⟨allowed, -⟩ := Bool.and_eq_true_iff.mp passed
      exact keepsArmed_of_test (List.all_eq_true.mp allowed entry member)
  obtain ⟨-, inserts⟩ := Bool.and_eq_true_iff.mp checked
  obtain ⟨after, taken, rows⟩ := (Option.any_eq_true _ _).mp inserts
  obtain ⟨row, inserted, live⟩ := List.any_eq_true.mp rows
  exact ⟨trace, bot, run, inserts, (live_attempts_armed liveSettings Sample.db 0 (by decide) trace bot
    run _ after taken row inserted (of_decide_eq_true live)).1⟩

end ArbitrageBot
