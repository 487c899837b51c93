/-
The kill switch of the settings. It seeds the manager's flag, but the first iteration
overwrites the flag with the stored `global_pause`, whose own default is off; the setting
holds exactly when the stored row is set as well.
-/

import ArbitrageBot.QuoteEngine.Engine
import ArbitrageBot.Risk.Monotone
import ArbitrageBot.System.Iteration
import ArbitrageBot.System.KillSwitch

namespace ArbitrageBot

open Transition

def beforeResume : Bot → Event → Prop := fun _ event => event.2 ≠ .request .resume

/-- The flag is on, and so is every copy of it that could overwrite it. -/
structure KillHeld (bot : Bot) : Prop where
  lifting : ∀ handler ∈ bot.handlers, ∀ instr ∈ handler.todo, instr.lifts = true →
    handler.request = .resume
  alone : bot.noResume
  row : bot.db.control.globalPause = true
  flag : bot.manager.globalKillSwitch = true
  read : ∀ control, bot.scan = .controlRead control → control.globalPause = true

section Held

variable {settings : Settings} {bot after : Bot} {event : Event}

theorem KillHeld.keepsHalt (held : KillHeld bot) (unresumed : beforeResume bot event) :
    KeepsHalt bot event := by
  refine ⟨?_, fun resumed => absurd resumed unresumed, ?_⟩
  · intro answers control _scanned place lifted _killed
    rw [held.read control place] at lifted
    cases lifted
  · intro request _requested _halts handler member resumes
    exact held.alone handler member resumes

theorem KillHeld.step (held : KillHeld bot) (unresumed : beforeResume bot event)
    (taken : bot.step settings event = some after) : KillHeld after := by
  refine ⟨?_, ?_, ?_, ?_, ?_⟩
  · exact Bot.step_instructions (fun _ _ member => (Bot.programmed member).lifts) (fun _ _ => nofun)
      (fun _ _ _ => nofun) held.lifting taken
  · exact Bot.step_noResume taken held.alone unresumed
  · exact Bot.step_keeps_row taken held.alone held.lifting held.row
  · exact Bot.step_keeps_flag taken held.alone (held.keepsHalt unresumed) held.lifting held.row
      held.flag
  · intro control place
    rcases Bot.step_controlRead taken place with already | ⟨-, rfl⟩
    · exact held.read control already
    · exact held.row

end Held

/-- The configured kill switch holds until a resume exactly when the stored row says paused, or
when the settings let nothing through even without the switch. -/
theorem configured_kill_holds_iff (settings : Settings)
    (configured : settings.globalKillSwitch = true) (db : Database) (started : Instant) :
    (∀ trace bot, Reaches (Bot.step settings) beforeResume (.launch settings db started) trace bot →
        ∀ now input, (bot.manager.evaluate settings now input).1.tradable = false) ↔
      db.control.globalPause = true ∨
        ∀ now input, (((GlobalRiskManager.create settings started).setGlobalKill false).evaluate
          settings now input).1.tradable = false := by
  constructor
  · intro holds
    cases stored : db.control.globalPause with
    | true => exact .inl rfl
    | false =>
        right
        -- two steps of the first iteration: read the row, apply it
        have scanned : ∀ bot, beforeResume bot (started, .scan {}) := fun _ => nofun
        have read : Reaches (Bot.step settings) beforeResume (.launch settings db started) _ _ :=
          .snoc .refl (scanned _) rfl
        have applied : Reaches (Bot.step settings) beforeResume (.launch settings db started) _ _ :=
          .snoc read (scanned _) rfl
        have cleared : (GlobalRiskManager.create settings started).setGlobalKill false =
            (GlobalRiskManager.create settings started).setGlobalKill db.control.globalPause := by
          rw [stored]
        intro now input
        rw [cleared]
        exact holds _ _ applied now input
  · rintro (paused | nothing) trace bot run now input
    · have start : KillHeld (.launch settings db started) :=
        ⟨fun _ member => absurd member List.not_mem_nil,
          fun _ member => absurd member List.not_mem_nil, paused, configured, fun _ => nofun⟩
      have held := run.invariant start fun _ _ _ held unresumed taken => held.step unresumed taken
      exact GlobalRiskManager.evaluate_blocked_of_globalKill held.flag
    · apply Bool.eq_false_iff.mpr
      intro tradable
      have permitted := evaluate_tradable_fresh tradable started
      rw [nothing now input] at permitted
      cases permitted

def configuredKill : Settings := { Sample.tradingSettings with globalKillSwitch := true }

/-- With the switch configured and nothing stored, the first iteration trades. -/
theorem stored_default_lifts_configured_kill :
    ∃ trace bot, Reaches (Bot.step configuredKill) beforeResume
        (.launch configuredKill Sample.db 0) trace bot ∧
      bot.trades configuredKill (5, .scan (Sample.tradingAnswers configuredKill)) = true := by
  have scanned : ∀ bot now answers, beforeResume bot (now, .scan answers) := fun _ _ _ => nofun
  have read : Reaches (Bot.step configuredKill) beforeResume (.launch configuredKill Sample.db 0) _ _ :=
    .snoc .refl (scanned _ 1 {}) rfl
  have applied : Reaches (Bot.step configuredKill) beforeResume _ _ _ :=
    .snoc read (scanned _ 2 {}) rfl
  have listed : Reaches (Bot.step configuredKill) beforeResume _ _ _ :=
    .snoc applied (scanned _ 3 {}) rfl
  have funded : Reaches (Bot.step configuredKill) beforeResume _ _ _ :=
    .snoc listed (scanned _ 4 (Sample.tradingAnswers configuredKill)) rfl
  exact ⟨_, _, funded, by decide +kernel⟩

theorem configured_kill_holds_iff_sample :
    configuredKill.globalKillSwitch = true ∧
      ((∀ trace bot, Reaches (Bot.step configuredKill) beforeResume
          (.launch configuredKill Sample.db 0) trace bot →
          ∀ now input, (bot.manager.evaluate configuredKill now input).1.tradable = false) ↔
        Sample.db.control.globalPause = true ∨
          ∀ now input, (((GlobalRiskManager.create configuredKill 0).setGlobalKill false).evaluate
            configuredKill now input).1.tradable = false) :=
  ⟨rfl, configured_kill_holds_iff configuredKill rfl Sample.db 0⟩

end ArbitrageBot
