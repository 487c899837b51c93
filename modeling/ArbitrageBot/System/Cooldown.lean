/-
A cooldown that has started is only ever moved on. The loop marks failures with fatal categories
only, so every deadline in the manager is the time of some mark and the one fatal cooldown after
it, and on a clock that does not go back the next mark lies no earlier. Which of the two cooldowns
is the longer one has no say in it.
-/

import ArbitrageBot.System.ScanLoop

namespace ArbitrageBot

open Transition

/-- Clearing and hydrating take a cooldown away. -/
def RiskOp.dropsCooldown : RiskOp → Bool
  | .clearCooldown _ | .hydrateRouteState _ _ => true
  | _ => false

/-- The operations that leave the cooldowns alone or start the fatal one. -/
def RiskOp.keepsCooldown : RiskOp → Bool
  | .markFailure _ category _ => category ∈ fatalFailureCategories
  | op => !op.dropsCooldown

/-- An event that comes no earlier than the last and takes no cooldown away. -/
def Bot.undropped (settings : Settings) (bot : Bot) (event : Event) : Prop :=
  bot.clock ≤ event.1 ∧ ∀ op ∈ bot.operations settings event, op.dropsCooldown = false

instance {settings : Settings} {bot : Bot} {event : Event} :
    Decidable (bot.undropped settings event) :=
  inferInstanceAs (Decidable (_ ∧ _))

/-- What cools down still does, and for no shorter. -/
def CooldownKept (before after : GlobalRiskManager) : Prop :=
  ∀ route expiry, before.cooldownUntil route = some expiry →
    ∃ later, after.cooldownUntil route = some later ∧ expiry ≤ later

def CooldownsWithin (manager : GlobalRiskManager) (limit : Instant) : Prop :=
  ∀ route expiry, manager.cooldownUntil route = some expiry → expiry ≤ limit

def managers (trace : List (Bot × Event)) (bot : Bot) : List GlobalRiskManager :=
  trace.map (fun entry => entry.1.manager) ++ [bot.manager]

theorem CooldownKept.of_eq {before after : GlobalRiskManager}
    (same : after.cooldownUntil = before.cooldownUntil) : CooldownKept before after := by
  intro route expiry running
  exact ⟨expiry, by rw [same, running], le_rfl⟩

theorem CooldownKept.trans {first second third : GlobalRiskManager}
    (front : CooldownKept first second) (back : CooldownKept second third) :
    CooldownKept first third := by
  intro route expiry running
  obtain ⟨later, kept, longer⟩ := front route expiry running
  obtain ⟨latest, last, longest⟩ := back route later kept
  exact ⟨latest, last, longer.trans longest⟩

theorem CooldownsWithin.mono {manager : GlobalRiskManager} {limit further : Instant}
    (within : CooldownsWithin manager limit) (more : limit ≤ further) :
    CooldownsWithin manager further :=
  fun route expiry running => (within route expiry running).trans more

namespace GlobalRiskManager

variable {settings : Settings} {manager : GlobalRiskManager} {now : Instant}

def fatalDeadline (settings : Settings) (now : Instant) : Instant :=
  now + seconds settings.routeFatalFailureCooldownSeconds

theorem markFailure_cooldown {route category reason : String}
    (fatal : category ∈ fatalFailureCategories) :
    (manager.markFailure settings now route category reason).cooldownUntil =
      Function.update manager.cooldownUntil route (some (fatalDeadline settings now)) := by
  simp only [markFailure, failureCooldownSeconds, if_pos fatal, fatalDeadline]

/-- The longest cooldown there can be replaces a shorter one. -/
theorem markFailure_kept {route category reason : String}
    (fatal : category ∈ fatalFailureCategories)
    (within : CooldownsWithin manager (fatalDeadline settings now)) :
    CooldownKept manager (manager.markFailure settings now route category reason) := by
  intro other expiry running
  rw [markFailure_cooldown fatal]
  by_cases same : other = route
  · subst same
    exact ⟨fatalDeadline settings now, Function.update_self .., within other expiry running⟩
  · exact ⟨expiry, by rw [Function.update_of_ne same, running], le_rfl⟩

theorem markFailure_within {route category reason : String}
    (fatal : category ∈ fatalFailureCategories)
    (within : CooldownsWithin manager (fatalDeadline settings now)) :
    CooldownsWithin (manager.markFailure settings now route category reason)
      (fatalDeadline settings now) := by
  intro other expiry running
  rw [markFailure_cooldown fatal] at running
  by_cases same : other = route
  · subst same
    rw [Function.update_self, Option.some.injEq] at running
    exact running.ge
  · rw [Function.update_of_ne same] at running
    exact within other expiry running

end GlobalRiskManager

/-- An operation that keeps cooldowns is a fatal failure or changes none. -/
theorem RiskOp.keepsCooldown_cases {op : RiskOp} (keeps : op.keepsCooldown = true) :
    (∃ route category reason, op = .markFailure route category reason ∧
      category ∈ fatalFailureCategories) ∨
    ∀ settings now (manager : GlobalRiskManager),
      (op.apply settings now manager).cooldownUntil = manager.cooldownUntil := by
  cases op with
  | markFailure route category reason =>
      exact .inl ⟨route, category, reason, rfl, of_decide_eq_true keeps⟩
  | clearCooldown | hydrateRouteState => cases keeps
  | markSuccess route realizedPnl =>
      refine .inr fun settings now manager => ?_
      exact GlobalRiskManager.resetDailyIfNeeded_cooldownUntil now
  | _ => exact .inr fun _ _ _ => rfl

namespace GlobalRiskManager

variable {settings : Settings} {manager : GlobalRiskManager} {now : Instant}

theorem applyAll_kept {ops : List RiskOp} (keep : ∀ op ∈ ops, op.keepsCooldown = true)
    (within : CooldownsWithin manager (fatalDeadline settings now)) :
    CooldownKept manager (manager.applyAll settings now ops) ∧
      CooldownsWithin (manager.applyAll settings now ops) (fatalDeadline settings now) := by
  refine @applyAll_preserves settings now (fun current => CooldownKept manager current ∧
    CooldownsWithin current (fatalDeadline settings now)) ops manager ⟨.of_eq rfl, within⟩ ?_
  intro op member current held
  obtain ⟨kept, bounded⟩ := held
  rcases RiskOp.keepsCooldown_cases (keep op member) with
    ⟨route, category, reason, rfl, fatal⟩ | unchanged
  · exact ⟨kept.trans (markFailure_kept fatal bounded), markFailure_within fatal bounded⟩
  · refine ⟨kept.trans (.of_eq (unchanged settings now current)), ?_⟩
    intro other expiry running
    rw [unchanged] at running
    exact bounded other expiry running

end GlobalRiskManager

/-! ### Runs -/

section Run

variable {settings : Settings} {bot after : Bot} {event : Event}

/-- The loop fails fatally, and no operator fails a route. -/
theorem operations_keep (lawful : bot.lawful) (undropped : bot.undropped settings event) :
    ∀ op ∈ bot.operations settings event, op.keepsCooldown = true := by
  intro op member
  have kept := undropped.2 op member
  rcases Bot.operation_cases lawful member with ⟨answers, -, scanned⟩ | ⟨rows, row, -, -, rfl⟩ |
    operator
  · rcases Bot.scan_operation scanned with ⟨paused, rfl⟩ |
      ⟨route, category, reason, rfl, fatal, -⟩ | ⟨route, realizedPnl, rfl, -⟩
    · rfl
    · exact decide_eq_true fatal
    · rfl
  · cases kept
  · cases op with
    | markFailure | hydrateRouteState => cases operator
    | clearCooldown => cases kept
    | _ => rfl

theorem step_kept (lawful : bot.lawful) (undropped : bot.undropped settings event)
    (taken : bot.step settings event = some after)
    (within : CooldownsWithin bot.manager (GlobalRiskManager.fatalDeadline settings bot.clock)) :
    CooldownKept bot.manager after.manager ∧
      CooldownsWithin after.manager (GlobalRiskManager.fatalDeadline settings after.clock) := by
  have moved : CooldownsWithin bot.manager (GlobalRiskManager.fatalDeadline settings event.1) :=
    within.mono (add_le_add_left undropped.1 _)
  rw [Bot.step_clock taken]
  rcases Bot.step_manager taken with performed | ⟨route, pruned, -⟩
  · rw [performed]
    exact GlobalRiskManager.applyAll_kept (operations_keep lawful undropped) moved
  · rw [pruned]
    exact ⟨.of_eq rfl, moved⟩

theorem managers_concat {trace : List (Bot × Event)} :
    managers (trace ++ [(bot, event)]) after = managers trace bot ++ [after.manager] := by
  rw [managers, managers, List.map_append]
  rfl

/-- What is kept from one manager to the next is kept over the run. -/
theorem managers_kept {trace : List (Bot × Event)}
    (kept : (managers trace bot).Pairwise CooldownKept)
    (latest : CooldownKept bot.manager after.manager) :
    (managers (trace ++ [(bot, event)]) after).Pairwise CooldownKept := by
  rw [managers_concat, List.pairwise_append]
  refine ⟨kept, List.pairwise_singleton _ _, ?_⟩
  intro earlier member last here
  rw [List.mem_singleton.mp here]
  rcases List.mem_append.mp member with past | current
  · exact ((List.pairwise_append.mp kept).2.2 earlier past _ List.mem_cons_self).trans latest
  · rw [List.mem_singleton.mp current]
    exact latest

/-- No deadline lies more than one fatal cooldown ahead of the clock, so no failure that is still
to come can cut one short, and none has been cut short yet. -/
structure Uncut (settings : Settings) (trace : List (Bot × Event)) (bot : Bot) : Prop where
  lawful : bot.lawful
  within : CooldownsWithin bot.manager (GlobalRiskManager.fatalDeadline settings bot.clock)
  kept : (managers trace bot).Pairwise CooldownKept

theorem Uncut.start {created : Instant} (fresh : bot.manager = .create settings created)
    (noHandlers : bot.handlers = []) : Uncut settings [] bot := by
  refine ⟨?_, ?_, List.pairwise_singleton _ _⟩
  · intro handler member
    rw [noHandlers] at member
    cases member
  · intro route expiry running
    rw [fresh] at running
    cases running

theorem Uncut.step {trace : List (Bot × Event)} (uncut : Uncut settings trace bot)
    (undropped : bot.undropped settings event) (taken : bot.step settings event = some after) :
    Uncut settings (trace ++ [(bot, event)]) after := by
  obtain ⟨latest, within⟩ := step_kept uncut.lawful undropped taken uncut.within
  exact ⟨Bot.step_lawful uncut.lawful taken, within, managers_kept uncut.kept latest⟩

end Run

/-- From a manager without cooldowns on, none that has started is cut short: whatever is called
apart from clearing and hydration, its deadline stays or moves on. -/
theorem cooldown_never_shortened (settings : Settings) (created : Instant) (start : Bot)
    (fresh : start.manager = .create settings created) (noHandlers : start.handlers = [])
    (trace : List (Bot × Event)) (bot : Bot)
    (run : Reaches (Bot.step settings) (Bot.undropped settings) start trace bot) :
    (managers trace bot).Pairwise CooldownKept := by
  have uncut : Uncut settings trace bot := by
    apply run.invariant_trace (Uncut.start fresh noHandlers)
    intro past before event after held undropped taken
    exact held.step undropped taken
  exact uncut.kept

/-- A quote fails, an operator enables the route that this has paused, and the next quote fails
while the route still cools down. -/
def failedTwice : List Event :=
  let iteration (first : Instant) : List Event :=
    [(first, .scan {}), (first + 1, .scan {}), (first + 2, .scan {}),
      (first + 3, .scan Sample.answers),
      (first + 4, .scan { Sample.answers with quote := .error "rpc" }), (first + 5, .scan {}),
      (first + 6, .scan {}), (first + 7, .scan {})]
  iteration 1 ++ [(9, .request (.enableRoute "r")), (10, .handler 0), (11, .handler 0)] ++
    iteration 12

theorem cooldown_never_shortened_enabled :
    ∃ trace bot, Reaches (Bot.step shipped) (Bot.undropped shipped) Sample.serving trace bot ∧
      bot.manager.cooldownUntil "r" =
        some (18 + seconds shipped.routeFatalFailureCooldownSeconds) ∧
      (managers trace bot).Pairwise CooldownKept := by
  have found : (follow (Bot.step shipped) Sample.serving failedTwice).any (fun done =>
      (done.1.all fun entry => entry.1.undropped shipped entry.2) &&
        done.2.manager.cooldownUntil "r" =
          some (18 + seconds shipped.routeFatalFailureCooldownSeconds)) = true := by
    decide +kernel
  obtain ⟨trace, bot, run, checked⟩ : ∃ trace bot, Reaches (Bot.step shipped)
      (Bot.undropped shipped) Sample.serving trace bot ∧ _ :=
    exists_run found fun done checked entry member =>
      of_decide_eq_true (List.all_eq_true.mp (Bool.and_eq_true_iff.mp checked).1 entry member)
  have cooling := of_decide_eq_true (Bool.and_eq_true_iff.mp checked).2
  have kept := cooldown_never_shortened shipped 0 Sample.serving rfl rfl trace bot run
  exact ⟨trace, bot, run, cooling, kept⟩

end ArbitrageBot
