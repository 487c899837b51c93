/-
The age of the telemetry behind a tradable verdict. The scan loop renews the one time stamp that
the guard on the snapshot's age reads, so the guard never fires; what an old probe of the health
loop vouches for is whatever the collector still holds, and it holds five minutes.
-/

import ArbitrageBot.QuoteEngine.Engine
import ArbitrageBot.System.Telemetry

namespace ArbitrageBot

open SlidingWindow Transition

/-- The start of the time for which a probe is fresh. -/
def freshFrom (settings : Settings) (now : Instant) : Instant :=
  now - seconds settings.healthSnapshotStaleSeconds

def Probed (settings : Settings) (now : Instant) (results : List (Timed Bool)) : Prop :=
  ∃ result ∈ results, freshFrom settings now ≤ result.ts

instance {settings : Settings} {now : Instant} {results : List (Timed Bool)} :
    Decidable (Probed settings now results) :=
  inferInstanceAs (Decidable (∃ result ∈ results, freshFrom settings now ≤ result.ts))

/-- The last result is too old to be fresh, and not old enough for the last quote to drop it. -/
def lingers (settings : Settings) (trace : List (Runner × RunnerEvent)) (now : Instant)
    (results : List (Timed Bool)) : Bool :=
  results.getLast?.any fun result => result.ts < freshFrom settings now &&
    (recorded RunnerEvent.quotedAt trace).getLast?.all fun quoted => quoted - minutes 5 ≤ result.ts

/-- The health loop has not come by for too long, yet for no more than the collector holds. -/
def stalled (settings : Settings) (trace : List (Runner × RunnerEvent)) (now : Instant) : Bool :=
  lingers settings trace now (recorded RunnerEvent.rpcResult trace) ||
    lingers settings trace now (recorded RunnerEvent.dbResult trace)

section Fresh

variable {settings : Settings} {trace : List (Runner × RunnerEvent)} {now quoted : Instant}
  {held results : List (Timed Bool)}

/-- Something is held, so it is the last result, and it has come too late to be dropped. -/
theorem probed_iff_not_lingers (kept : held <:+ results) (known : held ≠ [])
    (ordered : results.Pairwise fun earlier later => earlier.ts ≤ later.ts)
    (lastQuote : (recorded RunnerEvent.quotedAt trace).getLast? = some quoted)
    (since : ∀ result ∈ held, quoted - minutes 5 ≤ result.ts) :
    Probed settings now results ↔ lingers settings trace now results = false := by
  have lastHeld := List.getLast?_eq_some_getLast known
  have recent := since _ (List.mem_of_getLast? lastHeld)
  obtain ⟨member, newest⟩ := newest_of_suffix kept lastHeld ordered
  obtain ⟨dropped, rfl⟩ := kept
  have last : (dropped ++ held).getLast? = some (held.getLast known) := by
    rw [List.getLast?_append, lastHeld, Option.some_or]
  rw [lingers, last, Option.any_some, lastQuote, Option.all_some, decide_eq_true recent,
    Bool.and_true, decide_eq_false_iff_not, not_lt]
  constructor
  · rintro ⟨result, brought, fresh⟩
    rcases newest result brought with rfl | earlier
    · exact fresh
    · exact fresh.trans earlier
  · exact fun fresh => ⟨_, member, fresh⟩

theorem GlobalRiskManager.evaluate_tradable_known {manager : GlobalRiskManager} {input : Evaluation}
    (tradable : (manager.evaluate settings now input).1.tradable = true) :
    input.health.dbKnown = true ∧ input.health.rpcKnown = true := by
  obtain ⟨-, stateless, -⟩ := GlobalRiskManager.evaluate_tradable.mp tradable
  have health : ∀ guard ∈ healthGuards settings input, guard.passes = true := fun guard member =>
    stateless guard (List.mem_append_left _ (List.mem_append_left _ member))
  constructor
  · exact health _ (.tail _ (.tail _ List.mem_cons_self))
  · exact health _ (.tail _ (.tail _ (.tail _ (.tail _ List.mem_cons_self))))

end Fresh

/-- A tradable verdict has fresh probes behind it exactly when the health loop is not stalled. -/
theorem tradable_probed_iff (settings : Settings) (db : Database) (started : Instant)
    (trace : List (Runner × RunnerEvent)) (runner : Runner)
    (run : Reaches (Runner.step settings) Runner.onward (.launch settings db started) trace runner)
    (event : RunnerEvent) (tradable : runner.tradable settings event = true) :
    Probed settings event.1 (recorded RunnerEvent.rpcResult trace) ∧
        Probed settings event.1 (recorded RunnerEvent.dbResult trace) ↔
      stalled settings trace event.1 = false := by
  obtain ⟨input, asked, tradable⟩ := Runner.tradable_some tradable
  obtain ⟨dbKnown, rpcKnown⟩ := GlobalRiskManager.evaluate_tradable_known tradable
  obtain ⟨dbHeld, rpcHeld⟩ := Runner.evaluation_known asked
  obtain ⟨-, -, -, answer, -, -, held, -⟩ := Runner.evaluation_some asked
  obtain ⟨quoted, lastQuote, -, since⟩ := sinceQuote run answer held
  have rpcOrdered := (recorded_ordered RunnerEvent.rpcResult_ts run).1
  have dbOrdered := (recorded_ordered RunnerEvent.dbResult_ts run).1
  rw [stalled, Bool.or_eq_false_iff,
    probed_iff_not_lingers (rpcResults_suffix run) (rpcHeld.mp rpcKnown) rpcOrdered lastQuote
      since.rpc,
    probed_iff_not_lingers (dbResults_suffix run) (dbHeld.mp dbKnown) dbOrdered lastQuote
      since.db]

/-! ### A minute after the last probe -/

namespace Sample

def probes : Probes := { signingStatus := "good", balanceStatus := "wallet_verified" }

def healthRound (now : Instant) (wei : Option Nat) : List RunnerEvent :=
  [(now, .rpcProbe { latencyMs := 40, ok := true } { latencyMs := 60, ok := true }),
    (now, .dbProbe (some 2)), (now, .gasProbe wei)]

def scanRound (now : Instant) : List RunnerEvent :=
  let answers := tradingAnswers tradingSettings
  [(now, .bot (.scan {}) {}), (now, .bot (.scan {}) {}), (now, .bot (.scan {}) {}),
    (now, .bot (.scan answers) {}), (now, .quote answers.quote 5)]

def judge (now : Instant) : RunnerEvent := (now, .bot (.scan {}) probes)

end Sample

open Sample (tradingSettings healthRound scanRound judge)

def ordered (trace : List (Runner × RunnerEvent)) : Bool :=
  trace.all fun entry => entry.1.clock ≤ entry.2.1

theorem onward_of_ordered {trace : List (Runner × RunnerEvent)} (checked : ordered trace = true) :
    ∀ entry ∈ trace, Runner.onward entry.1 entry.2 := by
  intro entry member
  have later : entry.1.clock ≤ entry.2.1 :=
    of_decide_eq_true (List.all_eq_true.mp checked entry member)
  exact later

theorem tradable_probed_iff_steady :
    ∃ trace runner, Reaches (Runner.step tradingSettings) Runner.onward
        (.launch tradingSettings Sample.db 0) trace runner ∧
      runner.tradable tradingSettings (judge 60000000) = true ∧
      Probed tradingSettings 60000000 (recorded RunnerEvent.rpcResult trace) ∧
      Probed tradingSettings 60000000 (recorded RunnerEvent.dbResult trace) := by
  have found : (follow (Runner.step tradingSettings) (.launch tradingSettings Sample.db 0)
      (healthRound 50000000 (some 1000000000) ++ scanRound 60000000)).any (fun done =>
        ordered done.1 && done.2.tradable tradingSettings (judge 60000000) &&
          !stalled tradingSettings done.1 60000000) = true := by
    decide +kernel
  obtain ⟨trace, runner, run, checked⟩ : ∃ trace runner, Reaches (Runner.step tradingSettings)
      Runner.onward (.launch tradingSettings Sample.db 0) trace runner ∧ _ :=
    exists_run found fun done passed => by
      simp only [Bool.and_eq_true] at passed
      exact onward_of_ordered passed.1.1
  simp only [Bool.and_eq_true, Bool.not_eq_true'] at checked
  obtain ⟨⟨-, tradable⟩, moving⟩ := checked
  exact ⟨trace, runner, run, tradable, (tradable_probed_iff tradingSettings Sample.db 0 trace runner
    run (judge 60000000) tradable).mpr moving⟩

/-- The health loop stops after its first round, and a minute later the loop still trades. -/
theorem stalled_verdict_tradable :
    ∃ trace runner, Reaches (Runner.step tradingSettings) Runner.onward
        (.launch tradingSettings Sample.db 0) trace runner ∧
      runner.tradable tradingSettings (judge 60000000) = true ∧
      ¬Probed tradingSettings 60000000 (recorded RunnerEvent.rpcResult trace) ∧
      ¬Probed tradingSettings 60000000 (recorded RunnerEvent.dbResult trace) := by
  have found : (follow (Runner.step tradingSettings) (.launch tradingSettings Sample.db 0)
      (healthRound 0 (some 1000000000) ++ scanRound 60000000)).any (fun done =>
        ordered done.1 && done.2.tradable tradingSettings (judge 60000000) &&
          decide (¬Probed tradingSettings 60000000 (recorded RunnerEvent.rpcResult done.1) ∧
            ¬Probed tradingSettings 60000000 (recorded RunnerEvent.dbResult done.1))) = true := by
    decide +kernel
  obtain ⟨trace, runner, run, checked⟩ : ∃ trace runner, Reaches (Runner.step tradingSettings)
      Runner.onward (.launch tradingSettings Sample.db 0) trace runner ∧ _ :=
    exists_run found fun done passed => by
      simp only [Bool.and_eq_true] at passed
      exact onward_of_ordered passed.1.1
  simp only [Bool.and_eq_true, decide_eq_true_eq] at checked
  exact ⟨trace, runner, run, checked.1.2, checked.2⟩

end ArbitrageBot
