/-
`_probe_balance_status`: the balances of the store against themselves, against the recorded
inventory and against the wallet on the chain. A verdict to trade rests on a probe that found no
quarrel among them, and in live mode on one that went as far as the settings ask.
-/

import ArbitrageBot.Library.LatestPerKey
import ArbitrageBot.System.Freshness

namespace ArbitrageBot

open DecimalRounding LatestPerKey PythonText Transition

structure BalanceSettings where
  balanceVerifyToleranceAbs : Rat := 1 / 100
  balanceVerifyToleranceRatio : Rat := 1 / 100
  hyperevmWalletAddress : String := ""
  hyperevmUsdc : String := "0x0000000000000000000000000000000000000001"
  hyperevmUsdcDecimals : Nat := 6

structure Balance where
  venue : String
  token : String
  available : Rat
  reserved : Rat
  total : Rat

structure InventorySnapshot where
  timestamp : Instant
  venue : String
  token : String
  total : Rat

def Balance.key (bal : Balance) : String × String := (bal.venue, bal.token)

def InventorySnapshot.key (row : InventorySnapshot) : String × String := (row.venue, row.token)

/-- The contract that an `eth_call` goes to, and the data sent. -/
structure EthCall where
  contract : String
  data : String
deriving DecidableEq

/-- What the probe can reach. A table is absent where its query raises; the node's answer is the
number that `int(result, 16)` reads, absent where the call or the reading fails. -/
structure BalanceSources where
  balances : Option (List Balance)
  inventory : Option (List InventorySnapshot)
  node : EthCall → Option Int

/-! ### The wallet on the chain -/

/-- `text.replace("0x", "")` -/
def dropHexMarks : List Char → List Char
  | '0' :: 'x' :: rest => dropHexMarks rest
  | char :: rest => char :: dropHexMarks rest
  | [] => []

def walletHex (settings : BalanceSettings) : List Char :=
  dropHexMarks (lower (strip settings.hyperevmWalletAddress)).toList

/-- The call of `balanceOf(wallet)`, if both addresses are configured. -/
def balanceCall (settings : BalanceSettings) : Option EthCall :=
  let hex := walletHex settings
  if strip settings.hyperevmWalletAddress = "" ∨ strip settings.hyperevmUsdc = "" then none
  else if hex.length ≠ 40 then none
  else
    some
      { contract := strip settings.hyperevmUsdc
        data := "0x70a08231" ++ String.ofList (List.replicate (64 - hex.length) '0' ++ hex) }

def usdcOfRaw (settings : BalanceSettings) (raw : Int) : Option Rat :=
  (quantize 8 ((raw : Rat) / 10 ^ settings.hyperevmUsdcDecimals)).toOption

def probeWalletUsdcBalance (settings : BalanceSettings) (sources : BalanceSources) : Option Rat :=
  ((balanceCall settings).bind sources.node).bind (usdcOfRaw settings)

/-! ### The probe -/

def withinBalanceTolerance (settings : BalanceSettings) (lhs rhs : Rat) : Bool :=
  let diff := |lhs - rhs|
  let baseline := max (max |lhs| |rhs|) 1
  diff ≤ settings.balanceVerifyToleranceAbs ||
    diff / baseline ≤ settings.balanceVerifyToleranceRatio

def Balance.violates (bal : Balance) : Bool :=
  bal.available < 0 || bal.reserved < 0 || bal.total < 0 || bal.total < bal.available + bal.reserved

def BalanceSources.listInventory (sources : BalanceSources) (limit : Nat) :
    List InventorySnapshot :=
  (newestFirst InventorySnapshot.timestamp (sources.inventory.getD [])).take limit

/-- `latest_inventory_totals`, filled with the first row of each key. -/
def BalanceSources.latestInventory (sources : BalanceSources) : List InventorySnapshot :=
  keepFirst InventorySnapshot.key (sources.listInventory 500)

def inventoryTotal (latest : List InventorySnapshot) (bal : Balance) : Option Rat :=
  (latest.find? fun row => row.key = bal.key).map InventorySnapshot.total

/-- The loop over the balances; it stops at a drift, and tells whether it compared anything. -/
def compareInventory (settings : BalanceSettings) (latest : List InventorySnapshot) :
    Bool → List Balance → Option Bool
  | compared, [] => some compared
  | compared, bal :: rest =>
      match inventoryTotal latest bal with
      | none => compareInventory settings latest compared rest
      | some total =>
          if withinBalanceTolerance settings bal.total total then
            compareInventory settings latest true rest
          else none

def dbWallet (balances : List Balance) : Option Rat :=
  (balances.find? fun bal => bal.venue = "hyperevm_wallet" && upper bal.token = "USDC").map
    Balance.total

def walletConfigured (settings : BalanceSettings) (route : Route) : Bool :=
  route.strategy = "hyperevm_dex_dex" && strip settings.hyperevmWalletAddress ≠ ""

def probeWallet (settings : BalanceSettings) (sources : BalanceSources) (balances : List Balance) :
    BalanceConfidence × String :=
  match probeWalletUsdcBalance settings sources, dbWallet balances with
  | some walletBalance, some held =>
      if withinBalanceTolerance settings held walletBalance then (.walletVerified, "")
      else (.mismatch, "wallet_balance_mismatch")
  | _, _ => (.unknown, "wallet_balance_unavailable")

def probeBalanceStatus (settings : BalanceSettings) (sources : BalanceSources) (route : Route) :
    BalanceConfidence × String :=
  match sources.balances with
  | none => (.unknown, "balance_probe_failed")
  | some balances =>
      if balances = [] then (.unknown, "balance_records_missing")
      else if balances.any Balance.violates then (.mismatch, "internal_constraint_violation")
      else
        match compareInventory settings sources.latestInventory false balances with
        | none => (.mismatch, "inventory_drift")
        | some compared =>
            if walletConfigured settings route then probeWallet settings sources balances
            else (if compared then .dbInventoryOk else .internalOk, "")

/-! ### What a good probe means -/

/-- Apart by no more than the absolute tolerance, or by no more than that share of the larger
amount, which counts as one at least. -/
def Near (settings : BalanceSettings) (lhs rhs : Rat) : Prop :=
  |lhs - rhs| ≤ settings.balanceVerifyToleranceAbs ∨
    |lhs - rhs| ≤ settings.balanceVerifyToleranceRatio * max (max |lhs| |rhs|) 1

/-- The newest total that the inventory has of a key, among the rows that are looked at. -/
def BalanceSources.newestTotal (sources : BalanceSources) (bal : Balance) : Option Rat :=
  ((sources.listInventory 500).find? fun row => row.key = bal.key).map InventorySnapshot.total

structure Balance.Sound (bal : Balance) : Prop where
  available : 0 ≤ bal.available
  reserved : 0 ≤ bal.reserved
  covered : bal.available + bal.reserved ≤ bal.total

/-- The balances agree with themselves, with the inventory and, where a wallet is configured for
the route, with the chain. -/
structure Reconciled (settings : BalanceSettings) (sources : BalanceSources) (route : Route)
    (balances : List Balance) : Prop where
  read : sources.balances = some balances
  present : balances ≠ []
  sound : ∀ bal ∈ balances, bal.Sound
  undrifted : ∀ bal ∈ balances, ∀ total, sources.newestTotal bal = some total →
    Near settings bal.total total
  wallet : walletConfigured settings route = true → ∃ walletBalance held,
    probeWalletUsdcBalance settings sources = some walletBalance ∧
      dbWallet balances = some held ∧ Near settings held walletBalance

/-- How far the evidence goes. -/
def evidence (settings : BalanceSettings) (sources : BalanceSources) (route : Route)
    (balances : List Balance) : BalanceConfidence :=
  if walletConfigured settings route then .walletVerified
  else if balances.any fun bal => (sources.newestTotal bal).isSome then .dbInventoryOk
  else .internalOk

section Probe

variable {settings : BalanceSettings} {sources : BalanceSources} {route : Route}
  {balances : List Balance}

theorem withinBalanceTolerance_iff {lhs rhs : Rat} :
    withinBalanceTolerance settings lhs rhs = true ↔ Near settings lhs rhs := by
  have positive : 0 < max (max |lhs| |rhs|) 1 := lt_of_lt_of_le one_pos (le_max_right _ _)
  simp only [withinBalanceTolerance, Near, Bool.or_eq_true, decide_eq_true_eq,
    div_le_iff₀ positive]

theorem not_violates_iff {bal : Balance} : bal.violates = false ↔ bal.Sound := by
  simp only [Balance.violates, Bool.or_eq_false_iff, decide_eq_false_iff_not, not_lt]
  constructor
  · rintro ⟨⟨⟨available, reserved⟩, -⟩, covered⟩
    exact ⟨available, reserved, covered⟩
  · intro sound
    refine ⟨⟨⟨sound.available, sound.reserved⟩, ?_⟩, sound.covered⟩
    exact le_trans (add_nonneg sound.available sound.reserved) sound.covered

theorem inventoryTotal_latestInventory (bal : Balance) :
    inventoryTotal sources.latestInventory bal = sources.newestTotal bal := by
  have kept := @filter_keepFirst _ _ _ InventorySnapshot.key (sources.listInventory 500) bal.key
  have first := congrArg List.head? kept
  rw [List.head?_filter, Option.head?_toList] at first
  exact congrArg (Option.map InventorySnapshot.total) first

theorem compareInventory_eq_some {latest : List InventorySnapshot} {compared result : Bool} :
    compareInventory settings latest compared balances = some result ↔
      (∀ bal ∈ balances, ∀ total, inventoryTotal latest bal = some total →
          Near settings bal.total total) ∧
        result = (compared || balances.any fun bal => (inventoryTotal latest bal).isSome) := by
  induction balances generalizing compared with
  | nil =>
      rw [compareInventory, Option.some.injEq, List.any_nil, Bool.or_false, eq_comm]
      exact ⟨fun same => ⟨fun bal member => absurd member List.not_mem_nil, same⟩, And.right⟩
  | cons bal rest ih =>
      rw [compareInventory, List.forall_mem_cons, List.any_cons]
      cases found : inventoryTotal latest bal with
      | none =>
          simp only [ih, Option.isSome_none, Bool.false_or]
          exact ⟨fun both => ⟨⟨fun _ => nofun, both.1⟩, both.2⟩, fun both => ⟨both.1.2, both.2⟩⟩
      | some total =>
          simp only [Option.isSome_some, Bool.true_or, Bool.or_true, Option.some.injEq,
            forall_eq']
          split
          · rename_i near
            rw [ih, Bool.true_or]
            have here := withinBalanceTolerance_iff.mp near
            exact ⟨fun both => ⟨⟨here, both.1⟩, both.2⟩, fun both => ⟨both.1.2, both.2⟩⟩
          · rename_i apart
            refine iff_of_false nofun fun both => apart ?_
            exact withinBalanceTolerance_iff.mpr both.1.1

theorem compareInventory_latest {compared : Bool} :
    compareInventory settings sources.latestInventory false balances = some compared ↔
      (∀ bal ∈ balances, ∀ total, sources.newestTotal bal = some total →
          Near settings bal.total total) ∧
        compared = balances.any fun bal => (sources.newestTotal bal).isSome := by
  rw [compareInventory_eq_some, Bool.false_or]
  simp only [inventoryTotal_latestInventory]

theorem probeWallet_of_near {walletBalance held : Rat}
    (asked : probeWalletUsdcBalance settings sources = some walletBalance)
    (recorded : dbWallet balances = some held) (near : Near settings held walletBalance) :
    probeWallet settings sources balances = (.walletVerified, "") := by
  simp only [probeWallet, asked, recorded]
  rw [if_pos (withinBalanceTolerance_iff.mpr near)]

theorem near_of_probeWallet (known : (probeWallet settings sources balances).1 ≠ .unknown)
    (matched : (probeWallet settings sources balances).1 ≠ .mismatch) :
    ∃ walletBalance held, probeWalletUsdcBalance settings sources = some walletBalance ∧
      dbWallet balances = some held ∧ Near settings held walletBalance := by
  unfold probeWallet at known matched
  split at known
  · rename_i walletBalance held asked recorded
    simp only [asked, recorded] at matched
    split at matched
    · rename_i near
      exact ⟨walletBalance, held, asked, recorded, withinBalanceTolerance_iff.mp near⟩
    · exact absurd rfl matched
  · exact absurd rfl known

/-- A reconciled state is reported as exactly the evidence there is, and without a reason. -/
theorem probe_of_reconciled (reconciled : Reconciled settings sources route balances) :
    probeBalanceStatus settings sources route =
      (evidence settings sources route balances, "") := by
  have sound : balances.any Balance.violates = false := by
    rw [List.any_eq_false]
    intro bal member
    rw [not_violates_iff.mpr (reconciled.sound bal member)]
    exact Bool.false_ne_true
  have compared := compareInventory_latest.mpr ⟨reconciled.undrifted, rfl⟩
  unfold probeBalanceStatus evidence
  simp only [reconciled.read, if_neg reconciled.present, sound, compared]
  by_cases configured : walletConfigured settings route = true
  · obtain ⟨walletBalance, held, asked, recorded, near⟩ := reconciled.wallet configured
    simp only [configured, if_true]
    exact probeWallet_of_near asked recorded near
  · simp only [configured]
    rfl

/-- Any other state is reported as unknown or as a mismatch. -/
theorem reconciled_of_probe
    (known : (probeBalanceStatus settings sources route).1 ≠ .unknown)
    (matched : (probeBalanceStatus settings sources route).1 ≠ .mismatch) :
    ∃ balances, Reconciled settings sources route balances := by
  unfold probeBalanceStatus at known matched
  cases read : sources.balances with
  | none =>
      rw [read] at known
      exact absurd rfl known
  | some balances =>
      simp only [read] at known matched
      split at known
      · exact absurd rfl known
      · rename_i present
        rw [if_neg present] at matched
        split at known
        · rename_i violated
          rw [if_pos violated] at matched
          exact absurd rfl matched
        · rename_i sound
          rw [if_neg sound] at matched
          rw [List.any_eq_true, not_exists] at sound
          have sound : ∀ bal ∈ balances, bal.Sound := fun bal member =>
            not_violates_iff.mp (Bool.eq_false_iff.mpr fun violated => sound bal ⟨member, violated⟩)
          cases drift : compareInventory settings sources.latestInventory false balances with
          | none =>
              rw [drift] at matched
              exact absurd rfl matched
          | some compared =>
              simp only [drift] at known matched
              refine ⟨balances, read, present, sound, (compareInventory_latest.mp drift).1, ?_⟩
              intro configured
              rw [if_pos configured] at known matched
              exact near_of_probeWallet known matched

end Probe

/-- Whatever the store, the inventory and the chain answer: the probe names a level of trust
exactly when they agree, and then the one the evidence has. -/
theorem probe_trusts_iff (settings : BalanceSettings) (sources : BalanceSources) (route : Route) :
    ((probeBalanceStatus settings sources route).1 ∉ [.unknown, .mismatch] ↔
        ∃ balances, Reconciled settings sources route balances) ∧
      ∀ balances, Reconciled settings sources route balances →
        probeBalanceStatus settings sources route =
          (evidence settings sources route balances, "") := by
  refine ⟨⟨fun trusted => ?_, ?_⟩, fun balances reconciled => probe_of_reconciled reconciled⟩
  · simp only [List.mem_cons, List.not_mem_nil, or_false, not_or] at trusted
    exact reconciled_of_probe trusted.1 trusted.2
  · rintro ⟨balances, reconciled⟩
    rw [probe_of_reconciled reconciled, evidence]
    split
    · decide
    · split <;> decide

/-! ### A verdict to trade -/

/-- The scan loop probed these sources at the evaluation. -/
def BalanceProbed (settings : BalanceSettings) (sources : BalanceSources) (runner : Runner) :
    RunnerEvent → Prop
  | (_, .bot (.scan _) probes) => ∀ cursor, runner.bot.scan = .quoting cursor →
      probes.balanceStatus = (probeBalanceStatus settings sources cursor.route).1.text ∧
        probes.balanceReason = (probeBalanceStatus settings sources cursor.route).2
  | _ => True

theorem GlobalRiskManager.evaluate_tradable_balance {settings : Settings}
    {manager : GlobalRiskManager} {now : Instant} {input : Evaluation}
    (tradable : (manager.evaluate settings now input).1.tradable = true) :
    normalizeBalanceConfidence (some input.health.balanceMatchStatus) none ≠ .unknown ∧
      normalizeBalanceConfidence (some input.health.balanceMatchStatus) none ≠ .mismatch ∧
      (requiredBalanceStatus settings input).rank ≤
        (normalizeBalanceConfidence (some input.health.balanceMatchStatus) none).rank := by
  obtain ⟨-, stateless, -⟩ := GlobalRiskManager.evaluate_tradable.mp tradable
  have health : ∀ guard ∈ (healthGuards settings input).drop 14, guard.passes = true :=
    fun guard member => stateless guard (List.mem_append_left _ (List.mem_append_left _
      (List.drop_subset 14 _ member)))
  simp only [healthGuards, List.drop_succ_cons, List.drop_zero, List.forall_mem_cons,
    Bool.and_eq_true, decide_eq_true_eq, balanceConfidenceAtLeast] at health
  exact ⟨health.1.2, health.2.1.2, health.2.2.1⟩

theorem HealthCollector.toRiskSnapshot_balance (collector : HealthCollector) (now : Instant)
    (routeId : String) :
    (collector.toRiskSnapshot now routeId).1.balanceMatchStatus = collector.balanceStatus.text :=
  rfl

theorem Runner.observe_balance (runner : Runner) (now : Instant) (cursor : ScanCursor)
    (answer : Except String QuoteAnswer) (probes : Probes) :
    (runner.observe now cursor answer probes).1.balanceMatchStatus =
      (normalizeBalanceConfidence (some probes.balanceStatus) none).text := by
  rw [Runner.observe, HealthCollector.toRiskSnapshot_balance]
  simp only [HealthCollector.setQualityStatus, RouteQuote.qualityStatus]

/-- Wherever the loop stands when its manager lets a quote trade: the balances it probed agree
with themselves, with the inventory and with the chain as far as the route has a wallet there, and
the evidence is what the mode asks for. -/
theorem tradable_reconciled (settings : Settings) (balance : BalanceSettings) (runner : Runner)
    (event : RunnerEvent) (sources : BalanceSources)
    (probed : BalanceProbed balance sources runner event)
    (tradable : runner.tradable settings event = true) :
    ∃ cursor balances, runner.bot.scan = .quoting cursor ∧
      Reconciled balance sources cursor.route balances ∧
      (if cursor.strategyMode = .live then settings.liveMinBalanceConfidenceStatus
        else .internalOk).rank ≤ (evidence balance sources cursor.route balances).rank := by
  obtain ⟨input, asked, allowed⟩ := Runner.tradable_some tradable
  obtain ⟨answers, probes, cursor, answer, evaluates, place, -, rfl⟩ :=
    Runner.evaluation_some asked
  obtain ⟨now, action⟩ := event
  cases evaluates
  obtain ⟨status, -⟩ := probed cursor place
  obtain ⟨known, matched, level⟩ := GlobalRiskManager.evaluate_tradable_balance allowed
  have read : normalizeBalanceConfidence (some (runner.observe now cursor answer
      probes).1.balanceMatchStatus) none = (probeBalanceStatus balance sources cursor.route).1 := by
    rw [Runner.observe_balance, status, normalizeBalanceConfidence_text,
      normalizeBalanceConfidence_text]
  change normalizeBalanceConfidence (some (runner.observe now cursor answer
    probes).1.balanceMatchStatus) none ≠ _ at known matched
  rw [read] at known matched
  obtain ⟨balances, reconciled⟩ := reconciled_of_probe known matched
  refine ⟨cursor, balances, place, reconciled, ?_⟩
  have found : (probeBalanceStatus balance sources cursor.route).1 =
      evidence balance sources cursor.route balances :=
    congrArg Prod.fst (probe_of_reconciled reconciled)
  rw [← found, ← read]
  exact level

namespace Sample

def walletSettings : BalanceSettings :=
  { hyperevmWalletAddress := " 0x00000000000000000000000000000000000000AB " }

def walletCall : EthCall :=
  { contract := walletSettings.hyperevmUsdc
    data := "0x70a08231" ++ "00000000000000000000000000000000000000000000000000000000000000ab" }

/-- A thousand in the store; the newest inventory and the chain are a few cents apart from it. -/
def walletSources : BalanceSources :=
  { balances := some [{ venue := "hyperevm_wallet", token := "USDC", available := 900
                        reserved := 100, total := 1000 }]
    inventory := some
      [{ timestamp := 5, venue := "hyperevm_wallet", token := "USDC", total := 100 },
        { timestamp := 6, venue := "hyperevm_wallet", token := "USDC", total := 99998 / 100 }]
    node := fun call => if call = walletCall then some 1000004999 else none }

/-- The loop stands at a route on which the probe of these sources verifies the wallet. -/
def verifiesWallet (runner : Runner) : Bool :=
  match runner.bot.scan with
  | .quoting cursor =>
      probeBalanceStatus walletSettings walletSources cursor.route = (.walletVerified, "")
  | _ => false

theorem probed_of_verifiesWallet {runner : Runner} (verified : verifiesWallet runner = true)
    (now : Instant) : BalanceProbed walletSettings walletSources runner (judge now) := by
  intro cursor place
  rw [verifiesWallet, place] at verified
  rw [of_decide_eq_true verified]
  exact ⟨rfl, rfl⟩

end Sample

open Sample (judge)

theorem tradable_reconciled_sample :
    ∃ (runner : Runner) (cursor : ScanCursor) (balances : List Balance),
      runner.tradable Sample.tradingSettings (judge 60000000) = true ∧
      runner.bot.scan = .quoting cursor ∧
      Reconciled Sample.walletSettings Sample.walletSources cursor.route balances ∧
      (if cursor.strategyMode = .live then
          Sample.tradingSettings.liveMinBalanceConfidenceStatus
        else .internalOk).rank ≤
        (evidence Sample.walletSettings Sample.walletSources cursor.route balances).rank := by
  have found : (follow (Runner.step Sample.tradingSettings)
      (.launch Sample.tradingSettings Sample.db 0)
      (Sample.healthRound 50000000 (some 1000000000) ++ Sample.scanRound 60000000)).any
        (fun done => done.2.tradable Sample.tradingSettings (judge 60000000) &&
          Sample.verifiesWallet done.2) = true := by
    decide +kernel
  obtain ⟨done, -, passed⟩ := (Option.any_eq_true _ _).mp found
  rw [Bool.and_eq_true] at passed
  obtain ⟨cursor, balances, place, reconciled, level⟩ :=
    tradable_reconciled Sample.tradingSettings Sample.walletSettings done.2 (judge 60000000)
      Sample.walletSources (Sample.probed_of_verifiesWallet passed.2 _) passed.1
  exact ⟨done.2, cursor, balances, passed.1, place, reconciled, level⟩

end ArbitrageBot
