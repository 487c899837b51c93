/-
`seed_defaults`, which every start runs before the runner reads the tables: an empty table is
filled, a filled one is left alone, and every route is given a runtime state if it has none. The
runner cannot tell the states written here from none at all.
-/

import ArbitrageBot.Backtest.Parameters
import ArbitrageBot.System.BalanceProbe
import ArbitrageBot.System.Restart

namespace ArbitrageBot

structure Strategy where
  name : String
  mode : RunMode
  enabled : Bool
  description : String

structure FeeProfile where
  venue : String
  symbol : String
  makerOrTaker : String
  feeBps : Int
  isFallback : Bool

/-- The tables that are seeded. `route_runtime_states` stands as in `Database`. -/
structure SeedTables where
  strategies : List Strategy
  control : Option RuntimeControl
  routes : List Route
  routeStates : AList (fun _ : String => RouteState)
  balances : List Balance
  feeProfiles : List FeeProfile
  parameterSets : List ParameterSet

/-! ### The rows -/

/-- The settings of a pool's fees agree in all seeded routes. -/
def feeTiers (route : Route) (feeA feeB : Int) : Route :=
  { route with
    quoterFeeTierA := feeA, quoterFeeTierB := feeB, poolFeeTierA := feeA, poolFeeTierB := feeB
    economicFeeBpsA := feeA, economicFeeBpsB := feeB }

def ramsesToHybra (id : String) : Route :=
  feeTiers
    { id, strategy := "hyperevm_dex_dex", name := "ramses_to_hybra_usdc_roundtrip"
      pair := "USDC/USDt0", direction := "forward", venueA := "ramses_v3", venueB := "hybra_v3"
      poolA := "ramses_v3_usdc_usdt0_5", poolB := "hybra_v3_usdt0_usdc_5"
      routerA := "0x0000000000000000000000000000000000000010"
      routerB := "0x0000000000000000000000000000000000000010", maxNotionalUsdc := 100
      enabled := true, isLiveAllowed := true, killSwitch := false } 5 5

def hybraToRamses (id : String) : Route :=
  feeTiers
    { id, strategy := "hyperevm_dex_dex", name := "hybra_to_ramses_usdc_roundtrip"
      pair := "USDC/USDt0", direction := "reverse", venueA := "hybra_v3", venueB := "ramses_v3"
      poolA := "hybra_v3_usdc_usdt0_5", poolB := "ramses_v3_usdt0_usdc_5"
      routerA := "0x0000000000000000000000000000000000000010"
      routerB := "0x0000000000000000000000000000000000000010", maxNotionalUsdc := 100
      enabled := true, isLiveAllowed := true, killSwitch := false } 5 5

def bybitVsUniswap (id : String) : Route :=
  feeTiers
    { id, strategy := "base_virtual_shadow", name := "bybit_vs_uniswap_base"
      pair := "VIRTUAL/USDC", direction := "dex_to_cex", venueA := "bybit"
      venueB := "uniswap_v3_base", poolA := "bybit_spot", poolB := "base_uni_v3_virtual_usdc_100"
      routerA := "bybit", routerB := "uniswap_v3_base", maxNotionalUsdc := 100
      enabled := true, isLiveAllowed := false, killSwitch := false } 10 100

def mexcVsPancake (id : String) : Route :=
  feeTiers
    { id, strategy := "base_virtual_shadow", name := "mexc_vs_pancake_base"
      pair := "VIRTUAL/USDC", direction := "dex_to_cex", venueA := "mexc"
      venueB := "pancakeswap_v3_base", poolA := "mexc_spot"
      poolB := "base_cake_v3_virtual_usdc_100", routerA := "mexc", routerB := "pancake_v3_base"
      maxNotionalUsdc := 100, enabled := true, isLiveAllowed := false, killSwitch := false } 5 100

/-- The routes, under the ids that `new_id` draws. -/
def seededRoutes (newId : Nat → String) : List Route :=
  [ramsesToHybra (newId 0), hybraToRamses (newId 1), bybitVsUniswap (newId 2),
    mexcVsPancake (newId 3)]

def seededStrategies : List Strategy :=
  [ { name := "hyperevm_dex_dex", mode := .paper, enabled := true
      description := "HyperEVM DEX-DEX" },
    { name := "base_virtual_shadow", mode := .paper, enabled := true
      description := "Base CEX-DEX shadow" } ]

def seededBalances : List Balance :=
  [{ venue := "hyperevm_wallet", token := "USDC", available := 1000, reserved := 0, total := 1000 }]

def fallbackFee (venue makerOrTaker : String) (feeBps : Int) : FeeProfile :=
  { venue, symbol := "VIRTUALUSDC", makerOrTaker, feeBps, isFallback := true }

def seededFeeProfiles : List FeeProfile :=
  [fallbackFee "bybit" "maker" 10, fallbackFee "bybit" "taker" 15, fallbackFee "mexc" "maker" 0,
    fallbackFee "mexc" "taker" 5]

/-- The parameter sets. Their ids are drawn after the routes', and each row reads the clock. -/
def seededParameterSets (newId : Nat → String) (utcnow : Nat → Instant) : List ParameterSet :=
  [ { id := newId 4, name := "default_conservative", strategy := "hyperevm_dex_dex"
      description := "Conservative baseline for commissioning replay/backtest"
      paramsJson := PythonJson.dumps SeededProfile.conservative.params
      isDefault := true, createdAt := utcnow 0 },
    { id := newId 5, name := "default_observation_lenient", strategy := "hyperevm_dex_dex"
      description :=
        "Observation-focused replay with permissive thresholds but conservative penalties"
      paramsJson := PythonJson.dumps SeededProfile.observationLenient.params
      isDefault := false, createdAt := utcnow 1 },
    { id := newId 6, name := "default_shadow_review", strategy := "base_virtual_shadow"
      description :=
        "Shadow review profile with conservative fee/balance verification requirements"
      paramsJson := PythonJson.dumps SeededProfile.shadowReview.params
      isDefault := true, createdAt := utcnow 2 },
    { id := newId 7, name := "default_live_readiness_gate", strategy := "hyperevm_dex_dex"
      description := "Strict readiness gate profile for live migration review"
      paramsJson := PythonJson.dumps SeededProfile.liveReadinessGate.params
      isDefault := false, createdAt := utcnow 3 } ]

/-! ### Seeding -/

/-- The rows of a table that was empty. -/
def orSeeded {α : Type} (rows seeded : List α) : List α := if rows.isEmpty then seeded else rows

/-- A new row is the latest update. -/
def ensureState (states : AList (fun _ : String => RouteState)) (route : Route) :
    AList (fun _ : String => RouteState) :=
  if (states.lookup route.id).isSome then states else states.insert route.id idleRow

namespace SeedTables

def ensureRouteRuntimeStates (tables : SeedTables) : SeedTables :=
  { tables with routeStates := tables.routes.foldl ensureState tables.routeStates }

def ensureDefaultParameterSets (newId : Nat → String) (utcnow : Nat → Instant)
    (tables : SeedTables) : SeedTables :=
  { tables with parameterSets := orSeeded tables.parameterSets (seededParameterSets newId utcnow) }

def seedDefaults (newId : Nat → String) (utcnow : Nat → Instant) (tables : SeedTables) :
    SeedTables :=
  ensureDefaultParameterSets newId utcnow <| ensureRouteRuntimeStates
    { tables with
      strategies := orSeeded tables.strategies seededStrategies
      control := tables.control.or (some { mode := .paper, globalPause := false })
      routes := orSeeded tables.routes (seededRoutes newId)
      balances := orSeeded tables.balances seededBalances
      feeProfiles := orSeeded tables.feeProfiles seededFeeProfiles }

/-- What the runner reads of the tables when it starts. -/
def database (tables : SeedTables) : Database :=
  { control := tables.control.getD {}, routes := tables.routes, routeStates := tables.routeStates }

end SeedTables

/-- No row is lost or changed, an empty table apart, and the new states are idle ones. -/
structure Seeded (before after : SeedTables) : Prop where
  strategies : before.strategies ≠ [] → after.strategies = before.strategies
  control : ∀ control, before.control = some control → after.control = some control
  routes : before.routes ≠ [] → after.routes = before.routes
  balances : before.balances ≠ [] → after.balances = before.balances
  feeProfiles : before.feeProfiles ≠ [] → after.feeProfiles = before.feeProfiles
  parameterSets : before.parameterSets ≠ [] → after.parameterSets = before.parameterSets
  states : ∀ routeId, after.routeStates.lookup routeId = before.routeStates.lookup routeId ∨
    before.routeStates.lookup routeId = none ∧ after.routeStates.lookup routeId = some idleRow ∧
      ∃ route ∈ after.routes, route.id = routeId
  covered : ∀ route ∈ after.routes, (after.routeStates.lookup route.id).isSome = true

section Ensure

variable {states : AList (fun _ : String => RouteState)} {routes : List Route}

theorem orSeeded_of_ne_nil {α : Type} {rows seeded : List α} (filled : rows ≠ []) :
    orSeeded rows seeded = rows := by
  rw [orSeeded, if_neg (by simpa using filled)]

theorem orSeeded_ne_nil {α : Type} {rows seeded : List α} (filled : seeded ≠ []) :
    orSeeded rows seeded ≠ [] := by
  unfold orSeeded
  split
  · exact filled
  · simpa using ‹¬rows.isEmpty = true›

theorem lookup_ensureState (route : Route) (routeId : String) :
    (ensureState states route).lookup routeId =
      if routeId = route.id then some ((states.lookup routeId).getD idleRow)
      else states.lookup routeId := by
  unfold ensureState
  by_cases same : routeId = route.id
  · subst same
    rw [if_pos rfl]
    cases stored : states.lookup route.id with
    | none => exact AList.lookup_insert _
    | some row => exact stored
  · rw [if_neg same]
    split
    · rfl
    · exact AList.lookup_insert_ne same

theorem lookup_ensureAll (routeId : String) :
    (routes.foldl ensureState states).lookup routeId =
      if ∃ route ∈ routes, route.id = routeId then some ((states.lookup routeId).getD idleRow)
      else states.lookup routeId := by
  -- the routes are gone through in turn, each adding its own row at most
  induction routes generalizing states with
  | nil => simp
  | cons route rest ih =>
      rw [List.foldl_cons, ih, lookup_ensureState]
      by_cases here : routeId = route.id
      · subst here
        simp
      · have other : ¬ route.id = routeId := fun same => here same.symm
        simp [here, other]

/-- Where every route has its row, nothing is added. -/
theorem ensureAll_of_covered
    (covered : ∀ route ∈ routes, (states.lookup route.id).isSome = true) :
    routes.foldl ensureState states = states := by
  induction routes with
  | nil => rfl
  | cons route rest ih =>
      rw [List.foldl_cons, ensureState, if_pos (covered route List.mem_cons_self)]
      exact ih fun other member => covered other (.tail route member)

end Ensure

namespace SeedTables

variable {newId : Nat → String} {utcnow : Nat → Instant} {tables : SeedTables}

theorem seedDefaults_seeded (newId : Nat → String) (utcnow : Nat → Instant)
    (tables : SeedTables) : Seeded tables (tables.seedDefaults newId utcnow) where
  strategies filled := orSeeded_of_ne_nil filled
  control control stored := by
    rw [seedDefaults, ensureDefaultParameterSets, ensureRouteRuntimeStates, stored]
    rfl
  routes filled := orSeeded_of_ne_nil filled
  balances filled := orSeeded_of_ne_nil filled
  feeProfiles filled := orSeeded_of_ne_nil filled
  parameterSets filled := orSeeded_of_ne_nil filled
  states routeId := by
    have found := @lookup_ensureAll tables.routeStates
      (orSeeded tables.routes (seededRoutes newId)) routeId
    change (_ = _) ∨ (_ ∧ _ = _ ∧ _)
    cases stored : tables.routeStates.lookup routeId with
    | some row =>
        left
        rw [stored, Option.getD_some, ite_self] at found
        exact found
    | none =>
        rw [stored] at found
        by_cases known : ∃ route ∈ orSeeded tables.routes (seededRoutes newId), route.id = routeId
        · rw [if_pos known] at found
          exact .inr ⟨rfl, found, known⟩
        · rw [if_neg known] at found
          exact .inl found
  covered route member := by
    have found := @lookup_ensureAll tables.routeStates
      (orSeeded tables.routes (seededRoutes newId)) route.id
    rw [if_pos ⟨route, member, rfl⟩] at found
    exact Option.isSome_of_eq_some found

theorem seedDefaults_filled (filled : tables.strategies ≠ [] ∧ tables.control.isSome = true ∧
      tables.routes ≠ [] ∧ tables.balances ≠ [] ∧ tables.feeProfiles ≠ [] ∧
      tables.parameterSets ≠ [])
    (covered : ∀ route ∈ tables.routes, (tables.routeStates.lookup route.id).isSome = true) :
    tables.seedDefaults newId utcnow = tables := by
  obtain ⟨strategies, control, routes, balances, feeProfiles, parameterSets⟩ := filled
  obtain ⟨stored, same⟩ := Option.isSome_iff_exists.mp control
  rw [seedDefaults, orSeeded_of_ne_nil strategies, orSeeded_of_ne_nil routes,
    orSeeded_of_ne_nil balances, orSeeded_of_ne_nil feeProfiles, same, Option.some_or, ← same]
  rw [ensureRouteRuntimeStates, ensureAll_of_covered covered, ensureDefaultParameterSets,
    orSeeded_of_ne_nil parameterSets]

theorem seedDefaults_control_isSome :
    (tables.seedDefaults newId utcnow).control.isSome = true := by
  rw [seedDefaults, ensureDefaultParameterSets, ensureRouteRuntimeStates]
  cases tables.control <;> rfl

theorem seedDefaults_persistedState (routeId : String) :
    (tables.seedDefaults newId utcnow).database.persistedState routeId =
      tables.database.persistedState routeId := by
  have kept := (seedDefaults_seeded newId utcnow tables).states routeId
  simp only [Database.persistedState, Database.getRouteRuntimeState, database]
  rcases kept with same | ⟨absent, idle, -⟩
  · rw [same]
  · rw [absent, idle]
    rfl

end SeedTables

/-- Seeding, from whatever is in the tables, under whatever new ids and whatever clock: it loses
nothing and gives every route a state; doing it again changes nothing; and the manager that is
then restored from the states knows of every route what it would have known without. -/
theorem seeding_keeps_state (tables : SeedTables) (newId : Nat → String)
    (utcnow : Nat → Instant) :
    Seeded tables (tables.seedDefaults newId utcnow) ∧
      (∀ laterId laterClock,
        (tables.seedDefaults newId utcnow).seedDefaults laterId laterClock =
          tables.seedDefaults newId utcnow) ∧
      ∀ settings created hydratedAt globalKillSwitch routeId,
        (restarted settings (tables.seedDefaults newId utcnow).database created hydratedAt
            globalKillSwitch).getRouteState routeId =
          (restarted settings tables.database created hydratedAt
            globalKillSwitch).getRouteState routeId := by
  have seeded := SeedTables.seedDefaults_seeded newId utcnow tables
  refine ⟨seeded, fun laterId laterClock => ?_,
    fun settings created hydratedAt globalKillSwitch routeId => ?_⟩
  · apply SeedTables.seedDefaults_filled _ seeded.covered
    exact ⟨orSeeded_ne_nil (List.cons_ne_nil _ _), SeedTables.seedDefaults_control_isSome,
      orSeeded_ne_nil (List.cons_ne_nil _ _), orSeeded_ne_nil (List.cons_ne_nil _ _),
      orSeeded_ne_nil (List.cons_ne_nil _ _), orSeeded_ne_nil (List.cons_ne_nil _ _)⟩
  · rw [restarted_getRouteState, restarted_getRouteState,
      SeedTables.seedDefaults_persistedState]

end ArbitrageBot
