/-
One replay from its request to the stored run: the parameters it is evaluated
with and the notes that record its mode.
-/

import ArbitrageBot.Backtest.History
import ArbitrageBot.Backtest.Parameters

namespace ArbitrageBot

open Fallible PythonDecimal PythonJson PythonText

inductive ReplayMode
  | opportunities | opportunitiesLegacy | marketSnapshots
deriving DecidableEq, Repr

def ReplayMode.text : ReplayMode → String
  | .opportunities => "opportunities"
  | .opportunitiesLegacy => "opportunities_legacy"
  | .marketSnapshots => "market_snapshots"

/-- What a caller passes to `run`, save the pair and the window that select the rows. -/
structure RunRequest where
  strategy : String
  routeId : String
  parameterSetId : Option String
  notes : String
  replayMode : String

structure ReplayRows where
  opportunities : List OpportunityRow
  snapshots : List MarketSnapshot
  health : List RouteHealthRow

structure RecordedRun where
  run : BacktestRun
  parameterSetId : Option String

/-- The decimals of a row of `backtest_results`, as its columns keep them. -/
structure StoredFigures where
  simulatedPnl : Decimal
  hitRate : Decimal
  avgModeledEdgeBps : Decimal
  avgRealizedLikePnl : Decimal
  maxDrawdown : Decimal

structure RecordedResult where
  parameterSet : JsonObject
  replayMode : ReplayMode
  finished : BacktestEngine.Finished
  stored : StoredFigures

structure RunReturn where
  recorded : RecordedRun
  result : Option RecordedResult

namespace BacktestEngine

def normalizeReplayMode (raw : String) : ReplayMode :=
  let value := lower (strip raw)
  if value ∈ ["market_snapshots", "market-snapshots", "snapshot", "snapshots"] then
    .marketSnapshots
  else if value ∈ ["opportunities_legacy", "opportunities-legacy", "legacy"] then
    .opportunitiesLegacy
  else .opportunities

def runNotes (notes : String) (mode : ReplayMode) : String :=
  let notes := strip notes
  if notes ≠ "" then notes ++ " | replay_mode=" ++ mode.text else "replay_mode=" ++ mode.text

def evaluate (mode : ReplayMode) (key : RunKey) (rows : ReplayRows) (params : JsonObject) :
    Except String Finished :=
  match mode with
  | .marketSnapshots => evaluateMarketSnapshotRows key rows.snapshots rows.health params
  | .opportunities => evaluateOpportunityRows key rows.opportunities params false
  | .opportunitiesLegacy => evaluateOpportunityRows key rows.opportunities params true

/-- `create_backtest_run`. A database that enforces foreign keys refuses an unknown set. -/
def createBacktestRun (store : ParameterStore) (enforcesKeys : Bool) (runId : String)
    (request : RunRequest) (notes : String) : Except String RecordedRun :=
  if enforcesKeys && request.parameterSetId.any fun id => (store.getParameterSet id).isNone then
    .error "FOREIGN KEY constraint failed"
  else
    .ok
      { run := { id := runId, routeId := request.routeId, notes }
        parameterSetId := request.parameterSetId }

def insertBacktestResult (columns : NumericColumns) (report : ReplayOutcome) :
    Except String StoredFigures := do
  let simulatedPnl ← columns.decimal18_8 report.simulatedPnl
  let hitRate ← columns.decimal10_5 report.hitRate
  let avgModeledEdgeBps ← columns.decimal10_5 report.avgModeledEdgeBps
  let avgRealizedLikePnl ← columns.decimal18_8 report.avgRealizedLikePnl
  let maxDrawdown ← columns.decimal18_8 report.maxDrawdown
  return { simulatedPnl, hitRate, avgModeledEdgeBps, avgRealizedLikePnl, maxDrawdown }

def evaluateAndStore (mode : ReplayMode) (key : RunKey) (rows : ReplayRows)
    (params : JsonObject) : Except String (Finished × StoredFigures) := do
  let finished ← evaluate mode key rows params
  let stored ← insertBacktestResult key.columns finished.1
  return (finished, stored)

/-- `finish_backtest_run` -/
def RecordedRun.finish (recorded : RecordedRun) (status : String) : RecordedRun :=
  { recorded with run := { recorded.run with status } }

def run (loads : String → Option JsonDocument) (store : ParameterStore) {settings : Settings}
    (texts : BuiltinTexts settings) (enforcesKeys : Bool) (columns : NumericColumns)
    (runId : String) (request : RunRequest) (rows : ReplayRows) : Except String RunReturn := do
  let params := resolveParams loads store texts request.strategy request.parameterSetId
  let mode := normalizeReplayMode request.replayMode
  let created ←
    createBacktestRun store enforcesKeys runId request (runNotes request.notes mode)
  match evaluateAndStore mode { runId, routeId := request.routeId, columns } rows params with
  | .ok (finished, stored) =>
    return {
      recorded := RecordedRun.finish created "completed"
      result := some { parameterSet := params, replayMode := mode, finished, stored } }
  | .error _ => return { recorded := RecordedRun.finish created "failed", result := none }

/-! ### The mode in the notes -/

/-- A part of the notes that `_extract_replay_mode_from_notes` stops at. -/
def isTagged (part : String) : Bool := "replay_mode=".toList.isPrefixOf (lower part).toList

def taggedMode (part : String) : String :=
  lower (strip (String.ofList ((part.toList.dropWhile (· ≠ '=')).drop 1)))

def noteParts (notes : String) : List String := (splitOn '|' notes).map strip

theorem extractReplayModeFromNotes_eq (notes : String) :
    extractReplayModeFromNotes notes =
      match (noteParts notes).find? isTagged with
      | none => "unknown"
      | some part => if taggedMode part = "" then "unknown" else taggedMode part := rfl

theorem noteParts_eq (notes : String) :
    noteParts notes =
      (splitCharsOn '|' notes.toList).map fun piece => strip (String.ofList piece) :=
  List.map_map

/-- The tag that a run writes, behind the separator of the notes. -/
theorem noteParts_tag (mode : ReplayMode) :
    (splitCharsOn '|' (" replay_mode=" ++ mode.text).toList).map
        (fun piece => strip (String.ofList piece)) = ["replay_mode=" ++ mode.text] := by
  cases mode <;> decide +kernel

theorem noteParts_runNotes {notes : String} (mode : ReplayMode) (some_ : strip notes ≠ "") :
    noteParts (runNotes notes mode) =
      noteParts (strip notes) ++ ["replay_mode=" ++ mode.text] := by
  have spelled : (strip notes ++ " | replay_mode=" ++ mode.text).toList =
      ((strip notes).toList ++ [' ']) ++ '|' :: (" replay_mode=" ++ mode.text).toList := by
    have separator : " | replay_mode=".toList = [' ', '|'] ++ " replay_mode=".toList := by decide
    simp only [String.toList_append, separator, List.append_assoc, List.cons_append,
      List.nil_append]
  obtain ⟨front, piece, own, longer⟩ :=
    @splitCharsOn_concat '|' ' ' (by decide) (strip notes).toList
  have space : strip (String.ofList (piece ++ [' '])) = strip (String.ofList piece) :=
    strip_concat (by decide) piece
  have stored : runNotes notes mode = strip notes ++ " | replay_mode=" ++ mode.text :=
    if_pos some_
  rw [stored, noteParts_eq, noteParts_eq, spelled, splitCharsOn_append, own, longer,
    List.map_append, noteParts_tag, List.map_append, List.map_append, List.map_singleton,
    List.map_singleton, space]

/-- The first part of the user's notes that is tagged, if any is, names the mode of the run. -/
def NotesKeepMode (notes : String) (mode : ReplayMode) : Prop :=
  ∀ part, (noteParts (strip notes)).find? isTagged = some part → taggedMode part = mode.text

theorem tag_read (mode : ReplayMode) :
    isTagged ("replay_mode=" ++ mode.text) = true ∧
      taggedMode ("replay_mode=" ++ mode.text) = mode.text ∧ mode.text ≠ "" := by
  cases mode <;> decide +kernel

theorem extract_runNotes_iff (notes : String) (mode : ReplayMode) :
    extractReplayModeFromNotes (runNotes notes mode) = mode.text ↔ NotesKeepMode notes mode := by
  obtain ⟨tagged, read, named⟩ := tag_read mode
  by_cases some_ : strip notes ≠ ""
  · rw [extractReplayModeFromNotes_eq, noteParts_runNotes mode some_, List.find?_append]
    cases first : (noteParts (strip notes)).find? isTagged with
    | none =>
        have own : NotesKeepMode notes mode := by
          intro part found
          rw [first] at found
          cases found
        refine iff_of_true ?_ own
        simp only [Option.none_or, List.find?_cons_of_pos tagged, read, if_neg named]
    | some part =>
        have own : NotesKeepMode notes mode ↔ taggedMode part = mode.text := by
          simp only [NotesKeepMode, first, Option.some.injEq, forall_eq']
        rw [own]
        change (if taggedMode part = "" then "unknown" else taggedMode part) = mode.text ↔ _
        split
        · rename_i empty
          rw [empty]
          refine iff_of_false ?_ (Ne.symm named)
          cases mode <;> decide
        · rfl
  · have nothing := not_not.mp some_
    have own : NotesKeepMode notes mode := by
      have untagged : (noteParts "").find? isTagged = none := by decide
      intro part found
      rw [nothing, untagged] at found
      cases found
    refine iff_of_true ?_ own
    simp only [runNotes, nothing, ne_eq, not_true_eq_false, if_false]
    cases mode <;> decide +kernel

/-- The mode of a run survives its notes exactly when no tag of the user's own comes first and
names another one. -/
theorem replay_mode_survives_iff (notes replayMode : String) :
    let mode := normalizeReplayMode replayMode
    extractReplayModeFromNotes (runNotes notes mode) = mode.text ↔ NotesKeepMode notes mode := by
  intro mode
  exact extract_runNotes_iff notes mode

theorem copied_notes_name_another_mode :
    extractReplayModeFromNotes
        (runNotes "rerun | replay_mode=market_snapshots" (normalizeReplayMode "opportunities")) ≠
      (normalizeReplayMode "opportunities").text := by
  decide +kernel

/-! ### The parameters of a completed run -/

section Completed

variable {loads : String → Option JsonDocument} {store : ParameterStore} {settings : Settings}
  {texts : BuiltinTexts settings} {enforcesKeys : Bool} {columns : NumericColumns}
  {runId : String} {request : RunRequest} {rows : ReplayRows} {returned : RunReturn}
  {result : RecordedResult}

theorem createBacktestRun_records {notes : String} {created : RecordedRun}
    (creates : createBacktestRun store enforcesKeys runId request notes = .ok created) :
    created.parameterSetId = request.parameterSetId := by
  unfold createBacktestRun at creates
  split at creates
  · cases creates
  · cases creates
    rfl

/-- What is stored of a completed run: its parameters are the resolved ones, its set is the
requested one, and its outcome is that of the evaluation. -/
theorem run_completed
    (ran : run loads store texts enforcesKeys columns runId request rows = .ok returned)
    (completed : returned.result = some result) :
    result.parameterSet = resolveParams loads store texts request.strategy request.parameterSetId ∧
      returned.recorded.parameterSetId = request.parameterSetId ∧
      returned.recorded.run.status = "completed" ∧
      evaluateAndStore result.replayMode { runId, routeId := request.routeId, columns } rows
        result.parameterSet = .ok (result.finished, result.stored) := by
  obtain ⟨created, creates, ran⟩ := bind_eq_ok.mp ran
  have recorded := createBacktestRun_records creates
  cases evaluated : evaluateAndStore (normalizeReplayMode request.replayMode)
      { runId, routeId := request.routeId, columns } rows
      (resolveParams loads store texts request.strategy request.parameterSetId) with
  | error reason =>
      rw [evaluated] at ran
      cases ran
      cases completed
  | ok outcome =>
      rw [evaluated] at ran
      cases ran
      cases completed
      refine ⟨rfl, recorded, rfl, ?_⟩
      dsimp only
      exact evaluated

/-- The requested set is an object with entries. -/
structure SetEntries (loads : String → Option JsonDocument) (store : ParameterStore) (id : String)
    (entries : JsonObject) : Prop where
  found : ∃ set, store.getParameterSet id = some set ∧
    loads set.paramsJson = some (.object entries)
  some_ : entries ≠ []

theorem requestedParams_eq_some {id : String} {entries : JsonObject}
    (set : SetEntries loads store id entries) :
    requestedParams loads store (some id) = some entries := by
  obtain ⟨⟨row, found, parsed⟩, some_⟩ := set
  have search : store.sets.find? (fun set => set.id = id) = some row := found
  have sameId : row.id = id := by simpa using List.find?_some search
  have named : id ≠ "" := sameId ▸ store.named row (List.mem_of_find?_eq_some search)
  have params : setParams loads row = some entries := by
    simp only [setParams, safeJson, parsed, if_neg some_]
  simp only [requestedParams, bind, Option.bind, if_neg named, found, params]

theorem resolveParams_of_set {id strategy : String} {entries : JsonObject}
    (set : SetEntries loads store id entries) :
    resolveParams loads store texts strategy (some id) = entries := by
  rw [resolveParams, requestedParams_eq_some set]
  rfl

/-- The run was evaluated with the requested set, and reads it as it would read the set over the
built-in dictionary. -/
structure EvaluatedAsRequested (loads : String → Option JsonDocument) (store : ParameterStore)
    {settings : Settings} (texts : BuiltinTexts settings) (id : String)
    (result : RecordedResult) : Prop where
  set : SetEntries loads store id result.parameterSet
  overBuiltin : ReadAlike settings result.parameterSet
    (result.parameterSet ++ builtinParams texts)

/-- A completed run was evaluated as requested exactly when the requested set exists, is an object
with entries and leaves out nothing that the built-in dictionary would change. -/
theorem completed_as_requested_iff (id : String) (requested : request.parameterSetId = some id)
    (ran : run loads store texts enforcesKeys columns runId request rows = .ok returned)
    (completed : returned.result = some result) :
    EvaluatedAsRequested loads store texts id result ↔
      ∃ entries, SetEntries loads store id entries ∧ CoversBuiltin settings entries := by
  obtain ⟨resolved, -, -, -⟩ := run_completed ran completed
  constructor
  · intro evaluated
    exact ⟨result.parameterSet, evaluated.set,
      (readAlike_overlay_iff texts _).mp evaluated.overBuiltin⟩
  · intro covered
    obtain ⟨entries, set, covers⟩ := covered
    rw [requested, resolveParams_of_set set] at resolved
    subst resolved
    exact ⟨set, (readAlike_overlay_iff texts _).mpr covers⟩

end Completed

end BacktestEngine

/-! ### Requests for a full set, for a shipped one and for none -/

namespace Sample

open BacktestEngine

def shippedTexts : BuiltinTexts shipped :=
  { minEdge := ⟨"30", by decide +kernel⟩
    maxSlippage := ⟨"2", by decide +kernel⟩
    maxQuoteAge := ⟨"3", by decide +kernel⟩
    gas := ⟨"2", by decide +kernel⟩
    quoteDrift := ⟨"3", by decide +kernel⟩
    latency := ⟨"1", by decide +kernel⟩
    liquidityCap := ⟨"0.0002", by decide +kernel⟩ }

/-- The set `default_conservative` that the repository seeds. -/
def conservativeSet : JsonObject := SeededProfile.conservative.params

def fullSet : JsonObject :=
  conservativeSet ++
    [("fallback_fee_penalty_bps", .number "4"), ("unverified_fee_penalty_bps", .number "4"),
      ("unverified_balance_penalty_bps", .number "4")]

def setOf (id : String) (entries : JsonObject) : ParameterSet :=
  { id, name := id, strategy := "hyperevm_dex_dex", description := ""
    paramsJson := dumps entries, isDefault := true, createdAt := 0 }

def seededStore : ParameterStore :=
  { sets := [setOf "default_conservative" conservativeSet, setOf "full" fullSet]
    distinct := by decide
    named := by decide }

def loadsSets : String → Option JsonDocument := loadsOf [conservativeSet, fullSet]

def requestFor (id : String) : RunRequest :=
  { strategy := "hyperevm_dex_dex", routeId := route.id, parameterSetId := some id, notes := ""
    replayMode := "opportunities" }

def noRows : ReplayRows := { opportunities := [], snapshots := [], health := [] }

theorem conservativeSet_entries :
    SetEntries loadsSets seededStore "default_conservative" conservativeSet :=
  ⟨⟨setOf "default_conservative" conservativeSet, by decide +kernel, by decide +kernel⟩,
    by decide⟩

theorem fullSet_entries : SetEntries loadsSets seededStore "full" fullSet :=
  ⟨⟨setOf "full" fullSet, by decide +kernel, by decide +kernel⟩, by decide⟩

theorem request_completes (id : String)
    (completes : (run loadsSets seededStore shippedTexts true runKey.columns "run" (requestFor id)
      noRows).toOption.any (fun returned => returned.result.isSome) = true) :
    ∃ returned result,
      run loadsSets seededStore shippedTexts true runKey.columns "run" (requestFor id) noRows =
        .ok returned ∧ returned.result = some result := by
  obtain ⟨returned, ran, stored⟩ := ok_of_any completes
  obtain ⟨result, completed⟩ := Option.isSome_iff_exists.mp stored
  exact ⟨returned, result, ran, completed⟩

end Sample

theorem BacktestEngine.completed_as_requested_iff_full :
    ∃ returned result,
      run Sample.loadsSets Sample.seededStore Sample.shippedTexts true Sample.runKey.columns "run"
          (Sample.requestFor "full") Sample.noRows = .ok returned ∧
        returned.result = some result ∧
        EvaluatedAsRequested Sample.loadsSets Sample.seededStore Sample.shippedTexts "full"
          result := by
  obtain ⟨returned, result, ran, completed⟩ := Sample.request_completes "full" (by decide +kernel)
  have covers : CoversBuiltin shipped Sample.fullSet := by
    unfold CoversBuiltin
    decide +kernel
  exact ⟨returned, result, ran, completed,
    (completed_as_requested_iff "full" rfl ran completed).mpr
      ⟨Sample.fullSet, Sample.fullSet_entries, covers⟩⟩

/-- The seeded set leaves out three penalties, which its replays then do not charge. -/
theorem BacktestEngine.seeded_set_omits_penalties :
    ∃ returned result,
      run Sample.loadsSets Sample.seededStore Sample.shippedTexts true Sample.runKey.columns "run"
          (Sample.requestFor "default_conservative") Sample.noRows = .ok returned ∧
        returned.result = some result ∧
        ¬EvaluatedAsRequested Sample.loadsSets Sample.seededStore Sample.shippedTexts
          "default_conservative" result := by
  obtain ⟨returned, result, ran, completed⟩ :=
    Sample.request_completes "default_conservative" (by decide +kernel)
  refine ⟨returned, result, ran, completed, fun evaluated => ?_⟩
  have resolved := (run_completed ran completed).1
  have own : resolveParams Sample.loadsSets Sample.seededStore Sample.shippedTexts
      "hyperevm_dex_dex" (some "default_conservative") = Sample.conservativeSet :=
    resolveParams_of_set Sample.conservativeSet_entries
  have params : result.parameterSet = Sample.conservativeSet := resolved.trans own
  have covers := (readAlike_overlay_iff Sample.shippedTexts _).mp evaluated.overBuiltin
  rw [params] at covers
  have omitted : ¬CoversBuiltin shipped Sample.conservativeSet := by
    unfold CoversBuiltin
    decide +kernel
  exact omitted covers

end ArbitrageBot
