/-
Migration 0004 beside the read path: the CASE expressions that rewrite the
statuses of `route_health_snapshots`, and the normalizers that read them.
-/

import ArbitrageBot.Readiness.Readiness

namespace ArbitrageBot

open PythonText

/-! ### SQL -/

/-- `trim`: the space character only. -/
def sqlTrim (text : String) : String :=
  String.ofList
    ((text.toList.dropWhile (· = ' ')).reverse.dropWhile (· = ' ')).reverse

def asciiLower (char : Char) : Char :=
  if 'A' ≤ char ∧ char ≤ 'Z' then Char.ofNat (char.toNat + 32) else char

def sqlLower (text : String) : String :=
  String.ofList (text.toList.map asciiLower)

/-- `lower(trim(coalesce(column, '')))` -/
def sqlValue (column : Option String) : String :=
  sqlLower (sqlTrim (column.getD ""))

/-- `CASE WHEN value IN (...) THEN ... ELSE 'unknown' END` -/
def caseWhen (branches : List (List String × String)) (value : String) : String :=
  match branches with
  | [] => "unknown"
  | (inputs, output) :: rest => if value ∈ inputs then output else caseWhen rest value

def supportBranches : List (List String × String) :=
  [ (["supported", "good", "ok", "true", "1", "yes"], "supported"),
    (["unsupported", "bad", "false", "0", "no"], "unsupported") ]

def feeBranches : List (List String × String) :=
  [ (["unknown", ""], "unknown"),
    (["fallback_only"], "fallback_only"),
    (["fallback", "fallback_fee"], "fallback_only"),
    (["config_only"], "config_only"),
    (["config", "configured", "configured_economic_fee"], "config_only"),
    (["venue_declared"], "venue_declared"),
    (["venue_default", "venue_specific", "symbol_override"], "venue_declared"),
    (["acct_verified", "account_verified"], "acct_verified"),
    (["chain_verified", "chain_pool_fee"], "chain_verified"),
    (["good", "true", "1", "yes"], "config_only"),
    (["bad", "false", "0", "no"], "unknown") ]

def balanceBranches : List (List String × String) :=
  [ (["unknown", ""], "unknown"),
    (["venue_verified"], "venue_verified"),
    (["venue"], "venue_verified"),
    (["wallet_verified"], "wallet_verified"),
    (["wallet"], "wallet_verified"),
    (["db_inventory_ok"], "db_inventory_ok"),
    (["db_inventory", "inventory"], "db_inventory_ok"),
    (["internal_ok"], "internal_ok"),
    (["internal", "good", "true", "1", "yes"], "internal_ok"),
    (["mismatch", "inventory_drift", "wallet_balance_mismatch", "bad", "false", "0", "no"],
      "mismatch") ]

def quoteMatchBranches : List (List String × String) :=
  [ (["matched", "good", "true", "1", "yes"], "matched"),
    (["mismatch", "bad", "false", "0", "no"], "mismatch") ]

/-- `upgrade`, on one row. -/
def RouteHealth.upgrade (row : RouteHealth) : RouteHealth :=
  { row with
    supportStatus := some (caseWhen supportBranches (sqlValue row.supportStatus))
    feeKnownStatus := some (caseWhen feeBranches (sqlValue row.feeKnownStatus))
    balanceMatchStatus := some (caseWhen balanceBranches (sqlValue row.balanceMatchStatus))
    quoteMatchStatus := some (caseWhen quoteMatchBranches (sqlValue row.quoteMatchStatus)) }

/-- `_canonicalize_route_health_row` -/
def RouteHealth.canonicalize (row : RouteHealth) : RouteHealth :=
  { row with
    supportStatus := some (normalizeSupportStatus row.supportStatus).text
    feeKnownStatus := some (normalizeFeeConfidence row.feeKnownStatus none).text
    balanceMatchStatus := some (normalizeBalanceConfidence row.balanceMatchStatus none).text
    quoteMatchStatus := some (normalizeQuoteMatchStatus row.quoteMatchStatus).text }

/-! ### Where SQL and Python read the same value -/

/-- ASCII text between spaces. -/
structure SpacePadded (text : String) : Prop where
  padding : ∃ left core right,
    text.toList = List.replicate left ' ' ++ core ++ List.replicate right ' ' ∧
      (∀ char ∈ core, char.toNat < 128) ∧
      (∀ char, core.head? = some char → isSpace char = false) ∧
      ∀ char, core.getLast? = some char → isSpace char = false

theorem SpacePadded.of_checks (left : Nat) (core : List Char) (right : Nat) {text : String}
    (split : text.toList = List.replicate left ' ' ++ core ++ List.replicate right ' ')
    (ascii : (core.all fun char => char.toNat < 128) = true)
    (head : core.head?.any isSpace = false) (last : core.getLast?.any isSpace = false) :
    SpacePadded text := by
  refine ⟨left, core, right, split, ?_, ?_, ?_⟩
  · simpa using ascii
  · intro char found
    simpa [found] using head
  · intro char found
    simpa [found] using last

theorem stripLeft_eq_dropWhile (chars : List Char) :
    stripLeft chars = chars.dropWhile isSpace := by
  induction chars with
  | nil => rfl
  | cons char rest ih =>
      cases space : isSpace char with
      | true => simp [stripLeft, space, ih]
      | false => simp [stripLeft, space]

section Padding

variable {pad : Char → Bool} {core : List Char}

theorem dropWhile_replicate (space : pad ' ' = true) (count : Nat) (rest : List Char) :
    (List.replicate count ' ' ++ rest).dropWhile pad = rest.dropWhile pad := by
  apply List.dropWhile_append_of_pos
  intro char isPad
  rwa [List.eq_of_mem_replicate isPad]

theorem dropWhile_bare (bare : ∀ char, core.head? = some char → pad char = false) :
    core.dropWhile pad = core := by
  cases core with
  | nil => rfl
  | cons first rest => exact List.dropWhile_cons_of_neg (by simp [bare first rfl])

theorem dropWhile_padded (space : pad ' ' = true) (left right : Nat)
    (bare : ∀ char, core.head? = some char → pad char = false) :
    (List.replicate left ' ' ++ core ++ List.replicate right ' ').dropWhile pad =
      if core = [] then [] else core ++ List.replicate right ' ' := by
  rw [List.append_assoc, dropWhile_replicate space]
  cases core with
  | nil =>
      have blank := dropWhile_replicate space right []
      simpa using blank
  | cons first rest => exact dropWhile_bare bare

/-- Any notion of padding that includes the space strips a padded text to its core. -/
theorem trim_padded (space : pad ' ' = true) (left right : Nat)
    (first : ∀ char, core.head? = some char → pad char = false)
    (last : ∀ char, core.getLast? = some char → pad char = false) :
    (((List.replicate left ' ' ++ core ++ List.replicate right ' ').dropWhile pad).reverse.dropWhile
      pad).reverse = core := by
  rw [dropWhile_padded space left right first]
  split
  · rename_i empty
    simp [empty]
  · rw [List.reverse_append, List.reverse_replicate, dropWhile_replicate space,
      dropWhile_bare, List.reverse_reverse]
    intro char isLast
    rw [List.head?_reverse] at isLast
    exact last char isLast

end Padding

theorem lowerChar_ascii {char : Char} (ascii : char.toNat < 128) :
    lowerChar char = [asciiLower char] := by
  unfold lowerChar asciiLower
  rw [if_neg (by omega), if_neg (by omega)]
  split <;> rfl

theorem flatMap_lowerChar {chars : List Char} (ascii : ∀ char ∈ chars, char.toNat < 128) :
    chars.flatMap lowerChar = chars.map asciiLower := by
  induction chars with
  | nil => rfl
  | cons char rest ih =>
      have here := lowerChar_ascii (ascii char List.mem_cons_self)
      have there := ih fun other member => ascii other (List.mem_cons_of_mem _ member)
      rw [List.flatMap_cons, here, there, List.map_cons, List.singleton_append]

theorem ne_space {char : Char} (bare : isSpace char = false) : decide (char = ' ') = false := by
  by_contra blank
  simp only [decide_eq_false_iff_not, not_not] at blank
  subst blank
  exact absurd bare (by decide)

theorem sqlValue_eq_norm {column : Option String}
    (padded : ∀ text, column = some text → SpacePadded text) : sqlValue column = norm column := by
  cases column with
  | none => rfl
  | some text =>
      obtain ⟨left, core, right, chars, ascii, first, last⟩ := (padded text rfl).padding
      have trimmed : (sqlTrim text).toList = core := by
        rw [sqlTrim, String.toList_ofList, chars]
        exact trim_padded rfl left right
          (fun char isFirst => ne_space (first char isFirst))
          (fun char isLast => ne_space (last char isLast))
      have stripped : (strip text).toList = core := by
        rw [strip, String.toList_ofList, stripLeft_eq_dropWhile, stripLeft_eq_dropWhile, chars]
        exact trim_padded (by decide) left right first last
      simp only [sqlValue, Option.getD_some, sqlLower, norm, lower, trimmed, stripped,
        flatMap_lowerChar ascii]

/-! ### Two classifiers on every string -/

def branchWords (branches : List (List String × String)) : List String :=
  branches.flatMap Prod.fst

theorem caseWhen_of_not_mem {branches : List (List String × String)} {value : String}
    (foreign : value ∉ branchWords branches) : caseWhen branches value = "unknown" := by
  induction branches with
  | nil => rfl
  | cons branch rest ih =>
      rw [branchWords, List.flatMap_cons, List.mem_append, not_or] at foreign
      rw [caseWhen, if_neg foreign.1]
      exact ih foreign.2

/-- A CASE expression agrees with a normalizer of the trimmed value, once they agree on the
words of the branches and the normalizer knows no other word. -/
theorem caseWhen_eq_of_words {branches : List (List String × String)}
    {classify : Option String → String} {column : Option String}
    (reads : ∀ other, norm other = norm column → classify other = classify column)
    (known : ∀ word ∈ "unknown" :: branchWords branches,
      norm (some word) = word ∧ caseWhen branches word = classify (some word))
    (foreign : norm column ∉ "unknown" :: branchWords branches → classify column = "unknown") :
    caseWhen branches (norm column) = classify column := by
  by_cases listed : norm column ∈ "unknown" :: branchWords branches
  · obtain ⟨normal, agree⟩ := known _ listed
    rw [agree]
    exact reads _ normal
  · rw [foreign listed, caseWhen_of_not_mem]
    exact fun member => listed (List.mem_cons_of_mem _ member)

theorem find_text_eq_none {σ : Type} {statuses : List σ} {text : σ → String} {words : List String}
    {value : String} (listed : ∀ status ∈ statuses, text status ∈ words)
    (foreign : value ∉ words) : statuses.find? (fun status => text status = value) = none := by
  apply List.find?_eq_none.mpr
  intro status member same
  apply foreign
  rw [← of_decide_eq_true same]
  exact listed status member

theorem support_agrees (column : Option String) :
    caseWhen supportBranches (norm column) = (normalizeSupportStatus column).text := by
  apply @caseWhen_eq_of_words _ fun raw => (normalizeSupportStatus raw).text
  · intro other same
    simp only [normalizeSupportStatus, same]
  · decide +kernel
  · intro foreign
    have unread : SupportStatus.ofText? (norm column) = none :=
      find_text_eq_none (by decide) foreign
    simp [supportBranches, branchWords] at foreign
    simp [normalizeSupportStatus, unread, foreign, SupportStatus.text]

theorem quoteMatch_agrees (column : Option String) :
    caseWhen quoteMatchBranches (norm column) = (normalizeQuoteMatchStatus column).text := by
  apply @caseWhen_eq_of_words _ fun raw => (normalizeQuoteMatchStatus raw).text
  · intro other same
    simp only [normalizeQuoteMatchStatus, same]
  · decide +kernel
  · intro foreign
    have unread : QuoteMatch.ofText? (norm column) = none :=
      find_text_eq_none (by decide) foreign
    simp [quoteMatchBranches, branchWords] at foreign
    simp [normalizeQuoteMatchStatus, unread, foreign, QuoteMatch.text]

theorem norm_none : norm none = "" :=
  rfl

theorem fee_agrees (column : Option String) :
    caseWhen feeBranches (norm column) = (normalizeFeeConfidence column none).text := by
  apply @caseWhen_eq_of_words _ fun raw => (normalizeFeeConfidence raw none).text
  · intro other same
    simp only [normalizeFeeConfidence, same]
  · decide +kernel
  · intro foreign
    have unread : FeeConfidence.ofText? (norm column) = none :=
      find_text_eq_none (by decide) foreign
    simp [feeBranches, branchWords] at foreign
    simp [normalizeFeeConfidence, unread, foreign, norm_none, FeeConfidence.text]

/-- The legacy negatives, which the migration reads as evidence of a mismatch. -/
def legacyNegatives : List String := ["bad", "false", "0", "no"]

theorem balance_agrees_elsewhere (column : Option String) :
    caseWhen balanceBranches (norm column) =
      if norm column ∈ legacyNegatives then "mismatch"
      else (normalizeBalanceConfidence column none).text := by
  apply @caseWhen_eq_of_words _ fun raw =>
    if norm raw ∈ legacyNegatives then "mismatch" else (normalizeBalanceConfidence raw none).text
  · intro other same
    simp only [normalizeBalanceConfidence, same]
  · decide +kernel
  · intro foreign
    have unread : BalanceConfidence.ofText? (norm column) = none :=
      find_text_eq_none (by decide) foreign
    simp [balanceBranches, branchWords] at foreign
    simp [normalizeBalanceConfidence, unread, foreign, norm_none, legacyNegatives,
      BalanceConfidence.text]

theorem normalizeBalanceConfidence_negative {column : Option String}
    (negative : norm column ∈ legacyNegatives) :
    normalizeBalanceConfidence column none = .unknown := by
  have read : ∀ word ∈ legacyNegatives,
      norm (some word) = word ∧ normalizeBalanceConfidence (some word) none = .unknown := by
    decide
  obtain ⟨normal, unknown⟩ := read _ negative
  rw [← unknown]
  simp only [normalizeBalanceConfidence, normal]

/-! ### The row before and after the migration -/

/-- Every status of the row is absent or padded with spaces. -/
structure RouteHealth.Readable (row : RouteHealth) : Prop where
  support : ∀ text, row.supportStatus = some text → SpacePadded text
  fee : ∀ text, row.feeKnownStatus = some text → SpacePadded text
  balance : ∀ text, row.balanceMatchStatus = some text → SpacePadded text
  quoteMatch : ∀ text, row.quoteMatchStatus = some text → SpacePadded text

theorem canonicalize_upgrade {row : RouteHealth} (readable : row.Readable) :
    row.upgrade.canonicalize =
      { row.canonicalize with
        balanceMatchStatus :=
          if norm row.balanceMatchStatus ∈ legacyNegatives then some "mismatch"
          else row.canonicalize.balanceMatchStatus } := by
  simp only [RouteHealth.upgrade, RouteHealth.canonicalize, sqlValue_eq_norm readable.support,
    sqlValue_eq_norm readable.fee, sqlValue_eq_norm readable.balance,
    sqlValue_eq_norm readable.quoteMatch, support_agrees, fee_agrees, quoteMatch_agrees,
    balance_agrees_elsewhere, normalizeSupportStatus_text, normalizeFeeConfidence_text,
    normalizeQuoteMatchStatus_text]
  split
  · congr
  · rw [normalizeBalanceConfidence_text]

/-- The migration keeps what every readable row means, but for a legacy negative balance. -/
theorem canonicalize_upgrade_iff {row : RouteHealth} (readable : row.Readable) :
    row.upgrade.canonicalize = row.canonicalize ↔
      norm row.balanceMatchStatus ∉ legacyNegatives := by
  rw [canonicalize_upgrade readable]
  constructor
  · intro same negative
    have balance := congrArg RouteHealth.balanceMatchStatus same
    simp only [if_pos negative, RouteHealth.canonicalize,
      normalizeBalanceConfidence_negative negative] at balance
    exact absurd balance (by decide)
  · intro positive
    rw [if_neg positive]

namespace Sample

def legacyRow (balance : String) : RouteHealth :=
  { supportStatus := some "good", feeKnownStatus := some "good"
    balanceMatchStatus := some balance, quoteMatchStatus := some " Good ", cooldownActive := false }

theorem spacePadded_good : SpacePadded "good" :=
  SpacePadded.of_checks 0 "good".toList 0 rfl rfl rfl rfl

theorem spacePadded_bad : SpacePadded "bad" :=
  SpacePadded.of_checks 0 "bad".toList 0 rfl rfl rfl rfl

theorem spacePadded_paddedGood : SpacePadded " Good " :=
  SpacePadded.of_checks 1 "Good".toList 1 rfl rfl rfl rfl

theorem legacyRow_readable {balance : String} (padded : SpacePadded balance) :
    (legacyRow balance).Readable := by
  constructor
  · rintro text ⟨⟩
    exact spacePadded_good
  · rintro text ⟨⟩
    exact spacePadded_good
  · rintro text ⟨⟩
    exact padded
  · rintro text ⟨⟩
    exact spacePadded_paddedGood

end Sample

theorem canonicalize_upgrade_iff_sample :
    (Sample.legacyRow "good").upgrade.canonicalize = (Sample.legacyRow "good").canonicalize :=
  (canonicalize_upgrade_iff (Sample.legacyRow_readable Sample.spacePadded_good)).mpr (by decide)

/-- A row written with a legacy negative reads as unknown, and as drifted once migrated. -/
theorem migrated_negative_reads_as_mismatch :
    (Sample.legacyRow "bad").Readable ∧
      (Sample.legacyRow "bad").canonicalize.balanceMatchStatus = some "unknown" ∧
      (Sample.legacyRow "bad").upgrade.canonicalize.balanceMatchStatus = some "mismatch" :=
  ⟨Sample.legacyRow_readable Sample.spacePadded_bad, by decide, by decide⟩

end ArbitrageBot
