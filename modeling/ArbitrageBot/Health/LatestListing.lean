/-
The two readers of `route_health_snapshots` that the dashboard rests on: the newest snapshot of one
route, and the listing of all routes, which looks through the newest rows of the whole table and
no further. A route that the loop has left alone falls out of the listing once enough rows of the
others are newer than its last.
-/

import ArbitrageBot.Health.Migration
import ArbitrageBot.Library.LatestPerKey

namespace ArbitrageBot

open LatestPerKey

structure RouteHealthSnapshot where
  id : String
  timestamp : Instant
  strategy : String
  routeId : String
  pair : String
  statuses : RouteHealth
  paused : Bool := false

/-- `_canonicalize_route_health_row` -/
def RouteHealthSnapshot.canonicalize (row : RouteHealthSnapshot) : RouteHealthSnapshot :=
  { row with statuses := row.statuses.canonicalize }

def ofRoute (routeId : String) (row : RouteHealthSnapshot) : Bool :=
  row.routeId = routeId

def listingLimit : Nat := 5000

def latestRouteHealthSnapshot (table : List RouteHealthSnapshot) (routeId : String) :
    Option RouteHealthSnapshot :=
  (newestFirst RouteHealthSnapshot.timestamp (table.filter (ofRoute routeId))).head?.map
    RouteHealthSnapshot.canonicalize

def listLatestRouteHealthSnapshots (table : List RouteHealthSnapshot) : List RouteHealthSnapshot :=
  (keepFirst RouteHealthSnapshot.routeId
    ((newestFirst RouteHealthSnapshot.timestamp table).take listingLimit)).map
      RouteHealthSnapshot.canonicalize

/-- Of each route the listing has what the query for the route returns, and nothing besides. -/
def ListingComplete (table : List RouteHealthSnapshot) : Prop :=
  ∀ routeId, (listLatestRouteHealthSnapshots table).filter (ofRoute routeId) =
    (latestRouteHealthSnapshot table routeId).toList

def IsLatest (table : List RouteHealthSnapshot) (row : RouteHealthSnapshot) : Prop :=
  ∀ other ∈ table, other.routeId = row.routeId → other.timestamp ≤ row.timestamp

def newerCount (table : List RouteHealthSnapshot) (row : RouteHealthSnapshot) : Nat :=
  table.countP fun other => row.timestamp < other.timestamp

section Listing

variable {table : List RouteHealthSnapshot}

theorem listing_ofRoute (routeId : String) :
    (listLatestRouteHealthSnapshots table).filter (ofRoute routeId) =
      ((((newestFirst RouteHealthSnapshot.timestamp table).take listingLimit).find?
        (ofRoute routeId)).map RouteHealthSnapshot.canonicalize).toList := by
  have kept := @filter_keepFirst _ _ _ RouteHealthSnapshot.routeId
    ((newestFirst RouteHealthSnapshot.timestamp table).take listingLimit) routeId
  rw [Option.toList_map, listLatestRouteHealthSnapshots, List.filter_map]
  -- a canonicalized row is still one of its route
  exact congrArg (List.map RouteHealthSnapshot.canonicalize) kept

theorem latest_ofRoute (distinct : (table.map RouteHealthSnapshot.timestamp).Nodup)
    (routeId : String) :
    latestRouteHealthSnapshot table routeId =
      ((newestFirst RouteHealthSnapshot.timestamp table).find? (ofRoute routeId)).map
        RouteHealthSnapshot.canonicalize := by
  rw [latestRouteHealthSnapshot, head?_newestFirst_filter distinct]

/-- Canonicalizing the rows hides no row that one of the two readers lacks. -/
theorem sameOfRoute_iff (distinct : (table.map RouteHealthSnapshot.timestamp).Nodup)
    (routeId : String) :
    (listLatestRouteHealthSnapshots table).filter (ofRoute routeId) =
        (latestRouteHealthSnapshot table routeId).toList ↔
      ((newestFirst RouteHealthSnapshot.timestamp table).take listingLimit).find?
          (ofRoute routeId) =
        (newestFirst RouteHealthSnapshot.timestamp table).find? (ofRoute routeId) := by
  rw [listing_ofRoute, latest_ofRoute distinct]
  rcases find?_take_eq_or_none (newestFirst RouteHealthSnapshot.timestamp table) listingLimit
    (ofRoute routeId) with same | none_
  · rw [same]
    exact iff_of_true rfl rfl
  · rw [none_]
    cases (newestFirst RouteHealthSnapshot.timestamp table).find? (ofRoute routeId) with
    | none => exact iff_of_true rfl rfl
    | some found => exact iff_of_false nofun nofun

theorem isNewest_iff {routeId : String} {row : RouteHealthSnapshot} :
    IsNewest RouteHealthSnapshot.timestamp (ofRoute routeId) table row ↔
      row ∈ table ∧ row.routeId = routeId ∧ IsLatest table row := by
  simp only [IsNewest, IsLatest, ofRoute, decide_eq_true_eq]
  refine and_congr_right fun _ => and_congr_right fun here => ?_
  rw [here]

theorem sameOfRoute_iff_newer (distinct : (table.map RouteHealthSnapshot.timestamp).Nodup)
    (routeId : String) :
    (listLatestRouteHealthSnapshots table).filter (ofRoute routeId) =
        (latestRouteHealthSnapshot table routeId).toList ↔
      ∀ row ∈ table, row.routeId = routeId → IsLatest table row →
        newerCount table row < listingLimit := by
  rw [sameOfRoute_iff distinct, find?_take_newestFirst distinct]
  simp only [isNewest_iff, newerCount, and_imp]

end Listing

/-- The listing is complete exactly when the newest row of every route is among the newest of the
table, as many as the listing looks at. -/
theorem listing_complete_iff (table : List RouteHealthSnapshot)
    (distinct : (table.map RouteHealthSnapshot.timestamp).Nodup) :
    ListingComplete table ↔
      ∀ row ∈ table, IsLatest table row → newerCount table row < listingLimit := by
  constructor
  · intro complete row member latest
    have same := complete row.routeId
    exact (sameOfRoute_iff_newer distinct row.routeId).mp same row member rfl latest
  · intro recent routeId
    rw [sameOfRoute_iff_newer distinct]
    exact fun row member _ latest => recent row member latest

/-! ### A route that is no longer scanned -/

def snapshotOf (routeId : String) (timestamp : Instant) : RouteHealthSnapshot :=
  { id := "", timestamp, strategy := "hyperevm_dex_dex", routeId, pair := "USDC/USDt0"
    statuses :=
      { supportStatus := some "supported", feeKnownStatus := some "chain_verified"
        balanceMatchStatus := some "wallet_verified", quoteMatchStatus := some "matched"
        cooldownActive := false } }

theorem listing_complete_of_two :
    let table := [snapshotOf "a" 1, snapshotOf "b" 2, snapshotOf "a" 3]
    (table.map RouteHealthSnapshot.timestamp).Nodup ∧ ListingComplete table := by
  intro table
  have distinct : (table.map RouteHealthSnapshot.timestamp).Nodup := by decide
  refine ⟨distinct, (listing_complete_iff table distinct).mpr ?_⟩
  intro row _ _
  have few : newerCount table row ≤ 3 := List.countP_le_length
  exact few.trans_lt (by decide)

/-- One snapshot of a route, and then as many of another as the listing looks at. -/
def abandoned : List RouteHealthSnapshot :=
  snapshotOf "a" 0 :: (List.range listingLimit).map fun scan : Nat => snapshotOf "b" (scan + 1)

theorem abandoned_distinct : (abandoned.map RouteHealthSnapshot.timestamp).Nodup := by
  rw [abandoned, List.map_cons, List.map_map, List.nodup_cons]
  constructor
  · intro member
    obtain ⟨scan, -, same⟩ := List.mem_map.mp member
    have later : (scan : Int) + 1 = 0 := same
    omega
  · refine List.Nodup.map ?_ List.nodup_range
    intro first second same
    have next : (first : Int) + 1 = second + 1 := same
    omega

theorem abandoned_unlisted : ¬ListingComplete abandoned := by
  intro complete
  have first : snapshotOf "a" 0 ∈ abandoned := List.mem_cons_self
  have latest : IsLatest abandoned (snapshotOf "a" 0) := by
    intro other member same
    rcases List.mem_cons.mp member with rfl | later
    · exact le_rfl
    · obtain ⟨scan, -, rfl⟩ := List.mem_map.mp later
      exact absurd same (by simp [snapshotOf])
  have few := (sameOfRoute_iff_newer abandoned_distinct "a").mp (complete "a") _ first rfl latest
  have all : newerCount abandoned (snapshotOf "a" 0) = listingLimit := by
    rw [newerCount, abandoned, List.countP_cons_of_neg (by simp), List.countP_map]
    rw [List.countP_eq_length.mpr, List.length_range]
    intro scan _
    have later : (0 : Int) < scan + 1 := by omega
    exact decide_eq_true later
  rw [all] at few
  exact lt_irrefl _ few

end ArbitrageBot
