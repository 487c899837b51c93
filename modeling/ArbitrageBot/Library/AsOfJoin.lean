/-
The as-of join of two lists ordered by time: a pointer into the rows that only
moves forward, against a search of all rows for each key. Nothing here knows
what the rows and the keys are.
-/

import Mathlib.Data.List.Sort

namespace AsOfJoin

variable {ρ κ τ : Type*} [LinearOrder τ] (time : ρ → τ)

/-! ### The two procedures -/

/-- The pointer moves over every row that is not after `now`. -/
def advance (now : τ) (current : Option ρ) : List ρ → Option ρ × List ρ
  | [] => (current, [])
  | row :: ahead =>
      if time row ≤ now then advance now (some row) ahead else (current, row :: ahead)

/-- Each key with the row under the pointer, which is never moved back. -/
def join (moment : κ → τ) : Option ρ → List ρ → List κ → List (κ × Option ρ)
  | _, _, [] => []
  | current, ahead, key :: keys =>
      let moved := advance time (moment key) current ahead
      (key, moved.1) :: join moment moved.1 moved.2 keys

def reached (now : τ) (row : ρ) : Bool := time row ≤ now

/-- The last of all rows that are not after `now`. -/
def asOf (rows : List ρ) (now : τ) : Option ρ := (rows.filter (reached time now)).getLast?

def NotLater (first second : ρ) : Prop := time first ≤ time second

instance : DecidableRel (NotLater time) := fun first second =>
  inferInstanceAs (Decidable (time first ≤ time second))

/-- The rows in the stable order by time. -/
def inOrder (rows : List ρ) : List ρ := rows.insertionSort (NotLater time)

/-! ### One move of the pointer -/

section Walk

variable {time} {now : τ}

theorem reached_iff {row : ρ} : reached time now row = true ↔ time row ≤ now :=
  decide_eq_true_iff

theorem advance_eq (current : Option ρ) (ahead : List ρ) :
    advance time now current ahead =
      ((ahead.takeWhile (reached time now)).getLast?.or current,
        ahead.dropWhile (reached time now)) := by
  induction ahead generalizing current with
  | nil => rfl
  | cons row ahead ih =>
      by_cases here : time row ≤ now
      · have kept := reached_iff.mpr here
        rw [advance, if_pos here, ih, List.takeWhile_cons_of_pos kept,
          List.dropWhile_cons_of_pos kept, List.getLast?_cons]
        cases (ahead.takeWhile (reached time now)).getLast? <;> rfl
      · have left := mt reached_iff.mp here
        rw [advance, if_neg here, List.takeWhile_cons_of_neg left,
          List.dropWhile_cons_of_neg left]
        rfl

/-- In an ordered list the rows up to `now` are a prefix. -/
theorem filter_eq_takeWhile {ahead : List ρ} (ordered : ahead.Pairwise (NotLater time)) :
    ahead.filter (reached time now) = ahead.takeWhile (reached time now) := by
  induction ahead with
  | nil => rfl
  | cons row ahead ih =>
      obtain ⟨least, ordered⟩ := List.pairwise_cons.mp ordered
      by_cases here : time row ≤ now
      · have kept := reached_iff.mpr here
        rw [List.filter_cons_of_pos kept, List.takeWhile_cons_of_pos kept, ih ordered]
      · have left := mt reached_iff.mp here
        rw [List.takeWhile_cons_of_neg left, List.filter_cons_of_neg left,
          List.filter_eq_nil_iff]
        intro other member taken
        exact here ((least other member).trans (reached_iff.mp taken))

/-! ### The join -/

/-- The invariant of the walk: the rows are those passed and those ahead, and the pointer is at
the last row passed. -/
theorem join_eq {moment : κ → τ} {passed ahead : List ρ} {keys : List κ}
    (ordered : (passed ++ ahead).Pairwise (NotLater time))
    (behind : ∀ key ∈ keys, ∀ row ∈ passed, time row ≤ moment key)
    (keysOrdered : keys.Pairwise (NotLater moment)) :
    join time moment passed.getLast? ahead keys =
      keys.map fun key => (key, asOf time (passed ++ ahead) (moment key)) := by
  induction keys generalizing passed ahead with
  | nil => rfl
  | cons key keys ih =>
      obtain ⟨earliest, keysOrdered⟩ := List.pairwise_cons.mp keysOrdered
      let crossed := ahead.takeWhile (reached time (moment key))
      let left := ahead.dropWhile (reached time (moment key))
      have split : passed ++ ahead = (passed ++ crossed) ++ left := by
        rw [List.append_assoc, List.takeWhile_append_dropWhile]
      have pointer : crossed.getLast?.or passed.getLast? = (passed ++ crossed).getLast? :=
        List.getLast?_append.symm
      have found : asOf time (passed ++ ahead) (moment key) = (passed ++ crossed).getLast? := by
        rw [asOf, List.filter_append, filter_eq_takeWhile (List.pairwise_append.mp ordered).2.1,
          List.filter_eq_self.mpr fun row member =>
            reached_iff.mpr (behind key List.mem_cons_self row member)]
      have crossedBehind : ∀ later ∈ keys, ∀ row ∈ passed ++ crossed,
          time row ≤ moment later := by
        intro later member row before
        rcases List.mem_append.mp before with old | new
        · exact behind later (List.mem_cons_of_mem _ member) row old
        · have here := List.all_eq_true.mp List.all_takeWhile row new
          exact (reached_iff.mp here).trans (earliest later member)
      rw [join, advance_eq, List.map_cons, found]
      change (key, crossed.getLast?.or passed.getLast?) ::
        join time moment (crossed.getLast?.or passed.getLast?) left keys = _
      rw [pointer, ih (split ▸ ordered) crossedBehind keysOrdered, ← split]

end Walk

theorem inOrder_pairwise (rows : List ρ) : (inOrder time rows).Pairwise (NotLater time) :=
  @List.pairwise_insertionSort _ (NotLater time) _ ⟨fun _ _ => le_total _ _⟩
    ⟨fun _ _ _ => le_trans⟩ rows

/-- The walk over the rows in order finds for each key what a search finds. -/
theorem join_inOrder {moment : κ → τ} (rows : List ρ) {keys : List κ}
    (keysOrdered : keys.Pairwise (NotLater moment)) :
    join time moment none (inOrder time rows) keys =
      keys.map fun key => (key, asOf time (inOrder time rows) (moment key)) :=
  @join_eq _ _ _ _ time moment [] (inOrder time rows) keys (inOrder_pairwise time rows)
    (fun _ _ _ member => absurd member List.not_mem_nil) keysOrdered

/-! ### The search, in the rows as they came -/

/-- No row up to `now` is later than this one, and none of those behind it is as late. -/
def IsAsOf (rows : List ρ) (now : τ) (row : ρ) : Prop :=
  ∃ before behind, rows = before ++ row :: behind ∧ time row ≤ now ∧
    (∀ other ∈ before, time other ≤ now → time other ≤ time row) ∧
    ∀ other ∈ behind, time other ≤ now → time other < time row

section Search

variable {time} {now : τ} {row found : ρ} {rows : List ρ}

theorem asOf_cons :
    asOf time (row :: rows) now =
      if time row ≤ now then some ((asOf time rows now).getD row) else asOf time rows now := by
  by_cases here : time row ≤ now
  · rw [asOf, List.filter_cons_of_pos (reached_iff.mpr here), List.getLast?_cons, if_pos here]
    rfl
  · rw [asOf, List.filter_cons_of_neg (mt reached_iff.mp here), if_neg here]
    rfl

theorem asOf_eq_none : asOf time rows now = none ↔ ∀ row ∈ rows, ¬time row ≤ now := by
  rw [asOf, List.getLast?_eq_none_iff, List.filter_eq_nil_iff]
  exact forall₂_congr fun row _member => not_congr reached_iff

/-- A row in front of rows that are not earlier is found only when it is strictly later than each
of those that are reached. -/
theorem asOf_cons_of_first (first : ∀ other ∈ rows, time row ≤ time other) :
    asOf time (row :: rows) now =
      if time row ≤ now ∧ ∀ other ∈ rows, time other ≤ now → time other < time row then some row
      else asOf time rows now := by
  rw [asOf_cons]
  by_cases here : time row ≤ now
  · rw [if_pos here]
    cases search : asOf time rows now with
    | none =>
        have unreached := asOf_eq_none.mp search
        rw [if_pos ⟨here, fun other member reach => absurd reach (unreached other member)⟩]
        rfl
    | some found =>
        rw [if_neg]
        · rfl
        · intro latest
          have unreached : asOf time rows now = none :=
            asOf_eq_none.mpr fun other member reach =>
              (latest.2 other member reach).not_ge (first other member)
          rw [unreached] at search
          cases search
  · rw [if_neg here, if_neg fun latest => here latest.1]

/-- A row put into its place in an ordered list is found before the others only when it is
strictly later than each of those that are reached. -/
theorem asOf_orderedInsert (ordered : rows.Pairwise (NotLater time)) :
    asOf time (rows.orderedInsert (NotLater time) row) now =
      if time row ≤ now ∧ ∀ other ∈ rows, time other ≤ now → time other < time row then some row
      else asOf time rows now := by
  induction rows with
  | nil =>
      rw [List.orderedInsert_nil, asOf_cons]
      simp [asOf]
  | cons head rows ih =>
      obtain ⟨least, ordered⟩ := List.pairwise_cons.mp ordered
      by_cases early : time row ≤ time head
      · have first : ∀ other ∈ head :: rows, time row ≤ time other :=
          List.forall_mem_cons.mpr ⟨early, fun other behind => early.trans (least other behind)⟩
        rw [List.orderedInsert_cons_of_le (NotLater time) _ early, asOf_cons_of_first first]
      · have before : time head < time row := not_le.mp early
        rw [List.orderedInsert_of_not_le (NotLater time) _ early, asOf_cons, ih ordered, asOf_cons]
        by_cases latest : time row ≤ now ∧ ∀ other ∈ rows, time other ≤ now → time other < time row
        · have both : time row ≤ now ∧
              ∀ other ∈ head :: rows, time other ≤ now → time other < time row :=
            ⟨latest.1, List.forall_mem_cons.mpr ⟨fun _ => before, latest.2⟩⟩
          rw [if_pos latest, if_pos both, if_pos (before.le.trans latest.1)]
          rfl
        · have notBoth : ¬(time row ≤ now ∧
              ∀ other ∈ head :: rows, time other ≤ now → time other < time row) := fun both =>
            latest ⟨both.1, fun other member => both.2 other (List.mem_cons_of_mem _ member)⟩
          rw [if_neg latest, if_neg notBoth]

theorem IsAsOf.mem (here : IsAsOf time rows now found) : found ∈ rows ∧ time found ≤ now := by
  obtain ⟨before, behind, rfl, reached, -, -⟩ := here
  exact ⟨List.mem_append_right _ List.mem_cons_self, reached⟩

theorem IsAsOf.latest (here : IsAsOf time rows now found) {other : ρ} (member : other ∈ rows)
    (reached : time other ≤ now) : time other ≤ time found := by
  obtain ⟨before, behind, rfl, -, early, late⟩ := here
  rcases List.mem_append.mp member with front | back
  · exact early other front reached
  · rcases List.mem_cons.mp back with rfl | rest
    · exact le_rfl
    · exact (late other rest reached).le

theorem isAsOf_cons :
    IsAsOf time (row :: rows) now found ↔
      (found = row ∧ time row ≤ now ∧ ∀ other ∈ rows, time other ≤ now → time other < time row) ∨
        IsAsOf time rows now found ∧ (time row ≤ now → time row ≤ time found) := by
  constructor
  · intro here
    obtain ⟨before, behind, split, reached, early, late⟩ := here
    cases before with
    | nil =>
        obtain ⟨rfl, rfl⟩ := List.cons_eq_cons.mp split
        exact .inl ⟨rfl, reached, late⟩
    | cons first before =>
        obtain ⟨rfl, rfl⟩ := List.cons_eq_cons.mp split
        obtain ⟨first, early⟩ := List.forall_mem_cons.mp early
        exact .inr ⟨⟨before, behind, rfl, reached, early, late⟩, first⟩
  · intro here
    rcases here with ⟨rfl, reached, late⟩ | ⟨⟨before, behind, rfl, reached, early, late⟩, first⟩
    · exact ⟨[], rows, rfl, reached, fun _ member => absurd member List.not_mem_nil, late⟩
    · exact ⟨row :: before, behind, rfl, reached, List.forall_mem_cons.mpr ⟨first, early⟩, late⟩

/-- The search in the stable order, said of the rows as they came. -/
theorem asOf_inOrder : asOf time (inOrder time rows) now = some found ↔
    IsAsOf time rows now found := by
  induction rows with
  | nil =>
      constructor
      · intro search
        cases search
      · intro here
        exact absurd here.mem.1 List.not_mem_nil
  | cons row rows ih =>
      have sorted : inOrder time (row :: rows) =
          (inOrder time rows).orderedInsert (NotLater time) row := List.insertionSort_cons ..
      have members : ∀ other, other ∈ inOrder time rows ↔ other ∈ rows := fun _ =>
        List.mem_insertionSort _
      rw [sorted, asOf_orderedInsert (inOrder_pairwise time rows), isAsOf_cons]
      simp only [members]
      by_cases latest : time row ≤ now ∧ ∀ other ∈ rows, time other ≤ now → time other < time row
      · rw [if_pos latest]
        constructor
        · intro same
          exact .inl ⟨(Option.some.inj same).symm, latest⟩
        · intro here
          rcases here with ⟨rfl, -, -⟩ | ⟨older, notOlder⟩
          · rfl
          · have before := latest.2 found older.mem.1 older.mem.2
            exact absurd (notOlder latest.1) before.not_ge
      · rw [if_neg latest]
        refine ih.trans ⟨fun older => .inr ⟨older, fun reach => ?_⟩, fun here => ?_⟩
        · by_contra newer
          exact latest ⟨reach, fun other member reached =>
            (older.latest member reached).trans_lt (not_le.mp newer)⟩
        · rcases here with ⟨-, only⟩ | ⟨older, -⟩
          · exact absurd only latest
          · exact older

end Search

end AsOfJoin
