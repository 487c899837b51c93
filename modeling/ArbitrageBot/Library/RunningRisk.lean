/-
Risk figures of a sequence of profits, kept in one pass: the running peak, the
largest drawdown below it, and the longest run of losses. Beside them stand
their definitions over the whole sequence. The sums, differences and comparisons
may fail and may round, as long as they respect an order.
-/

import Mathlib.Data.List.Basic
import Mathlib.Data.Set.Lattice
import Mathlib.Order.Bounds.Basic
import ArbitrageBot.Library.Fallible

namespace RunningRisk

open Fallible

universe v

structure Arithmetic (ε : Type v) (α : Type) where
  add : α → α → Except ε α
  sub : α → α → Except ε α
  less : α → α → Except ε Bool

/-- Comparisons are those of the order, and differences respect it. -/
structure Arithmetic.Lawful {ε : Type v} {α : Type} [Zero α] [PartialOrder α]
    (arithmetic : Arithmetic ε α) : Prop where
  less : ∀ {first second}, arithmetic.less first second = .ok true → first < second
  notLess : ∀ {first second}, arithmetic.less first second = .ok false → second ≤ first
  sub_zero : arithmetic.sub 0 0 = .ok 0
  sub_mono : ∀ {first second third lower upper}, first ≤ second →
    arithmetic.sub first third = .ok lower → arithmetic.sub second third = .ok upper →
    lower ≤ upper

structure Risk (α : Type) where
  cumulative : α
  peak : α
  maxDrawdown : α
  currentLosing : Nat
  worstSequence : Nat

section Definitions

variable {ε : Type v} {α : Type} [Zero α] (arithmetic : Arithmetic ε α)

def Risk.start : Risk α :=
  { cumulative := 0, peak := 0, maxDrawdown := 0, currentLosing := 0, worstSequence := 0 }

def Risk.add (risk : Risk α) (profit : α) : Except ε (Risk α) := do
  let cumulative ← arithmetic.add risk.cumulative profit
  let rises ← arithmetic.less risk.peak cumulative
  let peak := if rises then cumulative else risk.peak
  let drawdown ← arithmetic.sub peak cumulative
  let deeper ← arithmetic.less risk.maxDrawdown drawdown
  let loss ← arithmetic.less profit 0
  return {
    cumulative := cumulative
    peak := peak
    maxDrawdown := if deeper then drawdown else risk.maxDrawdown
    currentLosing := if loss then risk.currentLosing + 1 else 0
    worstSequence :=
      if loss then max risk.worstSequence (risk.currentLosing + 1) else risk.worstSequence }

/-! ### Over the whole sequence -/

def total (profits : List α) : Except ε α := profits.foldlM arithmetic.add 0

def prefixSum (profits : List α) (count : Nat) : Except ε α := total arithmetic (profits.take count)

def prefixSums (profits : List α) : Set α :=
  { value | ∃ count ≤ profits.length, prefixSum arithmetic profits count = .ok value }

/-- Each fall from an earlier sum to a later one. -/
def drawdowns (profits : List α) : Set α :=
  { value | ∃ earlier later, earlier ≤ later ∧ later ≤ profits.length ∧
      ∃ high low, prefixSum arithmetic profits earlier = .ok high ∧
        prefixSum arithmetic profits later = .ok low ∧ arithmetic.sub high low = .ok value }

end Definitions

section Runs

variable {α : Type} [Zero α] [PartialOrder α]

/-- Lengths of the runs of losses at the end. -/
def losingEnds (profits : List α) : Set Nat :=
  { length | ∃ front run, profits = front ++ run ∧ (∀ profit ∈ run, profit < 0) ∧
      run.length = length }

/-- Lengths of the runs of consecutive losses. -/
def losingRuns (profits : List α) : Set Nat :=
  { length | ∃ front run back, profits = front ++ run ++ back ∧ (∀ profit ∈ run, profit < 0) ∧
      run.length = length }

/-- The figures are those of the sequence. -/
structure Exact {ε : Type v} (arithmetic : Arithmetic ε α) (profits : List α) (risk : Risk α) :
    Prop where
  cumulative : total arithmetic profits = .ok risk.cumulative
  peak : IsGreatest (prefixSums arithmetic profits) risk.peak
  maxDrawdown : IsGreatest (drawdowns arithmetic profits) risk.maxDrawdown
  currentLosing : IsGreatest (losingEnds profits) risk.currentLosing
  worstSequence : IsGreatest (losingRuns profits) risk.worstSequence

end Runs

/-! ### One more profit -/

theorem snoc_eq_append {α : Type*} {profits front init : List α} {profit last : α}
    (split : profits ++ [profit] = front ++ (init ++ [last])) :
    profits = front ++ init ∧ profit = last := by
  rw [← List.append_assoc] at split
  obtain ⟨same, ends⟩ := List.append_inj' split rfl
  exact ⟨same, (List.cons.inj ends).1⟩

section Sums

variable {ε : Type v} {α : Type} [Zero α] {arithmetic : Arithmetic ε α} {profits : List α}
  {profit sum : α}

theorem prefixSum_snoc {count : Nat} (within : count ≤ profits.length) :
    prefixSum arithmetic (profits ++ [profit]) count = prefixSum arithmetic profits count := by
  rw [prefixSum, List.take_append_of_le_length within, prefixSum]

theorem prefixSum_snoc_length :
    prefixSum arithmetic (profits ++ [profit]) (profits.length + 1) =
      total arithmetic (profits ++ [profit]) := by
  have whole : (profits ++ [profit]).take (profits.length + 1) = profits ++ [profit] := by
    apply List.take_of_length_le
    simp
  rw [prefixSum, whole]

theorem prefixSums_snoc (summed : total arithmetic (profits ++ [profit]) = .ok sum) :
    prefixSums arithmetic (profits ++ [profit]) = insert sum (prefixSums arithmetic profits) := by
  ext value
  simp only [prefixSums, List.length_append, List.length_singleton, Set.mem_ofPred_eq,
    Set.mem_insert_iff]
  constructor
  · intro member
    obtain ⟨count, within, found⟩ := member
    rcases Nat.of_le_succ within with before | last
    · rw [prefixSum_snoc before] at found
      exact .inr ⟨count, before, found⟩
    · subst last
      rw [prefixSum_snoc_length, summed] at found
      exact .inl (Except.ok.inj found).symm
  · intro member
    rcases member with rfl | ⟨count, within, found⟩
    · exact ⟨profits.length + 1, le_rfl, by rw [prefixSum_snoc_length, summed]⟩
    · exact ⟨count, Nat.le_succ_of_le within, by rw [prefixSum_snoc within, found]⟩

theorem drawdowns_snoc (summed : total arithmetic (profits ++ [profit]) = .ok sum) :
    drawdowns arithmetic (profits ++ [profit]) =
      drawdowns arithmetic profits ∪
        { value | ∃ high ∈ prefixSums arithmetic (profits ++ [profit]),
          arithmetic.sub high sum = .ok value } := by
  ext value
  simp only [drawdowns, prefixSums, List.length_append, List.length_singleton, Set.mem_ofPred_eq,
    Set.mem_union]
  constructor
  · intro member
    obtain ⟨earlier, later, ordered, within, high, low, foundHigh, foundLow, fall⟩ := member
    rcases Nat.of_le_succ within with before | last
    · rw [prefixSum_snoc before] at foundLow
      rw [prefixSum_snoc (ordered.trans before)] at foundHigh
      exact .inl ⟨earlier, later, ordered, before, high, low, foundHigh, foundLow, fall⟩
    · subst last
      rw [prefixSum_snoc_length, summed] at foundLow
      cases foundLow
      exact .inr ⟨high, ⟨earlier, ordered, foundHigh⟩, fall⟩
  · intro member
    rcases member with ⟨earlier, later, ordered, within, high, low, foundHigh, foundLow, fall⟩ |
      ⟨high, ⟨count, within, foundHigh⟩, fall⟩
    · refine ⟨earlier, later, ordered, Nat.le_succ_of_le within, high, low, ?_, ?_, fall⟩
      · rw [prefixSum_snoc (ordered.trans within), foundHigh]
      · rw [prefixSum_snoc within, foundLow]
    · exact ⟨count, profits.length + 1, within, le_rfl, high, sum, foundHigh,
        by rw [prefixSum_snoc_length, summed], fall⟩

end Sums

section Losses

variable {α : Type} [Zero α] [PartialOrder α] {profits : List α} {profit : α}

theorem losingEnds_snoc_of_neg (loss : profit < 0) :
    losingEnds (profits ++ [profit]) = insert 0 (Nat.succ '' losingEnds profits) := by
  ext length
  simp only [losingEnds, Set.mem_ofPred_eq, Set.mem_insert_iff, Set.mem_image]
  constructor
  · intro member
    obtain ⟨front, run, split, losses, rfl⟩ := member
    rcases List.eq_nil_or_concat' run with rfl | ⟨init, last, rfl⟩
    · exact .inl rfl
    · obtain ⟨rfl, rfl⟩ := snoc_eq_append split
      refine .inr ⟨init.length, ⟨front, init, rfl, ?_, rfl⟩, by simp⟩
      intro other member
      exact losses other (List.mem_append_left _ member)
  · intro member
    rcases member with rfl | ⟨_, ⟨front, run, rfl, losses, rfl⟩, rfl⟩
    · exact ⟨profits ++ [profit], [], by simp, by simp, rfl⟩
    · refine ⟨front, run ++ [profit], by simp, ?_, by simp⟩
      intro other member
      rcases List.mem_append.mp member with inRun | isLast
      · exact losses other inRun
      · rwa [List.mem_singleton.mp isLast]

theorem losingEnds_snoc_of_nonneg (noLoss : ¬ profit < 0) :
    losingEnds (profits ++ [profit]) = {0} := by
  ext length
  simp only [losingEnds, Set.mem_ofPred_eq, Set.mem_singleton_iff]
  constructor
  · intro member
    obtain ⟨front, run, split, losses, rfl⟩ := member
    rcases List.eq_nil_or_concat' run with rfl | ⟨init, last, rfl⟩
    · rfl
    · obtain ⟨rfl, rfl⟩ := snoc_eq_append split
      exact absurd (losses profit (by simp)) noLoss
  · rintro rfl
    exact ⟨profits ++ [profit], [], by simp, by simp, rfl⟩

theorem losingRuns_snoc :
    losingRuns (profits ++ [profit]) = losingRuns profits ∪ losingEnds (profits ++ [profit]) := by
  ext length
  simp only [losingRuns, losingEnds, Set.mem_ofPred_eq, Set.mem_union]
  constructor
  · intro member
    obtain ⟨front, run, back, split, losses, rfl⟩ := member
    rcases List.eq_nil_or_concat' back with rfl | ⟨init, last, rfl⟩
    · exact .inr ⟨front, run, by rw [split, List.append_nil], losses, rfl⟩
    · obtain ⟨rfl, rfl⟩ := snoc_eq_append split
      exact .inl ⟨front, run, init, rfl, losses, rfl⟩
  · intro member
    rcases member with ⟨front, run, back, rfl, losses, rfl⟩ | ⟨front, run, split, losses, rfl⟩
    · exact ⟨front, run, back ++ [profit], by simp, losses, rfl⟩
    · exact ⟨front, run, [], by rw [split, List.append_nil], losses, rfl⟩

end Losses

/-! ### The one pass is exact -/

section Step

variable {ε : Type v} {α : Type} [Zero α] {arithmetic : Arithmetic ε α} {risk next : Risk α}
  {profit : α}

/-- What one pass has computed on the way to the next figures. -/
theorem add_eq_ok (added : risk.add arithmetic profit = .ok next) :
    ∃ rises drawdown deeper loss,
      arithmetic.add risk.cumulative profit = .ok next.cumulative ∧
      arithmetic.less risk.peak next.cumulative = .ok rises ∧
      next.peak = (if rises = true then next.cumulative else risk.peak) ∧
      arithmetic.sub next.peak next.cumulative = .ok drawdown ∧
      arithmetic.less risk.maxDrawdown drawdown = .ok deeper ∧
      next.maxDrawdown = (if deeper = true then drawdown else risk.maxDrawdown) ∧
      arithmetic.less profit 0 = .ok loss ∧
      next.currentLosing = (if loss = true then risk.currentLosing + 1 else 0) ∧
      next.worstSequence =
        (if loss = true then max risk.worstSequence (risk.currentLosing + 1)
        else risk.worstSequence) := by
  obtain ⟨cumulative, summed, added⟩ := bind_eq_ok.mp added
  obtain ⟨rises, compared, added⟩ := bind_eq_ok.mp added
  obtain ⟨drawdown, fall, added⟩ := bind_eq_ok.mp added
  obtain ⟨deeper, comparedFall, added⟩ := bind_eq_ok.mp added
  obtain ⟨loss, comparedProfit, added⟩ := bind_eq_ok.mp added
  cases added
  exact ⟨rises, drawdown, deeper, loss, summed, compared, rfl, fall, comparedFall, rfl,
    comparedProfit, rfl, rfl⟩

end Step

section Exact

variable {ε : Type v} {α : Type} [Zero α] [PartialOrder α] {arithmetic : Arithmetic ε α}
  {profits : List α} {profit : α} {risk next : Risk α}

theorem Exact.start (lawful : arithmetic.Lawful) : Exact arithmetic [] Risk.start := by
  constructor
  · rfl
  · constructor
    · exact ⟨0, le_rfl, rfl⟩
    · intro value member
      obtain ⟨count, within, found⟩ := member
      rw [prefixSum, List.take_nil] at found
      exact (Except.ok.inj found).ge
  · constructor
    · exact ⟨0, 0, le_rfl, le_rfl, 0, 0, rfl, rfl, lawful.sub_zero⟩
    · intro value member
      obtain ⟨earlier, later, ordered, within, high, low, foundHigh, foundLow, fall⟩ := member
      rw [prefixSum, List.take_nil] at foundHigh foundLow
      cases foundHigh
      cases foundLow
      exact (Except.ok.inj (lawful.sub_zero.symm.trans fall)).ge
  · constructor
    · exact ⟨[], [], rfl, by simp, rfl⟩
    · intro length member
      obtain ⟨front, run, split, losses, rfl⟩ := member
      rw [(List.append_eq_nil_iff.mp split.symm).2]
      exact le_rfl
  · constructor
    · exact ⟨[], [], [], rfl, by simp, rfl⟩
    · intro length member
      obtain ⟨front, run, back, split, losses, rfl⟩ := member
      have empty := (List.append_eq_nil_iff.mp split.symm).1
      rw [(List.append_eq_nil_iff.mp empty).2]
      exact le_rfl

/-- The greater of two greatest values is the one that the comparison says. -/
theorem isGreatest_union (lawful : arithmetic.Lawful) {first second : Set α} {left right : α}
    {answer : Bool} (greatest : IsGreatest first left) (other : IsGreatest second right)
    (compared : arithmetic.less left right = .ok answer) :
    IsGreatest (first ∪ second) (if answer = true then right else left) := by
  cases answer with
  | true =>
      refine ⟨.inr other.1, fun value member => ?_⟩
      rcases member with inFirst | inSecond
      · exact (greatest.2 inFirst).trans (lawful.less compared).le
      · exact other.2 inSecond
  | false =>
      refine ⟨.inl greatest.1, fun value member => ?_⟩
      rcases member with inFirst | inSecond
      · exact greatest.2 inFirst
      · exact (other.2 inSecond).trans (lawful.notLess compared)

/-- Each figure after one more profit is that of the longer sequence. -/
theorem Exact.add (lawful : arithmetic.Lawful) (figures : Exact arithmetic profits risk)
    (added : risk.add arithmetic profit = .ok next) :
    Exact arithmetic (profits ++ [profit]) next := by
  obtain ⟨rises, drawdown, deeper, loss, summed, compared, newPeak, fall, comparedFall, newDrawdown,
    comparedProfit, newLosing, newWorst⟩ := add_eq_ok added
  have sum : total arithmetic (profits ++ [profit]) = .ok next.cumulative :=
    foldlM_concat_eq_ok.mpr ⟨risk.cumulative, figures.cumulative, summed⟩
  have peak : IsGreatest (prefixSums arithmetic (profits ++ [profit])) next.peak := by
    rw [prefixSums_snoc sum, Set.insert_eq, Set.union_comm, newPeak]
    exact isGreatest_union lawful figures.peak isGreatest_singleton compared
  have falls : IsGreatest { value | ∃ high ∈ prefixSums arithmetic (profits ++ [profit]),
      arithmetic.sub high next.cumulative = .ok value } drawdown := by
    refine ⟨⟨next.peak, peak.1, fall⟩, fun value member => ?_⟩
    obtain ⟨high, reached, found⟩ := member
    exact lawful.sub_mono (peak.2 reached) found fall
  have currentLosing : IsGreatest (losingEnds (profits ++ [profit])) next.currentLosing := by
    rw [newLosing]
    cases loss with
    | true =>
        rw [losingEnds_snoc_of_neg (lawful.less comparedProfit)]
        have grows : Monotone Nat.succ := fun _ _ ordered => Nat.succ_le_succ ordered
        simpa using (grows.map_isGreatest figures.currentLosing).insert 0
    | false =>
        rw [losingEnds_snoc_of_nonneg (lawful.notLess comparedProfit).not_gt]
        exact isGreatest_singleton
  constructor
  · exact sum
  · exact peak
  · rw [drawdowns_snoc sum, newDrawdown]
    exact isGreatest_union lawful figures.maxDrawdown falls comparedFall
  · exact currentLosing
  · -- a profit that is no loss cannot lengthen the longest run
    have worst : next.worstSequence = max risk.worstSequence next.currentLosing := by
      rw [newWorst, newLosing]
      cases loss with
      | true => rfl
      | false => exact (Nat.max_zero _).symm
    rw [losingRuns_snoc, worst]
    exact figures.worstSequence.union currentLosing

theorem exact_of_foldlM (lawful : arithmetic.Lawful)
    (done : profits.foldlM (Risk.add arithmetic) Risk.start = .ok risk) :
    Exact arithmetic profits risk := by
  induction profits using List.reverseRecOn generalizing risk with
  | nil =>
      cases done
      exact Exact.start lawful
  | append_singleton earlier profit ih =>
      obtain ⟨before, first, added⟩ := foldlM_concat_eq_ok.mp done
      exact (ih first).add lawful added

end Exact

end RunningRisk
