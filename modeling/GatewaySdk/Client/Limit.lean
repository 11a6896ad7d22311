import GatewaySdk.Client.Cadence
import GatewaySdk.Order.Counting

/-! The silence limit a session learns: where it lies, what it depends on, and how many odd
gaps it survives. -/
namespace GatewaySdk.Client
open GatewaySdk.Order

/-- The gaps before each ping, the first from this instant. -/
def pingGaps : Nat → List Heard → List Nat
  | _,[] => []
  | since,.ping at_::rest => (at_-since)::pingGaps at_ rest
  | since,.frame _::rest => pingGaps since rest

namespace InboundCadence

variable {started now later : Nat} {heard : List Heard} {c : InboundCadence}

/-- The gaps kept are the last eight of all, each held to the longest keepalive. -/
theorem hear_gaps (heard : List Heard) (c : InboundCadence) (all : List Nat) (kept : c.gaps = all.rtake pingGapsKept) :
    (heard.foldl hear c).gaps =
      (all ++ (pingGaps (c.lastPing.getD c.started) heard).map (min · maxPingGap)).rtake pingGapsKept := by
  induction heard generalizing c all with
  | nil => simpa [pingGaps] using kept
  | cons h heard ih =>
    cases h with
    | frame at_ => exact ih (c.onFrame at_) all kept
    | ping at_ =>
      have next : (c.onPing at_).gaps =
          (all ++ [min (at_-c.lastPing.getD c.started) maxPingGap]).rtake pingGapsKept := by
        rw [← pushGap_rtake,← kept]
        rfl
      have rest := ih (c.onPing at_) _ next
      rw [List.append_assoc] at rest
      exact rest

theorem after_gaps (started : Nat) (heard : List Heard) :
    (after started heard).gaps = ((pingGaps started heard).map (min · maxPingGap)).rtake pingGapsKept :=
  hear_gaps heard (new started) [] rfl

theorem rtake_map {α β : Type} (f : α → β) (l : List α) (n : Nat) : (l.map f).rtake n = (l.rtake n).map f := by
  simp [List.rtake,List.map_drop]

theorem gap_le {gap : Nat} (member : gap ∈ (after started heard).gaps) : gap ≤ maxPingGap := by
  rw [after_gaps,rtake_map] at member
  obtain ⟨raw,_,same⟩ := List.mem_map.mp member
  rw [← same]
  exact Nat.min_le_right _ _

theorem pingGaps_eq_nil (since : Nat) (heard : List Heard) :
    pingGaps since heard = [] ↔ heard.filterMap Heard.pinged = [] := by
  induction heard generalizing since with
  | nil => exact ⟨fun _ => rfl,fun _ => rfl⟩
  | cons h heard ih =>
    cases h with
    | ping at_ => simp [pingGaps,Heard.pinged]
    | frame at_ => simpa [pingGaps,Heard.pinged] using ih since

theorem gaps_eq_nil : (after started heard).gaps = [] ↔ heard.filterMap Heard.pinged = [] := by
  rw [after_gaps,← pingGaps_eq_nil started]
  constructor
  · intro none
    have count := congrArg List.length none
    simp only [List.rtake,List.length_drop,List.length_map,List.length_nil,pingGapsKept] at count
    exact List.length_eq_zero_iff.mp (by omega)
  · intro none
    rw [none]
    rfl

theorem silenceLimit_eq_none : c.silenceLimit = none ↔ c.gaps = [] := by
  simp only [silenceLimit,Option.map_eq_none_iff,List.getElem?_eq_none_iff,List.length_mergeSort]
  rw [← List.length_eq_zero_iff]
  omega

/-- The limit, from the element the code takes for the median. -/
theorem silenceLimit_median {limit : Nat} (armed : c.silenceLimit = some limit) (short : ∀ gap ∈ c.gaps, gap ≤ maxPingGap) :
    ∃ inside : c.gaps.length/2 < (c.gaps.mergeSort).length,
      (c.gaps.mergeSort)[c.gaps.length/2] ≤ maxPingGap ∧
        limit = max silenceFloor (silencePings*(c.gaps.mergeSort)[c.gaps.length/2]) := by
  obtain ⟨median,found,same⟩ := Option.map_eq_some_iff.mp armed
  obtain ⟨inside,taken⟩ := List.getElem?_eq_some_iff.mp found
  have bound : median ≤ maxPingGap := by
    rw [← taken]
    exact short _ (List.mem_mergeSort.mp (List.getElem_mem inside))
  have below : median*silencePings ≤ Duration.maxValue := by
    simp only [maxPingGap,Duration.fromSecs,silencePings,Duration.maxValue] at bound ⊢
    omega
  refine ⟨inside,taken ▸ bound,?_⟩
  rw [taken,← same,Duration.saturatingMul,min_eq_left below,Nat.mul_comm]

/-- At most this many of the gaps exceed `g`, so the median does not. -/
theorem median_le {g few : Nat} (inside : c.gaps.length/2 < (c.gaps.mergeSort).length)
    (outliers : c.gaps.countP (g < ·) ≤ few) (enough : few + c.gaps.length/2 < c.gaps.length) :
    (c.gaps.mergeSort)[c.gaps.length/2] ≤ g := by
  have counted := List.length_eq_countP_add_countP (fun gap => decide (gap ≤ g)) (l := c.gaps)
  have outside : c.gaps.countP (fun gap => decide ¬ decide (gap ≤ g) = true) = c.gaps.countP (g < ·) :=
    List.countP_congr fun gap _ => by simp
  rw [outside] at counted
  have rank := mergeSort_rank (p := fun gap => decide (gap ≤ g))
    (fun a b below small => by simp only [decide_eq_true_eq] at small ⊢; exact below.trans small) c.gaps inside
  simp only [decide_eq_true_eq] at rank
  exact rank.mpr (by omega)

/-- At most half of the gaps lie below `g`, so the median does not. -/
theorem le_median {g : Nat} (inside : c.gaps.length/2 < (c.gaps.mergeSort).length)
    (outliers : c.gaps.countP (· < g) ≤ c.gaps.length/2) : g ≤ (c.gaps.mergeSort)[c.gaps.length/2] := by
  have rank := mergeSort_rank (p := fun gap => decide (gap < g))
    (fun a b below small => by simp only [decide_eq_true_eq] at small ⊢; exact Nat.lt_of_le_of_lt below small) c.gaps inside
  simp only [decide_eq_true_eq] at rank
  exact Nat.not_lt.mp fun less => Nat.not_lt.mpr outliers (rank.mp less)

theorem deadFor_eq_some {silent limit : Nat} : c.deadFor now = some (silent,limit) ↔
    c.silenceLimit = some limit ∧ silent = now-c.lastFrame ∧ limit < silent := by
  simp only [deadFor,Option.bind_eq_some_iff,Option.ite_none_right_eq_some,Option.some.injEq,Prod.mk.injEq]
  constructor
  · intro dead
    obtain ⟨_,armed,late,rfl,rfl⟩ := dead
    exact ⟨armed,rfl,late⟩
  · intro dead
    obtain ⟨armed,rfl,late⟩ := dead
    exact ⟨limit,armed,late,rfl,rfl⟩

end InboundCadence

/-- What is learned from what was heard, whatever that was. -/
structure Learned (started : Nat) (heard : List Heard) : Prop where
  unarmed : (InboundCadence.after started heard).silenceLimit = none ↔ heard.filterMap Heard.pinged = []
  bounded : ∀ limit, (InboundCadence.after started heard).silenceLimit = some limit →
    Duration.fromSecs 90 ≤ limit ∧ limit ≤ Duration.fromSecs 1200
  forgetful : ∀ started' heard', (pingGaps started heard).rtake 8 = (pingGaps started' heard').rtake 8 →
    (InboundCadence.after started heard).silenceLimit = (InboundCadence.after started' heard').silenceLimit
  robustAbove : ∀ g ≤ Duration.fromSecs 300, ∀ limit, (InboundCadence.after started heard).silenceLimit = some limit →
    (InboundCadence.after started heard).gaps.length = 8 →
    (InboundCadence.after started heard).gaps.countP (g < ·) ≤ 3 → limit ≤ max (Duration.fromSecs 90) (4*g)
  robustBelow : ∀ g ≤ Duration.fromSecs 300, ∀ limit, (InboundCadence.after started heard).silenceLimit = some limit →
    (InboundCadence.after started heard).gaps.length = 8 →
    (InboundCadence.after started heard).gaps.countP (· < g) ≤ 4 → max (Duration.fromSecs 90) (4*g) ≤ limit
  lasting : ∀ now later silent limit, now ≤ later → (InboundCadence.after started heard).deadFor now = some (silent,limit) →
    (InboundCadence.after started heard).deadFor later = some (silent+(later-now),limit)

/-- The limit is bounded, forgetful and robust after any history. -/
theorem silence_limit_learned (started : Nat) (heard : List Heard) : Learned started heard where
  unarmed := InboundCadence.silenceLimit_eq_none.trans InboundCadence.gaps_eq_nil
  bounded limit armed := by
    obtain ⟨_,short,same⟩ := InboundCadence.silenceLimit_median armed fun gap => InboundCadence.gap_le
    simp only [maxPingGap,silenceFloor,silencePings,Duration.fromSecs] at short same ⊢
    omega
  forgetful started' heard' same := by
    have gaps : (InboundCadence.after started heard).gaps = (InboundCadence.after started' heard').gaps := by
      rw [InboundCadence.after_gaps,InboundCadence.after_gaps,InboundCadence.rtake_map,InboundCadence.rtake_map,
        pingGapsKept,same]
    rw [InboundCadence.silenceLimit,InboundCadence.silenceLimit,gaps]
  robustAbove g _ limit armed full outliers := by
    obtain ⟨inside,_,same⟩ := InboundCadence.silenceLimit_median armed fun gap => InboundCadence.gap_le
    have median := InboundCadence.median_le inside outliers (by omega)
    rw [same,silencePings,silenceFloor]
    exact max_le_max le_rfl (Nat.mul_le_mul_left 4 median)
  robustBelow g _ limit armed full outliers := by
    obtain ⟨inside,_,same⟩ := InboundCadence.silenceLimit_median armed fun gap => InboundCadence.gap_le
    have half : (InboundCadence.after started heard).gaps.countP (· < g) ≤ (InboundCadence.after started heard).gaps.length/2 := by
      omega
    have median := InboundCadence.le_median inside half
    rw [same,silencePings,silenceFloor]
    exact max_le_max le_rfl (Nat.mul_le_mul_left 4 median)
  lasting now later silent limit after_ dead := by
    obtain ⟨armed,same,late⟩ := InboundCadence.deadFor_eq_some.mp dead
    exact InboundCadence.deadFor_eq_some.mpr ⟨armed,by omega,by omega⟩

end GatewaySdk.Client
