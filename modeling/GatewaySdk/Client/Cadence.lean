import Mathlib.Data.List.DropRight
import Mathlib.Tactic.Ring

/-! What a session has heard from the manager, how often it pings, and the silence that
is taken for death. Instants and durations count nanoseconds. -/
namespace GatewaySdk.Client

namespace Duration

def fromSecs (n : Nat) : Nat := n*1000000000

/-- `Duration::MAX`. -/
def maxValue : Nat := 18446744073709551615*1000000000+999999999

def saturatingMul (d : Nat) (n : Nat) : Nat := min (d*n) maxValue

end Duration

def silenceFloor : Nat := Duration.fromSecs 90
def silencePings : Nat := 4
def pingGapsKept : Nat := 8
def maxPingGap : Nat := Duration.fromSecs 300

structure InboundCadence where
  started : Nat
  lastFrame : Nat
  lastPing : Option Nat
  gaps : List Nat
  deriving DecidableEq, Repr

namespace InboundCadence

def new (now : Nat) : InboundCadence := ⟨now,now,none,[]⟩

def onFrame (c : InboundCadence) (now : Nat) : InboundCadence := {c with lastFrame := now}

/-- The oldest gap makes room for the newest. -/
def pushGap (gaps : List Nat) (gap : Nat) : List Nat :=
  (if gaps.length = pingGapsKept then gaps.tail else gaps) ++ [gap]

def onPing (c : InboundCadence) (now : Nat) : InboundCadence :=
  let since := c.lastPing.getD c.started
  let gap := min (now-since) maxPingGap
  {c.onFrame now with gaps := pushGap c.gaps gap,lastPing := some now}

/-- The upper median of the gaps kept, four times, and at least the floor. -/
def silenceLimit (c : InboundCadence) : Option Nat :=
  (c.gaps.mergeSort)[c.gaps.length/2]?.map fun median => max silenceFloor (Duration.saturatingMul median silencePings)

def deadFor (c : InboundCadence) (now : Nat) : Option (Nat × Nat) :=
  c.silenceLimit.bind fun limit =>
    let silent := now-c.lastFrame
    if silent > limit then some (silent,limit) else none

end InboundCadence

/-- What is read from the manager, as the cadence sees it. -/
inductive Heard where
  | ping (at_ : Nat)
  | frame (at_ : Nat)
  deriving DecidableEq, Repr

namespace Heard

def instant : Heard → Nat
  | .ping at_ => at_
  | .frame at_ => at_

def pinged : Heard → Option Nat
  | .ping at_ => some at_
  | .frame _ => none

end Heard

namespace InboundCadence

def hear (c : InboundCadence) : Heard → InboundCadence
  | .ping at_ => c.onPing at_
  | .frame at_ => c.onFrame at_

/-- The cadence of a session that started at `started`, once this has been read. -/
def after (started : Nat) (heard : List Heard) : InboundCadence := heard.foldl hear (new started)

end InboundCadence

namespace InboundCadence

variable {started now : Nat} {heard : List Heard} {gaps : List Nat}

theorem after_snoc (started : Nat) (heard : List Heard) (last : Heard) :
    after started (heard ++ [last]) = (after started heard).hear last := by
  rw [after,List.foldl_append]
  rfl

/-- The gaps kept are the last ones of all. -/
theorem pushGap_rtake (gaps : List Nat) (gap : Nat) :
    pushGap (gaps.rtake pingGapsKept) gap = (gaps ++ [gap]).rtake pingGapsKept := by
  have newest : (gaps ++ [gap]).rtake pingGapsKept = gaps.rtake 7 ++ [gap] := List.rtake_concat_succ _ _ _
  have count : (gaps.rtake pingGapsKept).length = min gaps.length 8 := by
    simp only [List.rtake,List.length_drop,pingGapsKept]
    omega
  rw [newest,pushGap,count]
  by_cases full : min gaps.length 8 = pingGapsKept
  · have oldest : gaps.length-8+1 = gaps.length-7 := by
      simp only [pingGapsKept] at full
      omega
    rw [if_pos full,List.rtake,List.tail_drop,pingGapsKept,oldest,List.rtake]
  · have few : gaps.length-8 = gaps.length-7 := by
      simp only [pingGapsKept] at full
      omega
    rw [if_neg full,List.rtake,List.rtake,pingGapsKept,few]

theorem lastFrame_last (ordered : (heard.map Heard.instant).Pairwise (· ≤ ·)) (h : Heard) (member : h ∈ heard) :
    h.instant ≤ (after started heard).lastFrame := by
  induction heard using List.reverseRecOn with
  | nil => simp at member
  | append_singleton heard last _ =>
    have latest : (after started (heard ++ [last])).lastFrame = last.instant := by
      rw [after_snoc]
      cases last <;> rfl
    rw [latest]
    rw [List.map_append,List.pairwise_append] at ordered
    obtain ⟨_,_,before⟩ := ordered
    rcases List.mem_append.mp member with earlier | same
    · exact before _ (List.mem_map_of_mem earlier) _ (by simp)
    · rw [List.mem_singleton.mp same]

end InboundCadence

section Punctual

variable {started offset period now : Nat} {heard : List Heard}

/-- The pings of a manager that pings every `period`, the first `offset` into the session. -/
def schedule (started offset period n : Nat) : List Nat :=
  (List.range n).map fun i => started+offset+i*period

theorem schedule_succ (started offset period n : Nat) :
    schedule started offset period (n+1) = schedule started offset period n ++ [started+offset+n*period] := by
  rw [schedule,List.range_succ,List.map_append]
  rfl

/-- What has been read by `now` of a manager that pings on time: every ping that was due,
on arrival, and any other frames in between. -/
structure Punctual (started offset period now : Nat) (heard : List Heard) : Prop where
  begun : started ≤ now
  ordered : (heard.map Heard.instant).Pairwise (· ≤ ·)
  arrived : ∀ h ∈ heard, started ≤ h.instant ∧ h.instant ≤ now
  pings : ∃ n, heard.filterMap Heard.pinged = schedule started offset period n ∧ now ≤ started+offset+n*period

/-- The gaps of the first pings. -/
def gapsOf (offset period : Nat) : Nat → List Nat
  | 0 => []
  | n+1 => offset::List.replicate n period

theorem gapsOf_succ (offset period n : Nat) :
    gapsOf offset period (n+2) = gapsOf offset period (n+1) ++ [period] := by
  rw [gapsOf,gapsOf,List.replicate_succ',List.cons_append]

theorem punctual_gaps (short : period ≤ maxPingGap) (early : offset ≤ period) (n : Nat)
    (pings : heard.filterMap Heard.pinged = schedule started offset period n) :
    (InboundCadence.after started heard).gaps = (gapsOf offset period n).rtake pingGapsKept ∧
      (InboundCadence.after started heard).started = started ∧
      (InboundCadence.after started heard).lastPing = (schedule started offset period n).getLast? := by
  induction heard using List.reverseRecOn generalizing n with
  | nil =>
    cases n with
    | zero => exact ⟨rfl,rfl,rfl⟩
    | succ n =>
      rw [schedule_succ] at pings
      simp at pings
  | append_singleton heard last ih =>
    rw [List.filterMap_append] at pings
    rw [InboundCadence.after_snoc]
    cases last with
    | frame at_ =>
      simp only [List.filterMap_cons,Heard.pinged,List.filterMap_nil,List.append_nil] at pings
      exact ih n pings
    | ping at_ =>
      cases n with
      | zero => simp [Heard.pinged,schedule] at pings
      | succ n =>
        rw [schedule_succ] at pings
        obtain ⟨before,same⟩ := List.append_inj' pings (by simp [Heard.pinged])
        simp only [List.filterMap_cons,Heard.pinged,List.filterMap_nil,List.cons.injEq,and_true] at same
        obtain ⟨gaps,start,lastPing⟩ := ih n before
        simp only [InboundCadence.hear,InboundCadence.onPing,InboundCadence.onFrame]
        refine ⟨?_,start,?_⟩
        · rw [gaps,InboundCadence.pushGap_rtake,lastPing,start]
          cases n with
          | zero =>
            have gap : min (at_-started) maxPingGap = offset := by omega
            simp [schedule,gap,gapsOf]
          | succ n =>
            have since : (n+1)*period = n*period+period := Nat.succ_mul n period
            have gap : min (at_-(started+offset+n*period)) maxPingGap = period := by omega
            rw [schedule_succ,List.getLast?_concat,Option.getD_some,gap,gapsOf_succ]
        · rw [schedule_succ,List.getLast?_concat,same]

theorem gapsOf_sorted (early : offset ≤ period) (n : Nat) : (gapsOf offset period n).Pairwise (· ≤ ·) := by
  cases n with
  | zero => exact .nil
  | succ n =>
    refine .cons (fun gap member => ?_) (List.pairwise_replicate.mpr (.inr le_rfl))
    rw [List.eq_of_mem_replicate member]
    exact early

/-- From the second ping on the median is the period. -/
theorem gapsOf_median (offset period n : Nat) :
    ((gapsOf offset period (n+2)).rtake pingGapsKept)[((gapsOf offset period (n+2)).rtake pingGapsKept).length/2]? =
      some period := by
  have count : (gapsOf offset period (n+2)).length = n+2 := by simp [gapsOf]
  rw [List.rtake,List.getElem?_drop,List.length_drop,count,gapsOf,pingGapsKept]
  obtain ⟨i,place⟩ : ∃ i, n+2-8+(n+2-(n+2-8))/2 = i+1 := ⟨n+2-8+(n+2-(n+2-8))/2-1,by omega⟩
  rw [place,List.getElem?_cons_succ,List.getElem?_replicate,if_pos (by omega)]

theorem punctual_limit (short : period ≤ maxPingGap) (early : offset ≤ period) (n : Nat)
    (pings : heard.filterMap Heard.pinged = schedule started offset period (n+1)) :
    (InboundCadence.after started heard).silenceLimit =
      some (max silenceFloor (silencePings*(if n = 0 then offset else period))) := by
  obtain ⟨gaps,_⟩ := punctual_gaps short early (n+1) pings
  have sorted : ((gapsOf offset period (n+1)).rtake pingGapsKept).mergeSort =
      (gapsOf offset period (n+1)).rtake pingGapsKept := by
    refine List.mergeSort_of_pairwise (((gapsOf_sorted early (n+1)).drop).imp fun ordered => ?_)
    simpa using ordered
  rw [InboundCadence.silenceLimit,gaps,sorted]
  have scaled (gap : Nat) (small : gap ≤ maxPingGap) :
      max silenceFloor (Duration.saturatingMul gap silencePings) = max silenceFloor (silencePings*gap) := by
    have below : gap*silencePings ≤ Duration.maxValue := by
      simp only [maxPingGap,Duration.fromSecs,silencePings,Duration.maxValue] at small ⊢
      omega
    rw [Duration.saturatingMul,min_eq_left below,Nat.mul_comm]
  cases n with
  | zero =>
    have single : (gapsOf offset period (0+1)).rtake pingGapsKept = [offset] := rfl
    rw [single,if_pos rfl,← scaled offset (early.trans short)]
    simp
  | succ n =>
    rw [gapsOf_median,Option.map_some,scaled period short,if_neg (Nat.succ_ne_zero n)]

theorem punctual_silence (punctual : Punctual started offset period now heard) (n : Nat)
    (pings : heard.filterMap Heard.pinged = schedule started offset period (n+1))
    (due : now ≤ started+offset+(n+1)*period) : now-(InboundCadence.after started heard).lastFrame ≤ period := by
  have last : started+offset+n*period ∈ heard.filterMap Heard.pinged := by
    rw [pings,schedule_succ]
    exact List.mem_append_right _ (List.mem_singleton_self _)
  obtain ⟨h,member,pinged⟩ := List.mem_filterMap.mp last
  have instant : h.instant = started+offset+n*period := by
    cases h with
    | ping at_ => exact Option.some.inj pinged
    | frame at_ => cases pinged
  have heardLast := @InboundCadence.lastFrame_last started heard punctual.ordered h member
  have next : (n+1)*period = n*period+period := Nat.succ_mul n period
  omega

/-- A manager that pings on time is never taken for dead exactly when its period is
within the limit that the first ping alone teaches. -/
theorem punctual_manager_alive_iff (started offset period : Nat) (short : period ≤ Duration.fromSecs 300) (early : offset ≤ period) :
    (∀ now heard, Punctual started offset period now heard →
        (InboundCadence.after started heard).deadFor now = none) ↔
      period ≤ max silenceFloor (silencePings*offset) := by
  constructor
  · intro alive
    by_contra slow
    have late : max silenceFloor (silencePings*offset) < period := Nat.lt_of_not_le slow
    have first : schedule started offset period 1 = [started+offset] := by simp [schedule]
    have punctual : Punctual started offset period (started+offset+max silenceFloor (silencePings*offset)+1)
        [.ping (started+offset)] := by
      refine ⟨by omega,List.pairwise_singleton _ _,fun h member => ?_,1,?_,by omega⟩
      · rw [List.mem_singleton.mp member]
        simp only [Heard.instant]
        omega
      · rw [first]
        rfl
    have limit := @punctual_limit started offset period [.ping (started+offset)] short early 0 (by rw [first]; rfl)
    have fine := alive _ _ punctual
    have silent : started+offset+max silenceFloor (silencePings*offset)+1-(started+offset) >
        max silenceFloor (silencePings*offset) := by omega
    have lastFrame : (InboundCadence.after started [.ping (started+offset)]).lastFrame = started+offset := rfl
    rw [InboundCadence.deadFor,limit,if_pos rfl,Option.bind_some,lastFrame] at fine
    simp only [if_pos silent] at fine
    cases fine
  · intro within now heard punctual
    obtain ⟨n,pings,due⟩ := punctual.pings
    cases n with
    | zero =>
      obtain ⟨gaps,_⟩ := punctual_gaps short early 0 pings
      rw [InboundCadence.deadFor,InboundCadence.silenceLimit,gaps]
      simp [gapsOf,List.rtake]
    | succ n =>
      have silence := punctual_silence punctual n pings due
      have enough : period ≤ max silenceFloor (silencePings*(if n = 0 then offset else period)) := by
        by_cases one : n = 0
        · rw [if_pos one]
          exact within
        · rw [if_neg one,silencePings]
          omega
      rw [InboundCadence.deadFor,punctual_limit short early n pings,Option.bind_some]
      exact if_neg (by omega)

end Punctual

/-- At the longest keepalive, with the first ping one second into the session. -/
theorem sample_manager_alive_iff :
    (∀ now heard, Punctual 0 (Duration.fromSecs 1) (Duration.fromSecs 300) now heard →
        (InboundCadence.after 0 heard).deadFor now = none) ↔
      Duration.fromSecs 300 ≤ max silenceFloor (silencePings*Duration.fromSecs 1) :=
  punctual_manager_alive_iff 0 (Duration.fromSecs 1) (Duration.fromSecs 300) (by decide) (by decide)

/-- It is taken for dead 91 s after that ping, 209 s before the next one is due. -/
theorem slow_manager_dropped :
    Punctual 0 (Duration.fromSecs 1) (Duration.fromSecs 300) (Duration.fromSecs 92) [.ping (Duration.fromSecs 1)] ∧
      (InboundCadence.after 0 [.ping (Duration.fromSecs 1)]).deadFor (Duration.fromSecs 92) =
        some (Duration.fromSecs 91,Duration.fromSecs 90) := by
  constructor
  · refine ⟨by decide,List.pairwise_singleton _ _,fun h member => ?_,1,by decide,by decide⟩
    rw [List.mem_singleton.mp member]
    decide
  · decide +kernel

end GatewaySdk.Client
