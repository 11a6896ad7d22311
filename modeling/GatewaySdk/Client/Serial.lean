import GatewaySdk.Client.Fates
import GatewaySdk.Client.Turn

/-! Commands run one at a time and in order, across every reconnect. -/
namespace GatewaySdk.Client
open GatewaySdk.Effect GatewaySdk.Upgrade

variable {fromStr : String → Option Json} {k j : Nat} {c c' : GatewayClient} {σ τ : Session} {action : Action}
  {command : QueuedCommand} {facts : List SessionFact} {history more : List Fact}

theorem Step.of_session {fact : SessionFact} (moved : Step fromStr c more c') (told : Fact.of k fact ∈ more) :
    k < c.count ∧ ∃ action facts σ, SessionStep fromStr (c.session k) action facts σ ∧ fact ∈ facts := by
  cases moved with
  | @session granted action facts extra σ j born moved grants =>
    rcases List.mem_append.mp told with inside | outside
    · obtain ⟨found,member,same⟩ := List.mem_map.mp inside
      cases same
      exact ⟨born,action,facts,σ,moved,member⟩
    · cases grants <;> simp at outside
  | main moved => cases told
  | emitter moved => cases moved <;> simp at told

theorem SessionStep.takes (moved : SessionStep fromStr σ action facts τ) (told : SessionFact.taken command ∈ facts) :
    σ.worker = .idle ∧ σ.sessionOver = false ∧ σ.queue.head? = some command := by
  cases moved with
  | worker moved =>
    cases moved with
    | takes first idle live queued =>
      cases List.mem_singleton.mp told
      exact ⟨idle,live,by rw [queued]; rfl⟩
    | _ => simp at told
  | task moved =>
    cases moved with
    | acked other letGo frame response running => cases response <;> simp [Task.acked] at told
    | unacked other letGo frame response running => cases response <;> simp [Task.acked] at told
    | _ => simp at told
  | loop moved => cases moved <;> simp at told
  | _ => simp at told

def runningOf (facts : List SessionFact) : List QueuedCommand := (invokedOf facts).drop (finishedOf facts).length

theorem Tally.running {history : List SessionFact} (tally : Tally history σ) : runningOf history = σ.worker.handled := by
  rw [runningOf,tally.invoked,List.drop_left]

theorem handled_holds {worker : Worker} (handled : command ∈ worker.handled) :
    worker.holds = true ∧ worker.handled = [command] := by
  cases worker with
  | running taken task letGo =>
    cases task with
    | handling =>
      cases List.mem_singleton.mp handled
      exact ⟨rfl,rfl⟩
    | _ => cases handled
  | _ => cases handled

theorem runs_tally (runs : Runs fromStr history c) (k : Nat) : Tally (factsOf k history) (c.session k) :=
  alone_tally (session_alone runs k).1

theorem queuedOf_sublist (facts : List SessionFact) : (queuedOf facts).Sublist (routedOf facts) := by
  induction facts with
  | nil => exact .slnil
  | cons fact facts ih =>
    cases fact with
    | routed command verdict =>
      cases verdict with
      | queued => exact ih.cons_cons command
      | busy => exact ih.cons command
    | _ => exact ih

theorem Tally.in_order {history : List SessionFact} (tally : Tally history σ) :
    (queuedOf history).Pairwise fun a b => a.arrival < b.arrival := by
  have all : (routedOf history).Pairwise fun a b => a.arrival < b.arrival := by
    rw [← List.pairwise_map (R := (· < ·)),tally.arrivals]
    exact List.pairwise_lt_range
  exact all.sublist (queuedOf_sublist history)

/-- The worker of session `k` has the turn, and no other. -/
structure HasTurn (c : GatewayClient) (k : Nat) : Prop where
  holds : (c.session k).worker.holds = true
  first : c.turn.head? = some (.worker k)
  only : ∀ j, (c.session j).worker.holds = true → j = k

theorem Lined.hasTurn (lined : Lined c) (holds : (c.session k).worker.holds = true) : HasTurn c k :=
  ⟨holds,lined.holds k holds,fun _ other => lined.one_holds other holds⟩

/-- Handlers never overlap, a worker takes commands only in its turn, and each session's
are taken in the order in which it queued them. -/
theorem commands_never_overlap (runs : Runs fromStr history c) :
    (∀ j k, ∀ a ∈ runningOf (factsOf j history), ∀ b ∈ runningOf (factsOf k history), j = k ∧ a = b) ∧
      (∀ k, (runningOf (factsOf k history)).length ≤ 1 ∧ finishedOf (factsOf k history) <+: invokedOf (factsOf k history)) ∧
      (∀ k command more c', Step fromStr c more c' → Fact.of k (.taken command) ∈ more → HasTurn c k) ∧
      ∀ k, takenOf (factsOf k history) <+: queuedOf (factsOf k history) ∧
        (queuedOf (factsOf k history)).Pairwise fun a b => a.arrival < b.arrival := by
  have lined := runs_lined runs
  refine ⟨fun j k a runsA b runsB => ?_,fun k => ⟨?_,?_⟩,fun k command more c' moved told => ?_,fun k => ⟨?_,?_⟩⟩
  · rw [(runs_tally runs j).running] at runsA
    rw [(runs_tally runs k).running] at runsB
    obtain ⟨holdsA,onlyA⟩ := handled_holds runsA
    obtain ⟨holdsB,onlyB⟩ := handled_holds runsB
    obtain rfl := lined.one_holds holdsA holdsB
    rw [onlyA] at onlyB
    exact ⟨rfl,List.head_eq_of_cons_eq onlyB⟩
  · rw [(runs_tally runs k).running]
    cases running : (c.session k).worker.handled with
    | nil => exact Nat.zero_le 1
    | cons command rest =>
      have handled : command ∈ (c.session k).worker.handled := by
        rw [running]
        exact List.mem_cons_self
      rw [← running,(handled_holds handled).2]
      exact Nat.le_refl 1
  · exact ⟨_,(runs_tally runs k).invoked.symm⟩
  · obtain ⟨_,_,_,_,moved,told⟩ := moved.of_session told
    refine lined.hasTurn ?_
    rw [(moved.takes told).1]
    rfl
  · rw [(runs_tally runs k).queued,List.append_assoc]
    exact List.prefix_append _ _
  · exact (runs_tally runs k).in_order

/-- While a command hangs, no other handler runs. -/
theorem hung_runs_alone : ∃ c, Sample.Hung c ∧
    ∀ k, ∀ other ∈ runningOf (factsOf k Sample.past), 0 = k ∧ Sample.reboot = other := by
  obtain ⟨c,hung⟩ := Sample.hung
  have hangs : Sample.reboot ∈ runningOf (factsOf 0 Sample.past) := List.mem_cons_self
  exact ⟨c,hung,fun k other runsToo => (commands_never_overlap hung.runs).1 0 k _ hangs other runsToo⟩

end GatewaySdk.Client
