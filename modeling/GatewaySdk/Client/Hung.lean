import GatewaySdk.Client.Serial
import GatewaySdk.Client.Waits

/-! Sessions that come and go behind a command that never returns leave nothing behind. -/
namespace GatewaySdk.Client
open GatewaySdk.Effect GatewaySdk.Upgrade

variable {fromStr : String → Option Json} {k h : Nat} {c : GatewayClient} {history : List Fact} {command : QueuedCommand}
  {letGo : Bool}

/-- No worker has a step left: each that was woken has been polled. -/
def Polled (c : GatewayClient) : Prop := ∀ k, k < c.count → ¬ Moves WorkerStep c k

/-- A worker whose session is over and that has nothing to do has let its queue go, if it
is not done altogether. -/
theorem Polled.over_worker (polled : Polled c) (lined : Lined c) (born : k < c.count) (isOver : (c.session k).sessionOver = true)
    (hung : (c.session h).worker = .running command .handling letGo) :
    (c.session k).worker.letGo = true ∧ (c.session k).worker.uninvoked = [] ∧ ((c.session k).worker ≠ .done → k = h) := by
  have still {facts : List SessionFact} {τ : Session} (moved : WorkerStep (c.session k) .quiet facts τ) : False :=
    polled k born (.quietly moved)
  have leaves {facts : List SessionFact} {τ : Session} (moved : WorkerStep (c.session k) .leave facts τ) : False :=
    polled k born ⟨_,_,_,_,_,moved,.leave⟩
  have holdsH : (c.session h).worker.holds = true := by
    rw [hung]
    rfl
  have other {P : Prop} {worker : Worker} (here : (c.session k).worker = worker) (holds : worker.holds = true)
      (different : worker.handled = []) : P := by
    have same : k = h := lined.one_holds (by rw [here]; exact holds) holdsH
    subst k
    rw [← here,hung] at different
    cases different
  cases worker : (c.session k).worker with
  | unpolled => exact (still (.neverAsked worker isOver)).elim
  | waiting => exact (leaves (.gaveUp worker isOver)).elim
  | idle => exact (leaves (.stops worker isOver)).elim
  | running taken task kept =>
    have same : k = h := lined.one_holds (by rw [worker]; rfl) holdsH
    subst k
    cases worker.symm.trans hung
    cases letGo with
    | true => exact ⟨rfl,rfl,fun _ => rfl⟩
    | false => exact (still (.letsGo command .handling worker ⟨nofun,nofun⟩ isOver)).elim
  | acking taken frame kept => exact other worker rfl rfl
  | seenOut kept => exact other worker rfl rfl
  | done => exact ⟨rfl,rfl,fun alive => absurd rfl alive⟩

/-- An ended session holds no text of the manager and all permits of both budgets are free. -/
structure Session.Released (σ : Session) : Prop where
  queue : σ.queue = []
  frames : σ.frames = []
  texts : σ.texts = []
  commandFree : σ.commandFree = commandQueueBytes
  inboundFree : σ.inboundFree = inboundBudgetBytes

theorem Budgets.released {σ : Session} (held : Budgets σ) (gone : σ.Gone) (queue : σ.queue = [])
    (uninvoked : σ.worker.uninvoked = []) : σ.Released := by
  obtain ⟨loop,reader,inbound⟩ := gone
  have frames : σ.frames = [] := by
    rw [Session.frames,queue,uninvoked,loop]
    rfl
  have texts : σ.texts = [] := by
    rw [Session.texts,inbound,reader,loop]
    rfl
  have commandFree := held.commands
  have inboundFree := held.inbound
  rw [frames,permits_nil,Nat.add_zero] at commandFree
  rw [texts,permits_nil,Nat.add_zero] at inboundFree
  exact ⟨queue,frames,texts,commandFree,inboundFree⟩

/-- While a command hangs and every woken worker has been polled, no worker is alive but its
own and that of a session that is not over, the last; and the ended sessions hold nothing. -/
theorem hung_command_accumulates_nothing (runs : Runs fromStr history c) (polled : Polled c)
    (hung : (c.session h).worker = .running command .handling letGo) :
    (∀ k, k < c.count → (c.session k).worker ≠ .done → k = h ∨ (k+1 = c.count ∧ (c.session k).sessionOver = false)) ∧
      ∀ k, k < c.count → (c.session k).sessionOver = true → (c.session k).Released := by
  have phased := runs_phased runs
  have lined := runs_lined runs
  refine ⟨fun k inside alive => ?_,fun k inside isOver => ?_⟩
  · cases isOver : (c.session k).sessionOver with
    | true => exact .inl ((polled.over_worker lined inside isOver hung).2.2 alive)
    | false => exact .inr ⟨((phased.live k inside).mp isOver).1,rfl⟩
  · obtain ⟨letGo,uninvoked,_⟩ := polled.over_worker lined inside isOver hung
    have gone : (c.session k).loop = .gone := by
      by_contra stays
      obtain ⟨last,live⟩ := (phased.loops k inside).mp stays
      have attended := (phased.live k inside).mpr ⟨last,by rw [live]; rfl⟩
      rw [isOver] at attended
      cases attended
    exact (runs_budgets runs k).released (phased.gone k inside gone) ((runs_tally runs k).empty letGo) uninvoked

/-- One reconnect behind a hung command: two workers are alive, and the ended session's
budgets are whole again. -/
theorem hung_holds_nothing : ∃ c, Sample.Hung c ∧ (c.session 0).sessionOver = true ∧ (c.session 0).Released := by
  obtain ⟨c,hung⟩ := Sample.hung
  have isOver : (c.session 0).sessionOver = true := congrArg Session.sessionOver hung.first
  have running : (c.session 0).worker = .running Sample.reboot .handling true := congrArg Session.worker hung.first
  have waiting : (c.session 1).worker = .waiting := congrArg Session.worker hung.second
  have live : (c.session 1).sessionOver = false := congrArg Session.sessionOver hung.second
  have polled : Polled c := by
    rintro k inside ⟨action,facts,τ,more,granted,moved,grants⟩
    rw [hung.count] at inside
    obtain rfl | rfl : k = 0 ∨ k = 1 := by omega
    · cases moved with
      | letsGo command task runs unfinished isOver => cases running.symm.trans runs
      | joined command letGo runs => cases running.symm.trans runs
      | panicked command letGo runs => cases running.symm.trans runs
      | asks here | neverAsked here | gaveUp here | turn here | takes _ here | stops here | unfed here | sent _ _ _ here
      | unsent _ _ _ here | goesOn here | returns here => cases running.symm.trans here
    · cases moved with
      | gaveUp here isOver => cases live.symm.trans isOver
      | turn here _ =>
        cases grants with
        | hold first =>
          rw [hung.turn] at first
          cases first
      | asks here | neverAsked here | takes _ here | stops here | unfed here | letsGo _ _ here | joined _ _ here
      | panicked _ _ here | sent _ _ _ here | unsent _ _ _ here | goesOn here | returns here =>
        cases waiting.symm.trans here
  have zero : 0 < c.count := by
    rw [hung.count]
    decide
  exact ⟨c,hung,isOver,(hung_command_accumulates_nothing hung.runs polled running).2 0 zero isOver⟩

end GatewaySdk.Client
