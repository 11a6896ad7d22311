import GatewaySdk.Host.Rules

/-! Where the host and the machine without links agree: on calls that go through no link
that was unpacked. A program all of whose calls do so on the machine runs alike on both. -/
namespace GatewaySdk.Host
open GatewaySdk.Effect

variable {tar : TarCrate} {ε α : Type}

theorem Outside.not_linked {operation : Call} (outside : Outside operation) (w : World) : w.linked operation = false := by
  cases operation <;> first | rfl | exact outside.elim

theorem host_exec {operation : Call} {w : World} (direct : w.linked operation = false) (choice : Choice) :
    (host tar).exec operation choice w = (machine tar).exec operation choice w := by
  simp [host,direct]

theorem host_record_exec {operation : Call} {m : World × Trace Sig Choice World}
    (direct : m.1.linked operation = false) (choice : Choice) :
    (host tar).record.exec operation choice m = (machine tar).record.exec operation choice m := by
  simp only [Machine.record,Machine.event,host_exec direct]

/-- What holds of a program that makes no call inside a directory holds of it on the host. -/
theorem holds_host {during : World × Trace Sig Choice World → Prop}
    {post : Except ε α → World × Trace Sig Choice World → Prop} {program : Program Sig ε α}
    {m : World × Trace Sig Choice World} (outside : Uses Outside program)
    (holds : Holds (machine tar).record during post program m) : Holds (host tar).record during post program m := by
  induction program generalizing m with
  | pure value => exact holds
  | fail error => exact holds
  | call operation next ih =>
    refine ⟨holds.1,fun choice => ?_⟩
    rw [host_record_exec (outside.1.not_linked m.1)]
    exact ih _ (outside.2 _) (holds.2 choice)

/-- No call so far went through a link. -/
def Direct (log : Trace Sig Choice World) : Prop := ∀ event ∈ log, event.before.linked event.operation = false

theorem direct_nil : Direct [] := List.forall_mem_nil _

theorem direct_snoc {log : Trace Sig Choice World} {event : Event Sig Choice World} :
    Direct (log ++ [event]) ↔ Direct log ∧ event.before.linked event.operation = false := by
  simp [Direct,or_imp,forall_and]

/-- What is true of every run on the machine, if those go through no link, is true of the
host's: they are the same runs. -/
theorem host_run {during : World × Trace Sig Choice World → Prop}
    {post : Except ε α → World × Trace Sig Choice World → Prop} {program : Program Sig ε α}
    {m : World × Trace Sig Choice World} (holds : Holds (machine tar).record during post program m)
    (direct : ∀ m, during m → Direct m.2) (choices : List Choice) :
    (host tar).record.run choices program m = (machine tar).record.run choices program m := by
  induction choices generalizing program m with
  | nil => rfl
  | cons choice choices ih =>
    cases program with
    | pure value => rfl
    | fail error => rfl
    | call operation next =>
      have rest := holds.2 choice
      have now : m.1.linked operation = false := (direct_snoc.mp (direct _ rest.now)).2
      rw [Machine.run_call,Machine.run_call,host_record_exec now]
      exact ih rest

end GatewaySdk.Host
