import GatewaySdk.Effect.Ends
import GatewaySdk.Host.Rules

/-! The machine on which no call is made to fail. -/
namespace GatewaySdk.Host
open GatewaySdk.Effect
open GatewaySdk.Upgrade (Bytes)

/-- A choice under which the call is answered as the files stand. -/
def steady (amount : Nat) : Choice := ⟨false,amount⟩

def steadily (tar : TarCrate) : Machine Sig Nat World := (machine tar).under steady

section Steady
variable {tar : TarCrate} {ε α : Type}

@[simp] theorem steadily_exec (operation : Call) (amount : Nat) (w : World) :
    (steadily tar).exec operation amount w = answer tar operation (steady amount) w := rfl

theorem steady_choices {choices : List Choice} (faultless : ∀ choice ∈ choices, choice.fails = false) :
    ∃ amounts : List Nat, choices = amounts.map steady := by
  refine ⟨choices.map Choice.amount,?_⟩
  rw [List.map_map]
  refine ((List.map_congr_left fun choice member => ?_).trans (List.map_id choices)).symm
  have fine := faultless choice member
  cases choice with
  | mk fails amount =>
    cases fine
    rfl

/-- What is true of every end on that machine is true of a recorded run in which no call
is made to fail. -/
theorem ends_recorded {post : Except ε α → World → Prop} {program : Program Sig ε α} {w : World}
    (ends : Ends (steadily tar) post program w) {choices : List Choice}
    (faultless : ∀ choice ∈ choices, choice.fails = false) {log : Trace Sig Choice World} {outcome : Except ε α}
    (done : ((machine tar).record.run choices program (w,log)).1.result = some outcome) :
    post outcome ((machine tar).record.run choices program (w,log)).2.1 := by
  obtain ⟨same,state⟩ := (machine tar).run_record choices program w log
  obtain ⟨amounts,rfl⟩ := steady_choices faultless
  rw [same,← Machine.run_under] at done
  rw [state,← Machine.run_under]
  exact ends.run amounts done

end Steady

namespace World
variable (w : World) (file : Handle) (exclusive : Bool)

@[simp] theorem release_node : (w.release file).node = w.node := rfl
@[simp] theorem release_data : (w.release file).data = w.data := rfl
@[simp] theorem release_fresh : (w.release file).fresh = w.fresh := rfl
@[simp] theorem acquire_node : (w.acquire file exclusive).node = w.node := rfl
@[simp] theorem acquire_data : (w.acquire file exclusive).data = w.data := rfl
@[simp] theorem acquire_fresh : (w.acquire file exclusive).fresh = w.fresh := rfl
@[simp] theorem handle_ino (ino : Nat) : (w.handle ino).ino = ino := rfl

end World

end GatewaySdk.Host

namespace GatewaySdk.Upgrade
open GatewaySdk.Host

/-- There is no directory there. -/
def NoDir (w : World) (place : Loc) : Prop := ∀ ino content, w.node place ≠ some (.dir ino content)

end GatewaySdk.Upgrade
