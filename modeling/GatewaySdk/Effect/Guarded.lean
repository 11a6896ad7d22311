import GatewaySdk.Effect.Program

/-! Programs that are stopped between two calls: what is true of the state whenever one of
their calls is due. -/
namespace GatewaySdk.Effect

variable {S : Signature} {ε δ α β κ σ : Type}

/-- Every call is due in a state that admits it, whatever the calls before it came back with,
and `post` holds of the outcome. -/
def Guarded (M : Machine S κ σ) (admits : S.Call → σ → Prop) (post : Except ε α → σ → Prop) : Program S ε α → σ → Prop
  | .pure value,s => post (.ok value) s
  | .fail error,s => post (.error error) s
  | .call operation next,s => admits operation s ∧
      ∀ choice, Guarded M admits post (next (M.exec operation choice s).1) (M.exec operation choice s).2

namespace Guarded
variable {M : Machine S κ σ} {admits : S.Call → σ → Prop} {s : σ}

theorem bind {middle : Except ε α → σ → Prop} {post : Except ε β → σ → Prop} {first : Program S ε α}
    {rest : α → Program S ε β} (guarded : Guarded M admits middle first s)
    (value : ∀ a s, middle (.ok a) s → Guarded M admits post (rest a) s)
    (error : ∀ e s, middle (.error e) s → post (.error e) s) : Guarded M admits post (first.bind rest) s := by
  induction first generalizing s with
  | pure a => exact value a s guarded
  | fail e => exact error e s guarded
  | call operation next ih => exact ⟨guarded.1,fun choice => ih _ (guarded.2 choice)⟩

theorem attempt {post : Except ε α → σ → Prop} {program : Program S ε α} (guarded : Guarded M admits post program s) :
    Guarded M admits (fun (outcome : Except δ (Except ε α)) s => ∃ ended, outcome = .ok ended ∧ post ended s)
      program.attempt s := by
  induction program generalizing s with
  | pure value => exact ⟨.ok value,rfl,guarded⟩
  | fail error => exact ⟨.error error,rfl,guarded⟩
  | call operation next ih => exact ⟨guarded.1,fun choice => ih _ (guarded.2 choice)⟩

theorem ofExcept {post : Except ε β → σ → Prop} {outcome : Except ε α} {rest : α → Program S ε β}
    (value : ∀ a, outcome = .ok a → Guarded M admits post (rest a) s) (error : ∀ e, outcome = .error e → post (.error e) s) :
    Guarded M admits post ((Program.ofExcept outcome).bind rest) s := by
  cases outcome with
  | ok a => exact value a rfl
  | error e => exact error e rfl

end Guarded
end GatewaySdk.Effect
