import GatewaySdk.Effect.Trace

/-! Programs that run among others on one state, a call at a time: what each relies on
the others to leave alone, and what each of its own calls guarantees them. -/
namespace GatewaySdk.Effect

variable {S : Signature} {ε δ α β κ σ : Type}

/-- Whatever the others have done before a call, as far as `rely` lets them, the call keeps
`guar` where it may be made, and so does all that follows; `post` holds of the outcome. -/
def Amid (M : Machine S κ σ) (may : S.Call → κ → σ → Prop) (rely guar : σ → σ → Prop)
    (post : Except ε α → σ → Prop) : Program S ε α → σ → Prop
  | .pure value,s => ∀ s', rely s s' → post (.ok value) s'
  | .fail error,s => ∀ s', rely s s' → post (.error error) s'
  | .call operation next,s => ∀ s' choice, rely s s' → may operation choice s' →
      guar s' (M.exec operation choice s').2 ∧
        Amid M may rely guar post (next (M.exec operation choice s').1) (M.exec operation choice s').2

namespace Amid
variable {M : Machine S κ σ} {may : S.Call → κ → σ → Prop} {rely guar : σ → σ → Prop} {s s' : σ}

theorem moved {post : Except ε α → σ → Prop} {program : Program S ε α} (trans : ∀ a b c, rely a b → rely b c → rely a c)
    (amid : Amid M may rely guar post program s) (move : rely s s') : Amid M may rely guar post program s' := by
  cases program with
  | pure value => exact fun t further => amid t (trans _ _ _ move further)
  | fail error => exact fun t further => amid t (trans _ _ _ move further)
  | call operation next => exact fun t choice further => amid t choice (trans _ _ _ move further)

theorem mono {post post' : Except ε α → σ → Prop} {program : Program S ε α} (amid : Amid M may rely guar post program s)
    (ends : ∀ outcome s, post outcome s → post' outcome s) : Amid M may rely guar post' program s := by
  induction program generalizing s with
  | pure value => exact fun t move => ends _ _ (amid t move)
  | fail error => exact fun t move => ends _ _ (amid t move)
  | call operation next ih =>
    intro t choice move permitted
    exact ⟨(amid t choice move permitted).1,ih _ (amid t choice move permitted).2⟩

theorem and {first second : Except ε α → σ → Prop} {program : Program S ε α} (one : Amid M may rely guar first program s)
    (other : Amid M may rely guar second program s) :
    Amid M may rely guar (fun outcome s => first outcome s ∧ second outcome s) program s := by
  induction program generalizing s with
  | pure value => exact fun t move => ⟨one t move,other t move⟩
  | fail error => exact fun t move => ⟨one t move,other t move⟩
  | call operation next ih =>
    intro t choice move permitted
    exact ⟨(one t choice move permitted).1,ih _ (one t choice move permitted).2 (other t choice move permitted).2⟩

theorem bind (refl : ∀ a, rely a a) {middle : Except ε α → σ → Prop} {post : Except ε β → σ → Prop}
    {first : Program S ε α} {rest : α → Program S ε β} (amid : Amid M may rely guar middle first s)
    (value : ∀ a s, middle (.ok a) s → Amid M may rely guar post (rest a) s)
    (error : ∀ e s, middle (.error e) s → post (.error e) s) : Amid M may rely guar post (first.bind rest) s := by
  induction first generalizing s with
  | pure a => exact value a s (amid s (refl s))
  | fail e => exact fun t move => error e t (amid t move)
  | call operation next ih =>
    intro t choice move permitted
    exact ⟨(amid t choice move permitted).1,ih _ (amid t choice move permitted).2⟩

theorem attempt {post : Except δ (Except ε α) → σ → Prop} {program : Program S ε α}
    (amid : Amid M may rely guar (fun outcome s => post (.ok outcome) s) program s) :
    Amid M may rely guar post program.attempt s := by
  induction program generalizing s with
  | pure value => exact amid
  | fail error => exact amid
  | call operation next ih =>
    intro t choice move permitted
    exact ⟨(amid t choice move permitted).1,ih _ (amid t choice move permitted).2⟩

theorem mapError {post : Except δ α → σ → Prop} {f : ε → δ} {program : Program S ε α}
    (amid : Amid M may rely guar (fun outcome s => post (outcome.mapError f) s) program s) :
    Amid M may rely guar post (program.mapError f) s := by
  induction program generalizing s with
  | pure value => exact amid
  | fail error => exact amid
  | call operation next ih =>
    intro t choice move permitted
    exact ⟨(amid t choice move permitted).1,ih _ (amid t choice move permitted).2⟩

theorem ofExcept {post : Except ε α → σ → Prop} {outcome : Except ε α} (now : ∀ t, rely s t → post outcome t) :
    Amid M may rely guar post (Program.ofExcept outcome) s := by
  cases outcome with
  | ok value => exact now
  | error error => exact now

end Amid
end GatewaySdk.Effect
