import GatewaySdk.Effect.Trace
import Mathlib.Data.List.Forall2

/-! Programs that must get somewhere: within so many calls, each answered as the surroundings
are allowed to, the program makes a call that is awaited or ends well. The rules are those of
`Holds`, with the number of calls added up. One machine also stands for another when it gives
the same answers under some choice. -/
namespace GatewaySdk.Effect

variable {S : Signature} {ε δ α β κ κ' σ τ : Type}

def Attains (M : Machine S κ σ) (kind : κ → Prop) (awaited : S.Call → σ → Prop) (post : Except ε α → σ → Prop) :
    Nat → Program S ε α → σ → Prop
  | _,.pure value,s => post (.ok value) s
  | _,.fail error,s => post (.error error) s
  | 0,.call _ _,_ => False
  | n+1,.call operation next,s => awaited operation s ∨
      ∀ choice, kind choice → Attains M kind awaited post n (next (M.exec operation choice s).1) (M.exec operation choice s).2

namespace Attains
variable {M : Machine S κ σ} {kind : κ → Prop} {awaited : S.Call → σ → Prop} {post post' : Except ε α → σ → Prop}
  {n m : Nat} {s : σ}

theorem done {value : α} (here : post (.ok value) s) : Attains M kind awaited post n (.pure value) s := by
  cases n <;> exact here

theorem mono {awaited' : S.Call → σ → Prop} {program : Program S ε α} (attains : Attains M kind awaited post n program s)
    (more : n ≤ m) (calls : ∀ operation s, awaited operation s → awaited' operation s)
    (ends : ∀ outcome s, post outcome s → post' outcome s) : Attains M kind awaited' post' m program s := by
  induction program generalizing n m s with
  | pure value => cases n <;> cases m <;> exact ends _ _ attains
  | fail error => cases n <;> cases m <;> exact ends _ _ attains
  | call operation next ih =>
    cases n with
    | zero => exact attains.elim
    | succ n =>
      cases m with
      | zero => exact absurd more (Nat.not_succ_le_zero n)
      | succ m =>
        rcases attains with now | later
        · exact .inl (calls _ _ now)
        · exact .inr fun choice allowed => ih _ (later choice allowed) (Nat.le_of_succ_le_succ more)

theorem bind {middle : Except ε α → σ → Prop} {post : Except ε β → σ → Prop} {first : Program S ε α}
    {rest : α → Program S ε β} (attains : Attains M kind awaited middle n first s)
    (value : ∀ a s, middle (.ok a) s → Attains M kind awaited post m (rest a) s)
    (error : ∀ e s, middle (.error e) s → post (.error e) s) : Attains M kind awaited post (n+m) (first.bind rest) s := by
  induction first generalizing n s with
  | pure a =>
    have here : middle (.ok a) s := by cases n <;> exact attains
    exact (value a s here).mono (Nat.le_add_left m n) (fun _ _ now => now) (fun _ _ ended => ended)
  | fail e =>
    have here : middle (.error e) s := by cases n <;> exact attains
    cases n <;> cases m <;> exact error e s here
  | call operation next ih =>
    cases n with
    | zero => exact attains.elim
    | succ n =>
      rw [Nat.succ_add]
      rcases attains with now | later
      · exact .inl now
      · exact .inr fun choice allowed => ih _ (later choice allowed)

theorem attempt {post : Except δ (Except ε α) → σ → Prop} {program : Program S ε α}
    (attains : Attains M kind awaited (fun outcome s => post (.ok outcome) s) n program s) :
    Attains M kind awaited post n program.attempt s := by
  induction program generalizing n s with
  | pure value => cases n <;> exact attains
  | fail error => cases n <;> exact attains
  | call operation next ih =>
    cases n with
    | zero => exact attains.elim
    | succ n =>
      rcases attains with now | later
      · exact .inl now
      · exact .inr fun choice allowed => ih _ (later choice allowed)

theorem ask {operation : S.Call} {next : S.Reply operation → Program S ε α}
    (later : ∀ choice, kind choice →
      Attains M kind awaited post n (next (M.exec operation choice s).1) (M.exec operation choice s).2) :
    Attains M kind awaited post (n+1) (.call operation next) s := .inr later

theorem narrow {kind' : κ → Prop} {program : Program S ε α} (attains : Attains M kind awaited post n program s)
    (fewer : ∀ choice, kind' choice → kind choice) : Attains M kind' awaited post n program s := by
  induction program generalizing n s with
  | pure value => cases n <;> exact attains
  | fail error => cases n <;> exact attains
  | call operation next ih =>
    cases n with
    | zero => exact attains.elim
    | succ n =>
      rcases attains with now | later
      · exact .inl now
      · exact .inr fun choice allowed => ih _ (later choice (fewer choice allowed))

/-- Given enough of the answers that are allowed, a run gets there. -/
theorem run {program : Program S ε α} (attains : Attains M kind awaited post n program s) {choices : List κ}
    (allowed : ∀ choice ∈ choices, kind choice) (enough : n ≤ choices.length) (past : Trace S κ σ) :
    Saw (fun event => awaited event.operation event.before) (M.record.run choices program (s,past)).2.2 ∨
    ∃ outcome, (M.record.run choices program (s,past)).1.result = some outcome ∧
      post outcome (M.record.run choices program (s,past)).2.1 := by
  induction choices generalizing n program s past with
  | nil =>
    obtain rfl := Nat.le_zero.mp enough
    cases program with
    | pure value => exact .inr ⟨_,rfl,attains⟩
    | fail error => exact .inr ⟨_,rfl,attains⟩
    | call operation next => exact attains.elim
  | cons choice choices ih =>
    cases program with
    | pure value =>
      rw [Machine.run_pure]
      exact .inr ⟨_,rfl,by cases n <;> exact attains⟩
    | fail error =>
      rw [Machine.run_fail]
      exact .inr ⟨_,rfl,by cases n <;> exact attains⟩
    | call operation next =>
      cases n with
      | zero => exact attains.elim
      | succ n =>
        rcases attains with now | later
        · have seen : Saw (fun event => awaited event.operation event.before) (past ++ [M.event operation choice s]) :=
            saw_snoc.mpr (.inr now)
          have grows := log_grows (M := M) choices (next (M.exec operation choice s).1)
            ((M.exec operation choice s).2,past ++ [M.event operation choice s]) 0
          rw [List.take_zero,Machine.run_nil] at grows
          obtain ⟨event,member,held⟩ := seen
          exact .inl ⟨event,grows.subset member,held⟩
        · exact ih (later choice (allowed choice List.mem_cons_self))
            (fun other member => allowed other (List.mem_cons_of_mem _ member)) (Nat.le_of_succ_le_succ enough) _

end Attains

/-- The machine under the choices that are allowed. -/
def Machine.only (M : Machine S κ σ) (kind : κ → Prop) : Machine S {choice // kind choice} σ where
  exec operation choice s := M.exec operation choice.1 s

/-- A program of so many calls adds no more than that to what a log counts. -/
theorem Fits.counts {M : Machine S κ σ} {n k : Nat} {program : Program S ε α} (fits : Fits n program)
    (counted : Event S κ σ → Bool) {m : σ × Trace S κ σ} (few : m.2.countP counted ≤ k) :
    Holds M.record (fun m => m.2.countP counted ≤ k+n) (fun _ m => m.2.countP counted ≤ k+n) program m := by
  induction program generalizing n k m with
  | pure value => exact ⟨Nat.le_add_right_of_le few,Nat.le_add_right_of_le few⟩
  | fail error => exact ⟨Nat.le_add_right_of_le few,Nat.le_add_right_of_le few⟩
  | call operation next ih =>
    cases n with
    | zero => exact fits.elim
    | succ n =>
      refine ⟨Nat.le_add_right_of_le few,fun choice => ?_⟩
      have step : (m.2 ++ [M.event operation choice m.1]).countP counted ≤ k+1 := by
        rw [List.countP_append]
        exact Nat.add_le_add few (List.countP_le_length)
      rw [Nat.add_comm n 1,← Nat.add_assoc]
      exact ih _ (fits _) step

section Refinement
variable {M : Machine S κ σ} {N : Machine S κ' τ}

/-- Every answer of the one machine is one that the other could give, in the state that
stands for the first one's. -/
def Answers (M : Machine S κ σ) (N : Machine S κ' τ) (view : σ → τ) : Prop :=
  ∀ operation choice s, ∃ choice', N.exec operation choice' (view s) =
    ((M.exec operation choice s).1,view (M.exec operation choice s).2)

/-- The call that was made and its answer. -/
def Event.said {κ σ : Type} (event : Event S κ σ) : (operation : S.Call) × S.Reply operation := ⟨event.operation,event.reply⟩

/-- Two logs of the same calls and answers, state for state. -/
abbrev SameCalls (view : σ → τ) : Trace S κ σ → Trace S κ' τ → Prop :=
  List.Forall₂ fun event event' => event'.before = view event.before ∧ event'.said = event.said

/-- Every run of the one machine is a run of the other, call for call. -/
theorem Answers.run {view : σ → τ} (answers : Answers M N view) (choices : List κ) (program : Program S ε α) (s : σ)
    {past : Trace S κ σ} {past' : Trace S κ' τ} (same : SameCalls view past past') :
    ∃ choices', (N.record.run choices' program (view s,past')).1 = (M.record.run choices program (s,past)).1 ∧
      (N.record.run choices' program (view s,past')).2.1 = view (M.record.run choices program (s,past)).2.1 ∧
      SameCalls view (M.record.run choices program (s,past)).2.2 (N.record.run choices' program (view s,past')).2.2 := by
  induction choices generalizing program s past past' with
  | nil => exact ⟨[],by simp,by simp,by simpa using same⟩
  | cons choice choices ih =>
    cases program with
    | pure value => exact ⟨[],by simp,by simp,by simpa using same⟩
    | fail error => exact ⟨[],by simp,by simp,by simpa using same⟩
    | call operation next =>
      obtain ⟨choice',answered⟩ := answers operation choice s
      have now : SameCalls view (past ++ [M.event operation choice s]) (past' ++ [N.event operation choice' (view s)]) := by
        refine List.rel_append same (.cons ⟨rfl,?_⟩ .nil)
        simp [Event.said,Machine.event,answered]
      obtain ⟨choices',left,state,calls⟩ := ih (next (M.exec operation choice s).1) (M.exec operation choice s).2 now
      refine ⟨choice'::choices',?_⟩
      simp only [Machine.run_call,Machine.record] at left state calls ⊢
      rw [answered]
      exact ⟨left,state,calls⟩

end Refinement
end GatewaySdk.Effect
