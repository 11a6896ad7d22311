import GatewaySdk.Effect.Program

/-! What becomes of the errors of a program: which it can fail with, and what renaming them
leaves as it is. -/
namespace GatewaySdk.Effect

variable {S : Signature} {ε δ α β κ σ : Type}

namespace Program

theorem mapError_bind (first : Program S ε α) (rest : α → Program S ε β) (f : ε → δ) :
    (first.bind rest).mapError f = (first.mapError f).bind fun value => (rest value).mapError f := by
  induction first with
  | pure value => rfl
  | fail error => rfl
  | call operation next ih =>
    simp only [call_bind,mapError]
    congr 1
    funext reply
    exact ih reply

theorem mapError_ofExcept (outcome : Except ε α) (f : ε → δ) :
    (ofExcept outcome : Program S ε α).mapError f = ofExcept (outcome.mapError f) := by
  cases outcome <;> rfl

/-- A program that never fails is the same under any error. -/
theorem mapError_attempt {φ : Type} (program : Program S ε α) (f : δ → φ) :
    (program.attempt : Program S δ (Except ε α)).mapError f = program.attempt := by
  induction program with
  | pure value => rfl
  | fail error => rfl
  | call operation next ih =>
    simp only [attempt,mapError]
    congr 1
    funext reply
    exact ih reply

theorem mapError_result (program : Program S ε α) (f : ε → δ) :
    (program.mapError f).result = program.result.map (Except.mapError f) := by
  cases program <;> rfl

end Program

/-- The runs of a program whose errors are renamed are its own. -/
theorem Machine.run_mapError (M : Machine S κ σ) (choices : List κ) (program : Program S ε α) (f : ε → δ) (state : σ) :
    M.run choices (program.mapError f) state =
      ((M.run choices program state).1.mapError f,(M.run choices program state).2) := by
  induction choices generalizing program state with
  | nil => simp
  | cons choice choices ih =>
    cases program with
    | pure value => simp [Program.mapError]
    | fail error => simp [Program.mapError]
    | call operation next => exact ih _ _

/-- The error of a check that refuses is one of these. -/
def Refuses (P : ε → Prop) (outcome : Except ε α) : Prop := ∀ error, outcome = .error error → P error

namespace Refuses
variable {P : ε → Prop}

theorem bind {first : Except ε α} {rest : α → Except ε β} (refuses : Refuses P first)
    (more : ∀ value, first = .ok value → Refuses P (rest value)) : Refuses P (first >>= rest) := by
  cases first with
  | error e => exact fun error same => refuses error (congrArg Except.error (Except.error.inj same))
  | ok value => exact more value rfl

theorem ok (value : α) : Refuses P (.ok value : Except ε α) := fun _ same => by cases same

theorem mapError {f : δ → ε} {outcome : Except δ α} (renamed : ∀ error, outcome = .error error → P (f error)) :
    Refuses P (outcome.mapError f) := by
  cases outcome with
  | ok value => exact ok value
  | error e =>
    intro error same
    cases same
    exact renamed e rfl

end Refuses

/-- Every error the program can come to fail with is one of these. -/
def Errs (P : ε → Prop) : Program S ε α → Prop
  | .pure _ => True
  | .fail error => P error
  | .call _ next => ∀ reply, Errs P (next reply)

namespace Errs
variable {P : ε → Prop}

theorem bind {first : Program S ε α} {rest : α → Program S ε β} (errs : Errs P first) (more : ∀ value, Errs P (rest value)) :
    Errs P (first.bind rest) := by
  induction first with
  | pure value => exact more value
  | fail error => exact errs
  | call operation next ih => exact fun reply => ih reply (errs reply)

theorem attempt (program : Program S δ α) : Errs P (program.attempt : Program S ε (Except δ α)) := by
  induction program with
  | pure value => trivial
  | fail error => trivial
  | call operation next ih => exact ih

theorem mapError {f : δ → ε} {program : Program S δ α} (renamed : ∀ error, P (f error)) : Errs P (program.mapError f) := by
  induction program with
  | pure value => trivial
  | fail error => exact renamed error
  | call operation next ih => exact ih

theorem renamed {Q : δ → Prop} {f : δ → ε} {program : Program S δ α} (errs : Errs Q program) (renamed : ∀ error, Q error → P (f error)) :
    Errs P (program.mapError f) := by
  induction program with
  | pure value => trivial
  | fail error => exact renamed error errs
  | call operation next ih => exact fun reply => ih reply (errs reply)

/-- A check whose outcome is known when the rest begins. -/
theorem check {outcome : Except ε α} {rest : α → Program S ε β} (error : Refuses P outcome)
    (value : ∀ a, outcome = .ok a → Errs P (rest a)) : Errs P ((Program.ofExcept outcome).bind rest) := by
  cases outcome with
  | ok a => exact value a rfl
  | error e => exact error e rfl

theorem run {M : Machine S κ σ} {program : Program S ε α} (errs : Errs P program) (choices : List κ) (state : σ) {error : ε}
    (failed : (M.run choices program state).1.result = some (.error error)) : P error := by
  induction choices generalizing program state with
  | nil =>
    rw [Machine.run_nil] at failed
    cases program with
    | pure value => cases failed
    | fail e =>
      cases failed
      exact errs
    | call operation next => cases failed
  | cons choice choices ih =>
    cases program with
    | pure value => simp at failed
    | fail e =>
      simp only [Machine.run_fail,Program.result_fail,Option.some.injEq,Except.error.injEq] at failed
      exact failed ▸ errs
    | call operation next => exact ih (errs _) _ failed

end Errs
end GatewaySdk.Effect
