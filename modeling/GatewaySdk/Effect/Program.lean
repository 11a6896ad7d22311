import Mathlib.Logic.Basic
import Mathlib.Data.List.Basic

/-! Programs that reach the outside world by typed calls, with every reply kept.
A machine answers one call at a time under a choice of the environment, so that
the runs of a program under all choice lists are all its crashes and failures. -/
namespace GatewaySdk.Effect

structure Signature where
  Call : Type
  Reply : Call → Type

/-- A fallible program: a value, an error, or a call and what follows each reply. -/
inductive Program (S : Signature) (ε α : Type) where
  | pure (value : α)
  | fail (error : ε)
  | call (operation : S.Call) (next : S.Reply operation → Program S ε α)

variable {S : Signature} {ε δ α β γ κ σ : Type}

namespace Program

def bind : Program S ε α → (α → Program S ε β) → Program S ε β
  | .pure value,rest => rest value
  | .fail error,_ => .fail error
  | .call operation next,rest => .call operation (fun reply => (next reply).bind rest)

instance : Monad (Program S ε) where
  pure := .pure
  bind := .bind

/-- One call, its reply returned. -/
def request (operation : S.Call) : Program S ε (S.Reply operation) := .call operation .pure

def ofExcept : Except ε α → Program S ε α
  | .ok value => .pure value
  | .error error => .fail error

/-- The outcome of a program as a value, so that the caller may ignore an error. -/
def attempt : Program S ε α → Program S δ (Except ε α)
  | .pure value => .pure (.ok value)
  | .fail error => .pure (.error error)
  | .call operation next => .call operation (fun reply => (next reply).attempt)

def mapError (f : ε → δ) : Program S ε α → Program S δ α
  | .pure value => .pure value
  | .fail error => .fail (f error)
  | .call operation next => .call operation (fun reply => (next reply).mapError f)

/-- The result of a program that has nothing left to do; none while a call is due. -/
def result : Program S ε α → Option (Except ε α)
  | .pure value => some (.ok value)
  | .fail error => some (.error error)
  | .call _ _ => none

@[simp] theorem pure_eq (value : α) : (Pure.pure value : Program S ε α) = .pure value := rfl

@[simp] theorem bind_eq (first : Program S ε α) (rest : α → Program S ε β) :
    (first >>= rest) = first.bind rest := rfl

@[simp] theorem pure_bind (value : α) (rest : α → Program S ε β) :
    (Program.pure value).bind rest = rest value := rfl

@[simp] theorem fail_bind (error : ε) (rest : α → Program S ε β) :
    (Program.fail error : Program S ε α).bind rest = .fail error := rfl

@[simp] theorem call_bind (operation : S.Call) (next : S.Reply operation → Program S ε α)
    (rest : α → Program S ε β) :
    (Program.call operation next).bind rest = .call operation (fun reply => (next reply).bind rest) := rfl

theorem bind_assoc (first : Program S ε α) (second : α → Program S ε β) (third : β → Program S ε γ) :
    (first.bind second).bind third = first.bind (fun value => (second value).bind third) := by
  induction first with
  | pure value => rfl
  | fail error => rfl
  | call operation next ih =>
    simp only [call_bind]
    congr 1
    funext reply
    exact ih reply

@[simp] theorem result_pure (value : α) : (Program.pure value : Program S ε α).result = some (.ok value) := rfl

@[simp] theorem result_fail (error : ε) : (Program.fail error : Program S ε α).result = some (.error error) := rfl

@[simp] theorem result_call (operation : S.Call) (next : S.Reply operation → Program S ε α) :
    (Program.call operation next).result = none := rfl

end Program

/-- How the world answers. The choice carries whatever the caller cannot predict:
an injected failure, how much of an effect took place, a clock reading. -/
structure Machine (S : Signature) (κ σ : Type) where
  exec : (operation : S.Call) → κ → σ → S.Reply operation × σ

/-- One answered call, with the state it was made in. -/
structure Event (S : Signature) (κ σ : Type) where
  before : σ
  operation : S.Call
  choice : κ
  reply : S.Reply operation

namespace Machine

def event (M : Machine S κ σ) (operation : S.Call) (choice : κ) (state : σ) : Event S κ σ :=
  ⟨state,operation,choice,(M.exec operation choice state).1⟩

/-- The same machine with every answered call written down. -/
def record (M : Machine S κ σ) : Machine S κ (σ × List (Event S κ σ)) where
  exec operation choice moment :=
    ((M.exec operation choice moment.1).1,(M.exec operation choice moment.1).2,
      moment.2 ++ [M.event operation choice moment.1])

/-- Answer one call for each choice. A list that ends early is a crash: what is
left of the program is never run. -/
def run (M : Machine S κ σ) : List κ → Program S ε α → σ → Program S ε α × σ
  | choice::choices,.call operation next,state =>
    M.run choices (next (M.exec operation choice state).1) (M.exec operation choice state).2
  | _,program,state => (program,state)

variable (M : Machine S κ σ)

@[simp] theorem run_nil (program : Program S ε α) (state : σ) : M.run [] program state = (program,state) := by
  cases program <;> rfl

@[simp] theorem run_pure (choices : List κ) (value : α) (state : σ) :
    M.run choices (.pure value : Program S ε α) state = (.pure value,state) := by
  cases choices <;> rfl

@[simp] theorem run_fail (choices : List κ) (error : ε) (state : σ) :
    M.run choices (.fail error : Program S ε α) state = (.fail error,state) := by
  cases choices <;> rfl

@[simp] theorem run_call (choice : κ) (choices : List κ) (operation : S.Call)
    (next : S.Reply operation → Program S ε α) (state : σ) :
    M.run (choice::choices) (.call operation next) state =
      M.run choices (next (M.exec operation choice state).1) (M.exec operation choice state).2 := rfl

/-- Writing the calls down changes neither the run nor the state it reaches. -/
theorem run_record (choices : List κ) (program : Program S ε α) (state : σ)
    (past : List (Event S κ σ)) :
    (M.record.run choices program (state,past)).1 = (M.run choices program state).1 ∧
      (M.record.run choices program (state,past)).2.1 = (M.run choices program state).2 := by
  induction choices generalizing program state past with
  | nil => simp
  | cons choice choices ih =>
    cases program with
    | pure value => simp
    | fail error => simp
    | call operation next => exact ih _ _ _

end Machine

/-- `during` holds of the state at every moment of every run, the start included,
and `post` of the outcome and the state where a run ends. -/
def Holds (M : Machine S κ σ) (during : σ → Prop) (post : Except ε α → σ → Prop) :
    Program S ε α → σ → Prop
  | .pure value,state => during state ∧ post (.ok value) state
  | .fail error,state => during state ∧ post (.error error) state
  | .call operation next,state => during state ∧
      ∀ choice, Holds M during post (next (M.exec operation choice state).1)
        (M.exec operation choice state).2

/-- A value and what is then good, or an error and what is then bad. -/
def Ending (good : α → σ → Prop) (bad : σ → Prop) (outcome : Except ε α) (state : σ) : Prop :=
  (∃ value, outcome = .ok value ∧ good value state) ∨ (∃ error, outcome = .error error) ∧ bad state

theorem Ending.mapError {good : α → σ → Prop} {bad : σ → Prop} {outcome : Except ε α} {state : σ}
    (ended : Ending good bad outcome state) (f : ε → δ) : Ending good bad (outcome.mapError f) state := by
  rcases ended with ⟨value,rfl,well⟩ | ⟨⟨error,rfl⟩,badly⟩
  · exact .inl ⟨value,rfl,well⟩
  · exact .inr ⟨⟨f error,rfl⟩,badly⟩

namespace Holds
variable {M : Machine S κ σ} {during during' : σ → Prop} {post post' : Except ε α → σ → Prop}

theorem now {program : Program S ε α} {state : σ} (holds : Holds M during post program state) :
    during state := by
  cases program <;> exact holds.1

/-- Soundness: what `Holds` promises is true of every run, whole or cut short. -/
theorem run {program : Program S ε α} {state : σ} (holds : Holds M during post program state)
    (choices : List κ) : during (M.run choices program state).2 ∧
      ∀ outcome, (M.run choices program state).1.result = some outcome →
        post outcome (M.run choices program state).2 := by
  induction choices generalizing program state with
  | nil =>
    rw [Machine.run_nil]
    refine ⟨holds.now,?_⟩
    intro outcome done
    cases program with
    | pure value => cases done; exact holds.2
    | fail error => cases done; exact holds.2
    | call operation next => cases done
  | cons choice choices ih =>
    cases program with
    | pure value => exact ⟨by simpa using holds.1,fun outcome done => by
        simp only [Machine.run_pure,Program.result_pure,Option.some.injEq] at done ⊢
        exact done ▸ holds.2⟩
    | fail error => exact ⟨by simpa using holds.1,fun outcome done => by
        simp only [Machine.run_fail,Program.result_fail,Option.some.injEq] at done ⊢
        exact done ▸ holds.2⟩
    | call operation next => exact ih (holds.2 choice)

theorem mono {program : Program S ε α} {state : σ} (holds : Holds M during post program state)
    (weaker : ∀ s, during s → during' s)
    (ends : ∀ outcome s, during s → post outcome s → post' outcome s) :
    Holds M during' post' program state := by
  induction program generalizing state with
  | pure value => exact ⟨weaker _ holds.1,ends _ _ holds.1 holds.2⟩
  | fail error => exact ⟨weaker _ holds.1,ends _ _ holds.1 holds.2⟩
  | call operation next ih => exact ⟨weaker _ holds.1,fun choice => ih _ (holds.2 choice)⟩

theorem and {program : Program S ε α} {state : σ} (first : Holds M during post program state)
    (second : Holds M during' post' program state) :
    Holds M (fun s => during s ∧ during' s) (fun outcome s => post outcome s ∧ post' outcome s)
      program state := by
  induction program generalizing state with
  | pure value => exact ⟨⟨first.1,second.1⟩,first.2,second.2⟩
  | fail error => exact ⟨⟨first.1,second.1⟩,first.2,second.2⟩
  | call operation next ih =>
    exact ⟨⟨first.1,second.1⟩,fun choice => ih _ (first.2 choice) (second.2 choice)⟩

/-- Sequencing: the first part ends in `middle`, from which the rest is continued. -/
theorem bind (middle : Except ε α → σ → Prop) {post : Except ε β → σ → Prop}
    {first : Program S ε α} {rest : α → Program S ε β} {state : σ}
    (holds : Holds M during middle first state)
    (value : ∀ a s, during s → middle (.ok a) s → Holds M during post (rest a) s)
    (error : ∀ e s, during s → middle (.error e) s → post (.error e) s) :
    Holds M during post (first.bind rest) state := by
  induction first generalizing state with
  | pure a => exact value a state holds.1 holds.2
  | fail e => exact ⟨holds.1,error e state holds.1 holds.2⟩
  | call operation next ih => exact ⟨holds.1,fun choice => ih _ (holds.2 choice)⟩

/-- Sequencing where the first part ends well or badly and the rest follows a good end only. -/
theorem forward (good : α → σ → Prop) (bad : σ → Prop) {post : Except ε β → σ → Prop}
    {first : Program S ε α} {rest : α → Program S ε β} {state : σ}
    (holds : Holds M during (Ending good bad) first state)
    (value : ∀ a s, during s → good a s → Holds M during post (rest a) s)
    (error : ∀ e s, during s → bad s → post (.error e) s) :
    Holds M during post (first.bind rest) state := by
  apply holds.bind
  · intro a s now ended
    obtain ⟨_,same,well⟩ | ⟨⟨_,failed⟩,_⟩ := ended
    · cases same
      exact value a s now well
    · cases failed
  · intro e s now ended
    obtain ⟨_,same,_⟩ | ⟨_,badly⟩ := ended
    · cases same
    · exact error e s now badly

/-- Sequencing by what holds throughout the first part. -/
theorem next {post : Except ε β → σ → Prop} {first : Program S ε α} {rest : α → Program S ε β}
    {state : σ} {ended : Except ε α → σ → Prop} (holds : Holds M during ended first state)
    (value : ∀ a s, during s → Holds M during post (rest a) s)
    (error : ∀ e s, during s → post (.error e) s) :
    Holds M during post (first.bind rest) state :=
  holds.bind ended (fun a s now _ => value a s now) (fun e s now _ => error e s now)

theorem attempt {post : Except δ (Except ε α) → σ → Prop} {program : Program S ε α} {state : σ}
    (holds : Holds M during (fun outcome s => post (.ok outcome) s) program state) :
    Holds M during post program.attempt state := by
  induction program generalizing state with
  | pure value => exact holds
  | fail error => exact holds
  | call operation next ih => exact ⟨holds.1,fun choice => ih _ (holds.2 choice)⟩

theorem mapError {post : Except δ α → σ → Prop} {f : ε → δ} {program : Program S ε α} {state : σ}
    (holds : Holds M during (fun outcome s => post (outcome.mapError f) s) program state) :
    Holds M during post (program.mapError f) state := by
  induction program generalizing state with
  | pure value => exact holds
  | fail error => exact holds
  | call operation next ih => exact ⟨holds.1,fun choice => ih _ (holds.2 choice)⟩

theorem renamed {good : α → σ → Prop} {bad : σ → Prop} (f : ε → δ) {program : Program S ε α} {state : σ}
    (holds : Holds M during (Ending good bad) program state) : Holds M during (Ending good bad) (program.mapError f) state :=
  mapError (holds.mono (fun _ now => now) (fun _ _ _ ended => ended.mapError f))

end Holds

/-- The program ends after at most this many calls. -/
def Fits : Nat → Program S ε α → Prop
  | _,.pure _ => True
  | _,.fail _ => True
  | 0,.call _ _ => False
  | n + 1,.call _ next => ∀ reply, Fits n (next reply)

namespace Fits

theorem mono {n m : Nat} {program : Program S ε α} (fits : Fits n program) (more : n ≤ m) : Fits m program := by
  induction program generalizing n m with
  | pure value => cases m <;> trivial
  | fail error => cases m <;> trivial
  | call operation next ih =>
    cases n with
    | zero => exact fits.elim
    | succ n =>
      cases m with
      | zero => exact absurd more (Nat.not_succ_le_zero n)
      | succ m => exact fun reply => ih reply (fits reply) (Nat.le_of_succ_le_succ more)

theorem bind {n m : Nat} {first : Program S ε α} {rest : α → Program S ε β} (fits : Fits n first)
    (more : ∀ value, Fits m (rest value)) : Fits (n + m) (first.bind rest) := by
  induction first generalizing n with
  | pure value => exact (more value).mono (Nat.le_add_left m n)
  | fail error => cases n + m <;> trivial
  | call operation next ih =>
    cases n with
    | zero => exact fits.elim
    | succ n =>
      rw [Nat.succ_add]
      exact fun reply => ih reply (fits reply)

theorem attempt {n : Nat} {program : Program S ε α} (fits : Fits n program) :
    Fits n (program.attempt : Program S δ (Except ε α)) := by
  induction program generalizing n with
  | pure value => cases n <;> trivial
  | fail error => cases n <;> trivial
  | call operation next ih =>
    cases n with
    | zero => exact fits.elim
    | succ n => exact fun reply => ih reply (fits reply)

theorem mapError {n : Nat} {f : ε → δ} {program : Program S ε α} (fits : Fits n program) :
    Fits n (program.mapError f) := by
  induction program generalizing n with
  | pure value => cases n <;> trivial
  | fail error => cases n <;> trivial
  | call operation next ih =>
    cases n with
    | zero => exact fits.elim
    | succ n => exact fun reply => ih reply (fits reply)

/-- With a choice for every call the run comes to a result. -/
theorem run {M : Machine S κ σ} {n : Nat} {program : Program S ε α} (fits : Fits n program)
    {choices : List κ} (enough : n ≤ choices.length) (state : σ) :
    ∃ outcome, (M.run choices program state).1.result = some outcome := by
  induction choices generalizing n program state with
  | nil =>
    obtain rfl := Nat.le_zero.mp enough
    cases program with
    | pure value => exact ⟨_,rfl⟩
    | fail error => exact ⟨_,rfl⟩
    | call operation next => exact fits.elim
  | cons choice choices ih =>
    cases program with
    | pure value => exact ⟨_,by rw [Machine.run_pure]; rfl⟩
    | fail error => exact ⟨_,by rw [Machine.run_fail]; rfl⟩
    | call operation next =>
      cases n with
      | zero => exact fits.elim
      | succ n => exact ih (fits _) (Nat.le_of_succ_le_succ enough) _

end Fits

/-- Every call the program can come to make is one of these. -/
def Uses (allowed : S.Call → Prop) : Program S ε α → Prop
  | .pure _ => True
  | .fail _ => True
  | .call operation next => allowed operation ∧ ∀ reply, Uses allowed (next reply)

namespace Uses
variable {allowed : S.Call → Prop}

theorem bind {first : Program S ε α} {rest : α → Program S ε β} (uses : Uses allowed first)
    (more : ∀ value, Uses allowed (rest value)) : Uses allowed (first.bind rest) := by
  induction first with
  | pure value => exact more value
  | fail error => trivial
  | call operation next ih => exact ⟨uses.1,fun reply => ih reply (uses.2 reply)⟩

theorem attempt {program : Program S ε α} (uses : Uses allowed program) :
    Uses allowed (program.attempt : Program S δ (Except ε α)) := by
  induction program with
  | pure value => trivial
  | fail error => trivial
  | call operation next ih => exact ⟨uses.1,fun reply => ih reply (uses.2 reply)⟩

theorem mapError {f : ε → δ} {program : Program S ε α} (uses : Uses allowed program) :
    Uses allowed (program.mapError f) := by
  induction program with
  | pure value => trivial
  | fail error => trivial
  | call operation next ih => exact ⟨uses.1,fun reply => ih reply (uses.2 reply)⟩

theorem ofExcept (outcome : Except ε α) : Uses allowed (Program.ofExcept outcome : Program S ε α) := by
  cases outcome <;> trivial

theorem mono {allowed' : S.Call → Prop} {program : Program S ε α} (uses : Uses allowed program)
    (wider : ∀ operation, allowed operation → allowed' operation) : Uses allowed' program := by
  induction program with
  | pure value => trivial
  | fail error => trivial
  | call operation next ih => exact ⟨wider _ uses.1,fun reply => ih reply (uses.2 reply)⟩

theorem and {allowed' : S.Call → Prop} {program : Program S ε α} (uses : Uses allowed program)
    (uses' : Uses allowed' program) : Uses (fun operation => allowed operation ∧ allowed' operation) program := by
  induction program with
  | pure value => trivial
  | fail error => trivial
  | call operation next ih => exact ⟨⟨uses.1,uses'.1⟩,fun reply => ih reply (uses.2 reply) (uses'.2 reply)⟩

theorem any (program : Program S ε α) : Uses (fun _ => True) program := by
  induction program with
  | pure value => trivial
  | fail error => trivial
  | call operation next ih => exact ⟨trivial,ih⟩

/-- What every allowed call preserves holds throughout and at the end. -/
theorem holds {M : Machine S κ σ} {kept : σ → Prop} {program : Program S ε α}
    (uses : Uses allowed program)
    (step : ∀ operation choice state, allowed operation → kept state → kept (M.exec operation choice state).2)
    {state : σ} (start : kept state) : Holds M kept (fun _ => kept) program state := by
  induction program generalizing state with
  | pure value => exact ⟨start,start⟩
  | fail error => exact ⟨start,start⟩
  | call operation next ih =>
    exact ⟨start,fun choice => ih _ (uses.2 _) (step operation choice state uses.1 start)⟩

end Uses

/-- Every value the program can come to return is one of these. -/
def Gives (P : α → Prop) : Program S ε α → Prop
  | .pure value => P value
  | .fail _ => True
  | .call _ next => ∀ reply, Gives P (next reply)

theorem Gives.bind {P : α → Prop} {Q : β → Prop} {first : Program S ε α} {rest : α → Program S ε β}
    (gives : Gives P first) (more : ∀ value, P value → Gives Q (rest value)) : Gives Q (first.bind rest) := by
  induction first with
  | pure value => exact more value gives
  | fail error => trivial
  | call operation next ih => exact fun reply => ih reply (gives reply)

theorem Gives.any (program : Program S ε α) : Gives (fun _ => True) program := by
  induction program with
  | pure value => trivial
  | fail error => trivial
  | call operation next ih => exact fun reply => ih reply

theorem Holds.gives {M : Machine S κ σ} {during : σ → Prop} {post : Except ε α → σ → Prop} {P : α → Prop}
    {program : Program S ε α} {state : σ} (holds : Holds M during post program state) (gives : Gives P program) :
    Holds M during (fun outcome s => post outcome s ∧ ∀ value, outcome = .ok value → P value) program state := by
  induction program generalizing state with
  | pure value => exact ⟨holds.1,holds.2,fun _ same => Except.ok.inj same ▸ gives⟩
  | fail error => exact ⟨holds.1,holds.2,fun _ same => by cases same⟩
  | call operation next ih => exact ⟨holds.1,fun choice => ih _ (holds.2 choice) (gives _)⟩

/-- Sequencing where the calls of the rest depend on what the first part returns. -/
theorem Uses.after {allowed : S.Call → Prop} {P : α → Prop} {first : Program S ε α} {rest : α → Program S ε β}
    (uses : Uses allowed first) (gives : Gives P first) (more : ∀ value, P value → Uses allowed (rest value)) :
    Uses allowed (first.bind rest) := by
  induction first with
  | pure value => exact more value gives
  | fail error => trivial
  | call operation next ih => exact ⟨uses.1,fun reply => ih reply (uses.2 reply) (gives reply)⟩

end GatewaySdk.Effect
