import GatewaySdk.Effect.Program

/-! What a recorded run has seen, and predicates on its moments that a class of calls
keeps. A program that makes no other calls keeps them throughout. -/
namespace GatewaySdk.Effect

variable {S : Signature} {ε α κ σ : Type}

abbrev Trace (S : Signature) (κ σ : Type) := List (Event S κ σ)

def Saw (E : Event S κ σ → Prop) (log : Trace S κ σ) : Prop := ∃ event ∈ log, E event

theorem not_saw_nil (E : Event S κ σ → Prop) : ¬ Saw E [] := by simp [Saw]

theorem saw_snoc {E : Event S κ σ → Prop} {log : Trace S κ σ} {event : Event S κ σ} :
    Saw E (log ++ [event]) ↔ Saw E log ∨ E event := by
  simp [Saw,or_and_right,exists_or]

theorem Saw.mono {E E' : Event S κ σ → Prop} {log : Trace S κ σ} (saw : Saw E log)
    (weaker : ∀ event, E event → E' event) : Saw E' log := by
  obtain ⟨event,member,held⟩ := saw
  exact ⟨event,member,weaker event held⟩

/-- True of every event, given what came before it. -/
def Along (P : Trace S κ σ → Event S κ σ → Prop) (log : Trace S κ σ) : Prop :=
  ∀ past event, past ++ [event] <+: log → P past event

theorem along_nil (P : Trace S κ σ → Event S κ σ → Prop) : Along P [] := by
  intro past event within
  simp at within

theorem along_snoc {P : Trace S κ σ → Event S κ σ → Prop} {log : Trace S κ σ} {event : Event S κ σ} :
    Along P (log ++ [event]) ↔ Along P log ∧ P log event := by
  constructor
  · intro along
    exact ⟨fun past event within => along past event (within.trans (List.prefix_append _ _)),along _ _ List.prefix_rfl⟩
  · rintro ⟨along,now⟩ past event within
    rcases List.prefix_concat_iff.mp within with same | earlier
    · obtain ⟨whole,last⟩ := List.append_inj' same rfl
      rw [whole,List.cons.inj last |>.1]
      exact now
    · exact along _ _ earlier

theorem saw_run {M : Machine S κ σ} {E : Event S κ σ → Prop} (choices : List κ) (program : Program S ε α)
    (m : σ × Trace S κ σ) (saw : Saw E (M.record.run choices program m).2.2) :
    Saw E m.2 ∨ ∃ event, E event ∧ event.choice ∈ choices := by
  induction choices generalizing program m with
  | nil => exact .inl (by simpa using saw)
  | cons choice choices ih =>
    cases program with
    | pure value => exact .inl (by simpa using saw)
    | fail error => exact .inl (by simpa using saw)
    | call operation next =>
      rcases ih _ _ saw with before | ⟨event,held,member⟩
      · rcases saw_snoc.mp before with earlier | now
        · exact .inl earlier
        · exact .inr ⟨_,now,List.mem_cons_self⟩
      · exact .inr ⟨event,held,List.mem_cons_of_mem _ member⟩

/-- A call of a recorded run, by what each answer leaves. -/
theorem Holds.answered {M : Machine S κ σ} {during : σ × Trace S κ σ → Prop} {post : Except ε α → σ × Trace S κ σ → Prop}
    {operation : S.Call} {next : S.Reply operation → Program S ε α} {m : σ × Trace S κ σ} (now : during m)
    (answers : ∀ choice reply s, M.exec operation choice m.1 = (reply,s) →
      Holds M.record during post (next reply) (s,m.2 ++ [⟨m.1,operation,choice,reply⟩])) :
    Holds M.record during post (.call operation next) m :=
  ⟨now,fun choice => answers choice _ _ rfl⟩

/-- What is written down at some moment of a run stays written down. -/
theorem log_grows {M : Machine S κ σ} (choices : List κ) (program : Program S ε α) (m : σ × Trace S κ σ) (n : Nat) :
    (M.record.run (choices.take n) program m).2.2 <+: (M.record.run choices program m).2.2 := by
  have start (choices : List κ) (program : Program S ε α) (m : σ × Trace S κ σ) :
      m.2 <+: (M.record.run choices program m).2.2 := by
    induction choices generalizing program m with
    | nil => simp
    | cons choice choices ih =>
      cases program with
      | pure value => simp
      | fail error => simp
      | call operation next =>
        exact (List.prefix_append m.2 [M.event operation choice m.1]).trans (ih (next _) (_,_ ++ [_]))
  induction choices generalizing program m n with
  | nil => simp
  | cons choice choices ih =>
    cases n with
    | zero =>
      rw [List.take_zero,Machine.run_nil]
      exact start _ _ _
    | succ n =>
      cases program with
      | pure value => simp
      | fail error => simp
      | call operation next => exact ih _ _ n

theorem moment_of {M : Machine S κ σ} (choices : List κ) (program : Program S ε α) (m : σ × Trace S κ σ)
    {past : Trace S κ σ} {event : Event S κ σ} (within : past ++ [event] <+: (M.record.run choices program m).2.2)
    (later : ¬ past ++ [event] <+: m.2) : ∃ n, (M.record.run (choices.take n) program m).2 = (event.before,past) := by
  induction choices generalizing program m with
  | nil =>
    rw [Machine.run_nil] at within
    exact absurd within later
  | cons choice choices ih =>
    cases program with
    | pure value =>
      rw [Machine.run_pure] at within
      exact absurd within later
    | fail error =>
      rw [Machine.run_fail] at within
      exact absurd within later
    | call operation next =>
      by_cases now : past ++ [event] <+: m.2 ++ [M.event operation choice m.1]
      · rcases List.prefix_concat_iff.mp now with same | earlier
        · obtain ⟨rfl,last⟩ := List.append_inj' same rfl
          obtain rfl := (List.cons.inj last).1
          refine ⟨0,?_⟩
          rw [List.take_zero,Machine.run_nil]
          rfl
        · exact absurd earlier later
      · obtain ⟨n,reached⟩ := ih (next _) (_,m.2 ++ [M.event operation choice m.1]) within now
        exact ⟨n+1,reached⟩

/-- Kept by every allowed call, whatever it answers. -/
def Stable (M : Machine S κ σ) (allowed : S.Call → Prop) (P : σ × Trace S κ σ → Prop) : Prop :=
  ∀ operation choice m, allowed operation → P m → P (M.record.exec operation choice m).2

namespace Stable
variable {M : Machine S κ σ} {allowed narrow : S.Call → Prop} {P Q : σ × Trace S κ σ → Prop}

theorem and (first : Stable M allowed P) (second : Stable M allowed Q) :
    Stable M allowed (fun m => P m ∧ Q m) :=
  fun operation choice m ok held =>
    ⟨first operation choice m ok held.1,second operation choice m ok held.2⟩

theorem or (first : Stable M allowed P) (second : Stable M allowed Q) :
    Stable M allowed (fun m => P m ∨ Q m) := by
  intro operation choice m ok held
  rcases held with left | right
  · exact .inl (first operation choice m ok left)
  · exact .inr (second operation choice m ok right)

theorem mono (stable : Stable M allowed P) (within : ∀ operation, narrow operation → allowed operation) :
    Stable M narrow P :=
  fun operation choice m ok held => stable operation choice m (within operation ok) held

theorem const (p : Prop) : Stable M allowed (fun _ => p) := fun _ _ _ _ held => held

theorem state {P : σ → Prop} (kept : ∀ operation choice s, allowed operation → P s → P (M.exec operation choice s).2) :
    Stable M allowed (fun m => P m.1) :=
  fun operation choice m ok held => kept operation choice m.1 ok held

theorem saw (E : Event S κ σ → Prop) : Stable M allowed (fun m => Saw E m.2) :=
  fun _ _ _ _ held => saw_snoc.mpr (.inl held)

theorem not_saw {E : Event S κ σ → Prop} (never : ∀ event, allowed event.operation → ¬ E event) :
    Stable M allowed (fun m => ¬ Saw E m.2) := by
  intro operation choice m ok absent saw
  rcases saw_snoc.mp saw with before | now
  · exact absent before
  · exact never _ ok now

theorem after (stable : Stable M allowed P) {operation : S.Call} (ok : allowed operation)
    {m : σ × Trace S κ σ} (now : P m) {choice : κ} {reply : S.Reply operation} {s : σ}
    (answered : M.exec operation choice m.1 = (reply,s)) :
    P (s,m.2 ++ [⟨m.1,operation,choice,reply⟩]) := by
  have kept := stable operation choice m ok now
  simp only [Machine.record,Machine.event,answered] at kept
  exact kept

end Stable

namespace Uses
variable {M : Machine S κ σ} {allowed : S.Call → Prop}

theorem stable {P : σ × Trace S κ σ → Prop} {program : Program S ε α} {m : σ × Trace S κ σ}
    (uses : Uses allowed program) (kept : Stable M allowed P) (start : P m) :
    Holds M.record P (fun _ => P) program m :=
  uses.holds kept start

end Uses

section Steps
variable {α : Type} {step : σ → α → σ} {ok : σ → α → Prop}

/-- Every step of a run is one of these, in the state it is taken in. -/
def Meets (step : σ → α → σ) (ok : σ → α → Prop) : σ → List α → Prop
  | _,[] => True
  | state,action::actions => ok state action ∧ Meets step ok (step state action) actions

/-- What each such step preserves holds at the end of the run. -/
theorem Meets.keeps {inv : σ → Prop} (preserved : ∀ state action, ok state action → inv state → inv (step state action))
    {state : σ} {actions : List α} (meets : Meets step ok state actions) (start : inv state) :
    inv (actions.foldl step state) := by
  induction actions generalizing state with
  | nil => exact start
  | cons action actions ih => exact ih meets.2 (preserved state action meets.1 start)

theorem Meets.front {state : σ} {actions more : List α} (meets : Meets step ok state (actions ++ more)) :
    Meets step ok state actions := by
  induction actions generalizing state with
  | nil => trivial
  | cons action actions ih => exact ⟨meets.1,ih meets.2⟩

end Steps
end GatewaySdk.Effect
