import GatewaySdk.Effect.Program
import GatewaySdk.Effect.Reach
import Mathlib.Logic.Function.Basic

/-! Callers of one operation behind a lock that is tried and never waited for, and settings
that a call reads once, when it is past the lock: whatever the order of their steps, the
state is that of whole calls one after another. -/
namespace GatewaySdk.Effect

variable {S : Signature} {κ σ ε α ρ χ : Type}

/-- Where a caller is: outside, past the lock, or running what the settings made of its job. -/
inductive Caller (S : Signature) (ε α ρ : Type) where
  | away
  | admitted (job : ρ)
  | running (job : ρ) (program : Program S ε α)

structure Pool (S : Signature) (ε α ρ χ σ : Type) where
  state : σ
  settings : χ
  locked : Bool
  caller : Nat → Caller S ε α ρ

namespace Pool

def start (state : σ) (settings : χ) : Pool S ε α ρ χ σ := ⟨state,settings,false,fun _ => .away⟩

def put (p : Pool S ε α ρ χ σ) (i : Nat) (caller : Caller S ε α ρ) : Pool S ε α ρ χ σ :=
  {p with caller := Function.update p.caller i caller}

@[simp] theorem put_same (p : Pool S ε α ρ χ σ) (i : Nat) (caller : Caller S ε α ρ) : (p.put i caller).caller i = caller :=
  Function.update_self _ _ _

theorem put_other {p : Pool S ε α ρ χ σ} {i j : Nat} {caller : Caller S ε α ρ} (other : j ≠ i) :
    (p.put i caller).caller j = p.caller j :=
  Function.update_of_ne other _ _

end Pool

/-- What comes of the calls: a call that finds the lock taken is refused; one that does not
comes to its outcome, or to none where its caller gives it up. -/
inductive CallFact (ε α ρ χ : Type) where
  | refused (i : Nat) (job : ρ)
  | concluded (i : Nat) (job : ρ) (outcome : Option (Except ε α))
  | configured (settings : χ)

section Pools
variable (M : Machine S κ σ) (operation : χ → ρ → Program S ε α)

inductive PoolStep : Pool S ε α ρ χ σ → List (CallFact ε α ρ χ) → Pool S ε α ρ χ σ → Prop
  | admits {p : Pool S ε α ρ χ σ} (i : Nat) (job : ρ) (away : p.caller i = .away) (free : p.locked = false) :
    PoolStep p [] {p.put i (.admitted job) with locked := true}
  | refuses {p : Pool S ε α ρ χ σ} (i : Nat) (job : ρ) (away : p.caller i = .away) (taken : p.locked = true) :
    PoolStep p [.refused i job] p
  | reads {p : Pool S ε α ρ χ σ} (i : Nat) (job : ρ) (admitted : p.caller i = .admitted job) :
    PoolStep p [] (p.put i (.running job (operation p.settings job)))
  | answers {p : Pool S ε α ρ χ σ} (i : Nat) (job : ρ) (call : S.Call) (next : S.Reply call → Program S ε α) (choice : κ)
    (running : p.caller i = .running job (.call call next)) :
    PoolStep p [] {p.put i (.running job (next (M.exec call choice p.state).1)) with state := (M.exec call choice p.state).2}
  | returns {p : Pool S ε α ρ χ σ} (i : Nat) (job : ρ) (program : Program S ε α) (outcome : Except ε α)
    (running : p.caller i = .running job program) (finished : program.result = some outcome) :
    PoolStep p [.concluded i job (some outcome)] {p.put i .away with locked := false}
  | givenUp {p : Pool S ε α ρ χ σ} (i : Nat) (job : ρ)
    (inside : p.caller i = .admitted job ∨ ∃ program, p.caller i = .running job program) :
    PoolStep p [.concluded i job none] {p.put i .away with locked := false}
  | configures {p : Pool S ε α ρ χ σ} (settings : χ) : PoolStep p [.configured settings] {p with settings := settings}

/-- One call that got past the lock: the settings it read, where it came to that, and what
its own calls met. -/
structure Flight (κ ε α ρ χ : Type) where
  caller : Nat
  job : ρ
  settings : Option χ
  choices : List κ
  outcome : Option (Except ε α)

def Flight.told (flight : Flight κ ε α ρ χ) : Nat × ρ × Option (Except ε α) := (flight.caller,flight.job,flight.outcome)

/-- A call that has the state to itself from its begin to its end. -/
inductive Flown : σ → Flight κ ε α ρ χ → σ → Prop
  | unread {s : σ} (i : Nat) (job : ρ) : Flown s ⟨i,job,none,[],none⟩ s
  | returned {s t : σ} {program : Program S ε α} (i : Nat) (job : ρ) (settings : χ) (choices : List κ) (outcome : Except ε α)
    (ran : M.run choices (operation settings job) s = (program,t)) (finished : program.result = some outcome) :
    Flown s ⟨i,job,some settings,choices,some outcome⟩ t
  | givenUp {s t : σ} {program : Program S ε α} (i : Nat) (job : ρ) (settings : χ) (choices : List κ)
    (ran : M.run choices (operation settings job) s = (program,t)) : Flown s ⟨i,job,some settings,choices,none⟩ t

/-- Whole calls one after another. -/
inductive InTurn : σ → List (Flight κ ε α ρ χ) → σ → Prop
  | none {s : σ} : InTurn s [] s
  | next {s t u : σ} {flights : List (Flight κ ε α ρ χ)} {flight : Flight κ ε α ρ χ} (before : InTurn s flights t)
    (flown : Flown M operation t flight u) : InTurn s (flights ++ [flight]) u

/-- At most one call is past the lock, and what it did so far it did alone. -/
inductive Underway (known : List χ) (before : σ) (p : Pool S ε α ρ χ σ) : Prop
  | free (unlocked : p.locked = false) (away : ∀ i, p.caller i = .away) (same : p.state = before)
  | admitted (i : Nat) (job : ρ) (locked : p.locked = true) (others : ∀ j, j ≠ i → p.caller j = .away)
    (here : p.caller i = .admitted job) (same : p.state = before)
  | running (i : Nat) (job : ρ) (settings : χ) (choices : List κ) (program : Program S ε α) (locked : p.locked = true)
    (others : ∀ j, j ≠ i → p.caller j = .away) (here : p.caller i = .running job program) (read : settings ∈ known)
    (ran : M.run choices (operation settings job) before = (program,p.state))

end Pools

def concludedOf (history : List (CallFact ε α ρ χ)) : List (Nat × ρ × Option (Except ε α)) :=
  history.filterMap fun | .concluded i job outcome => some (i,job,outcome) | _ => none

def configuredOf (history : List (CallFact ε α ρ χ)) : List χ :=
  history.filterMap fun | .configured settings => some settings | _ => none

variable {M : Machine S κ σ} {operation : χ → ρ → Program S ε α} {p p' : Pool S ε α ρ χ σ} {s before : σ} {first : χ}
  {history more : List (CallFact ε α ρ χ)}

theorem concludedOf_append (history more : List (CallFact ε α ρ χ)) :
    concludedOf (history ++ more) = concludedOf history ++ concludedOf more := List.filterMap_append

theorem configuredOf_append (history more : List (CallFact ε α ρ χ)) :
    configuredOf (history ++ more) = configuredOf history ++ configuredOf more := List.filterMap_append

theorem Machine.run_snoc {call : S.Call} {next : S.Reply call → Program S ε α} {choices : List κ} {program : Program S ε α} {s t : σ}
    (ran : M.run choices program s = (.call call next,t)) (choice : κ) :
    M.run (choices ++ [choice]) program s = (next (M.exec call choice t).1,(M.exec call choice t).2) := by
  induction choices generalizing program s with
  | nil =>
    rw [run_nil] at ran
    obtain ⟨rfl,rfl⟩ := Prod.mk.inj ran
    rw [List.nil_append,run_call,run_nil]
  | cons choice' choices ih =>
    cases program with
    | pure value =>
      rw [run_pure] at ran
      cases ran
    | fail error =>
      rw [run_fail] at ran
      cases ran
    | call call' next' => exact ih ran

theorem PoolStep.answered {i : Nat} {job : ρ} {choices : List κ} {program program' : Program S ε α} {t : σ}
    (running : p.caller i = .running job program) (ran : M.run choices program p.state = (program',t)) :
    Reaches (PoolStep M operation) p [] {p.put i (.running job program') with state := t} := by
  have unmoved : p.put i (.running job program) = p := by
    rw [Pool.put,← running,Function.update_eq_self]
  induction choices generalizing program p with
  | nil =>
    rw [Machine.run_nil] at ran
    obtain ⟨rfl,rfl⟩ := Prod.mk.inj ran
    rw [unmoved]
    exact .start
  | cons choice choices ih =>
    cases program with
    | pure value =>
      rw [Machine.run_pure] at ran
      obtain ⟨rfl,rfl⟩ := Prod.mk.inj ran
      rw [unmoved]
      exact .start
    | fail error =>
      rw [Machine.run_fail] at ran
      obtain ⟨rfl,rfl⟩ := Prod.mk.inj ran
      rw [unmoved]
      exact .start
    | call call next =>
      have step : Reaches (PoolStep M operation) p [] _ := Reaches.start.next (.answers i job call next choice running)
      have rest := @ih {p.put i (.running job (next (M.exec call choice p.state).1)) with
        state := (M.exec call choice p.state).2} _ (Pool.put_same _ _ _) ran
        (by simp [Pool.put])
      have all := step.trans rest
      simpa [Pool.put] using all

theorem InTurn.flown {flights : List (Flight κ ε α ρ χ)} (inTurn : InTurn M operation s flights before) (flight : Flight κ ε α ρ χ)
    (member : flight ∈ flights) : ∃ t u, Flown M operation t flight u := by
  induction inTurn with
  | none => cases member
  | next _ flown ih =>
    obtain earlier | last := List.mem_append.mp member
    · exact ih earlier
    · rw [List.mem_singleton.mp last]
      exact ⟨_,_,flown⟩

/-- The books of the pool: the calls that ended are whole and one after another, and at most
one is under way behind them. -/
structure Serial (M : Machine S κ σ) (operation : χ → ρ → Program S ε α) (s : σ) (first : χ)
    (history : List (CallFact ε α ρ χ)) (p : Pool S ε α ρ χ σ) : Prop where
  settings : p.settings ∈ first::configuredOf history
  turns : ∃ flights before, InTurn M operation s flights before ∧ flights.map Flight.told = concludedOf history ∧
    (∀ flight ∈ flights, ∀ settings, flight.settings = some settings → settings ∈ first::configuredOf history) ∧
    Underway M operation (first::configuredOf history) before p

theorem start_serial : Serial M operation s first [] (.start s first) :=
  ⟨List.mem_cons_self,[],s,.none,rfl,nofun,.free rfl (fun _ => rfl) rfl⟩

namespace Underway
variable {known more' : List χ} {i : Nat} {job : ρ} {program : Program S ε α}

theorem unlocked (underway : Underway M operation known before p) (free : p.locked = false) :
    (∀ i, p.caller i = .away) ∧ p.state = before := by
  cases underway with
  | free _ away same => exact ⟨away,same⟩
  | admitted _ _ locked => exact absurd (locked.symm.trans free) nofun
  | running _ _ _ _ _ locked => exact absurd (locked.symm.trans free) nofun

theorem at_admitted (underway : Underway M operation known before p) (here : p.caller i = .admitted job) :
    p.locked = true ∧ (∀ j, j ≠ i → p.caller j = .away) ∧ p.state = before := by
  cases underway with
  | free _ away => exact absurd (here.symm.trans (away i)) nofun
  | admitted k other locked others there same =>
    by_cases one : i = k
    · rw [one]
      exact ⟨locked,others,same⟩
    · exact absurd (here.symm.trans (others i one)) nofun
  | running k other _ _ _ _ others there =>
    by_cases one : i = k
    · rw [one,there] at here
      cases here
    · exact absurd (here.symm.trans (others i one)) nofun

theorem at_running (underway : Underway M operation known before p) (here : p.caller i = .running job program) :
    p.locked = true ∧ (∀ j, j ≠ i → p.caller j = .away) ∧
      ∃ settings ∈ known, ∃ choices, M.run choices (operation settings job) before = (program,p.state) := by
  cases underway with
  | free _ away => exact absurd (here.symm.trans (away i)) nofun
  | admitted k _ _ others there =>
    by_cases one : i = k
    · rw [one,there] at here
      cases here
    · exact absurd (here.symm.trans (others i one)) nofun
  | running k _ settings choices _ locked others there read ran =>
    by_cases one : i = k
    · rw [one,there] at here
      obtain ⟨rfl,rfl⟩ := Caller.running.inj here
      rw [one]
      exact ⟨locked,others,settings,read,choices,ran⟩
    · exact absurd (here.symm.trans (others i one)) nofun

theorem mono (underway : Underway M operation known before p) (grows : ∀ settings ∈ known, settings ∈ more') :
    Underway M operation more' before p := by
  cases underway with
  | free unlocked away same => exact .free unlocked away same
  | admitted i job locked others here same => exact .admitted i job locked others here same
  | running i job settings choices program locked others here read ran =>
    exact .running i job settings choices program locked others here (grows settings read) ran

end Underway

theorem known_grows (more : List (CallFact ε α ρ χ)) {settings : χ} (known : settings ∈ first::configuredOf history) :
    settings ∈ first::configuredOf (history ++ more) := by
  rw [configuredOf_append]
  exact List.mem_append_left (configuredOf more) known

theorem Serial.lands {i : Nat} {job : ρ} {outcome : Option (Except ε α)} {flights : List (Flight κ ε α ρ χ)}
    {flight : Flight κ ε α ρ χ} (settings : p.settings ∈ first::configuredOf history)
    (before_ : InTurn M operation s flights before) (told : flights.map Flight.told = concludedOf history)
    (known : ∀ flight ∈ flights, ∀ settings, flight.settings = some settings → settings ∈ first::configuredOf history)
    (others : ∀ j, j ≠ i → p.caller j = .away) (flown : Flown M operation before flight p.state)
    (tells : flight.told = (i,job,outcome)) (read : ∀ settings, flight.settings = some settings → settings ∈ first::configuredOf history) :
    Serial M operation s first (history ++ [.concluded i job outcome]) {p.put i .away with locked := false} := by
  refine ⟨known_grows _ settings,flights ++ [flight],p.state,before_.next flown,?_,fun one member x same => ?_,?_⟩
  · rw [List.map_append,told,concludedOf_append,List.map_singleton,tells]
    rfl
  · apply known_grows
    obtain earlier | last := List.mem_append.mp member
    · exact known one earlier x same
    · rw [List.mem_singleton.mp last] at same
      exact read x same
  · refine .free rfl (fun j => ?_) rfl
    by_cases here : j = i
    · rw [here]
      exact Pool.put_same p i .away
    · exact (Pool.put_other here).trans (others j here)

theorem step_serial (moved : PoolStep M operation p more p') (serial : Serial M operation s first history p) :
    Serial M operation s first (history ++ more) p' := by
  obtain ⟨settings,flights,before,flown,told,known,underway⟩ := serial
  cases moved with
  | admits i job away free =>
    obtain ⟨aways,same⟩ := underway.unlocked free
    rw [List.append_nil]
    exact ⟨settings,flights,before,flown,told,known,.admitted i job rfl
      (fun j other => (Pool.put_other other).trans (aways j)) (Pool.put_same _ _ _) same⟩
  | refuses i job away taken =>
    refine ⟨known_grows _ settings,flights,before,flown,?_,fun flight member x same => ?_,?_⟩
    · rw [told,concludedOf_append]
      exact (List.append_nil _).symm
    · exact known_grows _ (known flight member x same)
    · exact underway.mono fun x member => known_grows _ member
  | reads i job admitted =>
    obtain ⟨locked,others,same⟩ := underway.at_admitted admitted
    rw [List.append_nil]
    refine ⟨settings,flights,before,flown,told,known,.running i job p.settings [] _ locked
      (fun j other => (Pool.put_other other).trans (others j other)) (Pool.put_same _ _ _) settings ?_⟩
    rw [Machine.run_nil,← same]
    rfl
  | answers i job call next choice running =>
    obtain ⟨locked,others,x,read,choices,ran⟩ := underway.at_running running
    rw [List.append_nil]
    exact ⟨settings,flights,before,flown,told,known,.running i job x (choices ++ [choice]) _ locked
      (fun j other => (Pool.put_other other).trans (others j other)) (Pool.put_same _ _ _) read (Machine.run_snoc ran choice)⟩
  | returns i job program outcome running finished =>
    obtain ⟨locked,others,x,read,choices,ran⟩ := underway.at_running running
    refine Serial.lands settings flown told known others (.returned i job x choices outcome ran finished) rfl ?_
    rintro y ⟨⟩
    exact read
  | givenUp i job inside =>
    obtain admitted | ⟨program,running⟩ := inside
    · obtain ⟨locked,others,same⟩ := underway.at_admitted admitted
      have unread : Flown M operation before ⟨i,job,none,[],none⟩ p.state := same ▸ .unread i job
      exact Serial.lands settings flown told known others unread rfl nofun
    · obtain ⟨locked,others,x,read,choices,ran⟩ := underway.at_running running
      refine Serial.lands settings flown told known others (.givenUp i job x choices ran) rfl ?_
      rintro y ⟨⟩
      exact read
  | configures x =>
    refine ⟨?_,flights,before,flown,?_,fun flight member y same => known_grows _ (known flight member y same),?_⟩
    · rw [configuredOf_append]
      exact List.mem_cons_of_mem _ (List.mem_append_right _ List.mem_cons_self)
    · rw [told,concludedOf_append]
      exact (List.append_nil _).symm
    · have grown : Underway M operation (first::configuredOf (history ++ [.configured x])) before p :=
        underway.mono fun y member => known_grows _ member
      cases grown with
      | free unlocked away same => exact .free unlocked away same
      | admitted i job locked others here same => exact .admitted i job locked others here same
      | running i job y choices program locked others here read ran => exact .running i job y choices program locked others here read ran

/-- Every run of the pool is one of whole calls, one after another. -/
theorem runs_serial (runs : Reaches (PoolStep M operation) (.start s first) history p) :
    Serial M operation s first history p :=
  runs.keeps start_serial fun _ _ _ _ serial moved => step_serial moved serial

/-- Who is refused is so while another is past the lock, and nothing is changed for it. -/
theorem refused_behind (runs : Reaches (PoolStep M operation) (.start s first) history p) (moved : PoolStep M operation p more p')
    {i : Nat} {job : ρ} (refused : CallFact.refused i job ∈ more) : p' = p ∧ ∃ j, j ≠ i ∧ p.caller j ≠ .away := by
  obtain ⟨-,flights,before,-,-,-,underway⟩ := runs_serial runs
  cases moved with
  | refuses k other away taken =>
    obtain ⟨rfl,rfl⟩ := CallFact.refused.inj (List.mem_singleton.mp refused)
    refine ⟨rfl,?_⟩
    cases underway with
    | free unlocked => exact absurd (taken.symm.trans unlocked) nofun
    | admitted j _ _ _ here =>
      refine ⟨j,?_,by rw [here]; nofun⟩
      rintro rfl
      exact absurd (here.symm.trans away) nofun
    | running j _ _ _ _ _ _ here =>
      refine ⟨j,?_,by rw [here]; nofun⟩
      rintro rfl
      exact absurd (here.symm.trans away) nofun
  | _ => simp at refused

end GatewaySdk.Effect
