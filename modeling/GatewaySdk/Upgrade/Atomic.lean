import GatewaySdk.Upgrade.BumpFacts
import GatewaySdk.Upgrade.StateText

/-! Crash and error atomicity of the writers of `state.json`. -/
namespace GatewaySdk.Upgrade
open GatewaySdk.Effect GatewaySdk.Host

variable {tar : TarCrate} {serde : Serde} {installRoot : String} {w : World}

theorem load_fits : Fits 5 (load serde installRoot) := by
  have one {operation : Call} {α : Type} {reply : Reply operation → Except IoError α} :
      Fits 1 (sys operation reply) := by
    intro answer
    change Fits 0 (Program.ofExcept (reply answer))
    cases reply answer <;> trivial
  refine @Fits.bind _ _ _ _ 1 4 _ _ one.mapError fun file => ?_
  refine @Fits.bind _ _ _ _ 3 1 _ _ (Fits.attempt ?_) fun outcome => ?_
  · refine @Fits.bind _ _ _ _ 1 2 _ _ one.mapError fun _ => ?_
    refine @Fits.bind _ _ _ _ 1 1 _ _ one.mapError fun text => ?_
    cases serde.fromStr text with
    | none => trivial
    | some s =>
      refine @Fits.bind _ _ _ _ 1 0 _ _ ?_ fun _ => trivial
      exact @Fits.bind _ _ _ _ 1 0 _ _ one.attempt fun _ => trivial
  · refine @Fits.bind _ _ _ _ 1 0 _ _ ?_ fun _ => ?_
    · exact @Fits.bind _ _ _ _ 1 0 _ _ one.attempt fun _ => trivial
    · cases outcome <;> trivial

/-- The operations that write `state.json`. -/
inductive Writer where
  | save (pid : Nat) (state : InstallState)
  | update (pid : Nat) (mutate : InstallState → Except Error InstallState)
  | bump

namespace Writer

def program (serde : Serde) (installRoot : String) : Writer → Prog Error Unit
  | .save pid state => Upgrade.save serde installRoot pid state
  | .update pid mutate => Upgrade.update serde installRoot pid (fun s => Program.ofExcept (mutate s))
  | .bump => do
    let _ ← bumpBootAttempts serde
    return ()

/-- The state the operation means to write over this one. -/
def meant (s : InstallState) : Writer → Option InstallState
  | .save _ state => some state
  | .update _ mutate => (mutate s).toOption
  | .bump => some (bumped s)

def run (tar : TarCrate) (serde : Serde) (installRoot : String) (choices : List Choice) (w : World)
    (writer : Writer) : Prog Error Unit × Moment :=
  (machine tar).record.run choices (writer.program serde installRoot) (w,[])

end Writer

/-- The state before is read or the one meant, and after an error the state before. -/
def Intact (serde : Serde) (writer : Writer) (s : InstallState) (after : Prog Error Unit × Moment) : Prop :=
  (readState serde after.2.1 = some s ∨
    ∃ t, writer.meant s = some t ∧ readState serde after.2.1 = some t) ∧
  ∀ error, after.1.result = some (.error error) → readState serde after.2.1 = some s

/-- A file that was truncated was rewritten to its end, and no failed flush or sync was
reported after that unless the count was at its bound already. -/
def RewroteWhole (s : InstallState) (after : Prog Error Unit × Moment) : Prop :=
  Saw Truncated after.2.2 → Saw Rewritten after.2.2 ∧
    (after.1.result.isSome = true → Saw Unsynced after.2.2 → s.bootAttempts = 4294967295)

theorem bumped_eq_iff (s : InstallState) : bumped s = s ↔ s.bootAttempts = 4294967295 := by
  unfold bumped saturatingSucc
  constructor
  · intro same
    have attempts := congrArg InstallState.bootAttempts same
    dsimp only at attempts
    split at attempts
    next full => exact full
    next => simp at attempts
  · intro full
    rw [if_pos full]

theorem never_truncated {α : Type} {pid : Nat} {program : Prog Error α} (uses : Uses (Saves pid) program)
    (choices : List Choice) (w : World) :
    ¬ Saw Truncated ((machine tar).record.run choices program (w,[])).2.2 := by
  have stable : Stable (machine tar) (Saves pid) (fun m => ¬ Saw Truncated m.2) :=
    Stable.not_saw fun event saves truncated => truncated.1.elim fun file same => saves.keeps file same
  exact ((uses.stable stable (m := (w,[])) (not_saw_nil _)).run choices).1

theorem untouched_start (w : World) : Untouched w (w,[]) :=
  ⟨Framed.refl _ w,not_saw_nil _,not_saw_nil _,not_saw_nil _⟩

theorem unsaved_start (pid : Nat) (w : World) : Unsaved pid w (w,[]) :=
  ⟨Framed.refl _ w,.inl rfl,not_done_nil _⟩

theorem readState_untouched {m : Moment} (untouched : Untouched w m) :
    readState serde m.1 = readState serde w :=
  readState_same (untouched.1.node _ id) untouched.1.data

theorem readState_torn {m : Moment} {ino : Nat} {s t : InstallState} (cell : Cell serde ino s w)
    (torn : Torn ino (serde.toVecPretty t) w m) : readState serde m.1 = none := by
  obtain ⟨⟨n,short,covers⟩,_⟩ := torn
  rw [readState_of_file (covers.node ▸ cell.place),covers.data,serde.fromStr_take t n short]

theorem readState_whole {m : Moment} {ino : Nat} {s t : InstallState} (cell : Cell serde ino s w)
    (whole : Whole ino (serde.toVecPretty t) w m) : readState serde m.1 = some t := by
  rw [readState_of_file (whole.1.node ▸ cell.place),whole.1.data,serde.fromStr_toVecPretty]

theorem save_intact {pid : Nat} {state s : InstallState} (valid : readState serde w = some s)
    (choices : List Choice) :
    Intact serde (.save pid state) s (Writer.run tar serde installRoot choices w (.save pid state)) := by
  obtain ⟨moment,ends⟩ := (save_holds (unsaved_start pid w)).run choices
  refine ⟨?_,fun error failed => ?_⟩
  · rcases moment with unsaved | saved
    · exact .inl ((readState_unsaved unsaved).trans valid)
    · exact .inr ⟨state,rfl,readState_saved saved⟩
  · rcases ends _ failed with ⟨done,_⟩ | ⟨_,unsaved⟩
    · cases done
    · exact (readState_unsaved unsaved).trans valid

theorem update_intact {pid : Nat} {mutate : InstallState → Except Error InstallState} {s : InstallState}
    (valid : readState serde w = some s) (choices : List Choice) :
    Intact serde (.update pid mutate) s (Writer.run tar serde installRoot choices w (.update pid mutate)) := by
  have changes (s : InstallState) (m : Moment) (start : Unsaved pid w m) :
      Holds (machine tar).record (Unsaved pid w) (fun outcome _ => ∀ t, outcome = .ok t → mutate s = .ok t)
        (Program.ofExcept (mutate s)) m := Run.ofExcept start fun _ same => same
  obtain ⟨moment,ends⟩ := (update_holds changes (unsaved_start pid w)).run choices
  refine ⟨?_,fun error failed => ?_⟩
  · rcases moment with unsaved | ⟨old,new,read,changed,saved⟩
    · exact .inl ((readState_unsaved unsaved).trans valid)
    · rw [valid,Option.some.injEq] at read
      subst read
      refine .inr ⟨new,?_,readState_saved saved⟩
      simp [Writer.meant,changed,Except.toOption]
  · rcases ends _ failed with ⟨done,_⟩ | ⟨_,unsaved⟩
    · cases done
    · exact (readState_unsaved unsaved).trans valid

theorem bump_run (choices : List Choice) :
    Bumping serde w (Writer.run tar serde installRoot choices w .bump).2 ∧
      ∀ outcome, (Writer.run tar serde installRoot choices w .bump).1.result = some outcome →
        ∃ r, BumpEnd serde w r (Writer.run tar serde installRoot choices w .bump).2 ∧
          outcome = r.map (fun _ => ()) := by
  have holds : Holds (machine tar).record (Bumping serde w)
      (fun outcome m => ∃ r, BumpEnd serde w r m ∧ outcome = r.map (fun _ => ()))
      (Writer.program serde installRoot .bump) (w,[]) := by
    apply Holds.bind (BumpEnd serde w) (bump_holds (untouched_start w))
    · exact fun attempts m now ended => ⟨now,.ok attempts,ended,rfl⟩
    · exact fun error m _ ended => ⟨.error error,ended,rfl⟩
  exact holds.run choices

theorem bump_intact_iff {s : InstallState} (valid : readState serde w = some s) (choices : List Choice) :
    Intact serde .bump s (Writer.run tar serde installRoot choices w .bump) ↔
      RewroteWhole s (Writer.run tar serde installRoot choices w .bump) := by
  obtain ⟨moment,ends⟩ := @bump_run tar serde installRoot w choices
  generalize Writer.run tar serde installRoot choices w .bump = after at moment ends
  rcases moment with untouched | ⟨ino,t,cell,torn | whole⟩
  · have read := (readState_untouched untouched).trans valid
    exact ⟨fun _ cut => absurd cut untouched.2.1,fun _ => ⟨.inl read,fun _ _ => read⟩⟩
  · have gone := readState_torn cell torn
    constructor
    · intro intact
      rcases intact.1 with read | ⟨_,_,read⟩
      · simp [gone] at read
      · simp [gone] at read
    · intro rewrote
      exact absurd (rewrote torn.2.1).1 torn.2.2
  · have same : t = s := by
      have read := cell.read
      rw [valid,Option.some.injEq] at read
      exact read.symm
    subst same
    have read := readState_whole cell whole
    constructor
    · intro intact _
      refine ⟨whole.2.2,fun finished unsynced => ?_⟩
      obtain ⟨outcome,ended⟩ := Option.isSome_iff_exists.mp finished
      obtain ⟨r,ended',rfl⟩ := ends outcome ended
      have failed : ∃ error, r = .error error := by
        rcases ended' with ⟨failed,_⟩ | ⟨_,_,_,⟨_,_,synced⟩ | ⟨failed,_⟩⟩
        · exact failed
        · exact absurd unsynced synced
        · exact failed
      obtain ⟨error,rfl⟩ := failed
      have before := intact.2 error ended
      rw [read,Option.some.injEq] at before
      exact (bumped_eq_iff t).mp before
    · intro rewrote
      refine ⟨.inr ⟨_,rfl,read⟩,fun error ended => ?_⟩
      have full : t.bootAttempts = 4294967295 := by
        apply (rewrote whole.2.1).2 (by rw [ended]; rfl)
        obtain ⟨r,ended',same⟩ := ends _ ended
        cases r with
        | ok attempts => cases same
        | error error =>
          rcases ended' with ⟨_,untouched⟩ | ⟨_,_,_,⟨done,_⟩ | ⟨_,untouched | torn | whole⟩⟩
          · exact absurd whole.2.1 untouched.2.1
          · cases done
          · exact absurd whole.2.1 untouched.2.1
          · exact absurd whole.2.2 torn.2.2
          · exact whole.2
      rw [read,(bumped_eq_iff t).mpr full]

/-- Whatever operation writes over a valid `state.json`, and wherever it is cut short or
fails, a reader finds the state before or the one meant, and after an error the state
before, exactly when no truncated file was left without its whole new text. -/
theorem state_json_intact_iff (tar : TarCrate) (serde : Serde) (installRoot : String) (writer : Writer) (w : World)
    (s : InstallState) (valid : readState serde w = some s) (choices : List Choice) :
    Intact serde writer s (writer.run tar serde installRoot choices w) ↔
      RewroteWhole s (writer.run tar serde installRoot choices w) := by
  cases writer with
  | save pid state =>
    have uncut := @never_truncated tar _ _ _ (save_uses serde installRoot pid state) choices w
    exact ⟨fun _ cut => absurd cut uncut,fun _ => save_intact valid choices⟩
  | update pid mutate =>
    have uncut := @never_truncated tar _ _ _ (update_uses serde installRoot pid fun s => Uses.ofExcept (mutate s)) choices w
    exact ⟨fun _ cut => absurd cut uncut,fun _ => update_intact valid choices⟩
  | bump => exact bump_intact_iff valid choices

section Instance

def noTar : TarCrate :=
  ⟨fun _ => none,fun _ _ _ dir => (dir,false),fun operation _ w => (refused operation,w),fun _ _ _ _ _ there _ => .inl there⟩

def pending : InstallState :=
  ⟨"0.45.4",some "0.45.3","stable","default","x86_64-linux",.pendingHealth,0,0,none,142⟩

theorem readState_ofState (serde : Serde) (s : InstallState) :
    readState serde (World.ofState (serde.toVecPretty s)) = some s := by
  have found : (World.ofState (serde.toVecPretty s)).node .stateJson = some (.file 0) := rfl
  have held : (World.ofState (serde.toVecPretty s)).data 0 = serde.toVecPretty s := rfl
  rw [readState_of_file found,held,serde.fromStr_toVecPretty]

theorem bump_of_pending_intact_iff :
    Intact (stateSerde []) .bump pending (Writer.run noTar (stateSerde []) "/opt/bilbycast/gateway"
        (List.replicate 20 smooth) (World.ofState ((stateSerde []).toVecPretty pending)) .bump) ↔
      RewroteWhole pending (Writer.run noTar (stateSerde []) "/opt/bilbycast/gateway"
        (List.replicate 20 smooth) (World.ofState ((stateSerde []).toVecPretty pending)) .bump) :=
  state_json_intact_iff noTar (stateSerde []) "/opt/bilbycast/gateway" .bump _ pending
    (readState_ofState (stateSerde []) pending) _

/-- Stopped right after the truncation, the rewrite leaves nothing that can be read. -/
theorem bump_stopped_after_truncation :
    ¬ Intact (stateSerde []) .bump pending (Writer.run noTar (stateSerde []) "/opt/bilbycast/gateway"
      (List.replicate 5 smooth) (World.ofState ((stateSerde []).toVecPretty pending)) .bump) := by
  have parsed : (stateSerde []).fromStr ((World.ofState ((stateSerde []).toVecPretty pending)).data 0) = some pending :=
    (stateSerde []).fromStr_toVecPretty pending
  have found : (World.ofState ((stateSerde []).toVecPretty pending)).node .stateJson = some (.file 0) := rfl
  have empty := fromStr_nil (stateSerde [])
  generalize World.ofState ((stateSerde []).toVecPretty pending) = w at *
  generalize stateSerde [] = serde at *
  simp [Intact,Writer.run,Writer.program,bumpBootAttempts,bare,closing,sys,Io.openFile,Io.lockExclusive,
    Io.seekStart,Io.readToString,rewrite,Io.setLenZero,Program.request,List.replicate,Machine.record,
    Machine.event,exec_smooth,answer,openAnswer,found,Program.mapError,Program.ofExcept,Program.attempt,
    World.handle,World.acquire,World.release,parsed,readState,World.content,empty]

end Instance
end GatewaySdk.Upgrade
