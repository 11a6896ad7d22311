import GatewaySdk.Upgrade.SaveFacts

/-! What the readers of `state.json` report, and the read-modify-write built on them. -/
namespace GatewaySdk.Upgrade
open GatewaySdk.Effect GatewaySdk.Host

/-- A call that a reader of `state.json` makes. -/
def reading : Call → Bool
  | .pathExists .stateJson | .openFile .stateJson .read | .lockShared _ | .readToString _ => true
  | _ => false

def FailedRead (event : Event Sig Choice World) : Prop :=
  reading event.operation = true ∧ event.choice.fails = true

variable {tar : TarCrate} {serde : Serde} {installRoot : String} {pid : Nat} {w w' : World}
  {P : Moment → Prop} {m : Moment}

theorem readState_of_file {ino : Nat} (found : w.node .stateJson = some (.file ino)) :
    readState serde w = serde.fromStr (w.data ino) := by
  simp [readState,World.content,found]

theorem readState_some {s : InstallState} (read : readState serde w = some s) :
    ∃ ino, w.node .stateJson = some (.file ino) ∧ serde.fromStr (w.data ino) = some s := by
  unfold readState World.content at read
  split at read
  next ino found => exact ⟨ino,found,by simpa using read⟩
  next => cases read

theorem content_same (node : w'.node .stateJson = w.node .stateJson) (data : ∀ ino < w.fresh, w'.data ino = w.data ino) :
    w'.content .stateJson = w.content .stateJson := by
  unfold World.content
  rw [node]
  split
  next ino found => rw [data ino (exists_of_file found)]
  next => rfl

theorem readState_same (node : w'.node .stateJson = w.node .stateJson) (data : ∀ ino < w.fresh, w'.data ino = w.data ino) :
    readState serde w' = readState serde w := by
  unfold readState
  rw [content_same node data]

theorem readState_stable (read : Option InstallState) :
    Stable (machine tar) Quiet (fun m => readState serde m.1 = read) :=
  Stable.quiet fun _ _ node data _ held => (readState_same (congrFun node _) data).trans held

theorem exec_answer {operation : Call} {choice : Choice} {reply : Reply operation}
    (answered : (machine tar).exec operation choice w = (reply,w')) :
    choice.fails = true ∨ answer tar operation choice w = (reply,w') := by
  simp only [machine] at answered
  split at answered
  next failed => exact .inl failed
  next => exact .inr answered

/-- What a reader reports is what the file says; where it reports nothing, there is
nothing to read or one of its calls was failed. -/
def Reported (serde : Serde) (found : Option InstallState) (m : Moment) : Prop :=
  (∀ s, found = some s → readState serde m.1 = some s) ∧
    (found = none → readState serde m.1 = none ∨ Saw FailedRead m.2)

theorem Reported.stable (serde : Serde) (found : Option InstallState) :
    Stable (machine tar) Quiet (Reported serde found) := by
  intro operation choice m quiet reported
  refine ⟨fun s same => ?_,fun same => ?_⟩
  · exact readState_stable (some s) operation choice m quiet (reported.1 s same)
  · exact (readState_stable none).or (Stable.saw FailedRead) operation choice m quiet (reported.2 same)

theorem openRead_holds (stable : Stable (machine tar) Quiet P) (now : P m) :
    Holds (machine tar).record P
      (Ending (fun (file : Handle) m => m.1.node .stateJson = some (.file file.ino)) (Reported serde none))
      (Io.openFile .stateJson .read) m := by
  refine Run.sys now (fun choice reply v answered => ?_)
  have kept := stable.after (quiet_of_silent rfl) now answered
  refine ⟨kept,?_⟩
  rcases exec_answer answered with failed | plain
  · rcases open_cases (.inl rfl) answered with ⟨error,rfl,rfl⟩ | ⟨ino,found,rfl,rfl⟩
    · exact .inr ⟨⟨error,rfl⟩,nofun,fun _ => .inr (saw_snoc.mpr (.inr ⟨rfl,failed⟩))⟩
    · exact .inl ⟨_,rfl,found⟩
  · simp only [answer,openAnswer] at plain
    split at plain
    next ino found =>
      cases plain
      exact .inl ⟨_,rfl,found⟩
    all_goals
      cases plain
      refine .inr ⟨⟨_,rfl⟩,nofun,fun _ => .inl ?_⟩
      simp_all [readState,World.content]

theorem found_stable (stable : Stable (machine tar) Quiet P) {file : Handle} :
    Stable (machine tar) Quiet (fun m => P m ∧ m.1.node .stateJson = some (.file file.ino)) :=
  stable.and ((Stable.node .stateJson id _).mono fun _ => Quiet.still)

theorem lockRead_holds (stable : Stable (machine tar) Quiet P) (now : P m) {file : Handle}
    (found : m.1.node .stateJson = some (.file file.ino)) :
    Holds (machine tar).record P
      (Ending (fun _ m => m.1.node .stateJson = some (.file file.ino)) (fun m => Saw FailedRead m.2))
      (Io.lockShared file) m := by
  refine Run.sys now (fun choice reply v answered => ?_)
  have kept := (found_stable stable).after (quiet_of_silent rfl) ⟨now,found⟩ answered
  refine ⟨kept.1,?_⟩
  rcases exec_answer answered with failed | plain
  · have saw : Saw FailedRead (m.2 ++ [⟨m.1,.lockShared file,choice,reply⟩]) := saw_snoc.mpr (.inr ⟨rfl,failed⟩)
    cases reply with
    | ok value => exact .inl ⟨value,rfl,kept.2⟩
    | error error => exact .inr ⟨⟨error,rfl⟩,saw⟩
  · cases plain
    exact .inl ⟨(),rfl,kept.2⟩

theorem textRead_holds (stable : Stable (machine tar) Quiet P) (now : P m) {file : Handle}
    (found : m.1.node .stateJson = some (.file file.ino)) :
    Holds (machine tar).record P
      (Ending (fun text m => readState serde m.1 = serde.fromStr text) (fun m => Saw FailedRead m.2))
      (Io.readToString file) m := by
  refine Run.sys now (fun choice reply v answered => ?_)
  have kept := (found_stable stable).after (quiet_of_silent rfl) ⟨now,found⟩ answered
  refine ⟨kept.1,?_⟩
  rcases exec_answer answered with failed | plain
  · obtain ⟨rfl,⟨error,rfl⟩ | rfl⟩ := readToString_cases answered
    · exact .inr ⟨⟨error,rfl⟩,saw_snoc.mpr (.inr ⟨rfl,failed⟩)⟩
    · exact .inl ⟨_,rfl,readState_of_file found⟩
  · cases plain
    exact .inl ⟨_,rfl,readState_of_file found⟩

theorem load_holds (stable : Stable (machine tar) Quiet P) (now : P m) :
    Holds (machine tar).record P (fun outcome m => Reported serde outcome.toOption m)
      (load serde installRoot) m := by
  refine Holds.forward _ _ ((openRead_holds stable now).renamed _) ?_ (fun _ _ _ ended => ended)
  intro file m now found
  refine Run.closing (quiet_of_silent rfl) stable (fun outcome => Reported.stable serde _) ?_
  refine Holds.forward _ _ ((lockRead_holds stable now found).renamed _) ?_ (fun _ _ _ failed => ⟨nofun,fun _ => .inr failed⟩)
  intro _ m now found
  refine Holds.forward (fun text m => readState serde m.1 = serde.fromStr text) _ ((textRead_holds stable now found).renamed _) ?_
    (fun _ _ _ failed => ⟨nofun,fun _ => .inr failed⟩)
  intro text m now same
  cases parsed : serde.fromStr text with
  | none => exact ⟨now,nofun,fun _ => .inl (same.trans parsed)⟩
  | some s =>
    have held : readState serde m.1 = some s := same.trans parsed
    apply Holds.bind (fun outcome m => outcome = .ok () ∧ readState serde m.1 = some s)
    · apply Run.ignore
      refine (Run.kept (quiet_of_silent rfl) (stable.and (readState_stable (some s))) ⟨now,held⟩).mono
        (fun _ held => held.1) (fun _ _ _ held => ⟨rfl,held.2⟩)
    · intro _ m now ended
      refine ⟨now,fun other same => ?_,nofun⟩
      cases same
      exact ended.2
    · exact fun _ _ _ ended => nomatch ended.1

theorem tryLoad_holds {ε : Type} (stable : Stable (machine tar) Quiet P) (now : P m) :
    Holds (machine tar).record P (fun outcome m => ∃ found, outcome = .ok found ∧ Reported serde found m)
      (tryLoad serde installRoot : Prog ε (Option InstallState)) m := by
  apply Holds.bind (fun outcome m => ∃ found, outcome = .ok found ∧
    (found = false → Reported serde none m))
  · refine @Run.request tar ε P (.pathExists .stateJson) _ m now (fun choice reply v answered => ?_)
    have kept := stable.after (quiet_of_silent rfl) now answered
    refine ⟨kept,reply,rfl,fun missing => ⟨nofun,fun _ => ?_⟩⟩
    subst missing
    rcases exec_answer answered with failed | plain
    · exact .inr (saw_snoc.mpr (.inr ⟨rfl,failed⟩))
    · simp only [answer,Prod.mk.injEq] at plain
      obtain ⟨gone,rfl⟩ := plain
      refine .inl ?_
      unfold readState World.content
      split
      next ino found =>
        have there : m.1.stat .stateJson = some (.file ino) := by
          refine World.stat_of_no_link _ _ _ found fun other linked => ?_
          cases linked
        simp [there] at gone
      next => rfl
  · intro found m now ended
    cases found with
    | false =>
      obtain ⟨_,same,missing⟩ := ended
      cases same
      exact ⟨now,none,rfl,missing rfl⟩
    | true =>
      apply Holds.bind (fun outcome m => ∃ loaded, outcome = .ok loaded ∧
        Reported serde loaded.toOption m)
      · apply Holds.attempt
        exact (load_holds stable now).mono (fun _ now => now) (fun loaded _ _ ends => ⟨loaded,rfl,ends⟩)
      · rintro loaded m now ⟨_,same,reported⟩
        cases same
        exact ⟨now,_,rfl,reported⟩
      · rintro error m now ⟨_,same,_⟩
        cases same
  · rintro error m now ⟨_,same,_⟩
    cases same

/-- The calls of a reader, the closing of its file included. -/
inductive Looks : Call → Prop
  | exists_ : Looks (.pathExists .stateJson)
  | opens : Looks (.openFile .stateJson .read)
  | locks (file : Handle) : Looks (.lockShared file)
  | reads (file : Handle) : Looks (.readToString file)
  | unlocks (file : Handle) : Looks (.unlock file)
  | closes (file : Handle) : Looks (.close file)

theorem Looks.quiet {operation : Call} (looks : Looks operation) : Quiet operation := by
  cases looks with
  | exists_ | opens | locks | reads | unlocks | closes => exact quiet_of_silent rfl

theorem load_looks (serde : Serde) (installRoot : String) : Uses Looks (load serde installRoot) := by
  refine (Calls.context (Calls.sys .opens)).bind fun file => ?_
  apply Calls.closing (.closes file)
  refine (Calls.context (Calls.sys (.locks file))).bind fun _ => ?_
  refine (Calls.context (Calls.sys (.reads file))).bind fun text => ?_
  cases serde.fromStr text with
  | none => trivial
  | some state => exact (Calls.ignore (Calls.sys (.unlocks file))).bind fun _ => trivial

theorem load_uses (serde : Serde) (installRoot : String) : Uses Quiet (load serde installRoot) :=
  (load_looks serde installRoot).mono fun _ => Looks.quiet

theorem tryLoad_uses {ε : Type} (serde : Serde) (installRoot : String) :
    Uses Quiet (tryLoad serde installRoot : Prog ε (Option InstallState)) := by
  refine (Calls.request (quiet_of_silent rfl)).bind fun found => ?_
  cases (show Bool from found) with
  | false => trivial
  | true => exact (load_uses serde installRoot).attempt.bind fun _ => trivial

theorem update_uses (serde : Serde) (installRoot : String) (pid : Nat)
    {mutate : InstallState → Prog Error InstallState} (quiet : ∀ s, Uses Quiet (mutate s)) :
    Uses (Saves pid) (update serde installRoot pid mutate) := by
  refine ((load_uses serde installRoot).mono fun _ => .quiet).bind fun s => ?_
  exact ((quiet s).mono fun _ => .quiet).bind fun s' => save_uses serde installRoot pid s'

theorem toVecPretty_injective (serde : Serde) : Function.Injective serde.toVecPretty := by
  intro s s' same
  have read := serde.fromStr_toVecPretty s
  rw [same,serde.fromStr_toVecPretty,Option.some.injEq] at read
  exact read.symm

/-- An empty file is no state: of two states at most one could be written as nothing. -/
theorem fromStr_nil (serde : Serde) : serde.fromStr [] = none := by
  have blank (n : UInt64) (text : serde.toVecPretty ⟨"",none,"","","",.stable,0,0,none,n⟩ ≠ []) :
      serde.fromStr [] = none := by
    simpa using serde.fromStr_take _ 0 (List.length_pos_of_ne_nil text)
  by_cases zero : serde.toVecPretty ⟨"",none,"","","",.stable,0,0,none,0⟩ = []
  · apply blank 1
    intro one
    have same := toVecPretty_injective serde (zero.trans one.symm)
    simp at same
  · exact blank 0 zero

theorem readState_unsaved (unsaved : Unsaved pid w m) : readState serde m.1 = readState serde w := by
  obtain ⟨framed,kept,_⟩ := unsaved
  rcases kept with same | ⟨absent,ino,_,found,empty⟩
  · unfold readState World.content
    rw [same]
    split
    next ino found => rw [framed.data ino (exists_of_file found)]
    next => rfl
  · rw [readState_of_file found,empty,fromStr_nil]
    simp [readState,World.content,absent]

theorem readState_saved {s : InstallState} (saved : Saved pid (serde.toVecPretty s) w m) :
    readState serde m.1 = some s := by
  obtain ⟨ino,_,found,held⟩ := saved.2.1
  rw [readState_of_file found,held,serde.fromStr_toVecPretty]

/-- What an update saves: the change of what it read. -/
def Updated (serde : Serde) (pid : Nat) (change : InstallState → InstallState → Prop) (w : World) (m : Moment) : Prop :=
  ∃ s t, readState serde w = some s ∧ change s t ∧ Saved pid (serde.toVecPretty t) w m

theorem update_holds {mutate : InstallState → Prog Error InstallState} {change : InstallState → InstallState → Prop}
    (changes : ∀ s m, Unsaved pid w m → Holds (machine tar).record (Unsaved pid w)
      (fun outcome _ => ∀ t, outcome = .ok t → change s t) (mutate s) m) (start : Unsaved pid w m) :
    Holds (machine tar).record (fun m => Unsaved pid w m ∨ Updated serde pid change w m)
      (fun outcome m => (outcome = .ok () ∧ Updated serde pid change w m) ∨
        (∃ error, outcome = .error error) ∧ Unsaved pid w m)
      (update serde installRoot pid mutate) m := by
  apply Holds.bind (fun outcome m => Unsaved pid w m ∧ Reported serde outcome.toOption m)
  · exact (load_holds (Unsaved.stable pid w) start).mono (fun _ => .inl) (fun _ _ now ends => ⟨now,ends⟩)
  · intro s m _ loaded
    have read : readState serde w = some s :=
      (readState_unsaved loaded.1).symm.trans (loaded.2.1 s rfl)
    apply Holds.bind (fun outcome m => Unsaved pid w m ∧ ∀ t, outcome = .ok t → change s t)
    · exact (changes s m loaded.1).mono (fun _ => .inl) (fun _ _ now ends => ⟨now,ends⟩)
    · intro t m _ changed
      refine (save_holds changed.1).mono ?_ ?_
      · exact fun m now => now.imp id (fun saved => ⟨s,t,read,changed.2 t rfl,saved⟩)
      · intro outcome m _ ends
        exact ends.imp (fun done => ⟨done.1,s,t,read,changed.2 t rfl,done.2⟩) id
    · exact fun error m _ ended => .inr ⟨⟨error,rfl⟩,ended.1⟩
  · exact fun error m _ ended => .inr ⟨⟨error,rfl⟩,ended.1⟩

end GatewaySdk.Upgrade
