import GatewaySdk.Upgrade.LoadFacts

/-! What the in-place rewrite of `state.json` does at every step: between the
truncation and the end of the write the file is an empty or torn text. -/
namespace GatewaySdk.Upgrade
open GatewaySdk.Effect GatewaySdk.Host

def Truncated (event : Event Sig Choice World) : Prop :=
  (∃ file, event.operation = .setLenZero file) ∧ succeeded event.operation event.reply = true

def Rewritten (event : Event Sig Choice World) : Prop :=
  (∃ file bytes, event.operation = .writeAll file bytes) ∧ succeeded event.operation event.reply = true

def Unsynced (event : Event Sig Choice World) : Prop :=
  (∃ file, event.operation = .flush file ∨ event.operation = .syncAll file) ∧
    succeeded event.operation event.reply = false

/-- Only the bytes of one file differ, and these are they. -/
structure Over (ino : Nat) (bytes : Bytes) (w w' : World) : Prop where
  node : w'.node = w.node
  others : ∀ other < w.fresh, other ≠ ino → w'.data other = w.data other
  fresh : w.fresh ≤ w'.fresh
  data : w'.data ino = bytes

def Untouched (w : World) (m : Moment) : Prop :=
  Framed (fun _ => False) w m.1 ∧ ¬ Saw Truncated m.2 ∧ ¬ Saw Rewritten m.2 ∧ ¬ Saw Unsynced m.2

def Torn (ino : Nat) (bytes : Bytes) (w : World) (m : Moment) : Prop :=
  (∃ n < bytes.length, Over ino (bytes.take n) w m.1) ∧ Saw Truncated m.2 ∧ ¬ Saw Rewritten m.2

def Whole (ino : Nat) (bytes : Bytes) (w : World) (m : Moment) : Prop :=
  Over ino bytes w m.1 ∧ Saw Truncated m.2 ∧ Saw Rewritten m.2

variable {tar : TarCrate} {serde : Serde} {installRoot : String} {w : World} {m : Moment} {ino : Nat}

theorem Over.stable (bytes : Bytes) (w : World) (old : ino < w.fresh) :
    Stable (machine tar) Quiet (fun m => Over ino bytes w m.1) := by
  apply Stable.quiet
  intro v v' node data fresh covers
  refine ⟨node.trans covers.node,?_,Nat.le_trans covers.fresh fresh,?_⟩
  · intro other low apart
    exact (data other (Nat.lt_of_lt_of_le low covers.fresh)).trans (covers.others other low apart)
  · exact (data ino (Nat.lt_of_lt_of_le old covers.fresh)).trans covers.data

theorem not_saw_quiet {E : Event Sig Choice World → Prop}
    (loud : ∀ event, E event → ∃ ino, Writes event.operation ino) :
    Stable (machine tar) Quiet (fun m => ¬ Saw E m.2) :=
  Stable.not_saw fun event quiet held => (loud event held).elim fun ino writes => quiet.writes ino writes

theorem truncated_writes (event : Event Sig Choice World) (held : Truncated event) :
    ∃ ino, Writes event.operation ino := by
  obtain ⟨⟨file,same⟩,_⟩ := held
  exact ⟨file.ino,same ▸ rfl⟩

theorem rewritten_writes (event : Event Sig Choice World) (held : Rewritten event) :
    ∃ ino, Writes event.operation ino := by
  obtain ⟨⟨file,bytes,same⟩,_⟩ := held
  exact ⟨file.ino,same ▸ rfl⟩

theorem Torn.stable (bytes : Bytes) (w : World) (old : ino < w.fresh) :
    Stable (machine tar) Quiet (Torn ino bytes w) := by
  intro operation choice m quiet torn
  obtain ⟨⟨n,low,covers⟩,cut,blank⟩ := torn
  exact ⟨⟨n,low,Over.stable _ w old operation choice m quiet covers⟩,
    Stable.saw Truncated operation choice m quiet cut,
    not_saw_quiet rewritten_writes operation choice m quiet blank⟩

theorem Whole.stable (bytes : Bytes) (w : World) (old : ino < w.fresh) :
    Stable (machine tar) Quiet (Whole ino bytes w) :=
  (Over.stable bytes w old).and ((Stable.saw Truncated).and (Stable.saw Rewritten))

def Cut (ino : Nat) (w : World) (m : Moment) : Prop :=
  Over ino [] w m.1 ∧ Saw Truncated m.2 ∧ ¬ Saw Rewritten m.2 ∧ ¬ Saw Unsynced m.2

/-- Calls whose failure is not a failure to flush or to sync. -/
def calm (operation : Call) : Prop :=
  Quiet operation ∧ ∀ file, operation ≠ .flush file ∧ operation ≠ .syncAll file

theorem not_unsynced_stable : Stable (machine tar) calm (fun m => ¬ Saw Unsynced m.2) := by
  apply Stable.not_saw
  intro event ok unsynced
  obtain ⟨⟨file,same | same⟩,_⟩ := unsynced
  · exact (ok.2 file).1 same
  · exact (ok.2 file).2 same

theorem Untouched.stable (w : World) : Stable (machine tar) calm (Untouched w) :=
  ((Framed.stable _ w).mono fun _ ok => Quiet.within ok.1 _).and
    (((not_saw_quiet truncated_writes).mono fun _ ok => ok.1).and
      (((not_saw_quiet rewritten_writes).mono fun _ ok => ok.1).and not_unsynced_stable))

theorem Cut.stable (w : World) (old : ino < w.fresh) : Stable (machine tar) calm (Cut ino w) :=
  ((Over.stable [] w old).mono fun _ ok => ok.1).and ((Stable.saw Truncated).and
    (((not_saw_quiet rewritten_writes).mono fun _ ok => ok.1).and not_unsynced_stable))

theorem Cut.torn {bytes : Bytes} (text : 0 < bytes.length) (cut : Cut ino w m) : Torn ino bytes w m :=
  ⟨⟨0,text,cut.1⟩,cut.2.1,cut.2.2.1⟩

/-- `state.json` is this file and holds this state. -/
structure Cell (serde : Serde) (ino : Nat) (s : InstallState) (w : World) : Prop where
  place : w.node .stateJson = some (.file ino)
  state : serde.fromStr (w.data ino) = some s

theorem Cell.old {s : InstallState} (cell : Cell serde ino s w) : ino < w.fresh := exists_of_file cell.place

theorem Cell.read {s : InstallState} (cell : Cell serde ino s w) : readState serde w = some s :=
  (readState_of_file cell.place).trans cell.state

/-- The moments of a rewrite with this text, from before the truncation on. -/
def Rewriting (ino : Nat) (bytes : Bytes) (w : World) (m : Moment) : Prop :=
  Untouched w m ∨ Torn ino bytes w m ∨ Whole ino bytes w m

def RewriteEnd (ino : Nat) (state : InstallState) (bytes : Bytes) (w : World) (outcome : Except Error UInt32)
    (m : Moment) : Prop :=
  (outcome = .ok state.bootAttempts ∧ Whole ino bytes w m ∧ ¬ Saw Unsynced m.2) ∨
    (∃ error, outcome = .error error) ∧
      (Untouched w m ∨ Torn ino bytes w m ∨ Whole ino bytes w m ∧ Saw Unsynced m.2)

theorem text_pos (serde : Serde) (s : InstallState) : 0 < (serde.toVecPretty s).length := by
  apply List.length_pos_of_ne_nil
  intro empty
  have read := serde.fromStr_toVecPretty s
  rw [empty,fromStr_nil] at read
  cases read

theorem truncate_holds {file : Handle} {bytes : Bytes} (text : 0 < bytes.length) (start : Untouched w m) :
    Holds (machine tar).record (Rewriting file.ino bytes w)
      (Ending (fun _ => Cut file.ino w) (Untouched w)) (Io.setLenZero file) m := by
  refine Run.sys (.inl start) (fun choice answer v answered => ?_)
  obtain ⟨framed,uncut,blank,synced⟩ := start
  have blank' : ¬ Saw Rewritten (m.2 ++ [⟨m.1,.setLenZero file,choice,answer⟩]) := by
    rw [saw_snoc]
    rintro (before | ⟨⟨_,_,same⟩,_⟩)
    · exact blank before
    · cases same
  have synced' : ¬ Saw Unsynced (m.2 ++ [⟨m.1,.setLenZero file,choice,answer⟩]) := by
    rw [saw_snoc]
    rintro (before | ⟨⟨_,same | same⟩,_⟩)
    · exact synced before
    · cases same
    · cases same
  rcases setLenZero_cases answered with ⟨error,rfl,rfl⟩ | ⟨rfl,rfl⟩
  · have still : Untouched w (m.1,m.2 ++ [⟨m.1,.setLenZero file,choice,.error error⟩]) := by
      refine ⟨framed,?_,blank',synced'⟩
      rw [saw_snoc]
      rintro (before | ⟨_,failed⟩)
      · exact uncut before
      · cases failed
    exact ⟨.inl still,.inr ⟨⟨error,rfl⟩,still⟩⟩
  · have covers : Over file.ino [] w (m.1.write file.ino []) := by
      refine ⟨funext fun place => framed.node place id,?_,framed.fresh,by simp⟩
      intro other low apart
      simpa [apart] using framed.data other low
    have cut : Saw Truncated (m.2 ++ [⟨m.1,.setLenZero file,choice,.ok ()⟩]) :=
      saw_snoc.mpr (.inr ⟨⟨file,rfl⟩,rfl⟩)
    exact ⟨.inr (.inl ⟨⟨0,text,covers⟩,cut,blank'⟩),.inl ⟨(),rfl,covers,cut,blank',synced'⟩⟩

theorem refill_holds {file : Handle} {bytes : Bytes} (text : 0 < bytes.length) (start : Cut file.ino w m) :
    Holds (machine tar).record (Rewriting file.ino bytes w)
      (Ending (fun _ m => Whole file.ino bytes w m ∧ ¬ Saw Unsynced m.2) (Torn file.ino bytes w)) (Io.writeAll file bytes) m := by
  refine Run.sys (.inr (.inl (start.torn text))) (fun choice answer v answered => ?_)
  obtain ⟨covers,cut,blank,synced⟩ := start
  have written (written : Bytes) : Over file.ino written w (m.1.overwrite file written) := by
    refine ⟨covers.node,?_,covers.fresh,by simp [covers.data]⟩
    intro other low apart
    simpa [apart] using covers.others other low apart
  have cut' : Saw Truncated (m.2 ++ [⟨m.1,.writeAll file bytes,choice,answer⟩]) := saw_snoc.mpr (.inl cut)
  rcases writeAll_cases answered with ⟨error,n,rfl,strict,rfl⟩ | ⟨rfl,rfl⟩
  · have torn : Torn file.ino bytes w (m.1.overwrite file (bytes.take n),
        m.2 ++ [⟨m.1,.writeAll file bytes,choice,.error error⟩]) := by
      refine ⟨⟨n,strict (List.ne_nil_of_length_pos text),written _⟩,cut',?_⟩
      rw [saw_snoc]
      rintro (before | ⟨_,failed⟩)
      · exact blank before
      · cases failed
    exact ⟨.inr (.inl torn),.inr ⟨⟨error,rfl⟩,torn⟩⟩
  · have whole : Whole file.ino bytes w (m.1.overwrite file bytes,
        m.2 ++ [⟨m.1,.writeAll file bytes,choice,.ok ()⟩]) :=
      ⟨written _,cut',saw_snoc.mpr (.inr ⟨⟨file,bytes,rfl⟩,rfl⟩)⟩
    refine ⟨.inr (.inr whole),.inl ⟨(),rfl,whole,?_⟩⟩
    rw [saw_snoc]
    rintro (before | ⟨⟨_,same | same⟩,_⟩)
    · exact synced before
    · cases same
    · cases same

theorem sync_holds {operation : Call} {reply : Reply operation → Except IoError Unit} {file : Handle} {bytes : Bytes}
    (sync : (operation = .flush file ∨ operation = .syncAll file) ∧
      ∀ answer, succeeded operation answer = (reply answer).isOk)
    (old : file.ino < w.fresh) (whole : Whole file.ino bytes w m) (synced : ¬ Saw Unsynced m.2) :
    Holds (machine tar).record (Rewriting file.ino bytes w)
      (Ending (fun _ m => Whole file.ino bytes w m ∧ ¬ Saw Unsynced m.2)
        (fun m => Whole file.ino bytes w m ∧ Saw Unsynced m.2)) (sys operation reply) m := by
  have quiet : Quiet operation := by
    rcases sync.1 with rfl | rfl
    · exact quiet_of_silent rfl
    · exact quiet_of_silent rfl
  refine Run.sys (.inr (.inr whole)) (fun choice answer v answered => ?_)
  have kept := (Whole.stable bytes w old).after quiet whole answered
  refine ⟨.inr (.inr kept),?_⟩
  have ended := sync.2 answer
  cases given : reply answer with
  | ok value =>
    refine .inl ⟨value,rfl,kept,?_⟩
    rw [saw_snoc]
    rintro (before | ⟨_,failed⟩)
    · exact synced before
    · simp [ended,given,Except.isOk,Except.toBool] at failed
  | error error =>
    refine .inr ⟨⟨error,rfl⟩,kept,saw_snoc.mpr (.inr ⟨⟨file,sync.1⟩,?_⟩)⟩
    simp [ended,given,Except.isOk,Except.toBool]

theorem rewrite_holds {file : Handle} {state : InstallState} (start : Untouched w m) (old : file.ino < w.fresh) :
    Holds (machine tar).record (Rewriting file.ino (serde.toVecPretty state) w)
      (RewriteEnd file.ino state (serde.toVecPretty state) w) (rewrite serde file state) m := by
  have text := text_pos serde state
  have torn (error : Error) {m : Moment} (held : Torn file.ino (serde.toVecPretty state) w m) :
      RewriteEnd file.ino state (serde.toVecPretty state) w (.error error) m :=
    .inr ⟨⟨error,rfl⟩,.inr (.inl held)⟩
  have unsynced (error : Error) {m : Moment}
      (held : Whole file.ino (serde.toVecPretty state) w m ∧ Saw Unsynced m.2) :
      RewriteEnd file.ino state (serde.toVecPretty state) w (.error error) m :=
    .inr ⟨⟨error,rfl⟩,.inr (.inr held)⟩
  have keep : Stable (machine tar) calm (fun m => Whole file.ino (serde.toVecPretty state) w m ∧ ¬ Saw Unsynced m.2) :=
    ((Whole.stable _ w old).mono fun _ ok => ok.1).and not_unsynced_stable
  refine Holds.forward (fun _ => Cut file.ino w) (Untouched w) ((truncate_holds text start).renamed _) ?_
    (fun error _ _ untouched => .inr ⟨⟨error,rfl⟩,.inl untouched⟩)
  intro _ m _ cut
  refine Holds.bind (fun _ => Cut file.ino w) ?_ ?_ (fun error _ _ cut => torn error (cut.torn text))
  · apply Run.bare
    exact (Run.kept ⟨quiet_of_silent rfl,fun _ => ⟨nofun,nofun⟩⟩ (Cut.stable w old) cut).mono
      (fun _ cut => .inr (.inl (cut.torn text))) (fun _ _ _ cut => cut)
  intro _ m _ cut
  refine Holds.forward _ _ ((refill_holds text cut).renamed _) ?_ (fun error _ _ held => torn error held)
  intro _ m _ whole
  refine Holds.forward _ _ ((sync_holds ⟨.inl rfl,fun answer => by cases answer <;> rfl⟩ old whole.1 whole.2).renamed _) ?_
    (fun error _ _ whole => unsynced error whole)
  intro _ m _ whole
  refine Holds.forward _ _ ((sync_holds ⟨.inr rfl,fun answer => by cases answer <;> rfl⟩ old whole.1 whole.2).renamed _) ?_
    (fun error _ _ whole => unsynced error whole)
  intro _ m _ whole
  apply Holds.bind (fun outcome m => outcome = .ok () ∧
    Whole file.ino (serde.toVecPretty state) w m ∧ ¬ Saw Unsynced m.2)
  · apply Run.ignore
    exact (Run.kept ⟨quiet_of_silent rfl,fun _ => ⟨nofun,nofun⟩⟩ keep whole).mono
      (fun _ whole => .inr (.inr whole.1)) (fun _ _ _ whole => ⟨rfl,whole⟩)
  · exact fun _ m now ended => ⟨now,.inl ⟨rfl,ended.2⟩⟩
  · exact fun _ _ _ ended => nomatch ended.1

def Bumping (serde : Serde) (w : World) (m : Moment) : Prop :=
  Untouched w m ∨ ∃ ino s, Cell serde ino s w ∧
    (Torn ino (serde.toVecPretty (bumped s)) w m ∨ Whole ino (serde.toVecPretty (bumped s)) w m)

def BumpEnd (serde : Serde) (w : World) (outcome : Except Error UInt32) (m : Moment) : Prop :=
  ((∃ error, outcome = .error error) ∧ Untouched w m) ∨
    ∃ ino s, Cell serde ino s w ∧ RewriteEnd ino (bumped s) (serde.toVecPretty (bumped s)) w outcome m

theorem Bumping.stable (serde : Serde) (w : World) : Stable (machine tar) calm (Bumping serde w) := by
  intro operation choice m ok bumping
  rcases bumping with untouched | ⟨ino,s,cell,torn | whole⟩
  · exact .inl (Untouched.stable w operation choice m ok untouched)
  · exact .inr ⟨ino,s,cell,.inl (Torn.stable _ w cell.old operation choice m ok.1 torn)⟩
  · exact .inr ⟨ino,s,cell,.inr (Whole.stable _ w cell.old operation choice m ok.1 whole)⟩

theorem RewriteEnd.stable (state : InstallState) (bytes : Bytes) (w : World) (old : ino < w.fresh)
    (outcome : Except Error UInt32) : Stable (machine tar) calm (RewriteEnd ino state bytes w outcome) := by
  have torn := (@Torn.stable tar ino bytes w old).mono (fun (_ : Call) (ok : calm _) => ok.1)
  have whole := (@Whole.stable tar ino bytes w old).mono (fun (_ : Call) (ok : calm _) => ok.1)
  exact ((Stable.const _).and (whole.and not_unsynced_stable)).or
    ((Stable.const _).and ((Untouched.stable w).or (torn.or (whole.and (Stable.saw Unsynced)))))

theorem BumpEnd.stable (serde : Serde) (w : World) (outcome : Except Error UInt32) :
    Stable (machine tar) calm (BumpEnd serde w outcome) := by
  intro operation choice m ok ended
  rcases ended with ⟨failed,untouched⟩ | ⟨ino,s,cell,ended⟩
  · exact .inl ⟨failed,Untouched.stable w operation choice m ok untouched⟩
  · exact .inr ⟨ino,s,cell,RewriteEnd.stable _ _ w cell.old outcome operation choice m ok ended⟩

theorem calm_silent {operation : Call} (quiet : silent operation = true)
    (sync : ∀ file, operation ≠ .flush file ∧ operation ≠ .syncAll file) : calm operation :=
  ⟨quiet_of_silent quiet,sync⟩

theorem openCounted_holds (start : Untouched w m) :
    Holds (machine tar).record (Bumping serde w)
      (fun outcome m => Untouched w m ∧ ∀ file, outcome = .ok file → m.1.node .stateJson = some (.file file.ino))
      (bare (Io.openFile .stateJson .readWrite)) m := by
  apply Run.bare
  refine Run.sys (.inl start) (fun choice answer v answered => ?_)
  have kept := (Untouched.stable w).after (calm_silent rfl (by simp)) start answered
  refine ⟨.inl kept,kept,fun file opened => ?_⟩
  rcases open_cases (.inr rfl) answered with ⟨error,rfl,rfl⟩ | ⟨ino,found,rfl,rfl⟩
  · cases opened
  · cases opened
    exact found

theorem held_stable {file : Handle} : Stable (machine tar) calm
    (fun m => Untouched w m ∧ m.1.node .stateJson = some (.file file.ino)) :=
  (Untouched.stable w).and ((Stable.node .stateJson id _).mono fun _ ok => ok.1.still)

theorem readCounted_holds {file : Handle} (held : Untouched w m ∧ m.1.node .stateJson = some (.file file.ino)) :
    Holds (machine tar).record (Bumping serde w)
      (fun outcome m => Untouched w m ∧ ∀ text, outcome = .ok text →
        w.node .stateJson = some (.file file.ino) ∧ text = w.data file.ino)
      (bare (Io.readToString file)) m := by
  apply Run.bare
  refine Run.sys (.inl held.1) (fun choice answer v answered => ?_)
  have kept := held_stable.after (calm_silent rfl (by simp)) held answered
  refine ⟨.inl kept.1,kept.1,fun text read => ?_⟩
  have place : w.node .stateJson = some (.file file.ino) := (held.1.1.node .stateJson id).symm.trans held.2
  obtain ⟨rfl,⟨error,rfl⟩ | rfl⟩ := readToString_cases answered
  · cases read
  · cases read
    exact ⟨place,held.1.1.data file.ino (exists_of_file place)⟩

/-- `bump_boot_attempts` at every step: untouched, torn, or wholly rewritten with one
more attempt; it succeeds only in the last case. -/
theorem bump_holds (start : Untouched w m) :
    Holds (machine tar).record (Bumping serde w) (BumpEnd serde w) (bumpBootAttempts serde) m := by
  have failed (error : Error) {m : Moment} (untouched : Untouched w m) : BumpEnd serde w (.error error) m :=
    .inl ⟨⟨error,rfl⟩,untouched⟩
  refine Holds.bind _ (openCounted_holds start) ?_ (fun error _ _ opened => failed error opened.1)
  intro file m _ opened
  have early {operation : Call} {reply : Reply operation → Except IoError Unit} {m : Moment}
      (ok : calm operation) (held : Untouched w m ∧ m.1.node .stateJson = some (.file file.ino)) :
      Holds (machine tar).record (Bumping serde w)
        (fun _ m => Untouched w m ∧ m.1.node .stateJson = some (.file file.ino))
        (bare (sys operation reply)) m :=
    Run.bare ((Run.kept ok held_stable held).mono (fun _ held => .inl held.1) (fun _ _ _ held => held))
  refine Run.closing (calm_silent rfl (by simp)) (Bumping.stable serde w) (BumpEnd.stable serde w) ?_
  refine Holds.bind _ (early (calm_silent rfl (by simp)) ⟨opened.1,opened.2 file rfl⟩) ?_
    (fun error _ _ held => failed error held.1)
  intro _ m _ held
  refine Holds.bind _ (early (calm_silent rfl (by simp)) held) ?_ (fun error _ _ held => failed error held.1)
  intro _ m _ held
  refine Holds.bind _ (readCounted_holds held) ?_ (fun error _ _ read => failed error read.1)
  intro text m _ read
  obtain ⟨place,rfl⟩ := read.2 text rfl
  cases parsed : serde.fromStr (w.data file.ino) with
  | none => exact ⟨.inl read.1,failed _ read.1⟩
  | some s =>
    have cell : Cell serde file.ino s w := ⟨place,parsed⟩
    refine (rewrite_holds read.1 cell.old).mono (fun m now => ?_) (fun _ _ _ ends => .inr ⟨_,s,cell,ends⟩)
    rcases now with untouched | torn | whole
    · exact .inl untouched
    · exact .inr ⟨_,s,cell,.inl torn⟩
    · exact .inr ⟨_,s,cell,.inr whole⟩

end GatewaySdk.Upgrade
