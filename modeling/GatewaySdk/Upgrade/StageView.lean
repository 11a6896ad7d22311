import GatewaySdk.Upgrade.Armed

/-! What a stage call has made of the two links and of `state.json`, at every moment of
every run of it. -/
namespace GatewaySdk.Upgrade
open GatewaySdk.Effect GatewaySdk.Host

section View

variable {crates : Crates} {coordinator : UpgradeCoordinator} {network : Network} {request : StageRequest} {w : World}
  {m : Moment}

/-- The manifest a call has accepted, over what its first read of `state.json` found. -/
structure Accepted (crates : Crates) (coordinator : UpgradeCoordinator) (network : Network) (request : StageRequest)
    (manifest : Manifest) (w : World) (m : Moment) : Prop where
  approved : ∃ tarballBytes, Approved crates coordinator network request manifest tarballBytes
  newer : ∀ s, readState crates.serde w = some s → s.lastSequence < manifest.sequence ∨ Saw FailedRead (checks m.2)

/-- `previous` points where `current` did, unless a call was made to fail. -/
def Relinked (w : World) (m : Moment) : Prop :=
  ∀ target, w.node .current = some (.symlink target) →
    m.1.node .previous = some (.symlink target) ∨ Saw Failing m.2

/-- How the requested version came to be the live one: by the swap, or it was already. -/
def MadeLive (v : String) (w : World) (m : Moment) : Prop :=
  (Done swapped m.2 ∧ Relinked w m) ∨
    ¬ Done swapped m.2 ∧ w.node .current = some (.symlink (.version v)) ∧ m.1.node .previous = w.node .previous

/-- The links and the state at a moment of a stage call. -/
inductive StageCase (crates : Crates) (coordinator : UpgradeCoordinator) (network : Network) (request : StageRequest)
    (w : World) (m : Moment) : Prop
  | before (current : m.1.node .current = w.node .current)
    (state : readState crates.serde m.1 = readState crates.serde w) (swap : ¬ Done swapped m.2)
    (record : ¬ Done (recorded coordinator.pid) m.2)
  | between (manifest : Manifest) (accepted : Accepted crates coordinator network request manifest w m)
    (current : m.1.node .current = some (.symlink (.version request.version)))
    (state : readState crates.serde m.1 = readState crates.serde w) (swap : Done swapped m.2)
    (record : ¬ Done (recorded coordinator.pid) m.2)
  | after (manifest : Manifest) (accepted : Accepted crates coordinator network request manifest w m)
    (prev : Option InstallState) (now : Int)
    (found : prev = readState crates.serde w ∨ prev = none ∧ Saw FailedRead m.2)
    (current : m.1.node .current = some (.symlink (.version request.version)))
    (state : readState crates.serde m.1 = some (stagedState coordinator request manifest prev now))
    (record : Done (recorded coordinator.pid) m.2) (live : MadeLive request.version w m)

/-- Calls that leave both links alone. -/
def Unlinked (operation : Call) : Prop := Apart .current operation ∧ Apart .previous operation

theorem Unlinked.of_quiet {operation : Call} (quiet : Quiet operation) : Unlinked operation :=
  ⟨fun own => quiet.touches _ own,fun own => quiet.touches _ own⟩

theorem Unlinked.of_saves {pid : Nat} {operation : Call} (saves : Saves pid operation) : Unlinked operation := by
  constructor
  · intro own
    obtain other | other := saves.touches own <;> cases other
  · intro own
    obtain other | other := saves.touches own <;> cases other

theorem Unlinked.of_collects {v : String} {operation : Call} (collects : Collects v operation) : Unlinked operation := by
  obtain quiet | ⟨name,_,rfl⟩ := collects
  · exact .of_quiet quiet
  · exact ⟨nofun,nofun⟩

theorem Relinked.stable (w : World) : Stable (machine crates.tar) (Apart .previous) (Relinked w) := by
  intro operation choice m apart held target found
  have previous : Stable (machine crates.tar) (Apart .previous)
      (fun m => m.1.node .previous = some (.symlink target) ∨ Saw Failing m.2) :=
    (Stable.entry .previous fun entry => entry = some (.symlink target)).or (Stable.saw _)
  exact previous operation choice m apart (held target found)

theorem MadeLive.stable (v : String) (w : World) : Stable (machine crates.tar) Unlinked (MadeLive v w) := by
  have relinked := (@Relinked.stable crates w).mono fun _ (unlinked : Unlinked _) => unlinked.2
  have previous := (@Stable.entry crates.tar .previous fun entry => entry = w.node .previous).mono
    fun _ (unlinked : Unlinked _) => unlinked.2
  have unswapped : Stable (machine crates.tar) Unlinked (fun m => ¬ Done swapped m.2) :=
    Stable.not_done fun unlinked => unlinked.1 (.inr rfl)
  exact ((Stable.done _).and relinked).or (unswapped.and ((Stable.const _).and previous))

theorem Accepted.stable (manifest : Manifest) (w : World) {allowed : Call → Prop} :
    Stable (machine crates.tar) allowed (Accepted crates coordinator network request manifest w) := by
  intro operation choice m _ accepted
  refine ⟨accepted.approved,fun s read => ?_⟩
  obtain newer | ⟨event,member,failed⟩ := accepted.newer s read
  · exact .inl newer
  · exact .inr ⟨event,(checks_grows m.2 _).subset member,failed⟩

theorem StageCase.stable (w : World) :
    Stable (machine crates.tar) Quiet (StageCase crates coordinator network request w) := by
  intro operation choice m quiet held
  have same := (@exec_effect crates.tar choice m.1 operation).node fun own => quiet.touches .current own
  cases held with
  | before current state swap record =>
    have swap' : Stable (machine crates.tar) Quiet (fun m => ¬ Done swapped m.2) :=
      Stable.not_done fun quiet => quiet.touches .current (.inr rfl)
    have record' : Stable (machine crates.tar) Quiet (fun m => ¬ Done (recorded coordinator.pid) m.2) :=
      Stable.not_done (recorded_loud coordinator.pid)
    exact .before (same.trans current) (readState_stable _ operation choice m quiet state)
      (swap' operation choice m quiet swap) (record' operation choice m quiet record)
  | between manifest accepted current state swap record =>
    have record' : Stable (machine crates.tar) Quiet (fun m => ¬ Done (recorded coordinator.pid) m.2) :=
      Stable.not_done (recorded_loud coordinator.pid)
    exact .between manifest (Accepted.stable manifest w operation choice m quiet accepted) (same.trans current)
      (readState_stable _ operation choice m quiet state) (Stable.done _ operation choice m quiet swap)
      (record' operation choice m quiet record)
  | after manifest accepted prev now found current state record live =>
    exact .after manifest (Accepted.stable manifest w operation choice m quiet accepted) prev now
      (found.imp id fun missed => ⟨missed.1,Stable.saw _ operation choice m quiet missed.2⟩) (same.trans current)
      (readState_stable _ operation choice m quiet state) (Stable.done _ operation choice m quiet record)
      (MadeLive.stable _ w operation choice m (.of_quiet quiet) live)

/-- Ready to be recorded: the version is live and the state is what it was. -/
structure Unrecorded (crates : Crates) (coordinator : UpgradeCoordinator) (network : Network) (request : StageRequest)
    (manifest : Manifest) (w : World) (m : Moment) : Prop where
  accepted : Accepted crates coordinator network request manifest w m
  current : m.1.node .current = some (.symlink (.version request.version))
  state : readState crates.serde m.1 = readState crates.serde w
  record : ¬ Done (recorded coordinator.pid) m.2
  live : MadeLive request.version w m

theorem Unrecorded.view {manifest : Manifest} (held : Unrecorded crates coordinator network request manifest w m) :
    StageCase crates coordinator network request w m := by
  obtain ⟨swap,_⟩ | ⟨swap,before,_⟩ := held.live
  · exact .between manifest held.accepted held.current held.state swap held.record
  · exact .before (held.current.trans before.symm) held.state swap held.record

theorem recordStaged_view {manifest : Manifest} (start : Unrecorded crates coordinator network request manifest w m) :
    Holds (machine crates.tar).record (StageCase crates coordinator network request w)
      (fun outcome m => StageCase crates coordinator network request w m ∧
        (outcome = .ok () → Done (recorded coordinator.pid) m.2))
      (recordStaged crates coordinator request manifest) m := by
  have unsaved : Unsaved coordinator.pid m.1 m := ⟨.refl _ _,.inl rfl,start.record⟩
  have keep : Stable (machine crates.tar) (Saves coordinator.pid)
      (fun m => Accepted crates coordinator network request manifest w m ∧ MadeLive request.version w m) :=
    (Accepted.stable manifest w).and ((MadeLive.stable _ w).mono fun _ => .of_saves)
  have before (m' : Moment) (kept : Accepted crates coordinator network request manifest w m' ∧
      MadeLive request.version w m') (held : Unsaved coordinator.pid m.1 m') :
      StageCase crates coordinator network request w m' := by
    have current := (held.1.node .current (by simp [stateFiles])).trans start.current
    exact Unrecorded.view ⟨kept.1,current,(readState_unsaved held).trans start.state,held.2.2,kept.2⟩
  have after (m' : Moment) (kept : Accepted crates coordinator network request manifest w m' ∧
      MadeLive request.version w m') (held : Recording crates coordinator request manifest m.1 m') :
      StageCase crates coordinator network request w m' ∧ Done (recorded coordinator.pid) m'.2 := by
    obtain ⟨prev,now,found,missed,saved⟩ := held
    have current := (saved.1.node .current (by simp [stateFiles])).trans start.current
    refine ⟨.after manifest kept.1 prev now ?_ current (readState_saved saved) saved.2.2 kept.2,saved.2.2⟩
    cases prev with
    | none =>
      obtain empty | failed := missed rfl
      · exact .inl (empty.symm.trans start.state)
      · exact .inr ⟨rfl,failed⟩
    | some s => exact .inl ((found s rfl).symm.trans start.state)
  refine (((recordStaged_uses manifest).stable keep ⟨start.accepted,start.live⟩).and
    (recordStaged_holds unsaved)).mono ?_ ?_
  · intro m' held
    obtain ⟨kept,held | held⟩ := held
    · exact before m' kept held
    · exact (after m' kept held).1
  · intro outcome m' _ ended
    obtain ⟨kept,⟨_,held⟩ | ⟨⟨error,failed⟩,held⟩⟩ := ended
    · exact ⟨(after m' kept held).1,fun _ => (after m' kept held).2⟩
    · exact ⟨before m' kept held,fun done => by rw [failed] at done; cases done⟩

theorem Unswapped.view (held : Unswapped coordinator.pid w m) :
    StageCase crates coordinator network request w m :=
  .before (held.1.node .current (by simp)) (readState_same (held.1.node .stateJson (by simp)) held.1.data) held.2.1 held.2.2

/-- The phases of an installation as the links see them. -/
theorem viewing (v : String) (pid : Nat) (w : World) (tarballBytes : Bytes) :
    Phases crates.tar v tarballBytes
      (fun m => Unswapped pid w m ∧ m.1.node .previous = w.node .previous) (Unswapped pid w) (Unswapped pid w)
      (fun m => Swapped v pid w m ∧ Relinked w m) where
  clears := by
    refine ((arming v pid w tarballBytes).clears).and ((Stable.entry .previous fun e => e = w.node .previous).mono ?_)
    intro operation clears own
    obtain quiet | rfl | rfl | rfl | rfl := clears
    · exact quiet.touches _ own
    all_goals cases own
  made m choice w' answered held := (arming v pid w tarballBytes).made m choice w' answered held.1
  fills := (arming v pid w tarballBytes).fills
  moved := (arming v pid w tarballBytes).moved
  unmoved := (arming v pid w tarballBytes).unmoved
  links := (arming v pid w tarballBytes).links
  swaps m choice w' answered held linked kept := by
    refine ⟨held.swap answered linked,fun target found => ?_⟩
    have same := (held.1.node .current (by simp)).trans found
    have apart : Apart .previous swapped := by simp [Apart,Touches,swapped]
    have previous := @Stable.entry crates.tar .previous (fun e => e = some (.symlink target))
    exact (previous.or (Stable.saw Failing)).after apart (kept target same) answered
  unswapped := (arming v pid w tarballBytes).unswapped
  collects := by
    refine ((arming v pid w tarballBytes).collects).and ((@Relinked.stable crates w).mono ?_)
    exact fun operation collects => (Unlinked.of_collects collects).2

theorem install_view {manifest : Manifest} {tarballBytes : Bytes}
    (accepted : Accepted crates coordinator network request manifest w m)
    (start : Unswapped coordinator.pid w m ∧ m.1.node .previous = w.node .previous) :
    Holds (machine crates.tar).record (StageCase crates coordinator network request w)
      (fun outcome m => StageCase crates coordinator network request w m ∧
        ∀ staged, outcome = .ok staged → Done (recorded coordinator.pid) m.2)
      (install crates coordinator request manifest tarballBytes) m := by
  have stages := @stageNewVersion_holds crates.tar request.version tarballBytes _ _ _ _ m
    coordinator.config.installRoot coordinator.profile.binaryName manifest
    (viewing request.version coordinator.pid w tarballBytes) start
  have accepts := (Uses.any (stageNewVersion crates.tar coordinator.config.installRoot request.version
    coordinator.profile.binaryName tarballBytes manifest)).stable
      (@Accepted.stable crates coordinator network request manifest w _) accepted
  have live (m : Moment) (accepted : Accepted crates coordinator network request manifest w m)
      (held : Swapped request.version coordinator.pid w m ∧ Relinked w m) :
      Unrecorded crates coordinator network request manifest w m := by
    obtain ⟨⟨framed,current,swap,record⟩,relinked⟩ := held
    exact ⟨accepted,current,readState_same (framed.node .stateJson (by simp)) framed.data,record,.inl ⟨swap,relinked⟩⟩
  apply Holds.bind (fun outcome m => StageCase crates coordinator network request w m ∧
    ∀ place, outcome = .ok place → Unrecorded crates coordinator network request manifest w m)
  · apply Holds.mapError
    refine (stages.and accepts).mono ?_ ?_
    · intro m held
      obtain ⟨held | held | held | held,accepted⟩ := held
      · exact held.1.view
      · exact held.view
      · exact held.view
      · exact (live m accepted held).view
    · intro outcome m _ ended
      obtain ⟨⟨⟨place,rfl⟩,held | ⟨held,found⟩⟩ | ⟨⟨error,rfl⟩,held⟩,accepted⟩ := ended
      · exact ⟨(live m accepted held).view,fun _ _ => live m accepted held⟩
      · have before := (held.1.1.node .current (by simp)).symm.trans found
        have ready : Unrecorded crates coordinator network request manifest w m :=
          ⟨accepted,found,readState_same (held.1.1.node .stateJson (by simp)) held.1.1.data,held.1.2.2,
            .inr ⟨held.1.2.1,before,held.2⟩⟩
        exact ⟨ready.view,fun _ _ => ready⟩
      · refine ⟨?_,nofun⟩
        obtain held | held | held := held
        · exact held.1.view
        · exact held.view
        · exact held.view
  · intro place m _ ended
    refine Holds.bind _ ((recordStaged_view (ended.2 place rfl)).mono (fun _ held => held) (fun _ _ _ ends => ends)) ?_ ?_
    · intro _ m _ ended
      have sends (event : UpgradeEvent) : Quiet (.trySend event) := quiet_of_silent rfl
      have keep := (@StageCase.stable crates coordinator network request w).and
        (@Stable.done crates.tar Quiet (recorded coordinator.pid))
      refine Holds.bind _ ((Run.ignored (Calls.sys (sends _)) keep ⟨ended.1,ended.2 rfl⟩).mono
        (fun _ held => held.1) (fun _ _ _ held => held.2)) ?_ ?_
      · exact fun _ m _ held => ⟨held.1,held.1,fun _ _ => held.2⟩
      · exact fun _ _ _ held => ⟨held.1,nofun⟩
    · exact fun _ _ _ ended => ⟨ended.1,nofun⟩
  · exact fun _ _ _ ended => ⟨ended.1,nofun⟩

/-- A stage call at every moment, and recorded where it succeeds. -/
theorem stage_view : Holds (machine crates.tar).record (StageCase crates coordinator network request w)
    (fun outcome m => StageCase crates coordinator network request w m ∧
      ∀ staged, outcome = .ok staged → Done (recorded coordinator.pid) m.2)
    (stage crates coordinator network request) (w,[]) := by
  have keep := ((@Unswapped.stable crates coordinator.pid w).mono fun _ quiet => Aside.of_quiet quiet).and
    (((@Stable.entry crates.tar .previous fun e => e = w.node .previous).mono
      fun _ (quiet : Quiet _) own => quiet.touches _ own).and (Checking.stable w))
  have start : Checking w (w,[]) := ⟨.refl _ w,List.forall_mem_nil _⟩
  have unswapped : Unswapped coordinator.pid w (w,[]) := ⟨.refl _ w,not_done_nil _,not_done_nil _⟩
  refine Holds.bind _ ((approve_holds keep ⟨unswapped,rfl,start⟩).mono (fun _ held => held.1.view)
    (fun outcome m held ends => (⟨held,ends⟩ : (_ ∧ _) ∧ _))) ?_ ?_
  · intro admitted m _ held
    obtain ⟨⟨unswapped,previous,checking⟩,approved⟩ := held
    obtain ⟨approved,newer⟩ := approved admitted.1 admitted.2 rfl
    have admitted_ := (checking.admitted newer : Admitted crates w admitted.1 admitted.2 m)
    exact install_view ⟨⟨admitted.2,approved⟩,admitted_.1⟩ ⟨unswapped,previous⟩
  · exact fun _ _ _ held => ⟨held.1.1.view,nofun⟩

end View
end GatewaySdk.Upgrade
