import GatewaySdk.Upgrade.Agreement

/-! The manifest sequences an install has used, over its life. -/
namespace GatewaySdk.Upgrade
open GatewaySdk.Effect GatewaySdk.Host

section Offer

variable (crates : Crates) (coordinator : UpgradeCoordinator) (network : Network) (request : StageRequest)

/-- The manifest a stage call comes upon, where it is a good one. -/
def offered : Option Manifest :=
  match checkRequest crates coordinator request with
  | .error _ => none
  | .ok releaseBase => (fetchManifest crates coordinator network request releaseBase).toOption

variable {crates coordinator network request}

theorem offered_eq {releaseBase : String} {manifest : Manifest}
    (checked : checkRequest crates coordinator request = .ok releaseBase)
    (fetched : fetchManifest crates coordinator network request releaseBase = .ok manifest) :
    offered crates coordinator network request = some manifest := by
  simp [offered,checked,fetched,Except.toOption]

theorem Approved.offered {manifest : Manifest} {tarballBytes : Bytes}
    (approved : Approved crates coordinator network request manifest tarballBytes) :
    offered crates coordinator network request = some manifest := by
  obtain ⟨releaseBase,checked,fetched⟩ := approved.checked
  exact offered_eq checked fetched

end Offer

/-- An install and the sequences of the versions put in it, oldest first. -/
structure Ledger where
  world : World
  sequences : List UInt64

section Replay

variable {crates : Crates} {ledger : Ledger} {act : Act}

open Classical in
noncomputable def sequenceOf (crates : Crates) (w : World) (act : Act) : List UInt64 :=
  match act.action with
  | .stage coordinator network request =>
    if Done swapped (act.moment crates w).2 then
      ((offered crates coordinator network request).map Manifest.sequence).toList
    else []
  | _ => []

noncomputable def Ledger.after (crates : Crates) (ledger : Ledger) (act : Act) : Ledger where
  world := act.after crates ledger.world
  sequences := ledger.sequences ++ sequenceOf crates ledger.world act

theorem stage_recorded {w : World} {coordinator : UpgradeCoordinator} {network : Network} {request : StageRequest}
    {choices : List Choice} {staged : StagedUpgrade}
    (done : (stageRun crates coordinator network request choices w).1.result = some (.ok staged)) :
    Done (recorded coordinator.pid) (Act.moment crates w ⟨.stage coordinator network request,choices⟩).2 :=
  (stage_records done).choose_spec.choose_spec.choose_spec.2.2

theorem stage_seen {w : World} {choices : List Choice} (coordinator : UpgradeCoordinator) (network : Network)
    (request : StageRequest) : Act.moment crates w ⟨.stage coordinator network request,choices⟩ =
      (stageRun crates coordinator network request choices w).2 := rfl

theorem sequenceOf_stage {w : World} {coordinator : UpgradeCoordinator} {network : Network} {request : StageRequest}
    {choices : List Choice} {manifest : Manifest} (offer : offered crates coordinator network request = some manifest)
    (swap : Done swapped (Act.moment crates w ⟨.stage coordinator network request,choices⟩).2) :
    sequenceOf crates w ⟨.stage coordinator network request,choices⟩ = [manifest.sequence] := by
  refine (if_pos swap).trans ?_
  rw [offer]
  rfl

/-- A stage call that moves the link reads the state and replaces it, and a boot that
truncates the state writes it again. -/
def Unbroken (crates : Crates) (ledger : Ledger) (act : Act) : Prop :=
  match act.action with
  | .stage coordinator _ _ =>
    (Done swapped (act.moment crates ledger.world).2 →
      Done (recorded coordinator.pid) (act.moment crates ledger.world).2) ∧
      ((∃ s, readState crates.serde ledger.world = some s) →
        ¬ Saw FailedRead (checks (act.moment crates ledger.world).2))
  | .boot _ _ => Saw Truncated (act.moment crates ledger.world).2 → Saw Rewritten (act.moment crates ledger.world).2
  | _ => True

def Rising (sequences : List UInt64) : Prop := sequences.Pairwise (· < ·)

/-- They rise, and the state on disk is of the last of them or of a later one. -/
def Remembered (serde : Serde) (ledger : Ledger) : Prop :=
  Rising ledger.sequences ∧
    ∀ q ∈ ledger.sequences, ∃ s, readState serde ledger.world = some s ∧ q ≤ s.lastSequence

theorem Remembered.of_state (remembered : Remembered crates.serde ledger)
    (none_ : sequenceOf crates ledger.world act = [])
    (kept : ∀ s, readState crates.serde ledger.world = some s →
      ∃ t, readState crates.serde (act.after crates ledger.world) = some t ∧ s.lastSequence ≤ t.lastSequence) :
    Remembered crates.serde (ledger.after crates act) := by
  obtain ⟨rising,below⟩ := remembered
  simp only [Remembered,Ledger.after,none_,List.append_nil]
  refine ⟨rising,fun q member => ?_⟩
  obtain ⟨s,read,under⟩ := below q member
  obtain ⟨t,state,more⟩ := kept s read
  exact ⟨t,state,UInt64.le_trans under more⟩

theorem Remembered.of_same (remembered : Remembered crates.serde ledger)
    (none_ : sequenceOf crates ledger.world act = [])
    (state : readState crates.serde (act.after crates ledger.world) = readState crates.serde ledger.world) :
    Remembered crates.serde (ledger.after crates act) :=
  remembered.of_state none_ fun s read => ⟨s,state.trans read,UInt64.le_refl _⟩

theorem Remembered.of_change {s t : InstallState} (remembered : Remembered crates.serde ledger)
    (none_ : sequenceOf crates ledger.world act = []) (read : readState crates.serde ledger.world = some s)
    (state : readState crates.serde (act.after crates ledger.world) = some t)
    (same : t.lastSequence = s.lastSequence) : Remembered crates.serde (ledger.after crates act) := by
  refine remembered.of_state none_ fun u found => ?_
  obtain rfl := Option.some.inj (read.symm.trans found)
  exact ⟨t,state,UInt64.le_of_eq same.symm⟩

theorem stage_remembered {coordinator : UpgradeCoordinator} {network : Network} {request : StageRequest}
    {choices : List Choice} (unfollowing : Unfollowing crates coordinator network request)
    (unbroken : Unbroken crates ledger ⟨.stage coordinator network request,choices⟩)
    (remembered : Remembered crates.serde ledger) :
    Remembered crates.serde (ledger.after crates ⟨.stage coordinator network request,choices⟩) := by
  obtain ⟨records,reads⟩ := unbroken
  have unswapped (swap : ¬ Done swapped (Act.moment crates ledger.world ⟨.stage coordinator network request,choices⟩).2) :
      sequenceOf crates ledger.world ⟨.stage coordinator network request,choices⟩ = [] := if_neg swap
  cases @stage_moment crates ledger.world choices coordinator network request unfollowing with
  | before current state swap record => exact remembered.of_same (unswapped swap) state
  | between manifest accepted current state swap record => exact absurd (records swap) record
  | after manifest accepted prev now found current state record live =>
    obtain ⟨tarballBytes,approved⟩ := accepted.approved
    have newer {s : InstallState} (read : readState crates.serde ledger.world = some s) :
        s.lastSequence < manifest.sequence := (accepted.newer s read).resolve_right (reads ⟨s,read⟩)
    obtain ⟨swap,_⟩ | ⟨swap,_⟩ := live
    · have used := sequenceOf_stage approved.offered swap
      obtain ⟨rising,below⟩ := remembered
      have above (q : UInt64) (member : q ∈ ledger.sequences) : q < manifest.sequence := by
        obtain ⟨s,read,under⟩ := below q member
        exact UInt64.lt_of_le_of_lt under (newer read)
      simp only [Remembered,Ledger.after,used]
      refine ⟨?_,fun q member => ⟨_,state,?_⟩⟩
      · rw [Rising,List.pairwise_append]
        exact ⟨rising,List.pairwise_singleton ..,fun q member r last => List.mem_singleton.mp last ▸ above q member⟩
      · obtain before | last := List.mem_append.mp member
        · exact UInt64.le_of_lt (above q before)
        · rw [List.mem_singleton.mp last]
          exact UInt64.le_refl _
    · exact remembered.of_state (unswapped swap) fun s read => ⟨_,state,UInt64.le_of_lt (newer read)⟩

theorem boot_remembered {cfg : Option UpgradeConfig} {pid : Nat} {choices : List Choice}
    (unbroken : Unbroken crates ledger ⟨.boot cfg pid,choices⟩) (remembered : Remembered crates.serde ledger) :
    Remembered crates.serde (ledger.after crates ⟨.boot cfg pid,choices⟩) := by
  cases @boot_moment crates ledger.world choices cfg pid with
  | same link state => exact remembered.of_same rfl state
  | torn s read pending link state cut => exact absurd (unbroken cut.1) cut.2
  | counted s read pending link state => exact remembered.of_change rfl read state rfl
  | reverting s p read pending spent link state => exact remembered.of_change rfl read state rfl
  | rolledBack s p read pending spent link state => exact remembered.of_change rfl read state rfl
  | unreverted s read pending spent link state record => exact remembered.of_change rfl read state rfl
  | announced s read status link state => exact remembered.of_change rfl read state rfl

theorem act_remembered (act : Act) (unfollowed : act.Unfollowed crates) (unbroken : Unbroken crates ledger act)
    (remembered : Remembered crates.serde ledger) : Remembered crates.serde (ledger.after crates act) := by
  obtain ⟨action,choices⟩ := act
  cases action with
  | stage coordinator network request => exact stage_remembered (unfollowed _ _ _ rfl) unbroken remembered
  | boot cfg pid => exact boot_remembered unbroken remembered
  | beat installRoot pid =>
    obtain state | ⟨s,t,read,noted,state⟩ := @beat_moment crates ledger.world choices installRoot pid
    · exact remembered.of_same rfl state
    · refine remembered.of_change rfl read state ?_
      obtain rfl | ⟨_,now,rfl⟩ := noted <;> rfl
  | finalize cfg pid =>
    obtain state | ⟨s,t,read,⟨_,rfl⟩,state⟩ := @finalize_moment crates ledger.world choices cfg pid
    · exact remembered.of_same rfl state
    · exact remembered.of_change rfl read state rfl
  | gc currentVersion keep => exact remembered.of_same rfl (gc_state currentVersion keep)

/-- In a life in which every stage call that installs a version reads and replaces the
state, and no boot leaves it torn, the sequences installed rise. -/
theorem sequences_rise (crates : Crates) (w : World) (acts : List Act)
    (life : Meets (Ledger.after crates) (fun ledger act => act.Unfollowed crates ∧ Unbroken crates ledger act) ⟨w,[]⟩ acts) :
    Rising (acts.foldl (Ledger.after crates) ⟨w,[]⟩).sequences := by
  have start : Remembered crates.serde ⟨w,[]⟩ := ⟨List.Pairwise.nil,nofun⟩
  exact (life.keeps (fun _ act ok remembered => act_remembered act ok.1 ok.2 remembered) start).1

end Replay

namespace Sample

/-- The process the upgrade has led to. -/
def successor : UpgradeCoordinator := {coordinator with currentVersion := "0.45.4", pid := 9}

/-- The sample's JSON crate, which sees at once that an empty text is no state. -/
noncomputable def cutSerde (known : List InstallState) : Serde where
  toVecPretty := stateText
  fromStr text := if text = [] then none else (stateSerde known).fromStr text
  fromStr_toVecPretty s := by
    have some_ : stateText s ≠ [] := by
      simp [stateText,ascii]
    rw [if_neg some_]
    exact (stateSerde known).fromStr_toVecPretty s
  fromStr_take s n short := by
    split
    · rfl
    · exact (stateSerde known).fromStr_take s n short

noncomputable def cutCrates : Crates :=
  {crates with serde := cutSerde [stateOf "0.45.4" (some "0.45.3") .pendingHealth 0 143]}

/-- A boot that is cut short after it has truncated the state. -/
def cutBoot : Act := ⟨.boot (some enabled) 8,List.replicate 11 smooth⟩

def nextBoot : Act := ⟨.boot (some enabled) 9,List.replicate 40 smooth⟩

def replay : Act := ⟨.stage successor (network oldRelease) (request oldRelease),List.replicate 60 smooth⟩

theorem cut_checked : checkRequest cutCrates coordinator (request newRelease) = .ok newRelease.url := checked_new

theorem cut_fetched : fetchManifest cutCrates coordinator (network newRelease) (request newRelease) newRelease.url =
    .ok newRelease.manifest := fetched_new

theorem cut_tarball :
    fetchTarball cutCrates coordinator (network newRelease) (request newRelease) newRelease.manifest = .ok tarball :=
  tarball_new

theorem replay_checked : checkRequest cutCrates successor (request oldRelease) = .ok oldRelease.url := by
  decide +kernel

theorem replay_fetched : fetchManifest cutCrates successor (network oldRelease) (request oldRelease) oldRelease.url =
    .ok oldRelease.manifest := fetched_old

theorem replay_tarball :
    fetchTarball cutCrates successor (network oldRelease) (request oldRelease) oldRelease.manifest = .ok tarball := by
  decide +kernel

theorem upgrade_swapped : Done swapped (upgrade.moment cutCrates installed).2 := by
  rw [upgrade,stage_seen,stageRun,stage_eq cut_checked cut_fetched cut_tarball rfl]
  unfold Done Saw
  decide +kernel

theorem replay_swapped : Done swapped (replay.moment cutCrates (nextBoot.after cutCrates
    (cutBoot.after cutCrates (upgrade.after cutCrates installed)))).2 := by
  rw [upgrade,replay,stage_seen,stage_after,stageRun,stageRun,stage_eq cut_checked cut_fetched cut_tarball rfl,
    stage_eq replay_checked replay_fetched replay_tarball rfl]
  unfold Done Saw
  decide +kernel

theorem upgrade_offered : offered cutCrates coordinator (network newRelease) (request newRelease) =
    some newRelease.manifest := offered_eq cut_checked cut_fetched

theorem replay_offered : offered cutCrates successor (network oldRelease) (request oldRelease) =
    some oldRelease.manifest := offered_eq replay_checked replay_fetched

theorem upgrade_recorded : Done (recorded 7) (upgrade.moment crates installed).2 := by
  rw [upgrade]
  exact stage_recorded upgrade_staged

end Sample

theorem sample_sequences_rise :
    Rising ([Sample.upgrade].foldl (Ledger.after Sample.crates) ⟨Sample.installed,[]⟩).sequences := by
  refine sequences_rise Sample.crates Sample.installed [Sample.upgrade]
    ⟨⟨Sample.unfollowed rfl _,fun _ => Sample.upgrade_recorded,?_⟩,trivial⟩
  exact fun found => nomatch found.choose_spec

/-- A boot cut short tears the state, and the next process installs an older sequence. -/
theorem torn_state_replayed :
    ([Sample.upgrade,Sample.cutBoot,Sample.nextBoot,Sample.replay].foldl (Ledger.after Sample.cutCrates)
      ⟨Sample.installed,[]⟩).sequences = [143,141] ∧
      ¬ Rising ([Sample.upgrade,Sample.cutBoot,Sample.nextBoot,Sample.replay].foldl (Ledger.after Sample.cutCrates)
        ⟨Sample.installed,[]⟩).sequences := by
  have first : sequenceOf Sample.cutCrates Sample.installed Sample.upgrade = [143] :=
    sequenceOf_stage Sample.upgrade_offered Sample.upgrade_swapped
  have last : sequenceOf Sample.cutCrates (Sample.nextBoot.after Sample.cutCrates
      (Sample.cutBoot.after Sample.cutCrates (Sample.upgrade.after Sample.cutCrates Sample.installed)))
      Sample.replay = [141] :=
    sequenceOf_stage Sample.replay_offered Sample.replay_swapped
  have used : ([Sample.upgrade,Sample.cutBoot,Sample.nextBoot,Sample.replay].foldl (Ledger.after Sample.cutCrates)
      ⟨Sample.installed,[]⟩).sequences = [143,141] := by
    simp only [List.foldl_cons,List.foldl_nil,Ledger.after,first,last]
    rfl
  rw [used]
  exact ⟨rfl,by simp [Rising]⟩

end GatewaySdk.Upgrade
