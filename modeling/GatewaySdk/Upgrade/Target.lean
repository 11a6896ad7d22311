import GatewaySdk.Upgrade.Lifecycle

/-! The version a rollback would go back to, over the life of an install. -/
namespace GatewaySdk.Upgrade
open GatewaySdk.Effect GatewaySdk.Host

/-- An install and what is remembered of it: the versions that were stable, and the
version of the process that staged the last one. -/
structure Past where
  world : World
  stable : List String
  stager : Option String

section Target

variable {crates : Crates} {past : Past} {act : Act}

def stableIn (serde : Serde) (w : World) : List String :=
  match readState serde w with
  | some s => if s.status = .stable then [s.currentVersion] else []
  | none => []

open Classical in
noncomputable def stagerAfter (crates : Crates) (past : Past) (act : Act) : Option String :=
  match act.action with
  | .stage coordinator _ _ =>
    if Done (recorded coordinator.pid) (act.moment crates past.world).2 then some coordinator.currentVersion
    else past.stager
  | _ => past.stager

noncomputable def Past.after (crates : Crates) (past : Past) (act : Act) : Past where
  world := act.after crates past.world
  stable := past.stable ++ stableIn crates.serde (act.after crates past.world)
  stager := stagerAfter crates past act

theorem after_world : (past.after crates act).world = act.after crates past.world := rfl

theorem after_stable : (past.after crates act).stable =
    past.stable ++ stableIn crates.serde (act.after crates past.world) := rfl

theorem after_stager : (past.after crates act).stager = stagerAfter crates past act := rfl

/-- A version that has run: the stager's own, or one that was stable. -/
def Known (past : Past) (v : String) : Prop := past.stager = some v ∨ v ∈ past.stable

/-- A version under watch has another one to go back to, and a known one. -/
def KnownTarget (serde : Serde) (past : Past) : Prop :=
  ∀ s, readState serde past.world = some s → s.status = .pendingHealth →
    ∃ p, s.previousVersion = some p ∧ p ≠ s.currentVersion ∧ Known past p

/-- A boot that moves `current` moves it off the failed version and onto a known one. -/
def KnownRollback (crates : Crates) (past : Past) : Prop :=
  ∀ cfg pid choices, Done swapped (Act.moment crates past.world ⟨.boot cfg pid,choices⟩).2 →
    ∃ s p, readState crates.serde past.world = some s ∧ p ≠ s.currentVersion ∧ Known past p ∧
      (Act.after crates past.world ⟨.boot cfg pid,choices⟩).node .current = some (.symlink (.version p))

/-- An accepted stage call finds a state of another version than the one it is asked for,
and that one its own process's or stable before. -/
def Settled (crates : Crates) (past : Past) (act : Act) : Prop :=
  ∀ coordinator network request, act.action = .stage coordinator network request →
    (∃ manifest tarballBytes, Approved crates coordinator network request manifest tarballBytes) →
    ∀ s, readState crates.serde past.world = some s → s.currentVersion ≠ request.version ∧
      (s.currentVersion = coordinator.currentVersion ∨ s.currentVersion ∈ past.stable)

theorem Known.after {v : String} (known : Known past v) (stager : stagerAfter crates past act = past.stager) :
    Known (past.after crates act) v := by
  obtain own | before := known
  · exact .inl (stager.trans own)
  · exact .inr (List.mem_append_left _ before)

theorem KnownTarget.of_versions {s t : InstallState} (target : KnownTarget crates.serde past)
    (stager : stagerAfter crates past act = past.stager) (read : readState crates.serde past.world = some s)
    (pending : s.status = .pendingHealth) (state : readState crates.serde (act.after crates past.world) = some t)
    (current : t.currentVersion = s.currentVersion) (previous : t.previousVersion = s.previousVersion) :
    KnownTarget crates.serde (past.after crates act) := by
  intro u found _
  obtain rfl := Option.some.inj (state.symm.trans found)
  obtain ⟨p,named,other,known⟩ := target s read pending
  exact ⟨p,previous.trans named,current ▸ other,known.after stager⟩

theorem KnownTarget.of_same (target : KnownTarget crates.serde past)
    (stager : stagerAfter crates past act = past.stager)
    (state : readState crates.serde (act.after crates past.world) = readState crates.serde past.world) :
    KnownTarget crates.serde (past.after crates act) := by
  intro s found pending
  have read := state.symm.trans found
  exact target.of_versions stager read pending found rfl rfl s found pending

theorem KnownTarget.of_other (other : ∀ s, readState crates.serde (act.after crates past.world) = some s →
    s.status ≠ .pendingHealth) : KnownTarget crates.serde (past.after crates act) :=
  fun s read pending => absurd pending (other s read)

theorem stage_target {coordinator : UpgradeCoordinator} {network : Network} {request : StageRequest}
    {choices : List Choice} (unfollowing : Unfollowing crates coordinator network request)
    (settled : Settled crates past ⟨.stage coordinator network request,choices⟩)
    (target : KnownTarget crates.serde past) :
    KnownTarget crates.serde (past.after crates ⟨.stage coordinator network request,choices⟩) := by
  cases @stage_moment crates past.world choices coordinator network request unfollowing with
  | before current state swap record => exact target.of_same (if_neg record) state
  | between manifest accepted current state swap record => exact target.of_same (if_neg record) state
  | after manifest accepted prev now found current state record live =>
    intro s read pending
    obtain rfl := Option.some.inj (state.symm.trans read)
    refine ⟨_,rfl,?_⟩
    obtain ⟨tarballBytes,approved⟩ := accepted.approved
    have own : Known (past.after crates ⟨.stage coordinator network request,choices⟩) coordinator.currentVersion :=
      .inl (if_pos record)
    cases prev with
    | none => exact ⟨approved.other.symm,own⟩
    | some t =>
      obtain same | ⟨absent,_⟩ := found
      · obtain ⟨other,caller | before⟩ := settled _ _ _ rfl ⟨manifest,tarballBytes,approved⟩ t same.symm
        · exact ⟨other,caller ▸ own⟩
        · exact ⟨other,.inr (List.mem_append_left _ before)⟩
      · cases absent

theorem boot_target {cfg : Option UpgradeConfig} {pid : Nat} {choices : List Choice}
    (target : KnownTarget crates.serde past) : KnownTarget crates.serde (past.after crates ⟨.boot cfg pid,choices⟩) := by
  cases @boot_moment crates past.world choices cfg pid with
  | same link state => exact target.of_same rfl state
  | torn s read pending link state cut => exact .of_other fun t found => nomatch state.symm.trans found
  | counted s read pending link state => exact target.of_versions rfl read pending state rfl rfl
  | reverting s p read pending spent link state => exact target.of_versions rfl read pending state rfl rfl
  | rolledBack s p read pending spent link state =>
    refine .of_other fun t found => ?_
    obtain rfl := Option.some.inj (state.symm.trans found)
    exact nofun
  | unreverted s read pending spent link state record =>
    refine .of_other fun t found => ?_
    obtain rfl := Option.some.inj (state.symm.trans found)
    exact nofun
  | announced s read status link state =>
    refine .of_other fun t found => ?_
    obtain rfl := Option.some.inj (state.symm.trans found)
    exact nofun

theorem act_target (act : Act) (unfollowed : act.Unfollowed crates) (settled : Settled crates past act) (target : KnownTarget crates.serde past) :
    KnownTarget crates.serde (past.after crates act) := by
  obtain ⟨action,choices⟩ := act
  cases action with
  | stage coordinator network request => exact stage_target (unfollowed _ _ _ rfl) settled target
  | boot cfg pid => exact boot_target target
  | beat installRoot pid =>
    obtain state | ⟨s,t,read,noted,state⟩ := @beat_moment crates past.world choices installRoot pid
    · exact target.of_same rfl state
    · obtain rfl | ⟨pending,now,rfl⟩ := noted
      · exact target.of_same rfl (state.trans read.symm)
      · exact target.of_versions rfl read pending state rfl rfl
  | finalize cfg pid =>
    obtain state | ⟨s,t,read,⟨pending,rfl⟩,state⟩ := @finalize_moment crates past.world choices cfg pid
    · exact target.of_same rfl state
    · refine .of_other fun t found => ?_
      obtain rfl := Option.some.inj (state.symm.trans found)
      exact nofun
  | gc currentVersion keep => exact target.of_same rfl (gc_state currentVersion keep)

theorem KnownTarget.rollback (target : KnownTarget crates.serde past) : KnownRollback crates past := by
  intro cfg pid choices moved
  have back {s : InstallState} {p : String} (read : readState crates.serde past.world = some s)
      (pending : s.status = .pendingHealth)
      (link : Reverted s p past.world (Act.moment crates past.world ⟨.boot cfg pid,choices⟩)) :
      ∃ s p, readState crates.serde past.world = some s ∧ p ≠ s.currentVersion ∧ Known past p ∧
        (Act.after crates past.world ⟨.boot cfg pid,choices⟩).node .current = some (.symlink (.version p)) := by
    obtain ⟨q,named,other,known⟩ := target s read pending
    obtain rfl := Option.some.inj (link.1.symm.trans named)
    exact ⟨s,p,read,other,known,link.2.2.1⟩
  cases @boot_moment crates past.world choices cfg pid with
  | same link state => exact absurd moved link.2
  | torn s read pending link state cut => exact absurd moved link.2
  | counted s read pending link state => exact absurd moved link.2
  | reverting s p read pending spent link state => exact back read pending link
  | rolledBack s p read pending spent link state => exact back read pending link
  | unreverted s read pending spent link state record => exact absurd moved link.2
  | announced s read status link state => exact absurd moved link.2

/-- In a life whose stage calls each find a settled state, the target of a rollback is
another version than the one under watch and a known one, and so is what a boot goes
back to. -/
theorem target_known (crates : Crates) (past : Past) (acts : List Act) (start : KnownTarget crates.serde past)
    (life : Meets (Past.after crates) (fun past act => act.Unfollowed crates ∧ Settled crates past act) past acts) :
    KnownTarget crates.serde (acts.foldl (Past.after crates) past) ∧
      KnownRollback crates (acts.foldl (Past.after crates) past) := by
  have target := life.keeps (fun _ act ok target => act_target act ok.1 ok.2 target) start
  exact ⟨target,target.rollback⟩

end Target

namespace Sample

/-- A first install of which nothing is remembered. -/
def fresh : Past := ⟨installed,[],none⟩

def downgrade : Act := ⟨.stage coordinator (network oldRelease) (request oldRelease),List.replicate 60 smooth⟩

def stagedOld : InstallState := stateOf "0.45.2" (some "0.45.3") .pendingHealth 0 141

def stagedOver : InstallState := stateOf "0.45.4" (some "0.45.2") .pendingHealth 0 143

noncomputable def knowingBoth : Crates := knowing [stagedOld,stagedOver]

theorem downgrade_read : readState knowingBoth.serde (downgrade.after knowingBoth installed) = some stagedOld := by
  rw [downgrade,stage_after,stageRun,knowingBoth,stage_known _ checked_old fetched_old tarball_old]
  decide +kernel

theorem upgrade_read : readState knowingBoth.serde
    (upgrade.after knowingBoth (downgrade.after knowingBoth installed)) = some stagedOver := by
  rw [downgrade,upgrade,stage_after,stage_after,stageRun,stageRun,knowingBoth,
    stage_known _ checked_old fetched_old tarball_old,stage_known _ checked_new fetched_new tarball_new]
  decide +kernel

theorem stager_own (past : Past) (act : Act) (one : act = downgrade ∨ act = upgrade)
    (named : stagerAfter knowingBoth past act = some "0.45.2") : past.stager = some "0.45.2" := by
  classical
  obtain rfl | rfl := one
  · by_cases record : Done (recorded coordinator.pid) (downgrade.moment knowingBoth past.world).2
    · have own : stagerAfter knowingBoth past downgrade = some "0.45.3" := if_pos record
      exact absurd (own.symm.trans named) (by decide)
    · have kept : stagerAfter knowingBoth past downgrade = past.stager := if_neg record
      exact kept.symm.trans named
  · by_cases record : Done (recorded coordinator.pid) (upgrade.moment knowingBoth past.world).2
    · have own : stagerAfter knowingBoth past upgrade = some "0.45.3" := if_pos record
      exact absurd (own.symm.trans named) (by decide)
    · have kept : stagerAfter knowingBoth past upgrade = past.stager := if_neg record
      exact kept.symm.trans named

end Sample

theorem sample_target_known :
    KnownTarget Sample.crates.serde ([Sample.upgrade].foldl (Past.after Sample.crates) Sample.fresh) ∧
      KnownRollback Sample.crates ([Sample.upgrade].foldl (Past.after Sample.crates) Sample.fresh) := by
  refine target_known Sample.crates Sample.fresh [Sample.upgrade] (fun s read => nomatch read)
    ⟨⟨Sample.unfollowed rfl _,?_⟩,trivial⟩
  intro coordinator network request same approved s read
  cases read

/-- One process stages two versions, and the second would be rolled back to the first,
which has never booted. -/
theorem staged_twice :
    ¬ KnownTarget Sample.knowingBoth.serde
      ([Sample.downgrade,Sample.upgrade].foldl (Past.after Sample.knowingBoth) Sample.fresh) := by
  rw [List.foldl_cons,List.foldl_cons,List.foldl_nil]
  intro target
  have read : readState Sample.knowingBoth.serde ((Sample.fresh.after Sample.knowingBoth Sample.downgrade).after
      Sample.knowingBoth Sample.upgrade).world = some Sample.stagedOver := by
    rw [after_world,after_world,Sample.fresh]
    exact Sample.upgrade_read
  obtain ⟨p,named,_,known⟩ := target Sample.stagedOver read rfl
  obtain rfl := Option.some.inj named
  obtain own | before := known
  · rw [after_stager] at own
    have own := Sample.stager_own _ _ (.inr rfl) own
    rw [after_stager] at own
    cases Sample.stager_own _ _ (.inl rfl) own
  · have start : Sample.fresh.world = Sample.installed := rfl
    rw [after_stable,after_stable,after_world,stableIn,stableIn,start,Sample.upgrade_read,
      Sample.downgrade_read] at before
    exact absurd before (by decide)

end GatewaySdk.Upgrade
