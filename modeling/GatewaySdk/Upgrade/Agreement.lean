import GatewaySdk.Upgrade.Lifecycle

/-! The two links and `state.json` over the life of an install in which no call fails. -/
namespace GatewaySdk.Upgrade
open GatewaySdk.Effect GatewaySdk.Host

section Agreement

variable {crates : Crates} {w : World} {act : Act}

def Agrees (serde : Serde) (w : World) : Prop :=
  ∀ s, readState serde w = some s → w.node .current = some (.symlink (.version s.currentVersion)) ∧
    ∀ p, s.previousVersion = some p → w.node .previous = some (.symlink (.version p))

/-- The boot finds a version that has used up its attempts and another one to go back to. -/
def RollsBack (serde : Serde) (cfg : Option UpgradeConfig) (w : World) : Prop :=
  ∃ s p, readState serde w = some s ∧ s.status = .pendingHealth ∧ Exhausts cfg s ∧ s.previousVersion = some p ∧ w.isDir (.version p) = true ∧ p ≠ s.currentVersion

/-- An operation of an ordinary life: nothing fails, and a stage call installs a version
other than the live one, over a state of its own process where there is none on disk. -/
structure Ordinary (crates : Crates) (w : World) (act : Act) : Prop where
  faultless : act.Faultless
  concluded : act.Concluded crates w
  other : ∀ coordinator network request, act.action = .stage coordinator network request →
    w.node .current ≠ some (.symlink (.version request.version)) ∧ (readState crates.serde w = none →
      w.node .current = some (.symlink (.version coordinator.currentVersion)))

theorem Ordinary.of_boot {crates : Crates} {w : World} {act : Act} {cfg : Option UpgradeConfig} {pid : Nat}
    (boot : act.action = .boot cfg pid) (faultless : act.Faultless) (concluded : act.Concluded crates w) :
    Ordinary crates w act := by
  refine ⟨faultless,concluded,fun coordinator network request stage => ?_⟩
  rw [boot] at stage
  cases stage

/-- The operation does not roll back. -/
def Onward (crates : Crates) (w : World) (act : Act) : Prop :=
  ∀ cfg pid, act.action = .boot cfg pid → ¬ RollsBack crates.serde cfg w

theorem Agrees.of_entries {w' : World} (agrees : Agrees crates.serde w)
    (current : w'.node .current = w.node .current) (previous : w'.node .previous = w.node .previous)
    (state : readState crates.serde w' = readState crates.serde w) : Agrees crates.serde w' := by
  intro s read
  obtain ⟨live,kept⟩ := agrees s (state.symm.trans read)
  exact ⟨current.trans live,fun p named => previous.trans (kept p named)⟩

theorem Agrees.of_versions {w' : World} {s t : InstallState} (agrees : Agrees crates.serde w)
    (read : readState crates.serde w = some s) (current : w'.node .current = w.node .current)
    (previous : w'.node .previous = w.node .previous) (state : readState crates.serde w' = some t)
    (same : t.currentVersion = s.currentVersion ∧ t.previousVersion = s.previousVersion) :
    Agrees crates.serde w' := by
  intro u found
  obtain rfl := Option.some.inj (state.symm.trans found)
  obtain ⟨live,kept⟩ := agrees s read
  rw [same.1,same.2]
  exact ⟨current.trans live,fun p named => previous.trans (kept p named)⟩

theorem stage_agrees {coordinator : UpgradeCoordinator} {network : Network} {request : StageRequest}
    {choices : List Choice} (unfollowing : Unfollowing crates coordinator network request)
    (agrees : Agrees crates.serde w) (ordinary : Ordinary crates w ⟨.stage coordinator network request,choices⟩) :
    Agrees crates.serde (Act.after crates w ⟨.stage coordinator network request,choices⟩) := by
  have fine := @Act.Faultless.not_failing crates w _ ordinary.faultless
  obtain ⟨other,fresh⟩ := ordinary.other coordinator network request rfl
  obtain ⟨staged,done⟩ := ordinary.concluded
  obtain ⟨view,records⟩ := (stageRun_holds unfollowing stage_view choices).2 _ done
  have record := records staged rfl
  cases view with
  | before _ _ _ absent => exact absurd record absent
  | between _ _ _ _ _ absent => exact absurd record absent
  | after manifest _ prev now found current state _ live =>
    obtain ⟨_,relinked⟩ | ⟨_,already,_⟩ := live
    · intro t read
      obtain rfl := Option.some.inj (state.symm.trans read)
      refine ⟨current,fun p named => ?_⟩
      have linked (target : Loc) (held : w.node .current = some (.symlink target)) :=
        (relinked target held).resolve_right fine
      obtain rfl | ⟨_,missed⟩ := found
      · obtain rfl := Option.some.inj named
        cases before : readState crates.serde w with
        | none => exact linked _ (fresh before)
        | some s => exact linked _ (agrees s before).1
      · exact absurd (missed.mono fun event failed => failed.2) fine
    · exact absurd already other

theorem update_agrees {change : InstallState → InstallState → Prop} {m : Moment} (agrees : Agrees crates.serde w)
    (current : m.1.node .current = w.node .current) (previous : m.1.node .previous = w.node .previous)
    (view : UpdateCase crates.serde change w m)
    (same : ∀ s t, change s t → t.currentVersion = s.currentVersion ∧ t.previousVersion = s.previousVersion) :
    Agrees crates.serde m.1 := by
  obtain state | ⟨s,t,read,changed,state⟩ := view
  · exact agrees.of_entries current previous state
  · exact agrees.of_versions read current previous state (same s t changed)

theorem boot_agrees {cfg : Option UpgradeConfig} {pid : Nat} {choices : List Choice} (agrees : Agrees crates.serde w)
    (ordinary : Ordinary crates w ⟨.boot cfg pid,choices⟩) (onward : ¬ RollsBack crates.serde cfg w) :
    Agrees crates.serde (Act.after crates w ⟨.boot cfg pid,choices⟩) := by
  have fine := @Act.Faultless.not_failing crates w _ ordinary.faultless
  have previous := @boot_entry crates w choices cfg pid .previous (by simp [swapPlaces]) (by simp [stateFiles])
  obtain ⟨outcome,done⟩ := Option.isSome_iff_exists.mp ordinary.concluded
  have rewrote := ((@boot_rewrites crates.tar crates.serde pid w cfg).run choices).2 _ done
  have stays {s : InstallState} {p : String} (read : readState crates.serde w = some s)
      (pending : s.status = .pendingHealth) (link : Reverted s p w (Act.moment crates w ⟨.boot cfg pid,choices⟩))
      (spent : (cfg.map UpgradeConfig.maxBootAttempts).getD 0 < (bumped s).bootAttempts) : p = s.currentVersion := by
    by_contra other
    exact onward ⟨s,p,read,pending,boot_exhausts link.2.2.2 spent,link.1,link.2.1,other⟩
  unfold Act.after
  cases boot_moment cfg pid with
  | same link state => exact agrees.of_entries link.1 previous state
  | torn s read pending link state cut =>
    obtain whole | failing := rewrote
    · exact absurd (whole cut.1) cut.2
    · exact absurd failing fine
  | counted s read pending link state => exact agrees.of_versions read link.1 previous state ⟨rfl,rfl⟩
  | reverting s p read pending spent link state =>
    obtain rfl := stays read pending link spent
    have current := link.2.2.1.trans (agrees s read).1.symm
    exact agrees.of_versions read current previous state ⟨rfl,rfl⟩
  | rolledBack s p read pending spent link state =>
    obtain rfl := stays read pending link spent
    have current := link.2.2.1.trans (agrees s read).1.symm
    exact agrees.of_versions read current previous state ⟨rfl,link.1.symm⟩
  | unreverted s read pending spent link state record =>
    exact agrees.of_versions read link.1 previous state ⟨rfl,rfl⟩
  | announced s read status link state => exact agrees.of_versions read link.1 previous state ⟨rfl,rfl⟩

theorem act_agrees (act : Act) (unfollowed : act.Unfollowed crates) (ordinary : Ordinary crates w act)
    (onward : Onward crates w act) (agrees : Agrees crates.serde w) : Agrees crates.serde (act.after crates w) := by
  obtain ⟨action,choices⟩ := act
  cases action with
  | stage coordinator network request => exact stage_agrees (unfollowed _ _ _ rfl) agrees ordinary
  | boot cfg pid => exact boot_agrees agrees ordinary (onward cfg pid rfl)
  | beat installRoot pid =>
    refine update_agrees agrees (beat_entry _ _ (by simp [stateFiles])) (beat_entry _ _ (by simp [stateFiles]))
      (beat_moment installRoot pid) fun s t noted => ?_
    obtain rfl | ⟨_,now,rfl⟩ := noted
    · exact ⟨rfl,rfl⟩
    · exact ⟨rfl,rfl⟩
  | finalize cfg pid =>
    refine update_agrees agrees (finalize_entry _ _ (by simp [stateFiles])) (finalize_entry _ _ (by simp [stateFiles]))
      (finalize_moment cfg pid) fun s t promoted => ?_
    obtain ⟨_,rfl⟩ := promoted
    exact ⟨rfl,rfl⟩
  | gc currentVersion keep =>
    have current : ∀ name, Loc.current ≠ .version name := by simp
    have previous : ∀ name, Loc.previous ≠ .version name := by simp
    exact agrees.of_entries (gc_entry _ _ current) (gc_entry _ _ previous) (gc_state currentVersion keep)

/-- In a life without faults and without followed links in which no boot rolls back to another version, the links
are where the state says after every operation. -/
theorem links_agree (crates : Crates) (w : World) (acts : List Act) (start : Agrees crates.serde w)
    (life : Meets (Act.after crates) (fun w act => act.Unfollowed crates ∧ Ordinary crates w act ∧ Onward crates w act) w acts) :
    Agrees crates.serde (acts.foldl (Act.after crates) w) :=
  life.keeps (fun _ act ok agrees => act_agrees act ok.1 ok.2.1 ok.2.2 agrees) start

end Agreement

namespace Sample

def staged : StagedUpgrade :=
  ⟨"0.45.3","0.45.4","stable","default","x86_64-linux",.version "0.45.4"⟩

theorem upgrade_staged : (stageRun crates coordinator (network newRelease) (request newRelease)
    (List.replicate 60 smooth) installed).1.result = some (.ok staged) := by
  rw [stageRun,stage_eq checked_new fetched_new tarball_new rfl]
  decide +kernel

/-- Four boots of a version that never got healthy. -/
def exhausted : InstallState := stateOf "0.45.4" (some "0.45.3") .pendingHealth 3 143

def returned : InstallState := stateOf "0.45.3" (some "0.45.4") .rolledBack 3 143

noncomputable def knowingRollback : Crates := knowing [exhausted,bumped exhausted,returned]

def lastBoot : Act := ⟨.boot (some enabled) 8,List.replicate 40 smooth⟩

theorem returned_read : readState knowingRollback.serde (lastBoot.after knowingRollback (upgraded exhausted)) =
    some returned := by
  decide +kernel

end Sample

theorem sample_links_agree :
    Agrees Sample.crates.serde ([Sample.upgrade].foldl (Act.after Sample.crates) Sample.installed) := by
  refine links_agree Sample.crates Sample.installed [Sample.upgrade] nofun
    ⟨⟨Sample.unfollowed rfl _,⟨?_,?_,?_⟩,nofun⟩,trivial⟩
  · exact Sample.smooth_faultless _ _
  · exact ⟨Sample.staged,Sample.upgrade_staged⟩
  · intro coordinator network request same
    cases same
    exact ⟨by decide,fun _ => rfl⟩

/-- After a rollback the state names the failed version as the previous one, and the
link `previous` is where it was. -/
theorem rollback_disagrees :
    Agrees Sample.knowingRollback.serde (Sample.upgraded Sample.exhausted) ∧
      Ordinary Sample.knowingRollback (Sample.upgraded Sample.exhausted) Sample.lastBoot ∧
      ¬ Agrees Sample.knowingRollback.serde
        (Sample.lastBoot.after Sample.knowingRollback (Sample.upgraded Sample.exhausted)) := by
  refine ⟨?_,.of_boot rfl (Sample.smooth_faultless _ _) ?_,?_⟩
  · intro s read
    obtain rfl := Option.some.inj ((Sample.readState_upgraded _ _).symm.trans read)
    refine ⟨rfl,fun p named => ?_⟩
    obtain rfl := Option.some.inj named
    rfl
  · change ((machine Sample.knowingRollback.tar).record.run (List.replicate 40 smooth)
      (runBootWatchdog Sample.knowingRollback.serde 8 (some Sample.enabled))
      (Sample.upgraded Sample.exhausted,[])).1.result.isSome = true
    decide +kernel
  · intro agrees
    have linked := (agrees Sample.returned Sample.returned_read).2 "0.45.4" rfl
    have link : (Sample.lastBoot.after Sample.knowingRollback (Sample.upgraded Sample.exhausted)).node .previous =
        some (.symlink (.version "0.45.3")) := by decide +kernel
    rw [link] at linked
    exact absurd linked (by decide)

end GatewaySdk.Upgrade
