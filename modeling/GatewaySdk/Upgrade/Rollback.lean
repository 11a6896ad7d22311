import GatewaySdk.Host.Steady
import GatewaySdk.Upgrade.Agreement

/-! What `state.json` says of a rollback, over the boots of a version under watch. -/
namespace GatewaySdk.Upgrade
open GatewaySdk.Effect GatewaySdk.Host

section Revert

variable {tar : TarCrate} {installRoot : String} {s : InstallState} {p : String} {w : World} {m : Moment}

/-- The state names another version, its directory is there, and no directory stands
where the link is made. -/
structure Revertible (w : World) (s : InstallState) (p : String) : Prop where
  named : s.previousVersion = some p
  other : p ≠ s.currentVersion
  there : w.isDir (.version p) = true
  tmp : NoDir w .currentTmp
  live : NoDir w .current

/-- A call that the revert needs was made to fail; a temporary link that is not there
need not be removed. -/
def Impeded (p : String) (event : Event Sig Choice World) : Prop :=
  event.choice.fails = true ∧ (event.operation = .isDir (.version p) ∨
    (event.operation = .removeFile .currentTmp ∧ event.before.node .currentTmp ≠ none) ∨
    event.operation = .symlink (.version p) .currentTmp ∨ event.operation = swapped)

/-- How a revert ends that had what it needs. -/
def Succeeds (p : String) (outcome : Except Error InstallState) (m : Moment) : Prop :=
  (∃ t, outcome = .ok t) ∨ Saw (Impeded p) m.2

theorem succeeds_impeded (program : Prog Error InstallState) (impeded : Saw (Impeded p) m.2) :
    Holds (machine tar).record (fun _ => True) (Succeeds p) program m :=
  ((Uses.any program).stable (Stable.saw _) impeded).mono (fun _ _ => trivial) (fun _ _ _ held => .inr held)

theorem unlink_tmp {choice : Choice} {reply : Except IoError Unit} {w' : World} (tmp : NoDir w .currentTmp)
    (answered : (machine tar).exec (.removeFile .currentTmp) choice w = (reply,w')) :
    (w'.node .currentTmp = none ∧ w'.node .current = w.node .current) ∨
      choice.fails = true ∧ w.node .currentTmp ≠ none := by
  cases found : w.node .currentTmp with
  | none =>
    have same : w' = w := by
      simp only [machine,answer,found] at answered
      split at answered <;> cases answered <;> rfl
    subst same
    exact .inl ⟨found,rfl⟩
  | some entry =>
    obtain failing | plain := exec_answer answered
    · exact .inr ⟨failing,by simp⟩
    · cases entry with
      | dir ino content => exact absurd found (tmp ino content)
      | symlink target =>
        simp only [answer,found] at plain
        cases plain
        exact .inl ⟨by simp,by simp⟩
      | file ino =>
        simp only [answer,found] at plain
        cases plain
        exact .inl ⟨by simp,by simp⟩

/-- A step of a revert, and the rest of it where no call of the step was made to fail. -/
theorem succeeds_bind {α : Type} {good : α → World → Prop} {first : Prog Error α} {rest : α → Prog Error InstallState}
    (step : Holds (machine tar).record (fun _ => True)
      (fun outcome m => (∃ value, outcome = .ok value ∧ good value m.1) ∨ Saw (Impeded p) m.2) first m)
    (more : ∀ value m, good value m.1 → Holds (machine tar).record (fun _ => True) (Succeeds p) (rest value) m) :
    Holds (machine tar).record (fun _ => True) (Succeeds p) (first.bind rest) m := by
  apply Holds.bind _ step
  · intro value m _ held
    obtain ⟨_,same,good⟩ | impeded := held
    · cases same
      exact more value m good
    · exact succeeds_impeded _ impeded
  · intro error m _ held
    obtain ⟨_,failed,_⟩ | impeded := held
    · cases failed
    · exact .inr impeded

theorem rename_free {target : Loc} (linked : w.node .currentTmp = some (.symlink target)) (live : NoDir w .current) :
    w.renameError .currentTmp .current = none := by
  unfold World.renameError
  rw [linked]
  cases found : w.node .current with
  | none => rfl
  | some entry =>
    cases entry with
    | dir ino content => exact absurd found (live ino content)
    | symlink target => rfl
    | file ino => rfl

theorem revert_succeeds (able : Revertible m.1 s p) :
    Holds (machine tar).record (fun _ => True) (Succeeds p) (revertToPrevious installRoot s) m := by
  unfold revertToPrevious
  rw [able.named]
  apply @succeeds_bind _ _ _ _ (fun there w => there = true ∧ Revertible w s p)
  · refine @Run.request tar _ _ (.isDir (.version p)) _ m trivial (fun choice answer w' answered => ⟨trivial,?_⟩)
    obtain failing | plain := exec_answer answered
    · exact .inr (saw_snoc.mpr (.inr ⟨failing,.inl rfl⟩))
    · cases plain
      exact .inl ⟨_,rfl,able.there,able⟩
  rintro _ m ⟨rfl,able⟩
  refine Run.bindExcept trivial (fun _ _ => ?_) (fun error refused => by cases refused)
  apply @succeeds_bind _ _ _ _ (fun _ w => w.node .currentTmp = none ∧ NoDir w .current)
  · apply Run.ignore
    refine Run.sys trivial (fun choice answer w' answered => ⟨trivial,?_⟩)
    obtain ⟨free,live⟩ | ⟨failing,there⟩ := unlink_tmp able.tmp answered
    · exact .inl ⟨(),rfl,free,fun ino content => live ▸ able.live ino content⟩
    · exact .inr (saw_snoc.mpr (.inr ⟨failing,.inr (.inl ⟨rfl,there⟩)⟩))
  rintro _ m ⟨free,live⟩
  apply @succeeds_bind _ _ _ _ (fun _ w => w.node .currentTmp = some (.symlink (.version p)) ∧ NoDir w .current)
  · apply Run.bare
    refine Run.sys trivial (fun choice answer w' answered => ⟨trivial,?_⟩)
    obtain failing | plain := exec_answer answered
    · exact .inr (saw_snoc.mpr (.inr ⟨failing,.inr (.inr (.inl rfl))⟩))
    · simp only [Host.answer,free,World.parentOk] at plain
      cases plain
      exact .inl ⟨(),rfl,by simp,fun ino content => by simpa using live ino content⟩
  rintro _ m ⟨linked,live⟩
  apply @succeeds_bind _ _ _ _ (fun _ _ => True)
  · apply Run.bare
    refine Run.sys trivial (fun choice answer w' answered => ⟨trivial,?_⟩)
    obtain failing | plain := exec_answer answered
    · exact .inr (saw_snoc.mpr (.inr ⟨failing,.inr (.inr (.inr rfl))⟩))
    · simp only [Host.answer,rename_free linked live] at plain
      cases plain
      exact .inl ⟨(),rfl,trivial⟩
  exact fun _ m _ => ⟨trivial,.inl ⟨_,rfl⟩⟩

/-- The link was moved before the state was recorded, or a call was made to fail. -/
def Backed (pid : Nat) (p : String) (m : Moment) : Prop :=
  Done (recorded pid) m.2 → Done swapped m.2 ∨ Saw (Impeded p) m.2

variable {serde : Serde} {pid : Nat} {maxBootAttempts : UInt32}

theorem rollBack_backed (able : Revertible m.1 s p) (swap : ¬ Done swapped m.2) (record : ¬ Done (recorded pid) m.2) :
    Holds (machine tar).record (Backed pid p) (fun _ => Backed pid p) (rollBack serde installRoot pid s) m := by
  have rest {ε α : Type} (program : Prog ε α) {m : Moment} (held : Done swapped m.2 ∨ Saw (Impeded p) m.2) :
      Holds (machine tar).record (Backed pid p) (fun _ => Backed pid p) program m :=
    ((Uses.any program).stable ((Stable.done _).or (Stable.saw _)) held).mono (fun _ held _ => held)
      (fun _ _ _ held _ => held)
  apply Holds.bind (fun _ m => Done swapped m.2 ∨ Saw (Impeded p) m.2)
  · apply Holds.attempt
    have unrecorded := (@revert_uses installRoot s).stable
      (@Stable.not_done tar (Apart .stateJson) (recorded pid) fun apart => apart (.inr rfl)) record
    have reverts := @revert_holds tar installRoot s m.1 m ⟨rfl,swap⟩ (.refl _ _) fun _ _ there => there
    refine ((unrecorded.and (reverts.and (revert_succeeds able)))).mono ?_ ?_
    · exact fun _ held done => absurd done held.1
    · intro outcome m _ ended
      obtain ⟨_,⟨_,⟨p,_,moved⟩ | ⟨⟨error,rfl⟩,_⟩⟩,⟨t,succeeded⟩ | impeded⟩ := ended
      · exact .inl moved.2.2.2
      · exact .inr impeded
      · cases succeeded
      · exact .inr impeded
  · exact fun reverted m _ held => rest _ held
  · exact fun _ _ now _ => now

theorem boot_backed (read : readState serde w = some s) (pending : s.status = .pendingHealth)
    (able : Revertible w s p) (cfg : Option UpgradeConfig) :
    Holds (machine tar).record (Backed pid p) (fun _ => Backed pid p) (runBootWatchdog serde pid cfg) (w,[]) := by
  have early {m : Moment} (record : ¬ Done (recorded pid) m.2) : Backed pid p m := fun done => absurd done record
  apply boot_moments cfg (fun _ held => early held.1.2)
  intro installRoot t m found _ held
  obtain rfl := Option.some.inj (read.symm.trans found)
  simp only [bootFrom,pending]
  have still : Stable (machine tar) Still (fun m => (∀ place, m.1.node place = w.node place) ∧
      ¬ Done swapped m.2 ∧ ¬ Done (recorded pid) m.2) := by
    refine Stable.and ?_ ((Stable.not_done fun still => still .current (.inr rfl)).and
      (Stable.not_done fun still => still .stateJson (.inr rfl)))
    exact fun operation choice m still same place =>
      Stable.entry place (fun e => e = w.node place) operation choice m (still place) (same place)
  have start : (∀ place, m.1.node place = w.node place) ∧ ¬ Done swapped m.2 ∧ ¬ Done (recorded pid) m.2 :=
    ⟨fun place => held.2.1.node place id,held.1.1.2,held.1.2⟩
  refine Holds.bind _ (((bump_still serde).stable still start).mono (fun _ held => early held.2.2)
    (fun _ _ _ held => held)) ?_ (fun _ _ now _ => now)
  intro attempt m now kept
  split
  · have same : m.1.node = w.node := funext kept.1
    refine rollBack_backed ⟨able.named,able.other,?_,?_,?_⟩ kept.2.1 kept.2.2
    · exact (isDir_same same _).trans able.there
    · exact fun ino content => kept.1 .currentTmp ▸ able.tmp ino content
    · exact fun ino content => kept.1 .current ▸ able.live ino content
  · exact ⟨now,now⟩

end Revert

section Boots

/-- A boot and what its calls meet. -/
structure Boot where
  cfg : Option UpgradeConfig
  pid : Nat
  choices : List Choice

variable {crates : Crates} {w : World} {s : InstallState} {boot : Boot}

def Boot.act (boot : Boot) : Act := ⟨.boot boot.cfg boot.pid,boot.choices⟩

def Boot.after (crates : Crates) (w : World) (boot : Boot) : World := boot.act.after crates w

/-- Where the boot finds the attempts used up, the previous version is there to go back
to and no call of the revert is made to fail. -/
def Unhindered (crates : Crates) (w : World) (boot : Boot) : Prop :=
  ∀ s, readState crates.serde w = some s → s.status = .pendingHealth → Exhausts boot.cfg s →
    ∃ p, Revertible w s p ∧ ¬ Saw (Impeded p) (boot.act.moment crates w).2

/-- Another version, the previous one of that state, is live and named by this one. -/
def GoneBack (s t : InstallState) (w : World) : Prop :=
  ∃ p, s.previousVersion = some p ∧ p ≠ s.currentVersion ∧ t.currentVersion = p ∧
    w.node .current = some (.symlink (.version p))

/-- A state that tells of a rollback, or is stable, is of one that happened. -/
def ToldTruly (serde : Serde) (s : InstallState) (w : World) : Prop :=
  ∀ t, readState serde w = some t → t.status = .rolledBack ∨ t.status = .stable → GoneBack s t w

/-- The same version is under watch still, or it has gone back. -/
def WatchedOn (s t : InstallState) (w : World) : Prop :=
  (t.status = .pendingHealth ∧ t.currentVersion = s.currentVersion ∧ t.previousVersion = s.previousVersion) ∨
    ((t.status = .rolledBack ∨ t.status = .stable) ∧ GoneBack s t w)

theorem WatchedOn.under {t : InstallState} (watched : WatchedOn s t w) (pending : t.status = .pendingHealth) :
    t.currentVersion = s.currentVersion ∧ t.previousVersion = s.previousVersion := by
  obtain ⟨_,same⟩ | ⟨other,_⟩ := watched
  · exact same
  · rw [pending] at other
    obtain other | other := other <;> cases other

theorem WatchedOn.gone {t : InstallState} (watched : WatchedOn s t w) (ended : t.status = .rolledBack ∨ t.status = .stable) :
    GoneBack s t w := by
  obtain ⟨pending,_⟩ | ⟨_,gone⟩ := watched
  · rw [pending] at ended
    obtain other | other := ended <;> cases other
  · exact gone

theorem GoneBack.of_live {t u : InstallState} {w' : World} (gone : GoneBack s t w)
    (live : w'.node .current = w.node .current) (version : u.currentVersion = t.currentVersion) : GoneBack s u w' := by
  obtain ⟨p,named,other,same,link⟩ := gone
  exact ⟨p,named,other,version.trans same,live.trans link⟩

theorem boot_watched (unhindered : Unhindered crates w boot)
    (watched : ∀ t, readState crates.serde w = some t → WatchedOn s t w) :
    ∀ t, readState crates.serde (boot.after crates w) = some t → WatchedOn s t (boot.after crates w) := by
  intro u found
  have now {t : InstallState} (state : readState crates.serde (boot.after crates w) = some t)
      (on : WatchedOn s t (boot.after crates w)) : WatchedOn s u (boot.after crates w) :=
    Option.some.inj (state.symm.trans found) ▸ on
  cases @boot_moment crates w boot.choices boot.cfg boot.pid with
  | same link state =>
    exact (watched u (state.symm.trans found)).imp id fun ended => ⟨ended.1,ended.2.of_live link.1 rfl⟩
  | torn t read pending link state cut => exact nomatch state.symm.trans found
  | counted t read pending link state => exact now state (.inl ⟨pending,(watched t read).under pending⟩)
  | reverting t p read pending spent link state =>
    exact now state (.inl ⟨pending,(watched t read).under pending⟩)
  | rolledBack t p read pending spent link state =>
    obtain ⟨current,previous⟩ := (watched t read).under pending
    obtain ⟨q,able,_⟩ := unhindered t read pending (boot_exhausts link.2.2.2 spent)
    obtain rfl := Option.some.inj (link.1.symm.trans able.named)
    exact now state (.inr ⟨.inl rfl,p,previous ▸ link.1,current ▸ able.other,rfl,link.2.2.1⟩)
  | unreverted t read pending spent link state record =>
    obtain ⟨p,able,free⟩ := unhindered t read pending (boot_exhausts record spent)
    have backed := ((@boot_backed crates.tar t p w crates.serde boot.pid read pending able boot.cfg).run
      boot.choices).1
    obtain moved | impeded := backed record
    · exact absurd moved link.2
    · exact absurd impeded free
  | announced t read status link state =>
    have gone := (watched t read).gone (.inl status)
    exact now state (.inr ⟨.inr rfl,gone.of_live link.1 rfl⟩)

/-- Over any boots of a version under watch, each with what its revert needs, a rollback
is told of only where it happened. -/
theorem rollback_told_truly (crates : Crates) (w : World) (s : InstallState) (boots : List Boot)
    (read : readState crates.serde w = some s) (pending : s.status = .pendingHealth)
    (life : Meets (Boot.after crates) (Unhindered crates) w boots) :
    ToldTruly crates.serde s (boots.foldl (Boot.after crates) w) := by
  have start (t : InstallState) (found : readState crates.serde w = some t) : WatchedOn s t w := by
    obtain rfl := Option.some.inj (read.symm.trans found)
    exact .inl ⟨pending,rfl,rfl⟩
  have watched := life.keeps (fun w boot unhindered (on : ∀ t, readState crates.serde w = some t → WatchedOn s t w) =>
    boot_watched unhindered on) start
  exact fun t found ended => (watched t found).gone ended

end Boots

namespace Sample

def rollback : Boot := ⟨some enabled,8,List.replicate 40 smooth⟩

/-- The install of an exhausted version, without the directory of the one before it. -/
def stripped : World := (upgraded exhausted).drop (.version "0.45.3")

def toldWrong : InstallState := {exhausted with status := .rolledBack}

def settledWrong : InstallState := {exhausted with status := .stable, bootAttempts := 0}

noncomputable def knowingWrong : Crates := knowing [exhausted,bumped exhausted,toldWrong,settledWrong]

/-- The version before is live again. -/
example : ([rollback].foldl (Boot.after knowingRollback) (upgraded exhausted)).node .current =
    some (.symlink (.version "0.45.3")) := by
  decide +kernel

theorem rollback_unhindered : Unhindered knowingRollback (upgraded exhausted) rollback := by
  intro s read _ _
  obtain rfl := Option.some.inj ((readState_upgraded _ _).symm.trans read)
  refine ⟨"0.45.3",⟨rfl,by decide,by decide +kernel,nofun,nofun⟩,fun impeded => ?_⟩
  exact (smooth_faultless (.boot (some enabled) 8) 40).not_failing (impeded.mono fun event held => held.1)

end Sample

theorem sample_rollback_told :
    ToldTruly Sample.knowingRollback.serde Sample.exhausted
      ([Sample.rollback].foldl (Boot.after Sample.knowingRollback) (Sample.upgraded Sample.exhausted)) :=
  rollback_told_truly Sample.knowingRollback (Sample.upgraded Sample.exhausted) Sample.exhausted [Sample.rollback]
    (Sample.readState_upgraded _ _) rfl ⟨Sample.rollback_unhindered,trivial⟩

/-- Without the directory of the previous version the revert fails, and the state says
that it happened; the next boot makes the failed version stable. -/
theorem failed_rollback_told :
    readState Sample.knowingWrong.serde Sample.stripped = some Sample.exhausted ∧
      ¬ ToldTruly Sample.knowingWrong.serde Sample.exhausted
        ([Sample.rollback].foldl (Boot.after Sample.knowingWrong) Sample.stripped) ∧
      ¬ ToldTruly Sample.knowingWrong.serde Sample.exhausted
        ([Sample.rollback,Sample.rollback].foldl (Boot.after Sample.knowingWrong) Sample.stripped) := by
  refine ⟨by decide +kernel,fun told => ?_,fun told => ?_⟩
  · have read : readState Sample.knowingWrong.serde
        ([Sample.rollback].foldl (Boot.after Sample.knowingWrong) Sample.stripped) = some Sample.toldWrong := by
      decide +kernel
    obtain ⟨p,named,other,version,_⟩ := told _ read (.inl rfl)
    exact other version.symm
  · have read : readState Sample.knowingWrong.serde
        ([Sample.rollback,Sample.rollback].foldl (Boot.after Sample.knowingWrong) Sample.stripped) =
          some Sample.settledWrong := by
      decide +kernel
    obtain ⟨p,named,other,version,_⟩ := told _ read (.inr rfl)
    exact other version.symm

end GatewaySdk.Upgrade
