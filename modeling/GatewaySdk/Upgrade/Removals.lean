import GatewaySdk.Host.Listing
import GatewaySdk.Upgrade.VersionDirs

/-! The versions whose directories an operation asks to be removed: the one a stage call
makes room for, and those its collection passes over. -/
namespace GatewaySdk.Upgrade
open GatewaySdk.Effect GatewaySdk.Host

section Surroundings
variable {tar : TarCrate} {v : String} {tarballBytes : Bytes} {w : World}

def others (v : String) (w : World) : List String :=
  w.names.filter fun name => name ≠ v && !endsWith name ".partial" && (w.node (.version name)).isSome

def installPlaces (place : Loc) : Prop := place = .versions ∨ linkPlaces place ∨ ∃ name, place = .version name

/-- A call that changes no other version than this one and what is partial. -/
def Builds (v : String) (operation : Call) : Prop :=
  Within installPlaces operation ∧ ∀ name, Touches operation (.version name) → name = v ∨ endsWith name ".partial" = true

/-- What was there beside this version is there as it was. -/
structure Surrounds (v : String) (w u : World) : Prop where
  framed : Framed installPlaces w u
  kept : ∀ name, name ≠ v → endsWith name ".partial" = false → u.node (.version name) = w.node (.version name)
  listed : others v u = others v w

theorem others_same {u : World} (kept : ∀ name, name ≠ v → endsWith name ".partial" = false →
    u.node (.version name) = w.node (.version name)) (names : u.names = w.names ∨ ∃ name,
      (name = v ∨ endsWith name ".partial" = true) ∧ u.names = w.names ++ [name]) : others v u = others v w := by
  have same : u.names.filter (fun name => name ≠ v && !endsWith name ".partial" && (u.node (.version name)).isSome) =
      u.names.filter (fun name => name ≠ v && !endsWith name ".partial" && (w.node (.version name)).isSome) := by
    apply List.filter_congr
    intro name _
    by_cases other : name = v
    · simp [other]
    · cases part : endsWith name ".partial" with
      | true => simp
      | false => rw [kept name other part]
  unfold others
  rw [same]
  obtain all | ⟨name,own,all⟩ := names
  · rw [all]
  · rw [all,List.filter_append]
    simp
    intro other part
    obtain same | same := own
    · exact absurd same other
    · exact absurd (part.symm.trans same) nofun

theorem Surrounds.refl (v : String) (w : World) : Surrounds v w w := ⟨.refl _ w,fun _ _ _ => rfl,rfl⟩

theorem Surrounds.trans {u u' : World} (first : Surrounds v w u) (second : Surrounds v u u') : Surrounds v w u' :=
  ⟨first.framed.trans second.framed,fun name other part => (second.kept name other part).trans (first.kept name other part),
    second.listed.trans first.listed⟩

theorem exec_surrounds {operation : Call} {choice : Choice} (builds : Builds v operation) :
    Surrounds v w ((machine tar).exec operation choice w).2 := by
  have kept (name : String) (other : name ≠ v) (part : endsWith name ".partial" = false) :
      ((machine tar).exec operation choice w).2.node (.version name) = w.node (.version name) := by
    refine (exec_effect operation).node fun own => ?_
    obtain same | same := builds.2 name own
    · exact other same
    · exact absurd (part.symm.trans same) nofun
  refine ⟨exec_framed builds.1,kept,others_same kept ?_⟩
  exact (Lists.exec operation choice w).imp id fun ⟨name,own,more⟩ => ⟨name,builds.2 name own,more⟩

theorem endsWith_append (text part : String) : endsWith (text ++ part) part = true := by
  rw [endsWith,String.toList_append,List.isSuffixOf_iff_suffix]
  exact List.suffix_append _ _

theorem Builds.of_unfinished {operation : Call} (within : Within (fun place => place = .partialOf v) operation) :
    Builds v operation := by
  refine ⟨within.mono fun place same => .inr (.inr ⟨_,same⟩),fun name own => .inr ?_⟩
  rw [Loc.version.inj (within.touches _ own)]
  exact endsWith_append ..

theorem Builds.of_relinks {operation : Call} (relinks : Relinks operation) : Builds v operation := by
  refine ⟨relinks.within.mono fun place own => .inr (.inl own),fun name own => ?_⟩
  obtain same | same | same := relinks.within.touches _ own <;> cases same

theorem Builds.of_quiet {operation : Call} (quiet : Quiet operation) : Builds v operation :=
  ⟨quiet.within _,fun _ own => (quiet.touches _ own).elim⟩

theorem Builds.completed : Builds v (completed v) := by
  refine ⟨⟨?_,nofun⟩,fun name own => ?_⟩
  · rintro place (rfl | rfl)
    · exact .inr (.inr ⟨_,rfl⟩)
    · exact .inr (.inr ⟨_,rfl⟩)
  · obtain same | same := own
    · rw [Loc.version.inj same]
      exact .inr (endsWith_append ..)
    · exact .inl (Loc.version.inj same)

theorem Builds.of_clears {operation : Call} (clears : Clears v operation) : Builds v operation := by
  obtain quiet | rfl | rfl | rfl | rfl := clears
  · exact .of_quiet quiet
  · exact ⟨⟨fun place own => .inl own,nofun⟩,nofun⟩
  · exact .of_unfinished ⟨fun place own => own,nofun⟩
  · exact .of_unfinished ⟨fun place own => own,nofun⟩
  · exact ⟨⟨fun place own => .inr (.inr ⟨v,own⟩),nofun⟩,fun name own => .inl (Loc.version.inj own)⟩

end Surroundings

/-- The reading of `current` was made to fail. -/
def FailedLink (event : Event Sig Choice World) : Prop :=
  event.operation = .readLink .current ∧ event.choice.fails = true

section Spared
variable {tar : TarCrate} {v q : String} {tarballBytes : Bytes} {m : Moment}

/-- Calls that ask for no removal of this version's directory. -/
def Spares (q : String) (operation : Call) : Prop := operation ≠ .removeDirAll (.version q)

theorem Spares.of_quiet {operation : Call} (quiet : Quiet operation) : Spares q operation := by
  rintro rfl
  exact quiet.touches (.version q) rfl

theorem Spares.of_saves {pid : Nat} {operation : Call} (saves : Saves pid operation) : Spares q operation := by
  rintro rfl
  obtain other | other := @Saves.touches pid _ saves (.version q) rfl <;> cases other

theorem Spares.of_fills {operation : Call} (fills : Fills tar v tarballBytes operation) : Spares q operation := by
  rintro rfl
  cases fills with
  | looks still => exact still.touches (.version q) rfl

theorem Spares.of_relinks {operation : Call} (relinks : Relinks operation) : Spares q operation := by
  rintro rfl
  obtain other | other | other := relinks.within.1 (.version q) rfl <;> cases other

theorem Spares.of_collects {operation : Call} (collects : Collects v operation) : Spares v operation := by
  rintro rfl
  obtain quiet | ⟨name,other,same⟩ := collects
  · exact quiet.touches (.version v) rfl
  · exact other (by simpa using same.symm)

theorem Spares.of_clears {operation : Call} (clears : Clears v operation) (other : q ≠ v)
    (apart : Loc.version q ≠ .partialOf v) : Spares q operation := by
  rintro rfl
  obtain quiet | same | same | same | same := clears
  · exact quiet.touches (.version q) rfl
  · cases same
  · cases same
  · exact apart (by simpa using same)
  · exact other (by simpa using same)

theorem unremoved_stable (q : String) : Stable (machine tar) (Spares q) (fun m => ¬ Saw (Removal q) m.2) :=
  Stable.not_saw fun _ spares removal => spares removal

/-- No installation of a version, once room is made, asks for its directory's removal. -/
theorem installVersion_spares (binaryName : String) :
    Uses (Spares v) (installVersion tar v binaryName tarballBytes) := by
  refine (Calls.bare (Calls.sys nofun)).bind fun _ => ?_
  refine (extractTarball_uses.mono fun _ => Spares.of_fills).bind fun _ => ?_
  refine ((@prepareBinary_uses tar v tarballBytes binaryName).mono fun _ => Spares.of_fills).bind fun _ => ?_
  refine (Calls.ignore (Calls.sys nofun)).bind fun _ => ?_
  refine (Calls.bare (Calls.sys nofun)).bind fun _ => ?_
  refine ((swap_relinks _).mono fun _ => Spares.of_relinks).bind fun _ => ?_
  exact (Calls.ignore ((gcVersions_uses 3).mono fun _ => Spares.of_collects)).bind fun _ => trivial

/-- The live version's directory was to be removed only where the link could not be read. -/
def Excused (v : String) (m : Moment) : Prop := Saw (Removal v) m.2 → Saw FailedLink m.2

theorem Excused.stable (v : String) : Stable (machine tar) (Spares v) (Excused v) := by
  intro operation choice m spares excused removed
  obtain before | now := saw_snoc.mp removed
  · exact saw_snoc.mpr (.inl (excused before))
  · exact absurd now spares

/-- The version is live, and its directory not to be removed. -/
def Living (v : String) (m : Moment) : Prop := Excused v m ∧ m.1.node .current = some (.symlink (.version v))

theorem Living.stable (v : String) :
    Stable (machine tar) (fun operation => Spares v operation ∧ Apart .current operation) (Living v) :=
  ((Excused.stable v).mono fun _ ok => ok.1).and
    ((Stable.entry .current fun entry => entry = some (.symlink (.version v))).mono fun _ ok => ok.2)

theorem Living.quietly (v : String) : Stable (machine tar) Quiet (Living v) :=
  (Living.stable v).mono fun _ quiet => ⟨.of_quiet quiet,fun own => quiet.touches _ own⟩

theorem clearPartial_spares : Uses (fun operation => Spares v operation ∧ Apart .current operation) (clearPartial v) := by
  have quietly {operation : Call} (quiet : Quiet operation) : Spares v operation ∧ Apart .current operation :=
    ⟨.of_quiet quiet,fun own => quiet.touches _ own⟩
  refine (Calls.request (quietly (quiet_of_silent rfl))).bind fun there => ?_
  split
  · refine Calls.bare (Calls.sys ⟨fun same => ?_,nofun⟩)
    exact partialOf_ne v (by simpa using same)
  · trivial

/-- Where the link can be read the live version is found to be live. -/
theorem clearFinal_living (living : Living v m) :
    Holds (machine tar).record (Excused v) (fun _ => Excused v) (clearFinal v) m := by
  apply Holds.bind (fun _ => Living v)
  · exact ((Calls.request (quiet_of_silent rfl)).stable (Living.quietly v) living).mono (fun _ held => held.1)
      (fun _ _ _ held => held)
  · intro there m _ living
    split
    · apply Holds.bind (fun outcome m => Excused v m ∧ (Saw FailedLink m.2 ∨ outcome = .ok (.ok (.version v))))
      · apply Holds.attempt
        refine Run.sys living.1 (fun choice answer w' answered => ?_)
        have kept := (Living.quietly v).after (quiet_of_silent rfl) living answered
        refine ⟨kept.1,kept.1,?_⟩
        obtain failed | plain := exec_answer answered
        · exact .inl (saw_snoc.mpr (.inr ⟨rfl,failed⟩))
        · simp only [Host.answer,living.2,Prod.mk.injEq] at plain
          exact .inr (by rw [plain.1]; rfl)
      · intro link m _ read
        split
        next other =>
          obtain ⟨_,failed | same⟩ := read
          · have kept {m : Moment} (saw : Saw FailedLink m.2) : Excused v m := fun _ => saw
            have fails := @Stable.saw _ _ _ (machine tar) (fun _ => True) FailedLink
            refine Holds.bind _ (((Uses.any _).stable fails failed).mono (fun _ => kept) (fun _ _ _ held => held)) ?_
              (fun _ _ _ saw => kept saw)
            exact fun _ m _ saw => ⟨kept saw,kept saw⟩
          · cases same
            exact absurd rfl other
        · exact ⟨read.1,read.1⟩
      · exact fun _ _ held _ => held
    · exact ⟨living.1,living.1⟩
  · exact fun _ _ held _ => held

theorem stageNewVersion_living {installRoot binaryName : String} {manifest : Manifest} (living : Living v m) :
    Holds (machine tar).record (Excused v) (fun _ => Excused v)
      (stageNewVersion tar installRoot v binaryName tarballBytes manifest) m := by
  have keeps {ε α : Type} {program : Prog ε α} {m : Moment}
      (uses : Uses (fun operation => Spares v operation ∧ Apart .current operation) program) (living : Living v m) :
      Holds (machine tar).record (Excused v) (fun _ => Living v) program m :=
    (uses.stable (Living.stable v) living).mono (fun _ held => held.1) (fun _ _ _ held => held)
  refine Holds.bind _ (keeps (Uses.ofExcept _) living) ?_ (fun _ _ _ held => held.1)
  intro _ m _ living
  have make : Spares v (.createDirAll .versions) ∧ Apart .current (.createDirAll .versions) := ⟨nofun,nofun⟩
  refine Holds.bind _ (keeps (Calls.context (Calls.sys make)) living) ?_ (fun _ _ _ held => held.1)
  intro _ m _ living
  refine Holds.bind _ (keeps clearPartial_spares living) ?_ (fun _ _ _ held => held.1)
  intro _ m _ living
  refine Holds.bind _ (clearFinal_living living) ?_ (fun _ _ _ held => held)
  intro live m _ excused
  split
  · exact ⟨excused,excused⟩
  · exact (installVersion_spares binaryName).stable (Excused.stable v) excused

end Spared

section Collected
variable {tar : TarCrate} {times : String → Option Nat} {v q : String} {keep : Nat} {tarballBytes : Bytes} {m : Moment}

/-- The modification times of the version directories, where they can be told. -/
def datedBy (times : String → Option Nat) : (operation : Call) → Reply operation → Bool
  | .modified (.version name),reply => reply.toOption == times name
  | _,_ => true

def Timed (times : String → Option Nat) (log : Log) : Prop := ∀ event ∈ log, datedBy times event.operation event.reply = true

theorem timed_snoc {log : Log} {event : Event Sig Choice World} :
    Timed times (log ++ [event]) ↔ Timed times log ∧ datedBy times event.operation event.reply = true := by
  simp [Timed,or_imp,forall_and]

def listing (times : String → Option Nat) (names : List String) : List (String × Nat) :=
  names.filterMap fun name => (times name).map fun mtime => (name,mtime)

/-- A collection for this version takes that one: as partial, or as none of those it keeps. -/
def Collected (times : String → Option Nat) (v : String) (keep : Nat) (w : World) (q : String) : Prop :=
  q ≠ v ∧ (endsWith q ".partial" = true ∨ q ∈ gcVictims (listing times (others v w)) keep)

/-- While the times told are these, its removal was not asked for. -/
def Spared (times : String → Option Nat) (q : String) (m : Moment) : Prop := Timed times m.2 → ¬ Saw (Removal q) m.2

theorem Spared.stable : Stable (machine tar) (Spares q) (Spared times q) := by
  intro operation choice m spares held told
  exact unremoved_stable q operation choice m spares (held (timed_snoc.mp told).1)

theorem told_before {p : Prop} {allowed : Call → Prop} : Stable (machine tar) allowed (fun m => Timed times m.2 → p) :=
  fun _ _ _ _ held told => held (timed_snoc.mp told).1

theorem gcEntries_lists (names : List String) (whole : q = v ∨ endsWith q ".partial" = false) (spared : Spared times q m) :
    Holds (machine tar).record (Spared times q) (fun outcome m => Spared times q m ∧ ∀ entries, outcome = .ok entries →
      Timed times m.2 → entries = listing times (names.filter fun name => name ≠ v && !endsWith name ".partial"))
      (gcEntries v names) m := by
  induction names generalizing m with
  | nil => exact ⟨spared,spared,fun entries same _ => (Except.ok.inj same).symm⟩
  | cons name rest ih =>
    unfold gcEntries
    split
    next own => simpa [own] using ih spared
    next other =>
      split
      next part =>
        have apart : Spares q (.removeDirAll (.version name)) := by
          intro same
          obtain rfl : name = q := by simpa using same
          obtain same | whole := whole
          · exact other same
          · rw [whole] at part
            cases part
        refine Holds.bind _ (Run.ignored (Calls.sys apart) Spared.stable spared) ?_
          (fun _ _ _ ended => ⟨ended.2,by intro _ same; cases same⟩)
        intro _ m spared _
        simpa [part] using ih spared
      next part =>
        apply Holds.bind (fun outcome m => ∀ mtime, outcome = .ok mtime → Timed times m.2 → mtime.toOption = times name)
        · apply Holds.attempt
          refine Run.sys spared (fun choice answer w' answered => ?_)
          refine ⟨Spared.stable.after (.of_quiet (quiet_of_silent rfl)) spared answered,fun mtime same told => ?_⟩
          obtain rfl : answer = mtime := Except.ok.inj same
          exact beq_iff_eq.mp (timed_snoc.mp told).2
        · intro mtime m spared told
          have told := told mtime rfl
          refine Holds.bind _ ((ih spared).and ((Uses.any _).stable told_before told) |>.mono (fun _ held => held.1)
            (fun _ _ _ ends => ends)) ?_ ?_
          · intro more m _ ended
            obtain ⟨⟨spared,listed⟩,told⟩ := ended
            have rest_ := listed more rfl
            cases mtime with
            | error error =>
              refine ⟨spared,spared,fun entries same now => ?_⟩
              have none : times name = none := (told now).symm
              rw [← Except.ok.inj same,rest_ now]
              simp [listing,other,part,none]
            | ok mtime =>
              refine ⟨spared,spared,fun entries same now => ?_⟩
              have some_ : times name = some mtime := (told now).symm
              rw [← Except.ok.inj same,rest_ now]
              simp [listing,other,part,some_]
          · exact fun _ m spared ended => ⟨ended.1.1,by intro _ same; cases same⟩
        · exact fun _ m spared _ => ⟨spared,by intro _ same; cases same⟩

theorem removeVersions_spares {names : List String} (absent : q ∉ names) : Uses (Spares q) (removeVersions names) := by
  induction names with
  | nil => trivial
  | cons name rest ih =>
    rw [List.mem_cons,not_or] at absent
    have apart : Spares q (.removeDirAll (.version name)) := fun same => absent.1 (by simpa using same.symm)
    exact (Calls.ignore (Calls.sys apart)).bind fun _ => ih absent.2

/-- A collection asks for the removal of what it passes over alone. -/
theorem gcVersions_spares (kept : ¬ Collected times v keep m.1 q) (spared : Spared times q m) :
    Holds (machine tar).record (Spared times q) (fun _ => Spared times q) (gcVersions v keep) m := by
  by_cases own : q = v
  · subst own
    exact ((gcVersions_uses keep).mono fun _ => Spares.of_collects).stable Spared.stable spared
  have whole : endsWith q ".partial" = false := by
    cases part : endsWith q ".partial" with
    | true => exact absurd ⟨own,.inl part⟩ kept
    | false => rfl
  have absent : q ∉ gcVictims (listing times (others v m.1)) keep := fun victim => kept ⟨own,.inr victim⟩
  refine Holds.bind (fun outcome m' => Spared times q m' ∧ ∀ names, outcome = .ok names →
    names = m.1.names.filter fun name => (m.1.node (.version name)).isSome) ?_ ?_ (fun _ _ spared _ => spared)
  · apply Run.bare
    refine Run.sys spared (fun choice answer w' answered => ?_)
    have kept := Spared.stable.after (.of_quiet (quiet_of_silent rfl)) spared answered
    refine ⟨kept,kept,fun names same => ?_⟩
    cases answer with
    | error error => cases same
    | ok listed =>
      obtain rfl : listed = names := Except.ok.inj same
      simp only [machine,Host.answer,Host.failure] at answered
      split at answered
      · cases answered
      · split at answered <;> cases answered
        rfl
  intro names m' _ listed
  obtain ⟨spared,listed⟩ := listed
  refine Holds.bind _ (gcEntries_lists names (.inr whole) spared) ?_ (fun _ _ spared _ => spared)
  intro entries m'' _ ended
  obtain ⟨spared,lists⟩ := ended
  by_cases told : Timed times m''.2
  · have same : entries = listing times (others v m.1) := by
      rw [lists entries rfl told,listed names rfl,List.filter_filter]
      rfl
    exact (removeVersions_spares (same ▸ absent)).stable Spared.stable spared
  · have never : Stable (machine tar) (fun _ => True) (fun m => ¬ Timed times m.2) :=
      fun _ _ _ _ untold told => untold (timed_snoc.mp told).1
    exact ((Uses.any _).stable never told).mono (fun _ untold told => absurd told untold)
      (fun _ _ _ untold told => absurd told untold)

end Collected

section Stages
variable {crates : Crates} {coordinator : UpgradeCoordinator} {network : Network} {request : StageRequest} {w : World}
  {v q : String} {m : Moment}

theorem stage_living (live : w.node .current = some (.symlink (.version request.version))) :
    Holds (machine crates.tar).record (Excused request.version) (fun _ => Excused request.version)
      (stage crates coordinator network request) (w,[]) := by
  have start : Living request.version (w,[]) := ⟨fun saw => absurd saw (not_saw_nil _),live⟩
  refine stage_rule (Living.quietly _) (fun _ living => living.1) ((Excused.stable _).mono fun _ => Spares.of_saves) start ?_
  exact fun manifest tarballBytes m living => stageNewVersion_living living

/-- Before the swap only the version that is staged, and what its partial directory is
in the way of, is asked to be removed. -/
theorem stage_unremoved (other : q ≠ request.version) (apart : Loc.version q ≠ .partialOf request.version) :
    Holds (machine crates.tar).record (fun m => ¬ Saw (Removal q) m.2 ∨ Done swapped m.2)
      (fun _ m => ¬ Saw (Removal q) m.2 ∨ Done swapped m.2) (stage crates coordinator network request) (w,[]) := by
  have phases (tarballBytes : Bytes) : Phases crates.tar request.version tarballBytes
      (fun m => ¬ Saw (Removal q) m.2) (fun m => ¬ Saw (Removal q) m.2) (fun m => ¬ Saw (Removal q) m.2)
      (fun m => Done swapped m.2) :=
    { clears := (unremoved_stable q).mono fun _ clears => .of_clears clears other apart
      made := fun m choice w' answered held => (unremoved_stable q).after (by exact nofun) held answered
      fills := (unremoved_stable q).mono fun _ => .of_fills
      moved := fun m choice w' answered held => (unremoved_stable q).after (by exact nofun) held answered
      unmoved := fun m choice error answered held => (unremoved_stable q).after (by exact nofun) held answered
      links := (unremoved_stable q).mono fun _ links => .of_relinks (.inl links)
      swaps := fun m choice w' answered held linked kept => done_snoc.mpr (.inr ⟨rfl,rfl⟩)
      unswapped := fun m choice error answered held => (unremoved_stable q).after (by exact nofun) held answered
      collects := Stable.done _ }
  have settle {m : Moment} : Installing (fun m => ¬ Saw (Removal q) m.2) (fun m => ¬ Saw (Removal q) m.2)
      (fun m => ¬ Saw (Removal q) m.2) (fun m => Done swapped m.2) m → ¬ Saw (Removal q) m.2 ∨ Done swapped m.2 := by
    rintro (held | held | held | held)
    · exact .inl held
    · exact .inl held
    · exact .inl held
    · exact .inr held
  have saves : Stable (machine crates.tar) (Saves coordinator.pid) (fun m => ¬ Saw (Removal q) m.2 ∨ Done swapped m.2) :=
    ((unremoved_stable q).mono fun _ => Spares.of_saves).or (Stable.done _)
  refine stage_rule ((unremoved_stable q).mono fun _ => Spares.of_quiet) (fun _ => .inl) saves (not_saw_nil _) ?_
  intro manifest tarballBytes m held
  refine (stageNewVersion_holds (phases tarballBytes) held).mono (fun _ => settle) ?_
  rintro outcome m _ (⟨_,held | ⟨held,_⟩⟩ | ⟨_,held | held | held⟩)
  · exact .inr held
  · exact .inl held
  · exact .inl held
  · exact .inl held
  · exact .inl held

variable {times : String → Option Nat}

/-- What is beside the new version stays as it is, and no removal of this one is asked for. -/
def Aloof (times : String → Option Nat) (v q : String) (w : World) (m : Moment) : Prop :=
  Spared times q m ∧ Surrounds v w m.1

theorem Aloof.stable (v : String) (w : World) : Stable (machine crates.tar)
    (fun operation => Spares q operation ∧ Builds v operation) (Aloof times v q w) :=
  (Spared.stable.mono fun _ ok => ok.1).and
    (Stable.state fun _ _ _ ok held => held.trans (exec_surrounds ok.2))

theorem Aloof.quietly (v : String) (w : World) : Stable (machine crates.tar) Quiet (Aloof times v q w) :=
  (Aloof.stable v w).mono fun _ quiet => ⟨.of_quiet quiet,.of_quiet quiet⟩

theorem installVersion_aloof {tarballBytes : Bytes} {binaryName : String} (kept : ¬ Collected times v 3 w q)
    (aloof : Aloof times v q w m) : Holds (machine crates.tar).record (Spared times q) (fun _ => Spared times q)
      (installVersion crates.tar v binaryName tarballBytes) m := by
  have keeps {α : Type} {program : Prog Error α} {m : Moment}
      (uses : Uses (fun operation => Spares q operation ∧ Builds v operation) program) (aloof : Aloof times v q w m) :
      Holds (machine crates.tar).record (Spared times q) (fun _ => Aloof times v q w) program m :=
    (uses.stable (Aloof.stable v w) aloof).mono (fun _ held => held.1) (fun _ _ _ held => held)
  have fills {α : Type} {program : Prog Error α} {m : Moment} (uses : Uses (Fills crates.tar v tarballBytes) program)
      (aloof : Aloof times v q w m) :
      Holds (machine crates.tar).record (Spared times q) (fun _ => Aloof times v q w) program m :=
    keeps (uses.mono fun _ fills => ⟨.of_fills fills,.of_unfinished fills.within⟩) aloof
  have ended (outcome : Error) (m : Moment) (spared : Spared times q m) (_ : Aloof times v q w m) : Spared times q m := spared
  have makes : Clears v (.createDir (.partialOf v)) := .inr (.inr (.inl rfl))
  refine Holds.bind _ (keeps (Calls.bare (Calls.sys ⟨nofun,.of_clears makes⟩)) aloof) ?_ ended
  intro _ m _ aloof
  refine Holds.bind _ (fills extractTarball_uses aloof) ?_ ended
  intro _ m _ aloof
  refine Holds.bind _ (fills (prepareBinary_uses binaryName) aloof) ?_ ended
  intro _ m _ aloof
  have sync : Quiet (.syncDir (.partialOf v)) := quiet_of_silent rfl
  refine Holds.bind _ (keeps (Calls.ignore (Calls.sys ⟨.of_quiet sync,.of_quiet sync⟩)) aloof) ?_ ended
  intro _ m _ aloof
  refine Holds.bind _ (keeps (Calls.bare (Calls.sys ⟨nofun,.completed⟩)) aloof) ?_ ended
  intro _ m _ aloof
  refine Holds.bind _ (keeps ((swap_relinks _).mono fun _ relinks => ⟨.of_relinks relinks,.of_relinks relinks⟩) aloof) ?_
    ended
  intro _ m _ aloof
  have listed : ¬ Collected times v 3 m.1 q := by
    simpa only [Collected,aloof.2.listed] using kept
  refine Holds.bind (fun _ => Spared times q) ?_ ?_ (fun _ _ spared _ => spared)
  · exact Run.ignore (gcVersions_spares listed aloof.1)
  · exact fun _ m spared _ => ⟨spared,spared⟩

/-- A stage call asks for the removal of no other version's directory than those its
partial directory and its collection take. -/
theorem stage_spares (other : q ≠ request.version) (apart : Loc.version q ≠ .partialOf request.version)
    (kept : ¬ Collected times request.version 3 w q) :
    Holds (machine crates.tar).record (Spared times q) (fun _ => Spared times q)
      (stage crates coordinator network request) (w,[]) := by
  have start : Aloof times request.version q w (w,[]) := ⟨fun _ => not_saw_nil _,.refl _ w⟩
  refine stage_rule (Aloof.quietly _ w) (fun _ aloof => aloof.1) (Spared.stable.mono fun _ => Spares.of_saves) start ?_
  intro manifest tarballBytes m aloof
  have clears {α : Type} {program : Prog Error α} {m : Moment} (uses : Uses (Clears request.version) program)
      (aloof : Aloof times request.version q w m) :
      Holds (machine crates.tar).record (Spared times q) (fun _ => Aloof times request.version q w) program m :=
    ((uses.mono fun _ clears => ⟨Spares.of_clears clears other apart,Builds.of_clears clears⟩).stable
      (Aloof.stable _ w) aloof).mono (fun _ held => held.1) (fun _ _ _ held => held)
  refine Run.bindExcept aloof.1 (fun _ _ => ?_) (fun _ _ => aloof.1)
  have room : Clears request.version (.createDirAll .versions) := .inr (.inl rfl)
  refine Holds.bind _ (clears (Calls.context (Calls.sys room)) aloof) ?_ (fun _ _ spared _ => spared)
  intro _ m _ aloof
  refine Holds.bind _ (clears clearPartial_uses aloof) ?_ (fun _ _ spared _ => spared)
  intro _ m _ aloof
  refine Holds.bind _ (clears clearFinal_uses aloof) ?_ (fun _ _ spared _ => spared)
  intro live m spared aloof
  split
  · exact ⟨spared,spared⟩
  · exact installVersion_aloof kept aloof

end Stages

end GatewaySdk.Upgrade
