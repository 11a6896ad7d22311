import GatewaySdk.Upgrade.Rollback

/-! Whether a boot returns to its caller or exits, and so whether a version that was
gone back to is let run. -/
namespace GatewaySdk.Upgrade
open GatewaySdk.Effect GatewaySdk.Host

/-- `state.json` was synced in place, as the count of a boot does last. -/
def Counted (event : Event Sig Choice World) : Prop :=
  ∃ file, event.operation = .syncAll file ∧ event.before.node .stateJson = some (.file file.ino) ∧
    succeeded event.operation event.reply = true

section Count
variable {tar : TarCrate} {serde : Serde} {pid : Nat} {s : InstallState} {w : World} {m : Moment}
  {maxBootAttempts : UInt32}

/-- Calls that change no entry and sync no file. -/
def Unsyncs (operation : Call) : Prop := Still operation ∧ ∀ file, operation ≠ .syncAll file

theorem Unsyncs.of_silent {operation : Call} (quiet : silent operation = true)
    (sync : ∀ file, operation ≠ .syncAll file) : Unsyncs operation :=
  ⟨.of_quiet (quiet_of_silent quiet),sync⟩

theorem uncounted_stable : Stable (machine tar) (fun operation => ∀ file, operation ≠ .syncAll file)
    (fun m => ¬ Saw Counted m.2) := by
  apply Stable.not_saw
  rintro event unsyncs ⟨file,same,_⟩
  exact unsyncs file same

theorem failed_uncounted {α : Type} {error : Error} (uncounted : ¬ Saw Counted m.2) :
    (Except.error error : Except Error α).isOk = true ↔ Saw Counted m.2 := ⟨nofun,fun saw => absurd saw uncounted⟩

/-- What syncs no file leaves it as it is whether a count was synced. -/
theorem counted_stable (outcome : Except Error UInt32) : Stable (machine tar) (fun operation => ∀ file, operation ≠ .syncAll file)
    (fun m => outcome.isOk = true ↔ Saw Counted m.2) := by
  intro operation choice m unsyncs same
  refine same.trans ⟨fun saw => saw_snoc.mpr (.inl saw),fun saw => ?_⟩
  obtain before | ⟨other,sync,_⟩ := saw_snoc.mp saw
  · exact before
  · exact absurd sync (unsyncs other)

/-- The open state file, no count of it synced. -/
def Uncounted (file : Handle) (m : Moment) : Prop :=
  ¬ Saw Counted m.2 ∧ m.1.node .stateJson = some (.file file.ino)

/-- One call on the way to the count, which ends uncounted where it fails. -/
theorem uncounted_goes {file : Handle} {α : Type} {operation : Call} {reply : Reply operation → Except IoError α}
    {rest : α → Prog Error UInt32} (ok : Unsyncs operation) (held : Uncounted file m)
    (more : ∀ value m, Uncounted file m →
      Holds (machine tar).record (fun _ => True) (fun outcome m => outcome.isOk = true ↔ Saw Counted m.2) (rest value) m) :
    Holds (machine tar).record (fun _ => True) (fun outcome m => outcome.isOk = true ↔ Saw Counted m.2)
      ((bare (sys operation reply)).bind rest) m := by
  have keep : Stable (machine tar) Unsyncs (Uncounted file) :=
    (uncounted_stable.mono fun _ ok => ok.2).and
      ((Stable.entry .stateJson fun entry => entry = some (.file file.ino)).mono fun _ ok => ok.1 .stateJson)
  have step : Holds (machine tar).record (fun _ => True) (fun _ m => Uncounted file m) (bare (sys operation reply)) m :=
    Run.bare ((Run.kept ok keep held).mono (fun _ _ => trivial) (fun _ _ _ held => held))
  exact Holds.bind _ step (fun value m _ held => more value m held) (fun _ _ _ held => failed_uncounted held.1)

theorem bump_counts (start : ¬ Saw Counted m.2) :
    Holds (machine tar).record (fun _ => True) (fun outcome m => outcome.isOk = true ↔ Saw Counted m.2)
      (bumpBootAttempts serde) m := by
  apply Holds.bind (fun outcome m => ¬ Saw Counted m.2 ∧ ∀ file, outcome = .ok file →
    m.1.node .stateJson = some (.file file.ino))
  · apply Run.bare
    refine Run.sys trivial (fun choice answer v answered => ⟨trivial,?_,?_⟩)
    · exact uncounted_stable.after (by simp) start answered
    · intro file opened
      obtain ⟨error,rfl,rfl⟩ | ⟨ino,found,rfl,rfl⟩ := open_cases (.inr rfl) answered
      · cases opened
      · cases opened
        exact found
  · intro file m _ opened
    refine Run.closing nofun (Stable.const True) counted_stable ?_
    have silently {operation : Call} (quiet : silent operation = true) (sync : ∀ file, operation ≠ .syncAll file) :
        Unsyncs operation := .of_silent quiet sync
    refine @uncounted_goes _ _ file _ _ _ _ (silently rfl nofun) ⟨opened.1,opened.2 file rfl⟩ fun _ m held => ?_
    refine uncounted_goes (silently rfl nofun) held fun _ m held => ?_
    refine uncounted_goes (silently rfl nofun) held fun text m held => ?_
    cases serde.fromStr text with
    | none => exact ⟨trivial,failed_uncounted held.1⟩
    | some s =>
      refine uncounted_goes ⟨fun _ own => own,nofun⟩ held fun _ m held => ?_
      refine uncounted_goes (silently rfl nofun) held fun _ m held => ?_
      refine uncounted_goes ⟨fun _ own => own,nofun⟩ held fun _ m held => ?_
      refine uncounted_goes (silently rfl nofun) held fun _ m held => ?_
      apply Holds.bind (fun outcome m => outcome.isOk = true ↔ Saw Counted m.2)
      · apply Run.bare
        refine Run.sys trivial (fun choice answer v answered => ⟨trivial,?_⟩)
        cases answer with
        | ok value =>
          refine ⟨fun _ => saw_snoc.mpr (.inr ⟨file,rfl,held.2,rfl⟩),fun _ => rfl⟩
        | error error =>
          refine failed_uncounted fun saw => ?_
          obtain before | ⟨_,_,_,done⟩ := saw_snoc.mp saw
          · exact held.1 before
          · cases done
      · intro _ m _ counted
        have saw : Saw Counted m.2 := counted.mp rfl
        have unlocks : Uses (fun _ => True) (Io.unlock file) := Calls.sys trivial
        refine Holds.bind _ ((Run.ignored unlocks (Stable.saw Counted) saw).mono (fun _ _ => trivial)
          (fun _ _ _ held => held)) ?_ (fun _ _ _ held => nomatch held.1)
        exact fun _ m _ held => ⟨trivial,fun _ => held.2,fun _ => rfl⟩
      · exact fun error m _ counted => counted
  · exact fun _ _ _ opened => failed_uncounted opened.1

theorem bump_value {attempt : UInt32} (read : readState serde w = some s) (ended : BumpEnd serde w (.ok attempt) m) :
    attempt = (bumped s).bootAttempts := by
  obtain ⟨⟨_,failed⟩,_⟩ | ⟨ino,t,cell,⟨same,_⟩ | ⟨⟨_,failed⟩,_⟩⟩ := ended
  · cases failed
  · obtain rfl := Option.some.inj (cell.read.symm.trans read)
    exact Except.ok.inj same
  · cases failed

def exits : Except Error BootEnd → Bool
  | .ok (.exited _ _) => true
  | _ => false

/-- What a boot that rolls back has found: attempts used up, and counted once more. -/
def Spent (serde : Serde) (maxBootAttempts : UInt32) (w : World) (m : Moment) : Prop :=
  ∃ s, readState serde w = some s ∧ s.status = .pendingHealth ∧ maxBootAttempts < (bumped s).bootAttempts ∧
    Saw Counted m.2

/-- Calls that sync no file leave open what was counted, and no others do. -/
theorem Spent.of_uncounted (uncounted : ¬ Saw Counted m.2) : ¬ Spent serde maxBootAttempts w m := by
  rintro ⟨s,_,_,_,saw⟩
  exact uncounted saw

theorem Spent.of_status (read : readState serde w = some s) (other : s.status ≠ .pendingHealth) :
    ¬ Spent serde maxBootAttempts w m := by
  rintro ⟨t,found,pending,_⟩
  obtain rfl := Option.some.inj (read.symm.trans found)
  exact other pending

theorem attempt_goes {ε δ α : Type} {allowed : Call → Prop} {P : Moment → Prop} {program : Prog ε α}
    (uses : Uses allowed program) (stable : Stable (machine tar) allowed P) (now : P m) :
    Holds (machine tar).record (fun _ => True) (fun outcome m => (∃ r, outcome = .ok r) ∧ P m)
      (program.attempt : Prog δ (Except ε α)) m := by
  apply Holds.attempt
  exact (uses.stable stable now).mono (fun _ _ => trivial) (fun outcome _ _ held => ⟨⟨outcome,rfl⟩,held⟩)

theorem ignore_goes {ε δ α : Type} {allowed : Call → Prop} {P : Moment → Prop} {program : Prog ε α}
    (uses : Uses allowed program) (stable : Stable (machine tar) allowed P) (now : P m) :
    Holds (machine tar).record (fun _ => True) (fun outcome m => (∃ r, outcome = .ok r) ∧ P m)
      (ignore program : Prog δ Unit) m :=
  (Run.ignored uses stable now).mono (fun _ _ => trivial) (fun _ _ _ held => ⟨⟨(),held.1⟩,held.2⟩)

theorem rollBack_exits (installRoot : String) (spent : Spent serde maxBootAttempts w m) :
    Holds (machine tar).record (fun _ => True) (fun outcome m => exits outcome = true ∧ Spent serde maxBootAttempts w m)
      (rollBack serde installRoot pid s) m := by
  have keep : Stable (machine tar) (fun _ => True) (Spent serde maxBootAttempts w) := by
    rintro operation choice m _ ⟨t,read,pending,more,saw⟩
    exact ⟨t,read,pending,more,saw_snoc.mpr (.inl saw)⟩
  refine Holds.bind _ (attempt_goes (Uses.any _) keep spent) ?_ (fun _ _ _ held => nomatch held.1)
  intro reverted m _ held
  refine Holds.bind _ (attempt_goes (Uses.any _) keep held.2) ?_ (fun _ _ _ held => nomatch held.1)
  intro saved m _ held
  refine Holds.bind _ (ignore_goes (Uses.any _) keep held.2) ?_ (fun _ _ _ held => nomatch held.1)
  exact fun _ m _ held => ⟨trivial,rfl,held.2⟩

theorem announce_returns (installRoot : String) :
    Holds (machine tar).record (fun _ => True) (fun outcome _ => exits outcome = false)
      (announceRollback serde installRoot pid s) m := by
  refine Holds.bind _ (ignore_goes (Uses.any _) (Stable.const True) trivial) ?_ (fun _ _ _ _ => rfl)
  intro _ m _ _
  refine Holds.bind _ (attempt_goes (Uses.any _) (Stable.const True) trivial) ?_ (fun _ _ _ _ => rfl)
  exact fun _ _ _ _ => ⟨trivial,rfl⟩

/-- A boot exits exactly where it finds the attempts used up and its own count is written. -/
theorem boot_exits (cfg : Option UpgradeConfig) :
    Holds (machine tar).record (fun _ => True)
      (fun outcome m => exits outcome = true ↔ Spent serde ((cfg.map UpgradeConfig.maxBootAttempts).getD 0) w m)
      (runBootWatchdog serde pid cfg) (w,[]) := by
  have unspent {outcome : Except Error BootEnd} {maxBootAttempts : UInt32} {m : Moment} (stays : exits outcome = false)
      (not : ¬ Spent serde maxBootAttempts w m) : exits outcome = true ↔ Spent serde maxBootAttempts w m :=
    ⟨fun leaves => absurd (stays.symm.trans leaves) (by decide),fun spent => absurd spent not⟩
  apply boot_rule cfg (uncounted_stable.mono fun _ looks file => (looks.calm.2 file).2) (not_saw_nil _)
  · exact fun m _ uncounted => ⟨trivial,unspent rfl (Spent.of_uncounted uncounted)⟩
  intro installRoot s m read _ held uncounted
  cases status : s.status with
  | stable | stagedManual =>
    simp only [bootFrom,status]
    exact ⟨trivial,unspent rfl (Spent.of_uncounted uncounted)⟩
  | rolledBack =>
    simp only [bootFrom,status]
    refine (announce_returns installRoot).mono (fun _ _ => trivial) (fun outcome m _ stays => unspent stays ?_)
    exact Spent.of_status read (by simp [status])
  | pendingHealth =>
    simp only [bootFrom,status]
    have bumps := ((@bump_holds tar serde w m held.2).and (bump_counts uncounted)).mono (fun _ _ => trivial)
      (fun _ _ _ ends => ends)
    refine Holds.bind _ bumps ?_ ?_
    · rintro attempt m _ ⟨ended,counted⟩
      have saw : Saw Counted m.2 := counted.mp rfl
      have same : attempt = (bumped s).bootAttempts := bump_value read ended
      split
      next more =>
        exact (rollBack_exits installRoot ⟨s,read,status,same ▸ more,saw⟩).mono (fun _ _ => trivial)
          (fun _ _ _ held => ⟨fun _ => held.2,fun _ => held.1⟩)
      next few =>
        refine ⟨trivial,unspent rfl ?_⟩
        rintro ⟨t,found,_,more,_⟩
        obtain rfl := Option.some.inj (read.symm.trans found)
        exact few (same ▸ more)
    · rintro error m _ ⟨_,counted⟩
      have uncounted : ¬ Saw Counted m.2 := fun saw => by cases counted.mpr saw
      exact unspent rfl (Spent.of_uncounted uncounted)

end Count

section Restored
variable {crates : Crates} {w : World} {boot : Boot}

def Boot.run (crates : Crates) (w : World) (boot : Boot) : Prog Error BootEnd × Moment :=
  (machine crates.tar).record.run boot.choices (runBootWatchdog crates.serde boot.pid boot.cfg) (w,[])

def Boot.maxAttempts (boot : Boot) : UInt32 := (boot.cfg.map UpgradeConfig.maxBootAttempts).getD 0

/-- The boot came to its end, and not by leaving the process. -/
def Returns (crates : Crates) (w : World) (boot : Boot) : Prop :=
  ∃ outcome, (boot.run crates w).1.result = some outcome ∧ exits outcome = false

theorem returns_iff (concluded : (boot.run crates w).1.result.isSome = true) :
    Returns crates w boot ↔ ¬ Spent crates.serde boot.maxAttempts w (boot.act.moment crates w) := by
  obtain ⟨outcome,ended⟩ := Option.isSome_iff_exists.mp concluded
  have leaves : exits outcome = true ↔ Spent crates.serde boot.maxAttempts w (boot.act.moment crates w) :=
    ((@boot_exits crates.tar crates.serde boot.pid w boot.cfg).run boot.choices).2 outcome ended
  rw [← leaves,Bool.not_eq_true]
  refine ⟨?_,fun stays => ⟨outcome,ended,stays⟩⟩
  rintro ⟨other,same,stays⟩
  obtain rfl := Option.some.inj (ended.symm.trans same)
  exact stays

/-- The rollback is on record. -/
def RollbackKept (serde : Serde) (w : World) : Prop := ∃ t, readState serde w = some t ∧ t.status = .rolledBack

/-- The boot allows one attempt more than the state has counted. -/
def AttemptsLeft (serde : Serde) (w : World) (boot : Boot) : Prop :=
  ∃ t, readState serde w = some t ∧ (bumped t).bootAttempts ≤ boot.maxAttempts

/-- After a boot whose revert succeeded, the next one returns to its caller exactly where
the rollback was recorded, or more attempts are allowed, or its own count is not written. -/
theorem restored_returns_iff (crates : Crates) (w : World) (first next : Boot)
    (reverted : Done swapped (first.act.moment crates w).2)
    (concluded : (next.run crates (first.after crates w)).1.result.isSome = true) :
    Returns crates (first.after crates w) next ↔
      RollbackKept crates.serde (first.after crates w) ∨ AttemptsLeft crates.serde (first.after crates w) next ∨
        ¬ Saw Counted (next.act.moment crates (first.after crates w)).2 := by
  rw [returns_iff concluded]
  cases @boot_moment crates w first.choices first.cfg first.pid with
  | same link | torn _ _ _ link | counted _ _ _ link | unreverted _ _ _ _ link | announced _ _ _ link =>
    exact absurd reverted link.2
  | reverting s p read pending spent link state =>
    have found : readState crates.serde (first.after crates w) = some (bumped s) := state
    constructor
    · intro unspent
      by_contra none
      obtain ⟨_,few,counted⟩ := not_or.mp none |>.imp id not_or.mp
      refine unspent ⟨bumped s,found,pending,?_,not_not.mp counted⟩
      exact UInt32.not_le.mp fun enough => few ⟨bumped s,found,enough⟩
    · rintro (⟨t,other,back⟩ | ⟨t,other,enough⟩ | uncounted)
      · obtain rfl := Option.some.inj (found.symm.trans other)
        exact Spent.of_status found (by simp [back])
      · obtain rfl := Option.some.inj (found.symm.trans other)
        rintro ⟨t,same,_,more,_⟩
        obtain rfl := Option.some.inj (found.symm.trans same)
        exact UInt32.not_le.mpr more enough
      · exact Spent.of_uncounted uncounted
  | rolledBack s p read pending spent link state =>
    have found : readState crates.serde (first.after crates w) = some {revertedState s p with status := .rolledBack} := state
    exact ⟨fun _ => .inl ⟨_,found,rfl⟩,fun _ => Spent.of_status found nofun⟩

end Restored

namespace Sample

/-- The boot that goes back, its save made to fail at its first step on disk. -/
def unrecorded : Boot := ⟨some enabled,8,List.replicate 22 smooth ++ [⟨true,0⟩] ++ List.replicate 20 smooth⟩

def lastAttempt : Boot := ⟨some enabled,8,List.replicate 40 smooth⟩

def restoredBoot : Boot := ⟨some enabled,9,List.replicate 40 smooth⟩

end Sample

theorem sample_restored_returns :
    Returns Sample.knowingRollback (Sample.lastAttempt.after Sample.knowingRollback (Sample.upgraded Sample.exhausted))
      Sample.restoredBoot := by
  refine (restored_returns_iff Sample.knowingRollback (Sample.upgraded Sample.exhausted) Sample.lastAttempt
    Sample.restoredBoot ?_ ?_).mpr (.inl ⟨Sample.returned,Sample.returned_read,rfl⟩)
  · unfold Done Saw
    decide +kernel
  · decide +kernel

/-- Gone back but not recorded: the good version is made to exit as well. -/
theorem restored_exits :
    Done swapped (Sample.unrecorded.act.moment Sample.knowingRollback (Sample.upgraded Sample.exhausted)).2 ∧
      (Sample.unrecorded.after Sample.knowingRollback (Sample.upgraded Sample.exhausted)).node .current =
        some (.symlink (.version "0.45.3")) ∧
      ¬ Returns Sample.knowingRollback
        (Sample.unrecorded.after Sample.knowingRollback (Sample.upgraded Sample.exhausted)) Sample.restoredBoot := by
  refine ⟨?_,by decide +kernel,?_⟩
  · unfold Done Saw
    decide +kernel
  · rintro ⟨outcome,ended,stays⟩
    have leaves : ((Sample.restoredBoot.run Sample.knowingRollback (Sample.unrecorded.after Sample.knowingRollback
        (Sample.upgraded Sample.exhausted))).1.result.map exits) = some true := by
      decide +kernel
    rw [ended,Option.map_some,stays] at leaves
    cases leaves

end GatewaySdk.Upgrade
