import GatewaySdk.Upgrade.Atomic
import GatewaySdk.Upgrade.StageFacts
import GatewaySdk.Upgrade.Watchdog

/-! What a boot, a beat and a promotion make of the links and of `state.json`, at every
moment of every run of them. -/
namespace GatewaySdk.Upgrade
open GatewaySdk.Effect GatewaySdk.Host

section Boot

variable {tar : TarCrate} {serde : Serde} {installRoot : String} {pid : Nat} {s : InstallState} {w : World} {m : Moment}

/-- Calls that change no entry. -/
def Still (operation : Call) : Prop := ∀ place, Apart place operation

theorem Still.of_quiet {operation : Call} (quiet : Quiet operation) : Still operation :=
  fun place own => quiet.touches place own

theorem Looks.calm {operation : Call} (looks : Looks operation) : calm operation := by
  refine ⟨looks.quiet,fun file => ?_⟩
  cases looks with
  | exists_ | opens | locks | reads | unlocks | closes => exact ⟨nofun,nofun⟩

theorem bump_still (serde : Serde) : Uses Still (bumpBootAttempts serde) := by
  have silently {operation : Call} (quiet : silent operation = true) : Still operation :=
    .of_quiet (quiet_of_silent quiet)
  refine (Calls.bare (Calls.sys (silently rfl))).bind fun file => ?_
  apply Calls.closing (silently rfl)
  refine (Calls.bare (Calls.sys (silently rfl))).bind fun _ => ?_
  refine (Calls.bare (Calls.sys (silently rfl))).bind fun _ => ?_
  refine (Calls.bare (Calls.sys (silently rfl))).bind fun text => ?_
  cases serde.fromStr text with
  | none => trivial
  | some state =>
    refine (Calls.bare (Calls.sys fun place own => own)).bind fun _ => ?_
    refine (Calls.bare (Calls.sys (silently rfl))).bind fun _ => ?_
    refine (Calls.bare (Calls.sys fun place own => own)).bind fun _ => ?_
    refine (Calls.bare (Calls.sys (silently rfl))).bind fun _ => ?_
    refine (Calls.bare (Calls.sys (silently rfl))).bind fun _ => ?_
    exact (Calls.ignore (Calls.sys (silently rfl))).bind fun _ => trivial

def swapPlaces (place : Loc) : Prop := place = .current ∨ place = .currentTmp

def Unreverted (w : World) (m : Moment) : Prop := m.1.node .current = w.node .current ∧ ¬ Done swapped m.2

def Reverted (s : InstallState) (p : String) (w : World) (m : Moment) : Prop :=
  s.previousVersion = some p ∧ w.isDir (.version p) = true ∧
    m.1.node .current = some (.symlink (.version p)) ∧ Done swapped m.2

/-- The moments of a revert. -/
def Reverting (s : InstallState) (w : World) (m : Moment) : Prop :=
  Framed swapPlaces w m.1 ∧ (Unreverted w m ∨ ∃ p, Reverted s p w m)

def revertedState (s : InstallState) (p : String) : InstallState :=
  {s with currentVersion := p, previousVersion := some s.currentVersion}

def Prepares (operation : Call) : Prop := Within (fun place => place = .currentTmp) operation

theorem Unreverted.stable (w : World) : Stable (machine tar) Prepares (Unreverted w) := by
  refine ((Stable.entry .current fun e => e = w.node .current).mono ?_).and (Stable.not_done ?_)
  · exact fun operation prepares => Apart.of_within prepares (by simp)
  · intro prepares
    have other := prepares.touches .current (.inr rfl)
    cases other

theorem isDir_cases {place : Loc} {choice : Choice} {reply : Bool} {w' : World}
    (answered : (machine tar).exec (.isDir place) choice w = (reply,w')) :
    (reply = true → w.isDir place = true) ∧ w' = w := by
  simp only [machine] at answered
  split at answered
  · cases answered
    refine ⟨fun yes => ?_,rfl⟩
    cases yes
  · cases answered
    exact ⟨id,rfl⟩

theorem swapBack_holds {p : String} (previous : s.previousVersion = some p) (isDir : w.isDir (.version p) = true)
    (held : Unreverted w m ∧ Framed swapPlaces w m.1) (found : m.1.node .currentTmp = some (.symlink (.version p))) :
    Holds (machine tar).record (Reverting s w) (Ending (fun _ m => Framed swapPlaces w m.1 ∧ Reverted s p w m)
      (fun m => Unreverted w m ∧ Framed swapPlaces w m.1)) (bare (Io.rename .currentTmp .current)) m := by
  apply Run.bare
  refine Run.sys ⟨held.2,.inl held.1⟩ (fun choice answer w' answered => ?_)
  have swaps : Within swapPlaces swapped := ⟨fun place own => own.symm,nofun⟩
  have framed := (Framed.stable swapPlaces w).after swaps held.2 answered
  obtain ⟨error,rfl,rfl⟩ | ⟨rfl,_,rfl⟩ := rename_cases answered
  · have still : Unreverted w (m.1,m.2 ++ [⟨m.1,swapped,choice,.error error⟩]) :=
      ⟨held.1.1,not_done_failed held.1.2 rfl⟩
    exact ⟨⟨framed,.inl still⟩,.inr ⟨⟨_,rfl⟩,still,framed⟩⟩
  · have done : Reverted s p w (m.1.move .currentTmp .current,m.2 ++ [⟨m.1,swapped,choice,.ok ()⟩]) := by
      refine ⟨previous,isDir,?_,done_snoc.mpr (.inr ⟨rfl,rfl⟩)⟩
      rw [World.move_node m.1 found]
      simp
    exact ⟨⟨framed,.inr ⟨p,done⟩⟩,.inl ⟨(),rfl,framed,done⟩⟩

theorem revert_holds (start : Unreverted w m) (framed : Framed swapPlaces w m.1)
    (same : ∀ p, s.previousVersion = some p → m.1.isDir (.version p) = true → w.isDir (.version p) = true) :
    Holds (machine tar).record (Reverting s w)
      (fun outcome m => Framed swapPlaces w m.1 ∧ ((∃ p, outcome = .ok (revertedState s p) ∧ Reverted s p w m) ∨
        (∃ error, outcome = .error error) ∧ Unreverted w m))
      (revertToPrevious installRoot s) m := by
  have frames {operation : Call} (prepares : Prepares operation) : Within swapPlaces operation :=
    prepares.mono fun _ same => .inr same
  have keep : Stable (machine tar) Prepares (fun m => Unreverted w m ∧ Framed swapPlaces w m.1) :=
    (Unreverted.stable w).and ((Framed.stable swapPlaces w).mono fun _ => frames)
  unfold revertToPrevious
  cases previous : s.previousVersion with
  | none => exact ⟨⟨framed,.inl start⟩,framed,.inr ⟨⟨_,rfl⟩,start⟩⟩
  | some p =>
    have failed {ε : Type} {error : ε} {m : Moment} (held : Unreverted w m ∧ Framed swapPlaces w m.1) :
        Framed swapPlaces w m.1 ∧ ((∃ q, (Except.error error : Except ε InstallState) = .ok (revertedState s q) ∧
          Reverted s q w m) ∨ (∃ e, (Except.error error : Except ε InstallState) = .error e) ∧ Unreverted w m) :=
      ⟨held.2,.inr ⟨⟨_,rfl⟩,held.1⟩⟩
    refine Holds.bind (fun outcome m => (Unreverted w m ∧ Framed swapPlaces w m.1) ∧
      (outcome = .ok true → w.isDir (.version p) = true)) ?_ ?_ (fun _ _ _ held => failed held.1)
    · refine @Run.request tar _ _ (.isDir (.version p)) _ m ⟨framed,.inl start⟩ (fun choice answer w' answered => ?_)
      have kept := keep.after ((quiet_of_silent rfl : Quiet (.isDir (.version p))).within _) ⟨start,framed⟩ answered
      refine ⟨⟨kept.2,.inl kept.1⟩,kept,fun found => ?_⟩
      obtain rfl : answer = true := by simpa using found
      exact same p previous ((isDir_cases answered).1 rfl)
    intro there m _ held
    refine Run.bindExcept ⟨held.1.2,.inl held.1.1⟩ ?_ (fun _ _ => failed held.1)
    intro _ present
    have isDir : w.isDir (.version p) = true := by
      have there := bailIf_ok.mp present
      exact held.2 (by simpa using there)
    have removes : Prepares (.removeFile .currentTmp) := ⟨fun place own => own,nofun⟩
    have links : Prepares (.symlink (.version p) .currentTmp) := ⟨fun place own => own,nofun⟩
    refine Holds.bind _ ((Run.ignored (Calls.sys removes) keep held.1).mono
      (fun _ held => ⟨held.2,.inl held.1⟩) (fun _ _ _ held => held.2)) ?_ (fun _ _ _ held => failed held)
    intro _ m _ held
    refine Holds.bind _ (symlink_holds links keep (fun _ held => ⟨held.2,.inl held.1⟩) held) ?_
      (fun _ _ _ linked => failed linked.1)
    intro _ m _ linked
    refine Holds.forward _ _ (swapBack_holds previous isDir linked.1 (linked.2 rfl)) ?_ (fun _ _ _ held => failed held)
    intro _ m _ done
    exact ⟨⟨done.1,.inr ⟨p,done.2⟩⟩,done.1,.inl ⟨p,rfl,done.2⟩⟩

/-- The links and the state at a moment of a boot. -/
inductive BootCase (serde : Serde) (pid : Nat) (maxBootAttempts : UInt32) (w : World) (m : Moment) : Prop
  | same (link : Unreverted w m) (state : readState serde m.1 = readState serde w)
  | torn (s : InstallState) (read : readState serde w = some s) (pending : s.status = .pendingHealth)
    (link : Unreverted w m) (state : readState serde m.1 = none) (cut : Saw Truncated m.2 ∧ ¬ Saw Rewritten m.2)
  | counted (s : InstallState) (read : readState serde w = some s) (pending : s.status = .pendingHealth)
    (link : Unreverted w m) (state : readState serde m.1 = some (bumped s))
  | reverting (s : InstallState) (p : String) (read : readState serde w = some s) (pending : s.status = .pendingHealth)
    (spent : maxBootAttempts < (bumped s).bootAttempts) (link : Reverted s p w m)
    (state : readState serde m.1 = some (bumped s))
  | rolledBack (s : InstallState) (p : String) (read : readState serde w = some s) (pending : s.status = .pendingHealth)
    (spent : maxBootAttempts < (bumped s).bootAttempts) (link : Reverted s p w m)
    (state : readState serde m.1 = some {revertedState s p with status := .rolledBack})
  | unreverted (s : InstallState) (read : readState serde w = some s) (pending : s.status = .pendingHealth)
    (spent : maxBootAttempts < (bumped s).bootAttempts) (link : Unreverted w m)
    (state : readState serde m.1 = some {s with status := .rolledBack}) (record : Done (recorded pid) m.2)
  | announced (s : InstallState) (read : readState serde w = some s) (status : s.status = .rolledBack)
    (link : Unreverted w m) (state : readState serde m.1 = some {s with status := .stable, bootAttempts := 0})

variable {maxBootAttempts : UInt32}

theorem Unreverted.quietly (w : World) : Stable (machine tar) Quiet (Unreverted w) :=
  (Unreverted.stable w).mono fun _ quiet => quiet.within _

theorem Reverted.stable (s : InstallState) (p : String) (w : World) :
    Stable (machine tar) (Apart .current) (Reverted s p w) :=
  (Stable.const _).and ((Stable.const _).and
    ((Stable.entry .current fun e => e = some (.symlink (.version p))).and (Stable.done _)))

theorem BootCase.stable (serde : Serde) (pid : Nat) (maxBootAttempts : UInt32) (w : World) :
    Stable (machine tar) Quiet (BootCase serde pid maxBootAttempts w) := by
  intro operation choice m quiet held
  have still (link : Unreverted w m) := @Unreverted.quietly tar w operation choice m quiet link
  have moved {s : InstallState} {p : String} (link : Reverted s p w m) :=
    @Reverted.stable tar s p w operation choice m (fun own => quiet.touches _ own) link
  have reads {r : Option InstallState} (state : readState serde m.1 = r) :=
    @readState_stable tar serde r operation choice m quiet state
  cases held with
  | same link state => exact .same (still link) (reads state)
  | torn s read pending link state cut =>
    exact .torn s read pending (still link) (reads state) ⟨Stable.saw _ operation choice m quiet cut.1,
      not_saw_quiet rewritten_writes operation choice m quiet cut.2⟩
  | counted s read pending link state => exact .counted s read pending (still link) (reads state)
  | reverting s p read pending spent link state => exact .reverting s p read pending spent (moved link) (reads state)
  | rolledBack s p read pending spent link state => exact .rolledBack s p read pending spent (moved link) (reads state)
  | unreverted s read pending spent link state record =>
    exact .unreverted s read pending spent (still link) (reads state) (Stable.done _ operation choice m quiet record)
  | announced s read status link state => exact .announced s read status (still link) (reads state)

theorem Saves.current {operation : Call} (saves : Saves pid operation) : Apart .current operation := by
  intro own
  obtain other | other := saves.touches own <;> cases other

theorem Unreverted.saves (w : World) : Stable (machine tar) (Saves pid) (Unreverted w) := by
  refine ((Stable.entry .current fun e => e = w.node .current).mono fun _ => Saves.current).and (Stable.not_done ?_)
  exact fun saves => saves.current (.inr rfl)

theorem save_view {P : Moment → Prop} {t : InstallState} {during : Moment → Prop}
    (keep : Stable (machine tar) (Saves pid) P) (start : P m) (record : ¬ Done (recorded pid) m.2)
    (before : ∀ m', P m' → readState serde m'.1 = readState serde m.1 → during m')
    (after : ∀ m', P m' → readState serde m'.1 = some t → Done (recorded pid) m'.2 → during m') :
    Holds (machine tar).record during (fun _ => during) (save serde installRoot pid t) m := by
  have unsaved : Unsaved pid m.1 m := ⟨.refl _ _,.inl rfl,record⟩
  have holds := ((save_uses serde installRoot pid t).stable keep start).and
    (@save_holds tar serde installRoot pid m.1 t m unsaved)
  refine holds.mono ?_ ?_
  · intro m' held
    obtain ⟨kept,held | held⟩ := held
    · exact before m' kept (readState_unsaved held)
    · exact after m' kept (readState_saved held) held.2.2
  · intro _ m' _ ended
    obtain ⟨kept,⟨_,held⟩ | ⟨_,held⟩⟩ := ended
    · exact after m' kept (readState_saved held) held.2.2
    · exact before m' kept (readState_unsaved held)

theorem isDir_same {w' : World} (same : w'.node = w.node) (place : Loc) : w'.isDir place = w.isDir place := by
  unfold World.isDir World.stat World.target
  rw [same]

theorem revert_uses (s : InstallState) : Uses (Apart .stateJson) (revertToPrevious installRoot s) := by
  have silently {operation : Call} (quiet : silent operation = true) : Apart .stateJson operation :=
    fun own => (quiet_of_silent quiet).touches _ own
  unfold revertToPrevious
  cases s.previousVersion with
  | none => trivial
  | some p =>
    refine (Calls.request (silently rfl)).bind fun there => ?_
    refine (Uses.ofExcept _).bind fun _ => ?_
    refine (Calls.ignore (Calls.sys nofun)).bind fun _ => ?_
    refine (Calls.bare (Calls.sys nofun)).bind fun _ => ?_
    refine (Calls.bare (Calls.sys ?_)).bind fun _ => trivial
    intro own
    obtain other | other := own <;> cases other

theorem rollBack_holds (read : readState serde w = some s) (pending : s.status = .pendingHealth)
    (spent : maxBootAttempts < (bumped s).bootAttempts) (nodes : m.1.node = w.node)
    (state : readState serde m.1 = some (bumped s)) (swap : ¬ Done swapped m.2) (record : ¬ Done (recorded pid) m.2) :
    Holds (machine tar).record (BootCase serde pid maxBootAttempts w) (fun _ => BootCase serde pid maxBootAttempts w)
      (rollBack serde installRoot pid s) m := by
  have back {m' : Moment} (framed : Framed swapPlaces m.1 m'.1) : readState serde m'.1 = some (bumped s) :=
    (readState_same (framed.node .stateJson (by simp [swapPlaces])) framed.data).trans state
  have still {m' : Moment} (link : Unreverted m.1 m') : Unreverted w m' :=
    ⟨link.1.trans (congrFun nodes _),link.2⟩
  have moved {m' : Moment} {p : String} (link : Reverted s p m.1 m') : Reverted s p w m' :=
    ⟨link.1,(isDir_same nodes _).symm.trans link.2.1,link.2.2⟩
  have sends (event : UpgradeEvent) : Quiet (.trySend event) := quiet_of_silent rfl
  apply Holds.bind (fun outcome m' => ∃ reverted, outcome = .ok reverted ∧ ¬ Done (recorded pid) m'.2 ∧
    readState serde m'.1 = some (bumped s) ∧ ((∃ p, reverted = .ok (revertedState s p) ∧ Reverted s p w m') ∨
      (∃ error, reverted = .error error) ∧ Unreverted w m'))
  · apply Holds.attempt
    have unrecorded := (@revert_uses installRoot s).stable
      (@Stable.not_done tar (Apart .stateJson) (recorded pid) fun apart => apart (.inr rfl)) record
    have reverts := @revert_holds tar installRoot s m.1 m ⟨rfl,swap⟩ (.refl _ _) fun _ _ there => there
    refine (reverts.and unrecorded).mono ?_ ?_
    · intro m' held
      obtain ⟨⟨framed,link | ⟨p,link⟩⟩,_⟩ := held
      · exact .counted s read pending (still link) (back framed)
      · exact .reverting s p read pending spent (moved link) (back framed)
    · intro outcome m' _ ended
      obtain ⟨⟨framed,ended⟩,unrecorded⟩ := ended
      refine ⟨outcome,rfl,unrecorded,back framed,ended.imp ?_ ?_⟩
      · exact fun done => done.imp fun p held => ⟨held.1,moved held.2⟩
      · exact fun failed => ⟨failed.1,still failed.2⟩
  · intro reverted m' _ ended
    obtain ⟨_,same,unrecorded,state',ended⟩ := ended
    obtain rfl := Except.ok.inj same
    apply Holds.bind (fun _ => BootCase serde pid maxBootAttempts w)
    · apply Holds.attempt
      obtain ⟨p,rfl,link⟩ | ⟨⟨error,rfl⟩,link⟩ := ended
      · refine save_view ((Reverted.stable s p w).mono fun _ => Saves.current) link unrecorded ?_ ?_
        · exact fun m'' link same => .reverting s p read pending spent link (same.trans state')
        · exact fun m'' link saved _ => .rolledBack s p read pending spent link saved
      · refine save_view (Unreverted.saves w) link unrecorded ?_ ?_
        · exact fun m'' link same => .counted s read pending link (same.trans state')
        · exact fun m'' link saved record => .unreverted s read pending spent link saved record
    · intro saved m'' _ held
      refine Holds.next (Run.ignored (Calls.sys (sends _)) (BootCase.stable _ _ _ _) held) ?_ (fun _ _ held => held)
      exact fun _ m held => ⟨held,held⟩
    · exact fun _ _ held _ => held
  · intro error m' _ ended
    obtain ⟨_,same,_⟩ := ended
    cases same

theorem countBoot_holds (read : readState serde w = some s) (pending : s.status = .pendingHealth)
    (untouched : Untouched w m) (swap : ¬ Done swapped m.2) (record : ¬ Done (recorded pid) m.2) :
    Holds (machine tar).record (BootCase serde pid maxBootAttempts w) (fun _ => BootCase serde pid maxBootAttempts w)
      (countBoot serde installRoot pid maxBootAttempts s) m := by
  have unique {ino : Nat} {t : InstallState} (cell : Cell serde ino t w) : t = s :=
    Option.some.inj (cell.read.symm.trans read)
  have still {m' : Moment} (nodes : m'.1.node = w.node) (swap : ¬ Done swapped m'.2) : Unreverted w m' :=
    ⟨congrFun nodes _,swap⟩
  have quiet {m' : Moment} (held : Untouched w m') (swap : ¬ Done swapped m'.2) :
      BootCase serde pid maxBootAttempts w m' :=
    .same ⟨held.1.node _ id,swap⟩ (readState_untouched held)
  have torn {m' : Moment} {ino : Nat} {t : InstallState} (cell : Cell serde ino t w)
      (held : Torn ino (serde.toVecPretty (bumped t)) w m') (swap : ¬ Done swapped m'.2) :
      BootCase serde pid maxBootAttempts w m' :=
    .torn s read pending (still held.1.choose_spec.2.node swap) (readState_torn cell held) held.2
  have whole {m' : Moment} {ino : Nat} {t : InstallState} (cell : Cell serde ino t w)
      (held : Whole ino (serde.toVecPretty (bumped t)) w m') (swap : ¬ Done swapped m'.2) :
      BootCase serde pid maxBootAttempts w m' :=
    .counted s read pending (still held.1.node swap) (unique cell ▸ readState_whole cell held)
  have flags : Stable (machine tar) Still (fun m => ¬ Done swapped m.2 ∧ ¬ Done (recorded pid) m.2) :=
    (Stable.not_done fun still => still .current (.inr rfl)).and
      (Stable.not_done fun still => still .stateJson (.inr rfl))
  refine Holds.bind _ (((@bump_holds tar serde w m untouched).and ((bump_still serde).stable flags ⟨swap,record⟩)).mono
    ?_ (fun _ _ _ ends => ends)) ?_ ?_
  · intro m' held
    obtain ⟨held | ⟨ino,t,cell,held | held⟩,swap,_⟩ := held
    · exact quiet held swap
    · exact torn cell held swap
    · exact whole cell held swap
  · intro attempt m' _ ended
    obtain ⟨⟨⟨_,failed⟩,_⟩ | ⟨ino,t,cell,⟨same,held,_⟩ | ⟨⟨_,failed⟩,_⟩⟩,swap,record⟩ := ended
    · cases failed
    · obtain rfl := unique cell
      obtain rfl : attempt = (bumped t).bootAttempts := Except.ok.inj same
      split
      next spent => exact rollBack_holds read pending spent held.1.node (readState_whole cell held) swap record
      · exact ⟨whole cell held swap,whole cell held swap⟩
    · cases failed
  · intro error m' _ ended
    obtain ⟨⟨_,held⟩ | ⟨ino,t,cell,⟨_,held,_⟩ | ⟨_,held | held | held⟩⟩,swap,_⟩ := ended
    · exact quiet held swap
    · exact whole cell held swap
    · exact quiet held swap
    · exact torn cell held swap
    · exact whole cell held.1 swap

theorem announce_holds (read : readState serde w = some s) (status : s.status = .rolledBack)
    (link : Unreverted w m) (same : readState serde m.1 = readState serde w) (record : ¬ Done (recorded pid) m.2) :
    Holds (machine tar).record (BootCase serde pid maxBootAttempts w) (fun _ => BootCase serde pid maxBootAttempts w)
      (announceRollback serde installRoot pid s) m := by
  have sends (event : UpgradeEvent) : Quiet (.trySend event) := quiet_of_silent rfl
  have keep : Stable (machine tar) Quiet (fun m => (Unreverted w m ∧ readState serde m.1 = readState serde w) ∧
      ¬ Done (recorded pid) m.2) :=
    ((Unreverted.quietly w).and (readState_stable _)).and (Stable.not_done (recorded_loud pid))
  refine Holds.bind _ ((Run.ignored (Calls.sys (sends _)) keep ⟨⟨link,same⟩,record⟩).mono
    (fun _ held => .same held.1.1 held.1.2) (fun _ _ _ held => held.2)) ?_ (fun _ _ _ held => .same held.1.1 held.1.2)
  intro _ m _ held
  obtain ⟨⟨link,same⟩,record⟩ := held
  apply Holds.bind (fun _ => BootCase serde pid maxBootAttempts w)
  · apply Holds.attempt
    refine save_view (Unreverted.saves w) link record ?_ ?_
    · exact fun m' link unsaved => .same link (unsaved.trans same)
    · exact fun m' link saved _ => .announced s read status link saved
  · exact fun _ m _ held => ⟨held,held⟩
  · exact fun _ _ held _ => held

/-- Nothing is done yet about the state that was found. -/
def Early (pid : Nat) (w : World) (m : Moment) : Prop :=
  (Unreverted w m ∧ ¬ Done (recorded pid) m.2) ∧ Untouched w m

theorem early_start (pid : Nat) (w : World) : Early pid w (w,[]) :=
  ⟨⟨⟨rfl,not_done_nil _⟩,not_done_nil _⟩,untouched_start w⟩

/-- What holds before anything is done, and of the rest of a boot whatever state was
found, holds of the boot; a predicate that reading keeps comes along. -/
theorem watch_rule {during kept : Moment → Prop} {ends : Except Error BootEnd → Moment → Prop} (cfg : UpgradeConfig)
    (stable : Stable (machine tar) Looks kept) (begins : kept (w,[]))
    (early : ∀ m, Early pid w m → kept m → during m ∧ ends (.ok (.returned .continue none)) m)
    (goes : ∀ s m, readState serde w = some s → readState serde m.1 = readState serde w → Early pid w m → kept m →
      Holds (machine tar).record during ends (bootFrom serde cfg.installRoot pid cfg.maxBootAttempts s) m) :
    Holds (machine tar).record during ends (watch serde pid cfg) (w,[]) := by
  have keep : Stable (machine tar) Looks (fun m => Early pid w m ∧ kept m) :=
    ((((Unreverted.quietly w).and (Stable.not_done (recorded_loud pid))).mono fun _ looks => looks.quiet).and
      ((Untouched.stable w).mono fun _ => Looks.calm)).and stable
  have now (m : Moment) (held : Early pid w m ∧ kept m) : during m := (early m held.1 held.2).1
  apply Holds.bind (fun outcome m => (∃ there, outcome = .ok there) ∧ Early pid w m ∧ kept m)
  · refine @Run.request tar _ _ (.pathExists .stateJson) _ _ (now _ ⟨early_start pid w,begins⟩)
      (fun choice answer w' answered => ?_)
    have held := keep.after .exists_ ⟨early_start pid w,begins⟩ answered
    exact ⟨now _ held,⟨answer,rfl⟩,held⟩
  · rintro there m _ ⟨_,held⟩
    split
    · exact early m held.1 held.2
    have quietly : Stable (machine tar) Quiet (fun m => readState serde m.1 = readState serde w) :=
      readState_stable _
    have reads := @load_holds tar serde cfg.installRoot _ m quietly (readState_untouched held.1.2)
    have looks := (load_looks serde cfg.installRoot).stable keep held
    apply Holds.bind (fun outcome m => ∃ loaded, outcome = .ok loaded ∧ Reported serde loaded.toOption m ∧
      readState serde m.1 = readState serde w ∧ Early pid w m ∧ kept m)
    · apply Holds.attempt
      exact (reads.and looks).mono (fun m held => now m held.2)
        (fun loaded _ held ends => ⟨loaded,rfl,ends.1,held.1,ends.2⟩)
    · intro loaded m _ ended
      obtain ⟨_,same,reported,state,held⟩ := ended
      obtain rfl := Except.ok.inj same
      cases loaded with
      | error error => exact early m held.1 held.2
      | ok s => exact goes s m (state.symm.trans (reported.1 s rfl)) state held.1 held.2
    · intro error m _ ended
      obtain ⟨_,same,_⟩ := ended
      cases same
  · rintro error m _ ⟨⟨there,same⟩,_⟩
    cases same

theorem boot_rule {during kept : Moment → Prop} {ends : Except Error BootEnd → Moment → Prop}
    (cfg : Option UpgradeConfig) (stable : Stable (machine tar) Looks kept) (begins : kept (w,[]))
    (early : ∀ m, Early pid w m → kept m → during m ∧ ends (.ok (.returned .continue none)) m)
    (goes : ∀ installRoot s m, readState serde w = some s → readState serde m.1 = readState serde w → Early pid w m →
      kept m → Holds (machine tar).record during ends
        (bootFrom serde installRoot pid ((cfg.map UpgradeConfig.maxBootAttempts).getD 0) s) m) :
    Holds (machine tar).record during ends (runBootWatchdog serde pid cfg) (w,[]) := by
  have start := early _ (early_start pid w) begins
  cases cfg with
  | none => exact start
  | some cfg =>
    by_cases enabled : cfg.enabled = false
    · simp only [runBootWatchdog,enabled,if_true]
      exact start
    · simp only [runBootWatchdog,enabled]
      exact watch_rule cfg stable begins early (goes cfg.installRoot)

theorem boot_moments {during : Moment → Prop} (cfg : Option UpgradeConfig)
    (early : ∀ m, Early pid w m → during m)
    (goes : ∀ installRoot s m, readState serde w = some s → readState serde m.1 = readState serde w → Early pid w m →
      Holds (machine tar).record during (fun _ => during)
        (bootFrom serde installRoot pid ((cfg.map UpgradeConfig.maxBootAttempts).getD 0) s) m) :
    Holds (machine tar).record during (fun _ => during) (runBootWatchdog serde pid cfg) (w,[]) :=
  boot_rule cfg (Stable.const True) trivial (fun m held _ => ⟨early m held,early m held⟩)
    fun installRoot s m read state held _ => goes installRoot s m read state held

theorem boot_view (cfg : Option UpgradeConfig) :
    Holds (machine tar).record (BootCase serde pid ((cfg.map UpgradeConfig.maxBootAttempts).getD 0) w)
      (fun _ => BootCase serde pid ((cfg.map UpgradeConfig.maxBootAttempts).getD 0) w)
      (runBootWatchdog serde pid cfg) (w,[]) := by
  have view {m : Moment} (held : Early pid w m) :
      BootCase serde pid ((cfg.map UpgradeConfig.maxBootAttempts).getD 0) w m :=
    .same held.1.1 (readState_untouched held.2)
  apply boot_moments cfg (fun _ => view)
  intro installRoot s m read state held
  cases status : s.status with
  | stable | stagedManual =>
    simp only [bootFrom,status]
    exact ⟨view held,view held⟩
  | rolledBack =>
    simp only [bootFrom,status]
    exact announce_holds read status held.1.1 state held.1.2
  | pendingHealth =>
    simp only [bootFrom,status]
    exact countBoot_holds read status held.2 held.1.1.2 held.1.2

/-- The calls of a boot but those of the count. -/
inductive Mends (pid : Nat) : Call → Prop
  | quiet {operation : Call} (quiet : Quiet operation) : Mends pid operation
  | prepares {operation : Call} (prepares : Prepares operation) : Mends pid operation
  | swaps : Mends pid swapped
  | saves {operation : Call} (saves : Saves pid operation) : Mends pid operation

theorem Mends.of_silent {operation : Call} (quiet : silent operation = true) : Mends pid operation :=
  .quiet (quiet_of_silent quiet)

def Boots (pid : Nat) (operation : Call) : Prop := Still operation ∨ Mends pid operation

theorem Boots.apart {operation : Call} (boots : Boots pid operation) {place : Loc} (swap : ¬ swapPlaces place)
    (state : ¬ stateFiles pid place) : Apart place operation := by
  obtain still | mends := boots
  · exact still place
  · cases mends with
    | quiet quiet => exact fun own => quiet.touches _ own
    | prepares prepares => exact Apart.of_within prepares fun same => swap (.inr same)
    | swaps => exact fun own => swap own.symm
    | saves saves => exact fun own => state (saves.touches own)

theorem revert_mends (s : InstallState) : Uses (Mends pid) (revertToPrevious installRoot s) := by
  unfold revertToPrevious
  cases s.previousVersion with
  | none => trivial
  | some p =>
    refine (Calls.request (.of_silent rfl)).bind fun there => ?_
    refine (Uses.ofExcept _).bind fun _ => ?_
    refine (Calls.ignore (Calls.sys (.prepares ⟨fun place own => own,nofun⟩))).bind fun _ => ?_
    refine (Calls.bare (Calls.sys (.prepares ⟨fun place own => own,nofun⟩))).bind fun _ => ?_
    exact (Calls.bare (Calls.sys .swaps)).bind fun _ => trivial

theorem save_mends (s : InstallState) : Uses (Mends pid) (save serde installRoot pid s) :=
  (save_uses serde installRoot pid s).mono fun _ => .saves

theorem rollBack_mends (s : InstallState) : Uses (Mends pid) (rollBack serde installRoot pid s) := by
  refine (revert_mends s).attempt.bind fun reverted => ?_
  refine (save_mends _).attempt.bind fun saved => ?_
  exact (Calls.ignore (Calls.sys (.of_silent rfl))).bind fun _ => trivial

theorem announce_mends (s : InstallState) : Uses (Mends pid) (announceRollback serde installRoot pid s) := by
  refine (Calls.ignore (Calls.sys (.of_silent rfl))).bind fun _ => ?_
  exact (save_mends _).attempt.bind fun _ => trivial

theorem bootFrom_uses (s : InstallState) : Uses (Boots pid) (bootFrom serde installRoot pid maxBootAttempts s) := by
  cases status : s.status with
  | stable | stagedManual =>
    simp only [bootFrom,status]
    trivial
  | rolledBack =>
    simp only [bootFrom,status]
    exact (announce_mends s).mono fun _ => .inr
  | pendingHealth =>
    simp only [bootFrom,status]
    refine ((bump_still serde).mono fun _ => .inl).bind fun attempt => ?_
    split
    · exact (rollBack_mends s).mono fun _ => .inr
    · trivial

theorem boot_uses (cfg : Option UpgradeConfig) : Uses (Boots pid) (runBootWatchdog serde pid cfg) := by
  cases cfg with
  | none => trivial
  | some cfg =>
    by_cases enabled : cfg.enabled = false
    · simp only [runBootWatchdog,enabled,if_true]
      trivial
    · simp only [runBootWatchdog,enabled]
      refine (Calls.request (.inr (.of_silent rfl))).bind fun there => ?_
      split
      · trivial
      · refine ((load_uses serde cfg.installRoot).mono fun _ quiet => .inr (.quiet quiet)).attempt.bind fun loaded => ?_
        cases loaded with
        | error error => trivial
        | ok s => exact bootFrom_uses s

def Rewrote (m : Moment) : Prop := (Saw Truncated m.2 → Saw Rewritten m.2) ∨ Saw Failing m.2

def Uncut (operation : Call) : Prop := ∀ file, operation ≠ .setLenZero file

theorem Rewrote.stable : Stable (machine tar) Uncut Rewrote := by
  intro operation choice m uncut held
  refine held.imp (fun whole saw => ?_) (fun failed => saw_snoc.mpr (.inl failed))
  obtain before | ⟨⟨file,same⟩,_⟩ := saw_snoc.mp saw
  · exact saw_snoc.mpr (.inl (whole before))
  · exact absurd same (uncut file)

theorem rewrite_rewrites {file : Handle} :
    Holds (machine tar).record (fun _ => True) (fun _ => Rewrote) (rewrite serde file s) m := by
  have spent : Stable (machine tar) (fun _ => True) (fun m => Saw Rewritten m.2 ∨ Saw Failing m.2) :=
    (Stable.saw _).or (Stable.saw _)
  have done {m : Moment} (held : Saw Rewritten m.2 ∨ Saw Failing m.2) : Rewrote m := held.imp (fun saw _ => saw) id
  have all {ε α : Type} (program : Prog ε α) {m : Moment} (held : Saw Rewritten m.2 ∨ Saw Failing m.2) :
      Holds (machine tar).record (fun _ => True) (fun _ => Rewrote) program m :=
    ((Uses.any program).stable spent held).mono (fun _ _ => trivial) (fun _ _ _ held => done held)
  apply Holds.bind (fun outcome m => ∀ error, outcome = .error error → Rewrote m)
  · apply Run.bare
    refine Run.sys trivial (fun choice answer w' answered => ⟨trivial,fun error failed => ?_⟩)
    obtain failing | plain := exec_answer answered
    · exact .inr (saw_snoc.mpr (.inr failing))
    · cases plain
      cases failed
  · intro _ m _ _
    apply Holds.bind (fun outcome m => ∀ error, outcome = .error error → Rewrote m)
    · apply Run.bare
      refine Run.sys trivial (fun choice answer w' answered => ⟨trivial,fun error failed => ?_⟩)
      obtain failing | plain := exec_answer answered
      · exact .inr (saw_snoc.mpr (.inr failing))
      · cases plain
        cases failed
    · intro _ m _ _
      apply Holds.bind (fun _ m => Saw Rewritten m.2 ∨ Saw Failing m.2)
      · apply Run.bare
        refine Run.sys trivial (fun choice answer w' answered => ⟨trivial,?_⟩)
        obtain failing | plain := exec_answer answered
        · exact .inr (saw_snoc.mpr (.inr failing))
        · cases plain
          exact .inl (saw_snoc.mpr (.inr ⟨⟨file,_,rfl⟩,rfl⟩))
      · exact fun _ _ _ held => all _ held
      · exact fun _ _ _ held => done held
    · exact fun error _ _ held => held error rfl
  · exact fun error _ _ held => held error rfl

theorem bump_rewrites (start : Rewrote m) :
    Holds (machine tar).record (fun _ => True) (fun _ => Rewrote) (bumpBootAttempts serde) m := by
  have silently {ε : Type} {operation : Call} {reply : Reply operation → Except IoError ε} {m : Moment}
      (uncut : Uncut operation) (held : Rewrote m) :
      Holds (machine tar).record (fun _ => True) (fun _ => Rewrote) (bare (sys operation reply)) m :=
    ((Calls.bare (Calls.sys uncut)).stable Rewrote.stable held).mono (fun _ _ => trivial) (fun _ _ _ held => held)
  refine Holds.bind _ (silently nofun start) ?_ (fun _ _ _ held => held)
  intro file m _ held
  have quiet : Stable (machine tar) Quiet (fun _ : Moment => True) := Stable.const _
  refine Run.closing (quiet_of_silent rfl) quiet (fun _ => ?_) ?_
  · exact Rewrote.stable.mono fun operation quiet file same => quiet.writes file.ino (same ▸ rfl)
  refine Holds.bind _ (silently nofun held) ?_ (fun _ _ _ held => held)
  intro _ m _ held
  refine Holds.bind _ (silently nofun held) ?_ (fun _ _ _ held => held)
  intro _ m _ held
  refine Holds.bind _ (silently nofun held) ?_ (fun _ _ _ held => held)
  intro text m _ held
  cases serde.fromStr text with
  | none => exact ⟨trivial,held⟩
  | some s => exact rewrite_rewrites

theorem Mends.uncut {operation : Call} (mends : Mends pid operation) : Uncut operation := by
  intro file same
  cases mends with
  | quiet quiet => exact quiet.writes file.ino (same ▸ rfl)
  | prepares prepares => exact prepares.writes file.ino (same ▸ rfl)
  | swaps => cases same
  | saves saves => exact saves.keeps file same

theorem mends_rewrites {ε α : Type} {program : Prog ε α} (mends : Uses (Mends pid) program) (start : Rewrote m) :
    Holds (machine tar).record (fun _ => True) (fun _ => Rewrote) program m :=
  ((mends.mono fun _ => Mends.uncut).stable Rewrote.stable start).mono (fun _ _ => trivial) (fun _ _ _ held => held)

theorem bootFrom_rewrites (start : Rewrote m) : Holds (machine tar).record (fun _ => True) (fun _ => Rewrote)
    (bootFrom serde installRoot pid maxBootAttempts s) m := by
  cases status : s.status with
  | stable | stagedManual =>
    simp only [bootFrom,status]
    exact ⟨trivial,start⟩
  | rolledBack =>
    simp only [bootFrom,status]
    exact mends_rewrites (announce_mends s) start
  | pendingHealth =>
    simp only [bootFrom,status]
    refine Holds.bind _ (bump_rewrites start) ?_ (fun _ _ _ held => held)
    intro attempt m _ held
    split
    · exact mends_rewrites (rollBack_mends s) held
    · exact ⟨trivial,held⟩

/-- Where a boot comes to its end it left no truncated file, unless a call was made to fail. -/
theorem boot_rewrites (cfg : Option UpgradeConfig) :
    Holds (machine tar).record (fun _ => True) (fun _ => Rewrote) (runBootWatchdog serde pid cfg) (w,[]) := by
  have start {m : Moment} (held : Early pid w m) : Rewrote m := .inl fun saw => absurd saw held.2.2.1
  exact boot_rule cfg (Stable.const True) trivial (fun _ held _ => ⟨trivial,start held⟩)
    fun _ _ _ _ _ held _ => bootFrom_rewrites (start held)

/-- What an update leaves: the state there was, or the change of it. -/
def UpdateCase (serde : Serde) (change : InstallState → InstallState → Prop) (w : World) (m : Moment) : Prop :=
  readState serde m.1 = readState serde w ∨
    ∃ s t, readState serde w = some s ∧ change s t ∧ readState serde m.1 = some t

theorem update_view {mutate : InstallState → Prog Error InstallState} {change : InstallState → InstallState → Prop}
    (changes : ∀ s m, Unsaved pid w m → Holds (machine tar).record (Unsaved pid w)
      (fun outcome _ => ∀ t, outcome = .ok t → change s t) (mutate s) m) (start : Unsaved pid w m) :
    Holds (machine tar).record (UpdateCase serde change w) (fun _ => UpdateCase serde change w)
      (update serde installRoot pid mutate) m := by
  have done {m : Moment} (held : Updated serde pid change w m) : UpdateCase serde change w m := by
    obtain ⟨s,t,read,changed,saved⟩ := held
    exact .inr ⟨s,t,read,changed,readState_saved saved⟩
  refine (update_holds changes start).mono ?_ ?_
  · exact fun m held => held.elim (fun held => .inl (readState_unsaved held)) done
  · exact fun _ m _ ended => ended.elim (fun held => done held.2) (fun held => .inl (readState_unsaved held.2))

def Noted (s t : InstallState) : Prop :=
  t = s ∨ s.status = .pendingHealth ∧ ∃ now, t = {s with lastHealthAt := some now}

theorem beat_view {ε : Type} :
    Holds (machine tar).record (UpdateCase serde Noted w) (fun _ => UpdateCase serde Noted w)
      (recordHealthyBeat serde installRoot pid : Prog ε (Except Error Unit)) (w,[]) := by
  apply Holds.attempt
  refine update_view ?_ (unsaved_start pid w)
  intro s m start
  unfold noteHealth
  split
  next pending =>
    have now : Quiet .now := quiet_of_silent rfl
    refine Holds.next ((Calls.request now).stable (Unsaved.stable pid w) start) ?_ (fun _ _ _ => nofun)
    intro time m held
    exact ⟨held,fun t same => .inr ⟨pending,time,(Except.ok.inj same).symm⟩⟩
  · exact ⟨start,fun t same => .inl (Except.ok.inj same).symm⟩

def Promoted (s t : InstallState) : Prop := s.status = .pendingHealth ∧ t = {s with status := .stable}

theorem promote_view {ε : Type} (read : readState serde w = some s) (pending : s.status = .pendingHealth)
    (healthyFor : UInt32) (start : Unsaved pid w m) :
    Holds (machine tar).record (UpdateCase serde Promoted w) (fun _ => UpdateCase serde Promoted w)
      (promote serde installRoot pid s healthyFor : Prog ε (Option (Except Error Unit))) m := by
  have promotes (t : InstallState) (m : Moment) (held : Unsaved pid w m) : Holds (machine tar).record (Unsaved pid w)
      (fun outcome _ => ∀ u, outcome = .ok u → u = {t with status := .stable})
      (return {t with status := .stable} : Prog Error InstallState) m :=
    ⟨held,fun u same => (Except.ok.inj same).symm⟩
  have narrow {m : Moment} (held : UpdateCase serde (fun t u => u = {t with status := .stable}) w m) :
      UpdateCase serde Promoted w m := by
    obtain same | ⟨t,u,there,rfl,after⟩ := held
    · exact .inl same
    · obtain rfl := Option.some.inj (there.symm.trans read)
      exact .inr ⟨t,_,read,⟨pending,rfl⟩,after⟩
  have quietly : Stable (machine tar) Quiet (UpdateCase serde Promoted w) := by
    intro operation choice m quiet held
    refine held.imp (fun same => readState_stable _ operation choice m quiet same) ?_
    exact fun changed => changed.imp fun s changed => changed.imp fun t changed =>
      ⟨changed.1,changed.2.1,readState_stable _ operation choice m quiet changed.2.2⟩
  apply Holds.bind (fun _ => UpdateCase serde Promoted w)
  · apply Holds.attempt
    exact (update_view promotes start).mono (fun _ => narrow) (fun _ _ _ => narrow)
  · intro saved m _ held
    have sends (event : UpgradeEvent) : Quiet (.trySend event) := quiet_of_silent rfl
    refine Holds.next (Run.ignored (Calls.sys (sends _)) quietly held) ?_ (fun _ _ held => held)
    exact fun _ m held => ⟨held,held⟩
  · exact fun _ _ held _ => held

theorem finalizeFrom_view {ε : Type} (read : readState serde w = some s) (pending : s.status = .pendingHealth)
    (cfg : UpgradeConfig) (last : Int) (start : Unsaved pid w m) :
    Holds (machine tar).record (UpdateCase serde Promoted w) (fun _ => UpdateCase serde Promoted w)
      (finalizeFrom serde installRoot pid cfg s last : Prog ε (Option (Except Error Unit))) m := by
  have early {m : Moment} (held : Unsaved pid w m) : UpdateCase serde Promoted w m := .inl (readState_unsaved held)
  have clock {m : Moment} (held : Unsaved pid w m) : Holds (machine tar).record (UpdateCase serde Promoted w)
      (fun _ => Unsaved pid w) (@Program.request Sig ε .now) m := by
    have now : Quiet .now := quiet_of_silent rfl
    exact ((Calls.request now).stable (Unsaved.stable pid w) held).mono (fun _ => early) (fun _ _ _ held => held)
  refine Holds.bind _ (clock start) ?_ (fun _ _ held _ => held)
  intro now m _ held
  dsimp only
  split
  · exact ⟨early held,early held⟩
  · refine Holds.bind _ (clock held) ?_ (fun _ _ held _ => held)
    intro now m _ held
    split
    · exact ⟨early held,early held⟩
    · exact promote_view read pending _ held

theorem finalize_view {ε : Type} (cfg : UpgradeConfig) :
    Holds (machine tar).record (UpdateCase serde Promoted w) (fun _ => UpdateCase serde Promoted w)
      (finalizeIfStable serde installRoot pid cfg : Prog ε (Option (Except Error Unit))) (w,[]) := by
  have early {m : Moment} (held : Unsaved pid w m) : UpdateCase serde Promoted w m := .inl (readState_unsaved held)
  have now : Quiet .now := quiet_of_silent rfl
  apply Holds.bind (fun outcome m => Unsaved pid w m ∧ ∃ loaded, outcome = .ok loaded ∧
    Reported serde loaded.toOption m)
  · apply Holds.attempt
    exact (load_holds (Unsaved.stable pid w) (unsaved_start pid w)).mono (fun _ => early)
      (fun loaded _ held ends => ⟨held,loaded,rfl,ends⟩)
  · intro loaded m _ ended
    obtain ⟨held,_,same,reported⟩ := ended
    obtain rfl := Except.ok.inj same
    cases loaded with
    | error error => exact ⟨early held,early held⟩
    | ok s =>
      have read : readState serde w = some s := (readState_unsaved held).symm.trans (reported.1 s rfl)
      dsimp only
      split
      · exact ⟨early held,early held⟩
      next pending =>
        have pending : s.status = .pendingHealth := Decidable.not_not.mp pending
        split
        · exact ⟨early held,early held⟩
        next last _ =>
          exact finalizeFrom_view read pending cfg last held
  · intro error m _ ended
    obtain ⟨_,_,same,_⟩ := ended
    cases same

theorem noteHealth_quiet (s : InstallState) : Uses Quiet (noteHealth s) := by
  unfold noteHealth
  split
  · exact (Calls.request (quiet_of_silent rfl)).bind fun _ => trivial
  · trivial

theorem beat_uses {ε : Type} : Uses (Saves pid) (recordHealthyBeat serde installRoot pid : Prog ε (Except Error Unit)) :=
  (update_uses serde installRoot pid noteHealth_quiet).attempt

theorem finalize_uses {ε : Type} (cfg : UpgradeConfig) :
    Uses (Saves pid) (finalizeIfStable serde installRoot pid cfg : Prog ε (Option (Except Error Unit))) := by
  have silently {operation : Call} (quiet : silent operation = true) : Saves pid operation :=
    .quiet (quiet_of_silent quiet)
  refine ((load_uses serde installRoot).mono fun _ => .quiet).attempt.bind fun loaded => ?_
  cases loaded with
  | error error => trivial
  | ok s =>
    dsimp only
    split
    · trivial
    · split
      · trivial
      · refine (Calls.request (silently rfl)).bind fun now => ?_
        dsimp only
        split
        · trivial
        · refine (Calls.request (silently rfl)).bind fun now => ?_
          split
          · trivial
          · have promotes (s : InstallState) : Uses Quiet (return {s with status := .stable} : Prog Error InstallState) :=
              trivial
            refine (update_uses serde installRoot pid promotes).attempt.bind fun saved => ?_
            exact (Calls.ignore (Calls.sys (silently rfl))).bind fun _ => trivial

end Boot
end GatewaySdk.Upgrade
