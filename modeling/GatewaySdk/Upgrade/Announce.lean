import GatewaySdk.Upgrade.Respawn

/-! What the events of a rollback say, beside where the link was when they were sent. -/
namespace GatewaySdk.Upgrade
open GatewaySdk.Effect GatewaySdk.Host

/-- A rollback was announced with these versions while the link was so. -/
def Announced (fromVersion toVersion : Option String) (link : Option Node) (event : Event Sig Choice World) : Prop :=
  (∃ message, event.operation = .trySend (rolledBackEvent fromVersion toVersion message)) ∧
    event.before.node .current = link

/-- Where the event tells of a rollback, it is from the version that failed and to the
one that is live as it is sent. -/
def TellsTrue (failed : String) (event : Event Sig Choice World) : Prop :=
  ∀ e, event.operation = .trySend e → e.errorCode = "upgrade_rolled_back" → e.fromVersion = some failed ∧
    ∃ q, e.toVersion = some q ∧ event.before.node .current = some (.symlink (.version q))

def SamePair (event other : Event Sig Choice World) : Prop :=
  ∀ e o, event.operation = .trySend e → other.operation = .trySend o → e.errorCode = "upgrade_rolled_back" →
    o.errorCode = "upgrade_rolled_back" → e.fromVersion = o.fromVersion ∧ e.toVersion = o.toVersion

/-- Every event of a rollback is true of the version that failed, and all agree. -/
def EventsTrue (failed : String) (log : Log) : Prop :=
  (∀ event ∈ log, TellsTrue failed event) ∧ ∀ event ∈ log, ∀ other ∈ log, SamePair event other

/-- An event of a rollback names this version twice and finds it live. -/
def NamesTwice (v : String) (event : Event Sig Choice World) : Prop :=
  ∀ e, event.operation = .trySend e → e.errorCode = "upgrade_rolled_back" → e.fromVersion = some v ∧
    e.toVersion = some v ∧ event.before.node .current = some (.symlink (.version v))

theorem EventsTrue.of_names {v : String} {log : Log} (names : ∀ event ∈ log, NamesTwice v event) : EventsTrue v log := by
  constructor
  · intro event member e sent code
    obtain ⟨failed,live,link⟩ := names event member e sent code
    exact ⟨failed,v,live,link⟩
  · intro event member other member' e o sent sent' code code'
    obtain ⟨failed,live,_⟩ := names event member e sent code
    obtain ⟨failed',live',_⟩ := names other member' o sent' code'
    exact ⟨failed.trans failed'.symm,live.trans live'.symm⟩

section Boot
variable {tar : TarCrate} {serde : Serde} {installRoot : String} {pid : Nat} {s : InstallState} {w : World} {m : Moment}
  {maxBootAttempts : UInt32}

/-- What the event of a boot that rolls back says. -/
def Tells (s : InstallState) (w : World) (m : Moment) : Prop :=
  (∃ p, s.previousVersion = some p ∧
    Saw (Announced (some p) (some s.currentVersion) (some (.symlink (.version p)))) m.2) ∨
    Saw (Announced (some s.currentVersion) s.previousVersion (w.node .current)) m.2

/-- The event says of a revert that succeeded the opposite of what was done. -/
theorem rollBack_tells (link : m.1.node .current = w.node .current) (swap : ¬ Done swapped m.2) :
    Holds (machine tar).record (fun _ => True) (fun _ => Tells s w) (rollBack serde installRoot pid s) m := by
  have reverts := @revert_holds tar installRoot s m.1 m ⟨rfl,swap⟩ (.refl _ _) fun _ _ there => there
  apply Holds.bind (fun outcome m => ∃ reverted, outcome = .ok reverted ∧
    ((∃ p, reverted = .ok (revertedState s p) ∧ s.previousVersion = some p ∧
        m.1.node .current = some (.symlink (.version p))) ∨
      (∃ error, reverted = .error error) ∧ m.1.node .current = w.node .current))
  · apply Holds.attempt
    refine reverts.mono (fun _ _ => trivial) (fun outcome m _ ended => ⟨outcome,rfl,ended.2.imp ?_ ?_⟩)
    · exact fun done => done.imp fun p held => ⟨held.1,held.2.1,held.2.2.2.1⟩
    · exact fun failed => ⟨failed.1,failed.2.1.trans link⟩
  · rintro reverted m _ ⟨_,same,ended⟩
    obtain rfl := Except.ok.inj same
    have keep (entry : Option Node) : Stable (machine tar) (Saves pid) (fun m => m.1.node .current = entry) :=
      (Stable.entry .current fun e => e = entry).mono fun _ => Saves.current
    have sends {entry : Option Node} {fromVersion toVersion : Option String} {message : String} {saved : Except Error Unit}
        {m : Moment} (live : m.1.node .current = entry)
        (told : ∀ m, Saw (Announced fromVersion toVersion entry) m.2 → Tells s w m) :
        Holds (machine tar).record (fun _ => True) (fun _ => Tells s w) (do
          ignore (Io.trySend (rolledBackEvent fromVersion toVersion message))
          return .exited 1 saved : Prog Error BootEnd) m := by
      apply Holds.bind (fun _ => Tells s w)
      · apply Run.ignore
        refine Run.sys trivial (fun choice answer v answered => ⟨trivial,told _ ?_⟩)
        exact saw_snoc.mpr (.inr ⟨⟨message,rfl⟩,live⟩)
      · exact fun _ _ _ held => ⟨trivial,held⟩
      · exact fun _ _ _ held => held
    obtain ⟨p,rfl,named,live⟩ | ⟨⟨error,rfl⟩,live⟩ := ended
    · refine Holds.bind _ (attempt_goes (save_uses serde installRoot pid _) (keep _) live) ?_ (fun _ _ _ held => nomatch held.1)
      exact fun saved m _ held => sends held.2 fun m saw => .inl ⟨p,named,saw⟩
    · refine Holds.bind _ (attempt_goes (save_uses serde installRoot pid _) (keep _) live) ?_ (fun _ _ _ held => nomatch held.1)
      exact fun saved m _ held => sends held.2 fun m saw => .inr saw
  · rintro error m _ ⟨_,same,_⟩
    cases same

theorem boot_tells (cfg : Option UpgradeConfig) :
    Holds (machine tar).record (fun _ => True)
      (fun outcome m => exits outcome = true → ∃ s, readState serde w = some s ∧ Tells s w m)
      (runBootWatchdog serde pid cfg) (w,[]) := by
  have stays {outcome : Except Error BootEnd} {m : Moment} (returned : exits outcome = false) :
      exits outcome = true → ∃ s, readState serde w = some s ∧ Tells s w m :=
    fun leaves => absurd (returned.symm.trans leaves) (by decide)
  apply boot_rule cfg (Stable.const True) trivial
  · exact fun m _ _ => ⟨trivial,stays rfl⟩
  intro installRoot s m read _ held _
  cases status : s.status with
  | stable | stagedManual =>
    simp only [bootFrom,status]
    exact ⟨trivial,stays rfl⟩
  | rolledBack =>
    simp only [bootFrom,status]
    exact (announce_returns installRoot).mono (fun _ _ => trivial) (fun outcome m _ returned => stays returned)
  | pendingHealth =>
    simp only [bootFrom,status]
    have still : Stable (machine tar) Still (fun m => m.1.node .current = w.node .current ∧ ¬ Done swapped m.2) :=
      ((Stable.entry .current fun e => e = w.node .current).mono fun _ still => still .current).and
        (Stable.not_done fun still => still .current (.inr rfl))
    refine Holds.bind _ (((bump_still serde).stable still held.1.1).mono (fun _ _ => trivial)
      (fun _ _ _ held => held)) ?_ (fun _ _ _ _ => stays rfl)
    intro attempt m _ kept
    split
    · exact (rollBack_tells kept.1 kept.2).mono (fun _ now => now) (fun _ _ _ told _ => ⟨s,read,told⟩)
    · exact ⟨trivial,stays rfl⟩

def Mute (operation : Call) : Prop := ∀ e, operation ≠ .trySend e

theorem Looks.mute {operation : Call} (looks : Looks operation) : Mute operation := by
  cases looks with
  | exists_ | opens | locks | reads | unlocks | closes => exact nofun

theorem save_mute : Uses Mute (save serde installRoot pid s) := by
  have lock (file : Option Handle) : Uses Mute (lockDest file) := by
    cases file with
    | none => trivial
    | some file => exact Calls.context (Calls.sys nofun)
  have unlock (file : Option Handle) : Uses Mute (unlockDest file) := by
    cases file with
    | none => trivial
    | some file => exact Calls.ignore (Calls.sys nofun)
  refine (Calls.context (Calls.sys nofun)).bind fun _ => ?_
  refine (Calls.context (Calls.sys nofun)).bind fun tmp => ?_
  refine (Uses.attempt (Calls.sys nofun)).bind fun destLock => ?_
  apply closingOption_uses (fun _ => nofun)
  refine (Calls.closing nofun ?_).bind fun _ => ?_
  · refine (lock _).bind fun _ => ?_
    refine (Calls.context (Calls.sys nofun)).bind fun _ => ?_
    exact (Calls.context (Calls.sys nofun)).bind fun _ => Calls.context (Calls.sys nofun)
  · refine (Calls.context (Calls.sys nofun)).bind fun _ => ?_
    exact (Calls.ignore (Calls.sys nofun)).bind fun _ => unlock _

theorem bump_mute : Uses Mute (bumpBootAttempts serde) := by
  refine (Calls.bare (Calls.sys nofun)).bind fun file => ?_
  apply Calls.closing nofun
  refine (Calls.bare (Calls.sys nofun)).bind fun _ => ?_
  refine (Calls.bare (Calls.sys nofun)).bind fun _ => ?_
  refine (Calls.bare (Calls.sys nofun)).bind fun text => ?_
  cases serde.fromStr text with
  | none => trivial
  | some state =>
    refine (Calls.bare (Calls.sys nofun)).bind fun _ => ?_
    refine (Calls.bare (Calls.sys nofun)).bind fun _ => ?_
    refine (Calls.bare (Calls.sys nofun)).bind fun _ => ?_
    refine (Calls.bare (Calls.sys nofun)).bind fun _ => ?_
    refine (Calls.bare (Calls.sys nofun)).bind fun _ => ?_
    exact (Calls.ignore (Calls.sys nofun)).bind fun _ => trivial

theorem revert_mute : Uses Mute (revertToPrevious installRoot s) := by
  unfold revertToPrevious
  cases s.previousVersion with
  | none => trivial
  | some p =>
    refine (Calls.request nofun).bind fun there => ?_
    refine (Uses.ofExcept _).bind fun _ => ?_
    refine (Calls.ignore (Calls.sys nofun)).bind fun _ => ?_
    refine (Calls.bare (Calls.sys nofun)).bind fun _ => ?_
    exact (Calls.bare (Calls.sys nofun)).bind fun _ => trivial

def AllTwice (v : String) (m : Moment) : Prop := ¬ Saw (fun event => ¬ NamesTwice v event) m.2

theorem AllTwice.stable (v : String) : Stable (machine tar) Mute (AllTwice v) :=
  Stable.not_saw fun _ mute wrong => wrong fun e sent _ => absurd sent (mute e)

/-- The version is live, and no event has said otherwise. -/
def LiveTwice (v : String) (m : Moment) : Prop := m.1.node .current = some (.symlink (.version v)) ∧ AllTwice v m

theorem LiveTwice.stable (v : String) :
    Stable (machine tar) (fun operation => Apart .current operation ∧ Mute operation) (LiveTwice v) :=
  ((Stable.entry .current fun e => e = some (.symlink (.version v))).mono fun _ ok => ok.1).and
    ((AllTwice.stable v).mono fun _ ok => ok.2)

theorem save_apart (s : InstallState) :
    Uses (fun operation => Apart .current operation ∧ Mute operation) (save serde installRoot pid s) :=
  ((save_uses serde installRoot pid s).mono fun _ => Saves.current).and save_mute

/-- The state names this version as the current and as the previous one. -/
def Twice (v : String) (s : InstallState) : Prop := s.currentVersion = v ∧ s.previousVersion = some v

theorem send_twice {v : String} {fromVersion toVersion : Option String} {message : String} (failed : fromVersion = some v)
    (live : toVersion = some v) (held : LiveTwice v m) :
    Holds (machine tar).record (LiveTwice v) (fun _ => LiveTwice v)
      (ignore (Io.trySend (rolledBackEvent fromVersion toVersion message)) : Prog Error Unit) m := by
  apply Run.ignore
  refine Run.sys held (fun choice answer w' answered => ?_)
  have sent : LiveTwice v (w',m.2 ++ [⟨m.1,.trySend (rolledBackEvent fromVersion toVersion message),choice,answer⟩]) := by
    have quiet : Quiet (.trySend (rolledBackEvent fromVersion toVersion message)) := quiet_of_silent rfl
    refine ⟨?_,fun saw => ?_⟩
    · exact (Stable.entry .current fun e => e = some (.symlink (.version v))).after (fun own => quiet.touches _ own)
        held.1 answered
    · obtain before | now := saw_snoc.mp saw
      · exact held.2 before
      · refine now fun e same _ => ?_
        cases same
        exact ⟨failed,live,held.1⟩
  exact ⟨sent,sent⟩

theorem announce_twice {v : String} (twice : Twice v s) (held : LiveTwice v m) :
    Holds (machine tar).record (LiveTwice v) (fun _ => LiveTwice v) (announceRollback serde installRoot pid s) m := by
  obtain ⟨current,previous⟩ := twice
  unfold announceRollback
  rw [previous,current]
  refine Holds.next (send_twice rfl rfl held) ?_ (fun _ _ held => held)
  intro _ m held
  refine Holds.next ((save_apart _).attempt.stable (LiveTwice.stable v) held) ?_ (fun _ _ held => held)
  exact fun _ _ held => ⟨held,held⟩

theorem rollBack_twice {v : String} (twice : Twice v s) (held : LiveTwice v m) (swap : ¬ Done swapped m.2) :
    Holds (machine tar).record (LiveTwice v) (fun _ => LiveTwice v) (rollBack serde installRoot pid s) m := by
  obtain ⟨current,previous⟩ := twice
  have reverts := @revert_holds tar installRoot s m.1 m ⟨rfl,swap⟩ (.refl _ _) fun _ _ there => there
  have only {p : String} {m' : Moment} (link : Reverted s p m.1 m') : p = v :=
    Option.some.inj (link.1.symm.trans previous)
  apply Holds.bind (fun outcome m => ∃ reverted, outcome = .ok reverted ∧ Twice v (reverted.toOption.getD s) ∧ LiveTwice v m)
  · apply Holds.attempt
    refine (reverts.and (revert_mute.stable (AllTwice.stable v) held.2)).mono ?_ ?_
    · rintro m' ⟨⟨_,link | ⟨p,link⟩⟩,twice⟩
      · exact ⟨link.1.trans held.1,twice⟩
      · exact ⟨only link ▸ link.2.2.1,twice⟩
    · rintro outcome m' _ ⟨⟨_,⟨p,rfl,link⟩ | ⟨⟨error,rfl⟩,link⟩⟩,twice⟩
      · obtain rfl := only link
        exact ⟨_,rfl,⟨rfl,congrArg some current⟩,link.2.2.1,twice⟩
      · exact ⟨_,rfl,⟨current,previous⟩,link.1.trans held.1,twice⟩
  · rintro reverted m _ ⟨_,same,⟨current,previous⟩,held⟩
    obtain rfl := Except.ok.inj same
    refine Holds.next ((save_apart _).attempt.stable (LiveTwice.stable v) held) ?_ (fun _ _ held => held)
    intro saved m held
    refine Holds.next (send_twice (congrArg some current) previous held) ?_ (fun _ _ held => held)
    exact fun _ m held => ⟨held,held⟩
  · rintro error m _ ⟨_,same,_⟩
    cases same

theorem boot_twice {v : String} (cfg : Option UpgradeConfig) (live : w.node .current = some (.symlink (.version v)))
    (names : ∀ s, readState serde w = some s → Twice v s) :
    Holds (machine tar).record (LiveTwice v) (fun _ => LiveTwice v) (runBootWatchdog serde pid cfg) (w,[]) := by
  have looks : Stable (machine tar) Looks (LiveTwice v) :=
    (LiveTwice.stable v).mono fun _ looks => ⟨fun own => looks.quiet.touches _ own,looks.mute⟩
  apply boot_rule cfg looks ⟨live,not_saw_nil _⟩
  · exact fun m _ held => ⟨held,held⟩
  intro installRoot s m read _ early held
  have twice := names s read
  cases status : s.status with
  | stable | stagedManual =>
    simp only [bootFrom,status]
    exact ⟨held,held⟩
  | rolledBack =>
    simp only [bootFrom,status]
    exact announce_twice twice held
  | pendingHealth =>
    simp only [bootFrom,status]
    have still : Stable (machine tar) (fun operation => Still operation ∧ Mute operation)
        (fun m => LiveTwice v m ∧ ¬ Done swapped m.2) :=
      ((LiveTwice.stable v).mono fun _ ok => ⟨ok.1 .current,ok.2⟩).and
        (Stable.not_done fun ok => ok.1 .current (.inr rfl))
    refine Holds.bind _ ((((bump_still serde).and bump_mute).stable still ⟨held,early.1.1.2⟩).mono (fun _ held => held.1)
      (fun _ _ _ held => held)) ?_ (fun _ _ _ held => held.1)
    intro attempt m _ kept
    split
    · exact rollBack_twice twice kept.1 kept.2
    · exact ⟨kept.1,kept.1⟩

end Boot

section Events
variable {crates : Crates} {w : World} {boot : Boot} {s : InstallState} {v : String}

/-- The boot comes to its end by leaving the process. -/
def Leaves (crates : Crates) (w : World) (boot : Boot) : Prop :=
  ∃ outcome, (boot.run crates w).1.result = some outcome ∧ exits outcome = true

theorem twice_after (names : ∀ s, readState crates.serde w = some s → Twice v s) :
    ∀ t, readState crates.serde (boot.after crates w) = some t → Twice v t := by
  intro u found
  have now {t : InstallState} (state : readState crates.serde (boot.after crates w) = some t) (twice : Twice v t) :
      Twice v u := Option.some.inj (state.symm.trans found) ▸ twice
  cases @boot_moment crates w boot.choices boot.cfg boot.pid with
  | same link state => exact names u (state.symm.trans found)
  | torn t read pending link state cut => exact nomatch state.symm.trans found
  | counted t read pending link state => exact now state (names t read)
  | reverting t p read pending spent link state => exact now state (names t read)
  | rolledBack t p read pending spent link state =>
    obtain ⟨current,previous⟩ := names t read
    exact now state ⟨Option.some.inj (link.1.symm.trans previous),congrArg some current⟩
  | unreverted t read pending spent link state record => exact now state (names t read)
  | announced t read status link state => exact now state (names t read)

theorem boot_names (live : w.node .current = some (.symlink (.version v)))
    (names : ∀ s, readState crates.serde w = some s → Twice v s) :
    (boot.after crates w).node .current = some (.symlink (.version v)) ∧
      ∀ event ∈ (boot.act.moment crates w).2, NamesTwice v event := by
  have held : LiveTwice v (boot.act.moment crates w) :=
    ((@boot_twice crates.tar crates.serde boot.pid w v boot.cfg live names).run boot.choices).1
  refine ⟨held.1,fun event member => ?_⟩
  by_contra wrong
  exact held.2 ⟨event,member,wrong⟩

/-- What the boot that rolls back says is true only where nothing was there to change. -/
theorem twice_of_true {log : Log} (live : w.node .current = some (.symlink (.version v)))
    (told : Tells s w (boot.act.moment crates w)) (right : EventsTrue v ((boot.act.moment crates w).2 ++ log)) :
    Twice v s := by
  have pair {fromVersion toVersion : Option String} {link : Option Node}
      (saw : Saw (Announced fromVersion toVersion link) (boot.act.moment crates w).2) :
      fromVersion = some v ∧ ∃ q, toVersion = some q ∧ link = some (.symlink (.version q)) := by
    obtain ⟨event,member,⟨message,sent⟩,there⟩ := saw
    obtain ⟨failed,q,named,found⟩ := right.1 event (List.mem_append_left _ member) _ sent rfl
    exact ⟨failed,q,named,there.symm.trans found⟩
  obtain ⟨p,previous,saw⟩ | saw := told
  · obtain ⟨failed,q,named,link⟩ := pair saw
    have same : p = q := by simpa using link
    exact ⟨(Option.some.inj named).trans (same.symm.trans (Option.some.inj failed)),previous.trans failed⟩
  · obtain ⟨failed,q,named,link⟩ := pair saw
    have same : v = q := by simpa using live.symm.trans link
    exact ⟨Option.some.inj failed,same ▸ named⟩

/-- Where a boot leaves the process because the live version failed, the events of that
boot and of the next are true exactly where the state named that version as the current
and as the previous one. -/
theorem rollback_events_true_iff (crates : Crates) (w : World) (s : InstallState) (v : String) (first next : Boot)
    (read : readState crates.serde w = some s) (live : w.node .current = some (.symlink (.version v)))
    (left : Leaves crates w first) :
    EventsTrue v ((first.act.moment crates w).2 ++ (next.act.moment crates (first.after crates w)).2) ↔
      s.currentVersion = v ∧ s.previousVersion = some v := by
  obtain ⟨outcome,ended,leaves⟩ := left
  obtain ⟨t,found,told⟩ := ((@boot_tells crates.tar crates.serde first.pid w first.cfg).run first.choices).2 outcome ended leaves
  obtain rfl := Option.some.inj (read.symm.trans found)
  constructor
  · exact twice_of_true live told
  · intro twice
    have names (t : InstallState) (found : readState crates.serde w = some t) : Twice v t :=
      Option.some.inj (read.symm.trans found) ▸ twice
    obtain ⟨still,before⟩ := @boot_names crates w first v live names
    have after := (@boot_names crates (first.after crates w) next v still (twice_after names)).2
    exact EventsTrue.of_names fun event member => (List.mem_append.mp member).elim (before event) (after event)

end Events

namespace Sample

def overItself : InstallState := stateOf "0.45.4" (some "0.45.4") .pendingHealth 3 143

noncomputable def knowingItself : Crates :=
  knowing [overItself,bumped overItself,{overItself with status := .rolledBack}]

theorem attempt_leaves (known : List InstallState) (s : InstallState)
    (leaves : (lastAttempt.run (knowing known) (upgraded s)).1.result.map exits = some true) :
    Leaves (knowing known) (upgraded s) lastAttempt := by
  obtain ⟨outcome,ended,left⟩ := Option.map_eq_some_iff.mp leaves
  exact ⟨outcome,ended,left⟩

end Sample

theorem sample_events_true :
    EventsTrue "0.45.4" ((Sample.lastAttempt.act.moment Sample.knowingItself (Sample.upgraded Sample.overItself)).2 ++
      (Sample.restoredBoot.act.moment Sample.knowingItself
        (Sample.lastAttempt.after Sample.knowingItself (Sample.upgraded Sample.overItself))).2) :=
  (rollback_events_true_iff Sample.knowingItself (Sample.upgraded Sample.overItself) Sample.overItself "0.45.4"
    Sample.lastAttempt Sample.restoredBoot (Sample.readState_upgraded _ _) rfl
    (Sample.attempt_leaves _ _ (by decide +kernel))).mpr ⟨rfl,rfl⟩

/-- The boot that goes back from 0.45.4 to 0.45.3 says that 0.45.3 failed. -/
theorem sample_events_false :
    Leaves Sample.knowingRollback (Sample.upgraded Sample.exhausted) Sample.lastAttempt ∧
      ¬ EventsTrue "0.45.4" ((Sample.lastAttempt.act.moment Sample.knowingRollback (Sample.upgraded Sample.exhausted)).2 ++
        (Sample.restoredBoot.act.moment Sample.knowingRollback
          (Sample.lastAttempt.after Sample.knowingRollback (Sample.upgraded Sample.exhausted))).2) := by
  refine ⟨Sample.attempt_leaves _ _ (by decide +kernel),fun right => ?_⟩
  have told : ((Sample.lastAttempt.act.moment Sample.knowingRollback (Sample.upgraded Sample.exhausted)).2.any fun event =>
      event.operation == .trySend (rolledBackEvent (some "0.45.3") (some "0.45.4")
        "Upgrade to 0.45.3 failed — reverted symlink to Some(\"0.45.4\"), exiting for respawn")) = true := by
    decide +kernel
  obtain ⟨event,member,sent⟩ := List.any_eq_true.mp told
  obtain ⟨failed,_⟩ := right.1 event (List.mem_append_left _ member) _ (by simpa using sent) rfl
  exact absurd failed (by decide)

end GatewaySdk.Upgrade
