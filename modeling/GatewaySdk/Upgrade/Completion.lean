import GatewaySdk.Upgrade.Lifecycle
import GatewaySdk.Upgrade.ThreadSave

/-! The beats and the tick, each followed through whatever the others do, and from them
every run of a vigil: completion is told of once, and of what is on disk. -/
namespace GatewaySdk.Upgrade
open GatewaySdk.Effect GatewaySdk.Host

variable {tar : TarCrate} {serde : Serde} {cfg : UpgradeConfig} {pid : Nat} {origin : Option InstallState} {i : Nat}
  {ε α : Type} {may : Call → Choice → Shared → Prop} {σ σ' : Shared} {s t : InstallState}

/-- What a call meets in a vigil that is undisturbed. -/
def meets (serde : Serde) (pid : Nat) (who : Who) (operation : Call) (choice : Choice) (σ : Shared) : Prop :=
  Undisturbed serde pid who operation choice σ.world

theorem asks_thread {operation : Call} {P : Shared → Prop} (stays : Stays tar serde pid origin i P) (now : P σ)
    (quiet : Quiet operation) (mute : sends operation = false) :
    Thread tar serde pid origin i may (Ended (fun _ => P) fun _ => False) (@Program.request Sig ε operation) σ := by
  intro σ choice move _
  obtain ⟨grants,after⟩ := Thread.framed stays (stays.rely now move) quiet mute choice rfl
  exact ⟨fun _ => grants,fun _ further => stays.rely after further⟩

theorem looks_thread {P : Shared → Prop} {program : Prog ε α} (looks : Uses Looks program)
    (stays : Stays tar serde pid origin i P) (now : P σ) : Thread tar serde pid origin i may (fun _ => P) program σ := by
  induction program generalizing σ with
  | pure value => exact Thread.pure stays now
  | fail error => exact Thread.fail stays now
  | call operation next ih =>
    intro σ choice move _
    have mute : sends operation = false := by
      cases looks.1 <;> rfl
    obtain ⟨grants,after⟩ := Thread.framed stays (stays.rely now move) looks.1.quiet mute choice rfl
    exact ⟨fun _ => grants,ih _ (looks.2 _) after⟩

section Beat

theorem beat_replaces (known : Descends origin t) :
    Replaces tar serde pid origin i (meets serde pid .beat) (Sane tar serde pid origin) (Sane tar serde pid origin) t := by
  intro σ n choice drafted permitted answered
  obtain ⟨sane,owned,whole⟩ := drafted
  have fine : choice.fails = false := by
    cases fails : choice.fails with
    | false => rfl
    | true => simp [machine,Host.failure,recorded,fails] at answered
  have found := (sane.draft i n owned).1
  have draft : (σ.world.content (.stateTmp pid)).bind serde.fromStr = some t := by
    simp [World.content,found,whole,serde.fromStr_toVecPretty]
  have level (s : InstallState) (read : readState serde σ.world = some s) : t.status = s.status :=
    permitted rfl fine t s draft read
  have told (some : completions σ.log ≠ []) : t.status = .stable := by
    obtain ⟨s,read,stable⟩ := sane.settled some
    exact (level s read).trans stable
  obtain ⟨grants,_⟩ := replace_grants choice sane owned whole known told fun _ => level
  exact ⟨grants,grants.sane⟩

/-- What a thread may go on with: this state descends from the first. -/
def Descended (tar : TarCrate) (serde : Serde) (pid : Nat) (origin : Option InstallState) (s : InstallState)
    (σ : Shared) : Prop := Sane tar serde pid origin σ ∧ Descends origin s

theorem noteHealth_thread (known : Descends origin s) (sane : Sane tar serde pid origin σ) :
    Thread tar serde pid origin i may (Ended (Descended tar serde pid origin) fun _ => False) (noteHealth s) σ := by
  have ends (t : InstallState) : Stays tar serde pid origin i (Descended tar serde pid origin t) := sane_lasts.stays.const _
  unfold noteHealth
  split
  · refine Thread.bind _ (asks_thread sane_lasts.stays sane (quiet_of_silent rfl) rfl) ?_ fun _ _ absurd => absurd.elim
    exact fun now σ sane => Thread.pure (ends _) ⟨sane,known.withHealth _⟩
  · exact Thread.pure (ends s) ⟨sane,known⟩

theorem beat_thread {installRoot : String} (sane : Sane tar serde pid origin σ) :
    Thread tar serde pid origin i (meets serde pid .beat) (fun _ => Sane tar serde pid origin)
      (recordHealthyBeat serde installRoot pid : Prog ε (Except Error Unit)) σ := by
  have loose : Firmly (meets serde pid .beat) False := nofun
  refine Amid.attempt ?_
  refine Thread.bind _ (load_thread loose sane nofun) ?_ fun _ _ now => now.1
  intro s σ loaded
  refine Thread.bind _ (noteHealth_thread loaded.known loaded.sane) ?_ fun _ _ absurd => absurd.elim
  intro t σ now
  refine (save_thread sane_lasts sane_lasts.stays loose nofun nofun (beat_replaces now.2) now.1).mono ?_
  intro outcome σ ended
  cases outcome with
  | ok value => exact ended
  | error error => exact ended.1

end Beat

section Check

/-- What a tick has found where it is to promote. -/
def Decided (tar : TarCrate) (serde : Serde) (pid : Nat) (origin : Option InstallState) :
    Option (InstallState × UInt32) → Shared → Prop
  | none,σ => Sane tar serde pid origin σ
  | some (s,_),σ => Loaded tar serde pid origin 0 s σ ∧ s.status = .pendingHealth

abbrev CheckEnd (tar : TarCrate) (serde : Serde) (pid : Nat) (origin : Option InstallState) :
    Except ε (Option (InstallState × UInt32)) → Shared → Prop :=
  Ended (Decided tar serde pid origin) fun _ => False

theorem decided_stays (found : Option (InstallState × UInt32)) :
    Stays tar serde pid origin 0 (Decided tar serde pid origin found) := by
  cases found with
  | none => exact sane_lasts.stays
  | some pair => exact (loaded_lasts pair.1).stays.const _

theorem checkEnd_stays (outcome : Except ε (Option (InstallState × UInt32))) :
    Stays tar serde pid origin 0 (CheckEnd tar serde pid origin outcome) :=
  ended_stays decided_stays ⟨False.elim,fun absurd _ => absurd.elim⟩ outcome

theorem checkAges_thread {last : Int} (loaded : Loaded tar serde pid origin 0 s σ) (pending : s.status = .pendingHealth) :
    Thread tar serde pid origin 0 may (CheckEnd tar serde pid origin)
      (checkAges cfg s last : Prog ε (Option (InstallState × UInt32))) σ := by
  have stays : Stays tar serde pid origin 0 (Loaded tar serde pid origin 0 s) := (loaded_lasts s).stays
  refine Thread.bind _ (asks_thread stays loaded (quiet_of_silent rfl) rfl) ?_ fun _ _ absurd => absurd.elim
  intro now σ loaded
  dsimp only
  split
  · exact Thread.pure (checkEnd_stays _) loaded.sane
  · refine Thread.bind _ (asks_thread stays loaded (quiet_of_silent rfl) rfl) ?_ fun _ _ absurd => absurd.elim
    intro now σ loaded
    split
    · exact Thread.pure (checkEnd_stays _) loaded.sane
    · exact Thread.pure (checkEnd_stays _) ⟨loaded,pending⟩

/-- What a tick is to promote is under watch, and stays so until it does. -/
theorem checkStable_thread {installRoot : String} (sane : Sane tar serde pid origin σ) :
    Thread tar serde pid origin 0 may (CheckEnd tar serde pid origin)
      (checkStable serde installRoot cfg : Prog ε (Option (InstallState × UInt32))) σ := by
  have loose : Firmly may False := nofun
  refine Thread.bind _ (Thread.attempt (load_thread loose sane nofun)) ?_ fun _ _ absurd => absurd.elim
  intro r σ ended
  cases r with
  | error e => exact Thread.pure (checkEnd_stays _) ended.1
  | ok s =>
    have loaded : Loaded tar serde pid origin 0 s σ := ended
    dsimp only
    split
    · exact Thread.pure (checkEnd_stays _) loaded.sane
    next pending =>
      cases s.lastHealthAt with
      | none => exact Thread.pure (checkEnd_stays _) loaded.sane
      | some last => exact checkAges_thread loaded (not_not.mp pending)

end Check

section Promotion

def Pending (tar : TarCrate) (serde : Serde) (pid : Nat) (origin : Option InstallState) (v : String) (σ : Shared) : Prop :=
  Sane tar serde pid origin σ ∧ OnDisk serde v .pendingHealth σ.world

/-- This version has been made stable, and nobody has been told. -/
structure Made (tar : TarCrate) (serde : Serde) (pid : Nat) (origin : Option InstallState) (v : String) (σ : Shared) :
    Prop where
  sane : Sane tar serde pid origin σ
  disk : OnDisk serde v .stable σ.world
  made : ∃ event ∈ σ.log, Promotes tar serde v event
  silent : completions σ.log = []

variable {v : String} {status : UpgradeStatus}

/-- The version on disk is always the same, and its status is the tick's to change. -/
theorem onDisk_moved (sane : Sane tar serde pid origin σ) (around : Around tar serde pid origin 0 σ σ')
    (disk : OnDisk serde v status σ.world) : OnDisk serde v status σ'.world := by
  obtain ⟨s,read,rfl,rfl⟩ := disk
  obtain ⟨t,found,same⟩ := around.read s read
  exact ⟨t,found,(around.sane.known t found).sameVersion (sane.known s read),same rfl⟩

theorem pending_lasts (v : String) : Lasts tar serde pid origin 0 (Pending tar serde pid origin v) :=
  ⟨fun now => now.1,fun now around => ⟨around.sane,onDisk_moved now.1 around now.2⟩⟩

theorem made_lasts (v : String) : Lasts tar serde pid origin 0 (Made tar serde pid origin v) := by
  refine ⟨Made.sane,fun now around => ⟨around.sane,onDisk_moved now.sane around now.disk,?_,?_⟩⟩
  · obtain ⟨event,member,promotes⟩ := now.made
    exact ⟨event,around.log.subset member,promotes⟩
  · exact (around.quiet rfl).trans now.silent

theorem Pending.silent (pending : Pending tar serde pid origin v σ) : completions σ.log = [] := by
  by_contra told
  obtain ⟨s,read,stable⟩ := pending.1.settled told
  obtain ⟨t,found,_,watched⟩ := pending.2
  obtain rfl := Option.some.inj (read.symm.trans found)
  rw [stable] at watched
  cases watched

theorem promotion_replaces (known : Descends origin t) (version : t.currentVersion = v) (stable : t.status = .stable) :
    Replaces tar serde pid origin 0 may (Pending tar serde pid origin v) (Made tar serde pid origin v) t := by
  intro σ n choice drafted _ answered
  obtain ⟨pending,owned,whole⟩ := drafted
  obtain ⟨grants,read⟩ := replace_grants choice pending.1 owned whole known (fun _ => stable) fun other => absurd rfl other
  have disk : OnDisk serde v .stable (σ.world.move (.stateTmp pid) .stateJson) := ⟨t,read,version,stable⟩
  refine ⟨grants,grants.sane,disk,⟨_,List.mem_append_right _ (List.mem_singleton_self _),pending.2,?_⟩,?_⟩
  · change OnDisk serde v .stable ((machine tar).exec (recorded pid) choice σ.world).2
    rw [answered]
    exact disk
  · change completions (σ.log ++ [_]) = []
    rw [completions_snoc,pending.silent]
    rfl

theorem promotion_firmly : Firmly (meets serde pid .promotion) True :=
  fun _ _ _ _ need permitted => permitted.1 need

theorem announce_thread {told : UpgradeEvent} (named : told.toVersion = some v) (made : Made tar serde pid origin v σ) :
    Thread tar serde pid origin 0 may (Ended (fun _ => Sane tar serde pid origin) fun _ => False)
      (ignore (Io.trySend told) : Prog ε Unit) σ := by
  refine Thread.ignored sane_lasts.stays (Thread.sys (made_lasts v).stays (fun _ => sane_lasts.stays) made ?_)
  intro σ choice answer w' held _ answered
  have files : SameFiles σ.world w' := by
    have effect := @exec_effect tar choice σ.world (.trySend told)
    rw [answered] at effect
    cases effect with
    | same _ files => exact files
    | mkdir _ own | drop _ own | refill _ _ own | link _ _ own | move _ _ own _ | create _ own | write _ _ own =>
      exact own.elim
  have grants := send_grants choice held.sane held.silent named held.made held.disk files
  exact ⟨grants,grants.sane⟩

theorem promoteUpdate_thread {installRoot : String} (known : Descends origin s)
    (pending : Pending tar serde pid origin s.currentVersion σ) :
    Thread tar serde pid origin 0 (meets serde pid .promotion)
      (Ended (fun _ => Made tar serde pid origin s.currentVersion) fun _ => False)
      (update serde installRoot pid (fun s => return {s with status := .stable})) σ := by
  have there (_ : True) (σ : Shared) (now : Pending tar serde pid origin s.currentVersion σ) :
      ∃ t, readState serde σ.world = some t := by
    obtain ⟨t,read,_⟩ := now.2
    exact ⟨t,read⟩
  have room (_ : True) (choice : Choice) (σ : Shared)
      (permitted : meets serde pid .promotion (.openFile (.stateTmp pid) .createNew) choice σ) :
      σ.world.node (.stateTmp pid) = none := permitted.2 rfl
  have loads : Thread tar serde pid origin 0 (meets serde pid .promotion)
      (fun outcome σ => LoadEnd tar serde pid origin 0 True outcome σ ∧ Pending tar serde pid origin s.currentVersion σ)
      (load serde installRoot) σ :=
    (load_thread promotion_firmly pending.1 fun _ => there trivial σ pending).and
      (looks_thread (load_looks serde installRoot) (pending_lasts _).stays pending)
  refine Thread.bind _ loads ?_ fun _ _ now => now.1.2 trivial
  rintro t σ ⟨loaded,pending⟩
  have descends : Descends origin t := loaded.known
  refine (save_thread (pending_lasts _) (made_lasts _).stays promotion_firmly room there
    (promotion_replaces (descends.withStatus .stable) (descends.sameVersion known) rfl) pending).mono ?_
  intro outcome σ ended
  cases outcome with
  | ok value => exact ended
  | error error => exact ended.2 trivial

theorem promote_thread {installRoot : String} {seconds : UInt32} (loaded : Loaded tar serde pid origin 0 s σ)
    (watched : s.status = .pendingHealth) :
    Thread tar serde pid origin 0 (meets serde pid .promotion) (fun _ => Sane tar serde pid origin)
      (promote serde installRoot pid s seconds : Prog ε (Option (Except Error Unit))) σ := by
  have pending : Pending tar serde pid origin s.currentVersion σ := by
    obtain ⟨t,read,same⟩ := loaded.level rfl
    exact ⟨loaded.sane,t,read,(loaded.sane.known t read).sameVersion loaded.known,same.trans watched⟩
  refine Thread.bind _ (Thread.attempt (promoteUpdate_thread loaded.known pending)) ?_ fun _ _ absurd => absurd.elim
  intro r σ ended
  cases r with
  | error e => exact ended.elim
  | ok value =>
    refine Thread.bind _ (announce_thread rfl ended) ?_ fun _ _ absurd => absurd.elim
    exact fun _ σ sane => Thread.pure sane_lasts.stays sane

end Promotion
section Runs
variable {c c' : Vigil} {more : Log} {w : World} {facts : Log}

/-- Every program under way, as far as it has come, beside all the others. -/
structure Followed (tar : TarCrate) (serde : Serde) (pid : Nat) (origin : Option InstallState) (c : Vigil) (σ : Shared) :
    Prop where
  world : σ.world = c.world
  sane : Sane tar serde pid origin σ
  checking : ∀ rest, c.tick = .checking rest →
    Thread tar serde pid origin 0 (meets serde pid .check) (CheckEnd tar serde pid origin) rest σ
  promoting : ∀ rest, c.tick = .promoting rest →
    Thread tar serde pid origin 0 (meets serde pid .promotion) (fun _ => Sane tar serde pid origin) rest σ
  beat : ∀ i rest, c.beat i = some rest →
    Thread tar serde pid origin (i + 1) (meets serde pid .beat) (fun _ => Sane tar serde pid origin) rest σ

theorem Followed.start (tar : TarCrate) (serde : Serde) (pid : Nat) (w : World) :
    Followed tar serde pid (readState serde w) (Vigil.start w) ⟨w,none,[]⟩ where
  world := rfl
  sane := ⟨nofun,fun s read => ⟨s,read,rfl⟩,⟨along_nil _,Nat.zero_le _⟩,fun told => absurd rfl told⟩
  checking _ same := nomatch same
  promoting _ same := nomatch same
  beat _ _ same := nomatch same

theorem Thread.beside {j : Nat} {post : Except ε α → Shared → Prop} {program : Prog ε α}
    (thread : Thread tar serde pid origin j may post program σ) (sane : Sane tar serde pid origin σ)
    (grants : Grants tar serde pid origin i σ σ') (apart : i ≠ j) :
    Thread tar serde pid origin j may post program σ' :=
  Amid.moved (rely_trans j) thread fun _ => grants.relies sane apart

theorem Thread.goes {who : Who} {operation : Call} {choice : Choice} {next : Reply operation → Prog ε α}
    {post : Except ε α → Shared → Prop}
    (thread : Thread tar serde pid origin i (meets serde pid who) post (.call operation next) σ)
    (sane : Sane tar serde pid origin σ) (permitted : Undisturbed serde pid who operation choice σ.world) :
    let made := (machine tar).exec operation choice σ.world
    Grants tar serde pid origin i σ (σ.after tar pid i operation choice made.2) ∧
      Thread tar serde pid origin i (meets serde pid who) post (next made.1)
        (σ.after tar pid i operation choice made.2) := by
  have made := thread σ choice (rely_refl i σ) permitted
  exact ⟨made.1 sane,made.2⟩

theorem update_some {β : Type} {f : Nat → Option β} {i j : Nat} {entry : Option β} {rest : β}
    (same : Function.update f i entry j = some rest) : (j = i ∧ entry = some rest) ∨ (i ≠ j ∧ f j = some rest) := by
  by_cases own : j = i
  · subst own
    rw [Function.update_self] at same
    exact .inl ⟨rfl,same⟩
  · rw [Function.update_of_ne own] at same
    exact .inr ⟨Ne.symm own,same⟩

/-- Every step of a vigil that nothing disturbs keeps all programs on their way. -/
theorem Followed.step (followed : Followed tar serde pid origin c σ)
    (step : Vigil.Step tar serde cfg pid (Undisturbed serde pid) c more c') :
    ∃ σ', Followed tar serde pid origin c' σ' ∧ σ'.log = σ.log ++ more := by
  obtain ⟨world,sane,checking,promoting,beat⟩ := followed
  obtain ⟨w,tick,beats⟩ := c
  obtain rfl : σ.world = w := world
  have quiet : σ.log = σ.log ++ [] := (List.append_nil _).symm
  cases step with
  | ticks idle =>
    refine ⟨σ,⟨rfl,sane,fun rest same => ?_,nofun,beat⟩,quiet⟩
    cases same
    exact checkStable_thread sane
  | passes checked => exact ⟨σ,⟨rfl,sane,nofun,nofun,beat⟩,quiet⟩
  | @decides state seconds checked =>
    obtain ⟨loaded,pending⟩ := checking _ checked σ (rely_refl 0 σ)
    refine ⟨σ,⟨rfl,sane,nofun,fun rest same => ?_,beat⟩,quiet⟩
    cases same
    exact promote_thread loaded pending
  | rests promoted => exact ⟨σ,⟨rfl,sane,nofun,nofun,beat⟩,quiet⟩
  | begins i free =>
    refine ⟨σ,⟨rfl,sane,checking,promoting,fun j rest same => ?_⟩,quiet⟩
    obtain ⟨rfl,now⟩ | ⟨_,before⟩ := update_some same
    · cases now
      exact beat_thread sane
    · exact beat j rest before
  | finishes i done =>
    refine ⟨σ,⟨rfl,sane,checking,promoting,fun j rest same => ?_⟩,quiet⟩
    obtain ⟨_,none⟩ | ⟨_,before⟩ := update_some same
    · cases none
    · exact beat j rest before
  | checks due permitted =>
    obtain ⟨grants,goes⟩ := Thread.goes (checking _ due) sane permitted
    refine ⟨_,⟨rfl,grants.sane,fun rest same => ?_,nofun,fun j rest same => ?_⟩,rfl⟩
    · cases same
      exact goes
    · exact (beat j rest same).beside sane grants (Nat.succ_ne_zero j).symm
  | promotes due permitted =>
    obtain ⟨grants,goes⟩ := Thread.goes (promoting _ due) sane permitted
    refine ⟨_,⟨rfl,grants.sane,nofun,fun rest same => ?_,fun j rest same => ?_⟩,rfl⟩
    · cases same
      exact goes
    · exact (beat j rest same).beside sane grants (Nat.succ_ne_zero j).symm
  | beats i due permitted =>
    obtain ⟨grants,goes⟩ := Thread.goes (beat i _ due) sane permitted
    refine ⟨_,⟨rfl,grants.sane,fun rest same => ?_,fun rest same => ?_,fun j rest same => ?_⟩,rfl⟩
    · exact (checking rest same).beside sane grants (Nat.succ_ne_zero i)
    · exact (promoting rest same).beside sane grants (Nat.succ_ne_zero i)
    · obtain ⟨rfl,now⟩ | ⟨other,before⟩ := update_some same
      · cases now
        exact goes
      · exact (beat j rest before).beside sane grants fun same => other (Nat.succ.inj same)

theorem followed_runs (runs : Vigil.Runs tar serde cfg pid (Undisturbed serde pid) w facts c) :
    ∃ σ, Followed tar serde pid (readState serde w) c σ ∧ σ.log = facts := by
  have preserved (facts : Log) (c : Vigil) (more : Log) (c' : Vigil)
      (before : ∃ σ, Followed tar serde pid (readState serde w) c σ ∧ σ.log = facts)
      (step : Vigil.Step tar serde cfg pid (Undisturbed serde pid) c more c') :
      ∃ σ, Followed tar serde pid (readState serde w) c' σ ∧ σ.log = facts ++ more := by
    obtain ⟨σ,followed,rfl⟩ := before
    exact followed.step step
  exact runs.keeps ⟨_,.start tar serde pid w,rfl⟩ preserved

/-- In a vigil that nothing disturbs each completion is told of after the version it names
was made stable on disk, while it is, and once. -/
theorem completion_told_once (tar : TarCrate) (serde : Serde) (cfg : UpgradeConfig) (pid : Nat) (w : World) (facts : Log)
    (c : Vigil) (runs : Vigil.Runs tar serde cfg pid (Undisturbed serde pid) w facts c) : ToldOnce tar serde facts := by
  obtain ⟨σ,followed,rfl⟩ := followed_runs runs
  exact followed.sane.told

end Runs

section Alone
variable {w : World} {log : Log}

/-- The calls of a program may all be made as they are chosen. -/
def Permits (tar : TarCrate) (may : Call → Choice → World → Prop) : List Choice → Prog ε α → World → Prop
  | choice::choices,.call operation next,w => may operation choice w ∧
      Permits tar may choices (next ((machine tar).exec operation choice w).1) ((machine tar).exec operation choice w).2
  | _,.pure _,_ => True
  | _,.fail _,_ => True
  | [],_,_ => True

instance permits_decidable {may : Call → Choice → World → Prop} [∀ operation choice w, Decidable (may operation choice w)] :
    ∀ (choices : List Choice) (program : Prog ε α) (w : World), Decidable (Permits tar may choices program w)
  | [],.pure _,_ => .isTrue trivial
  | [],.fail _,_ => .isTrue trivial
  | [],.call _ _,_ => .isTrue trivial
  | _::_,.pure _,_ => .isTrue trivial
  | _::_,.fail _,_ => .isTrue trivial
  | _::choices,.call _ _,_ => @instDecidableAnd _ _ _ (permits_decidable choices _ _)

instance undisturbed_decidable (operation : Call) (choice : Choice) (w : World) :
    Decidable (Undisturbed serde pid .promotion operation choice w) :=
  inferInstanceAs (Decidable (_ ∧ _))

theorem permits_free {may : Call → Choice → World → Prop} {choices : List Choice} {program : Prog ε α}
    (free : ∀ operation choice w, may operation choice w) : Permits tar may choices program w := by
  induction choices generalizing program w with
  | nil => cases program <;> trivial
  | cons choice choices ih =>
    cases program with
    | pure value => trivial
    | fail error => trivial
    | call operation next => exact ⟨free operation choice w,ih⟩

variable {allowed : Who → Call → Choice → World → Prop} {start : Vigil}
  {beat : Nat → Option (Prog Error (Except Error Unit))}

theorem part_alone {who : Who} {part : Prog Error α → Tick}
    (goes : ∀ {operation : Call} {next : Reply operation → Prog Error α} {choice : Choice} {w : World},
      allowed who operation choice w → Vigil.Step tar serde cfg pid allowed ⟨w,part (.call operation next),beat⟩
        [(machine tar).event operation choice w]
        ⟨((machine tar).exec operation choice w).2,part (next ((machine tar).exec operation choice w).1),beat⟩)
    {choices : List Choice} {program : Prog Error α}
    (before : Reaches (Vigil.Step tar serde cfg pid allowed) start log ⟨w,part program,beat⟩)
    (permits : Permits tar (allowed who) choices program w) :
    let m := (machine tar).record.run choices program (w,log)
    Reaches (Vigil.Step tar serde cfg pid allowed) start m.2.2 ⟨m.2.1,part m.1,beat⟩ := by
  induction choices generalizing program w log with
  | nil => simpa using before
  | cons choice choices ih =>
    cases program with
    | pure value => simpa using before
    | fail error => simpa using before
    | call operation next => exact ih (before.next (goes permits.1)) permits.2

/-- A check by a tick that runs alone. -/
abbrev checkRun (tar : TarCrate) (serde : Serde) (cfg : UpgradeConfig) (w : World) (choices : List Choice) :
    Prog Error (Option (InstallState × UInt32)) × Moment :=
  (machine tar).record.run choices (checkStable serde cfg.installRoot cfg) (w,[])

abbrev promoteRun (tar : TarCrate) (serde : Serde) (cfg : UpgradeConfig) (pid : Nat) (m : Moment) (s : InstallState)
    (seconds : UInt32) (choices : List Choice) : Prog Error (Option (Except Error Unit)) × Moment :=
  (machine tar).record.run choices (promote serde cfg.installRoot pid s seconds) m

theorem pure_of_result {program : Prog ε α} {value : α} (ended : program.result = some (.ok value)) :
    program = .pure value := by
  cases program with
  | pure other =>
    cases ended
    rfl
  | fail error => cases ended
  | call operation next => cases ended

theorem tick_alone {s : InstallState} {seconds : UInt32} {checks promotions : List Choice}
    (permits : Permits tar (allowed .check) checks
      (checkStable serde cfg.installRoot cfg : Prog Error (Option (InstallState × UInt32))) w)
    (decided : (checkRun tar serde cfg w checks).1.result = some (.ok (some (s,seconds))))
    (promotes : Permits tar (allowed .promotion) promotions
      (promote serde cfg.installRoot pid s seconds : Prog Error (Option (Except Error Unit)))
      (checkRun tar serde cfg w checks).2.1) :
    let m := promoteRun tar serde cfg pid (checkRun tar serde cfg w checks).2 s seconds promotions
    Vigil.Runs tar serde cfg pid allowed w m.2.2 ⟨m.2.1,.promoting m.1,fun _ => none⟩ := by
  have ticks : Vigil.Runs tar serde cfg pid allowed w []
      ⟨w,.checking (checkStable serde cfg.installRoot cfg),fun _ => none⟩ :=
    Reaches.start.next (.ticks rfl)
  have checked : Vigil.Runs tar serde cfg pid allowed w (checkRun tar serde cfg w checks).2.2
      ⟨(checkRun tar serde cfg w checks).2.1,.checking (checkRun tar serde cfg w checks).1,fun _ => none⟩ :=
    part_alone (fun permitted => .checks rfl permitted) ticks permits
  rw [pure_of_result decided] at checked
  have decides := checked.next (.decides rfl)
  rw [List.append_nil] at decides
  exact part_alone (fun permitted => .promotes rfl permitted) decides promotes

end Alone

theorem ToldOnce.stable_there {log : Log} {event : Event Sig Choice World} {told : UpgradeEvent}
    (once : ToldOnce tar serde log) (member : event ∈ log) (sent : completionOf event = some told) :
    ∃ s, readState serde event.before = some s ∧ s.status = .stable := by
  obtain ⟨past,rest,rfl⟩ := List.append_of_mem member
  have within : past ++ [event] <+: past ++ event :: rest := ⟨rest,by simp⟩
  obtain ⟨v,_,_,s,read,_,stable⟩ := once.truthful past event within told sent
  exact ⟨s,read,stable⟩

namespace Sample

def healthy : InstallState := {stateOf "0.45.4" (some "0.45.3") .pendingHealth 1 143 with lastHealthAt := some 0}

def promoted : InstallState := {healthy with status := .stable}

noncomputable def knowingHealthy : Crates := knowing [healthy,promoted]

def prompt : UpgradeConfig := {enabled := true, bootHealthWindowSecs := 0}

def checks : List Choice := List.replicate 7 smooth

noncomputable def checked : Moment := (checkRun knowingHealthy.tar knowingHealthy.serde prompt (upgraded healthy) checks).2

theorem checked_healthy : (checkRun knowingHealthy.tar knowingHealthy.serde prompt (upgraded healthy) checks).1.result =
    some (.ok (some (healthy,0))) := by
  decide +kernel

noncomputable def promotion (choices : List Choice) : Moment :=
  (promoteRun knowingHealthy.tar knowingHealthy.serde prompt 7 checked healthy 0 choices).2

def draftless : List Choice := List.replicate 6 smooth ++ [⟨true,0⟩,smooth]

theorem promotion_alone {allowed : Who → Call → Choice → World → Prop} (choices : List Choice)
    (free : ∀ operation choice w, allowed .check operation choice w)
    (promotes : Permits knowingHealthy.tar (allowed .promotion) choices
      (promote knowingHealthy.serde prompt.installRoot 7 healthy 0 : Prog Error (Option (Except Error Unit))) checked.1) :
    ∃ c, Vigil.Runs knowingHealthy.tar knowingHealthy.serde prompt 7 allowed (upgraded healthy) (promotion choices).2
      c := by
  unfold checked at promotes
  unfold promotion checked
  exact ⟨_,tick_alone (permits_free free) checked_healthy promotes⟩

theorem smooth_promotes : Permits knowingHealthy.tar (Undisturbed knowingHealthy.serde 7 .promotion)
    (List.replicate 22 smooth)
    (promote knowingHealthy.serde prompt.installRoot 7 healthy 0 : Prog Error (Option (Except Error Unit))) checked.1 := by
  decide +kernel

end Sample

/-- A promotion that nothing disturbs is told of, and truly. -/
theorem sample_completion_told : ToldOnce Sample.knowingHealthy.tar Sample.knowingHealthy.serde
    (Sample.promotion (List.replicate 22 smooth)).2 ∧
      (completions (Sample.promotion (List.replicate 22 smooth)).2).length = 1 := by
  obtain ⟨c,runs⟩ := Sample.promotion_alone _ (fun _ _ _ => trivial) Sample.smooth_promotes
  refine ⟨completion_told_once _ _ Sample.prompt 7 (Sample.upgraded Sample.healthy) _ c runs,?_⟩
  decide +kernel

/-- Where the draft cannot be made, the completion is told of all the same. -/
theorem unrecorded_completion_told : (∃ c, Vigil.Runs Sample.knowingHealthy.tar Sample.knowingHealthy.serde Sample.prompt 7
      (fun _ _ _ _ => True) (Sample.upgraded Sample.healthy) (Sample.promotion Sample.draftless).2 c) ∧
    ¬ ToldOnce Sample.knowingHealthy.tar Sample.knowingHealthy.serde (Sample.promotion Sample.draftless).2 := by
  refine ⟨Sample.promotion_alone _ (fun _ _ _ => trivial) (permits_free fun _ _ _ => trivial),fun once => ?_⟩
  have told : ((Sample.promotion Sample.draftless).2.any fun event => (completionOf event).isSome &&
      ((readState Sample.knowingHealthy.serde event.before).map InstallState.status == some .pendingHealth)) = true := by
    decide +kernel
  obtain ⟨event,member,sent⟩ := List.any_eq_true.mp told
  simp only [Bool.and_eq_true,Option.isSome_iff_exists,beq_iff_eq] at sent
  obtain ⟨⟨e,tells⟩,watched⟩ := sent
  obtain ⟨s,read,stable⟩ := once.stable_there member tells
  rw [read,Option.map_some,stable] at watched
  cases watched

end GatewaySdk.Upgrade
