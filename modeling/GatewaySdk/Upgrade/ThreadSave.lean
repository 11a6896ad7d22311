import GatewaySdk.Upgrade.ThreadCalls

/-! The programs of the threads followed through whatever the others do: the rules, the
loading of a state and the saving of one. -/
namespace GatewaySdk.Upgrade
open GatewaySdk.Effect GatewaySdk.Host

section Rules
variable (tar : TarCrate) (serde : Serde) (pid : Nat) (origin : Option InstallState) (i : Nat)

/-- A program of thread `i`, its calls made where they may be. -/
abbrev Thread {ε α : Type} (may : Call → Choice → Shared → Prop) (post : Except ε α → Shared → Prop) (program : Prog ε α)
    (σ : Shared) : Prop :=
  Amid (shared tar pid i) may (rely tar serde pid origin i) (guar tar serde pid origin i) post program σ

/-- What thread `i` may go on believing. -/
structure Stays (P : Shared → Prop) : Prop where
  sane : ∀ {σ}, P σ → Sane tar serde pid origin σ
  moved : ∀ {σ σ'}, P σ → Relies tar serde pid origin i σ σ' → P σ'

/-- What it may go on believing even while it writes its draft. -/
structure Lasts (P : Shared → Prop) : Prop where
  sane : ∀ {σ}, P σ → Sane tar serde pid origin σ
  moved : ∀ {σ σ'}, P σ → Around tar serde pid origin i σ σ' → P σ'

variable {tar} {serde} {pid} {origin} {i} {ε δ α β : Type} {may : Call → Choice → Shared → Prop} {P : Shared → Prop}
  {σ σ' : Shared}

theorem Lasts.stays (lasts : Lasts tar serde pid origin i P) : Stays tar serde pid origin i P :=
  ⟨lasts.sane,fun now relies => lasts.moved now relies.toAround⟩

theorem Stays.rely (stays : Stays tar serde pid origin i P) (now : P σ) (move : rely tar serde pid origin i σ σ') : P σ' :=
  stays.moved now (move (stays.sane now))

theorem Stays.const (stays : Stays tar serde pid origin i P) (p : Prop) : Stays tar serde pid origin i fun σ => P σ ∧ p :=
  ⟨fun now => stays.sane now.1,fun now relies => ⟨stays.moved now.1 relies,now.2⟩⟩

theorem sane_lasts : Lasts tar serde pid origin i (Sane tar serde pid origin) := ⟨id,fun _ around => around.sane⟩

/-- How a part of a program ends: with a value of which this holds, or with an error. -/
def Ended (good : α → Shared → Prop) (bad : Shared → Prop) : Except ε α → Shared → Prop
  | .ok value => good value
  | .error _ => bad

theorem ended_stays {good : α → Shared → Prop} {bad : Shared → Prop}
    (well : ∀ value, Stays tar serde pid origin i (good value)) (badly : Stays tar serde pid origin i bad) (outcome : Except ε α) :
    Stays tar serde pid origin i (Ended good bad outcome) := by
  cases outcome with
  | ok value => exact well value
  | error error => exact badly

/-- What still holds where a call that `firm` would not let fail has failed. -/
def Unmade (firm : Prop) (before : Shared → Prop) (σ : Shared) : Prop := before σ ∧ ¬ firm

theorem unmade_stays {firm : Prop} (stays : Stays tar serde pid origin i P) :
    Stays tar serde pid origin i (Unmade firm P) :=
  stays.const _

/-- Where `firm`, no call that is needed may be made to fail. -/
def Firmly (may : Call → Choice → Shared → Prop) (firm : Prop) : Prop :=
  firm → ∀ operation choice σ, needed operation = true → may operation choice σ → choice.fails = false

namespace Thread

theorem bind (middle : Except ε α → Shared → Prop) {post : Except ε β → Shared → Prop} {first : Prog ε α}
    {rest : α → Prog ε β} (thread : Thread tar serde pid origin i may middle first σ)
    (value : ∀ a σ, middle (.ok a) σ → Thread tar serde pid origin i may post (rest a) σ)
    (error : ∀ e σ, middle (.error e) σ → post (.error e) σ) :
    Thread tar serde pid origin i may post (first.bind rest) σ :=
  Amid.bind (rely_refl i) thread value error

theorem pure {post : Except ε α → Shared → Prop} {value : α} (ends : Stays tar serde pid origin i (post (.ok value)))
    (now : post (.ok value) σ) : Thread tar serde pid origin i may post (.pure value) σ :=
  fun _ move => ends.rely now move

theorem fail {post : Except ε α → Shared → Prop} {e : ε} (ends : Stays tar serde pid origin i (post (.error e)))
    (now : post (.error e) σ) : Thread tar serde pid origin i may post (.fail e) σ :=
  fun _ move => ends.rely now move

/-- One call: what it may answer, what it grants and what then holds. -/
theorem sys {operation : Call} {reply : Reply operation → Except IoError α} {post : Except IoError α → Shared → Prop}
    (stays : Stays tar serde pid origin i P) (ends : ∀ outcome, Stays tar serde pid origin i (post outcome)) (now : P σ)
    (call : ∀ σ choice answer w', P σ → may operation choice σ → (machine tar).exec operation choice σ.world = (answer,w') →
      Grants tar serde pid origin i σ (σ.after tar pid i operation choice w') ∧
        post (reply answer) (σ.after tar pid i operation choice w')) :
    Thread tar serde pid origin i may post (Upgrade.sys operation reply) σ := by
  intro t choice move permitted
  obtain ⟨grants,held⟩ := call t choice _ _ (stays.rely now move) permitted rfl
  exact ⟨fun _ => grants,Amid.ofExcept fun u further => (ends _).rely held further⟩

theorem framed {operation : Call} (stays : Stays tar serde pid origin i P) (now : P σ) (quiet : Quiet operation)
    (mute : sends operation = false) (choice : Choice) {answer : Reply operation} {w' : World}
    (answered : (machine tar).exec operation choice σ.world = (answer,w')) :
    Grants tar serde pid origin i σ (σ.after tar pid i operation choice w') ∧
      P (σ.after tar pid i operation choice w') := by
  have framed := @exec_framed tar choice σ.world _ operation quiet.still
  rw [answered] at framed
  obtain ⟨grants,relies⟩ := framed_grants i operation choice (stays.sane now) mute framed
  exact ⟨grants,stays.moved now relies⟩

theorem context {program : Prog IoError α} {message : String} {good : α → Shared → Prop} {bad : Shared → Prop}
    (thread : Thread tar serde pid origin i may (Ended good bad) program σ) :
    Thread tar serde pid origin i may (Ended good bad) (Upgrade.context message program) σ := by
  refine Amid.mapError (thread.mono fun outcome σ ended => ?_)
  cases outcome with
  | ok value => exact ended
  | error error => exact ended

theorem attempt {program : Prog ε α} {post : Except ε α → Shared → Prop}
    (thread : Thread tar serde pid origin i may post program σ) :
    Thread tar serde pid origin i may (Ended post fun _ => False) (program.attempt : Prog δ (Except ε α)) σ :=
  Amid.attempt (thread.mono fun _ _ now => now)

/-- A call that changes no file; where it is needed and not made to fail it succeeds. -/
theorem quietly {operation : Call} {reply : Reply operation → Except IoError Unit} {firm : Prop} (firmly : Firmly may firm)
    (stays : Stays tar serde pid origin i P) (now : P σ) (quiet : Quiet operation) (mute : sends operation = false)
    (need : needed operation = true)
    (plain : ∀ choice w, choice.fails = false → reply ((machine tar).exec operation choice w).1 = .ok ()) :
    Thread tar serde pid origin i may (Ended (fun _ => P) (Unmade firm P)) (Upgrade.sys operation reply) σ := by
  refine sys stays (ended_stays (fun _ => stays) (unmade_stays stays)) now
    fun σ choice answer w' held permitted answered => ?_
  obtain ⟨grants,after⟩ := framed stays held quiet mute choice answered
  refine ⟨grants,?_⟩
  cases outcome : reply answer with
  | ok value => exact after
  | error error =>
    refine ⟨after,fun sure => ?_⟩
    have fine := plain choice σ.world (firmly sure operation choice σ need permitted)
    rw [answered,outcome] at fine
    cases fine

theorem ignored {program : Prog ε α} (stays : Stays tar serde pid origin i P)
    (thread : Thread tar serde pid origin i may (fun _ σ => P σ) program σ) :
    Thread tar serde pid origin i may (Ended (fun _ => P) fun _ => False) (Upgrade.ignore program : Prog δ Unit) σ :=
  bind _ (attempt thread) (fun _ _ now => pure stays now) fun _ _ absurd => absurd.elim

theorem ignoring {operation : Call} {reply : Reply operation → Except IoError Unit} (stays : Stays tar serde pid origin i P)
    (now : P σ) (quiet : Quiet operation) (mute : sends operation = false) :
    Thread tar serde pid origin i may (Ended (fun _ => P) fun _ => False)
      (Upgrade.ignore (Upgrade.sys operation reply) : Prog δ Unit) σ :=
  ignored stays (sys stays (fun _ => stays) now fun _ choice _ _ held _ answered =>
    framed stays held quiet mute choice answered)

theorem closing {file : Handle} {body : Prog Error α} {post : Except Error α → Shared → Prop}
    (ends : ∀ outcome, Stays tar serde pid origin i (post outcome))
    (thread : Thread tar serde pid origin i may post body σ) :
    Thread tar serde pid origin i may post (Upgrade.closing file body) σ := by
  refine bind _ (attempt thread) ?_ fun _ _ absurd => absurd.elim
  intro outcome σ now
  refine bind _ (ignoring (ends outcome) now (quiet_of_silent rfl) rfl) ?_ fun _ _ absurd => absurd.elim
  exact fun _ σ now => Amid.ofExcept fun t move => (ends outcome).rely now move

theorem closingOption {file : Option Handle} {body : Prog Error α} {post : Except Error α → Shared → Prop}
    (ends : ∀ outcome, Stays tar serde pid origin i (post outcome))
    (thread : Thread tar serde pid origin i may post body σ) :
    Thread tar serde pid origin i may post (Upgrade.closingOption file body) σ := by
  cases file with
  | none => exact thread
  | some file => exact closing ends thread

end Thread

/-- This inode was `state.json` and stays as it is; what it says descends from the first
state, and the tick knows its status to be the one that is there. -/
structure Opened (tar : TarCrate) (serde : Serde) (pid : Nat) (origin : Option InstallState) (i n : Nat) (σ : Shared) :
    Prop where
  sane : Sane tar serde pid origin σ
  old : n < σ.world.fresh
  settled : σ.Settled n
  means : ∀ s, serde.fromStr (σ.world.data n) = some s → Descends origin s ∧
    (i = 0 → ∃ t, readState serde σ.world = some t ∧ t.status = s.status)

/-- What is known of a state that has been loaded. -/
structure Loaded (tar : TarCrate) (serde : Serde) (pid : Nat) (origin : Option InstallState) (i : Nat) (s : InstallState)
    (σ : Shared) : Prop where
  sane : Sane tar serde pid origin σ
  known : Descends origin s
  level : i = 0 → ∃ t, readState serde σ.world = some t ∧ t.status = s.status

/-- The status that the tick has seen is there for as long as it does not change it. -/
theorem level_moved {s : InstallState} (around : Around tar serde pid origin i σ σ') (tick : i = 0)
    (level : ∃ t, readState serde σ.world = some t ∧ t.status = s.status) :
    ∃ t, readState serde σ'.world = some t ∧ t.status = s.status := by
  obtain ⟨t,read,same⟩ := level
  obtain ⟨u,found,kept⟩ := around.read t read
  exact ⟨u,found,(kept tick).trans same⟩

theorem opened_lasts (n : Nat) : Lasts tar serde pid origin i (Opened tar serde pid origin i n) := by
  refine ⟨Opened.sane,fun now around => ?_⟩
  obtain ⟨same,settled⟩ := around.data n now.old now.settled
  refine ⟨around.sane,Nat.lt_of_lt_of_le now.old around.fresh,settled,fun s parsed => ?_⟩
  obtain ⟨known,level⟩ := now.means s (same ▸ parsed)
  exact ⟨known,fun tick => level_moved around tick (level tick)⟩

theorem loaded_lasts (s : InstallState) : Lasts tar serde pid origin i (Loaded tar serde pid origin i s) :=
  ⟨Loaded.sane,fun now around => ⟨around.sane,now.known,fun tick => level_moved around tick (now.level tick)⟩⟩

/-- How a load ends; where nothing it needs fails, with a state. -/
abbrev LoadEnd (tar : TarCrate) (serde : Serde) (pid : Nat) (origin : Option InstallState) (i : Nat) (firm : Prop) :
    Except Error InstallState → Shared → Prop :=
  Ended (Loaded tar serde pid origin i) (Unmade firm (Sane tar serde pid origin))

theorem loadEnd_stays (firm : Prop) (outcome : Except Error InstallState) :
    Stays tar serde pid origin i (LoadEnd tar serde pid origin i firm outcome) :=
  ended_stays (fun s => (loaded_lasts s).stays) (unmade_stays sane_lasts.stays) outcome

/-- `state.json` has been opened, and is legible where `firm`. -/
def Legibly (tar : TarCrate) (serde : Serde) (pid : Nat) (origin : Option InstallState) (i n : Nat) (firm : Prop)
    (σ : Shared) : Prop :=
  Opened tar serde pid origin i n σ ∧ (firm → ∃ s, serde.fromStr (σ.world.data n) = some s)

theorem legibly_lasts (n : Nat) (firm : Prop) : Lasts tar serde pid origin i (Legibly tar serde pid origin i n firm) := by
  refine ⟨fun now => now.1.sane,fun now around => ⟨(opened_lasts n).moved now.1 around,fun sure => ?_⟩⟩
  rw [(around.data n now.1.old now.1.settled).1]
  exact now.2 sure

theorem readable_lasts (firm : Prop) : Lasts tar serde pid origin i fun σ =>
    Sane tar serde pid origin σ ∧ (firm → ∃ s, readState serde σ.world = some s) := by
  refine ⟨fun now => now.1,fun now around => ⟨around.sane,fun sure => ?_⟩⟩
  obtain ⟨s,read⟩ := now.2 sure
  obtain ⟨t,found,_⟩ := around.read s read
  exact ⟨t,found⟩

variable {firm : Prop}

theorem openRead_thread (firmly : Firmly may firm) (sane : Sane tar serde pid origin σ)
    (readable : firm → ∃ s, readState serde σ.world = some s) :
    Thread tar serde pid origin i may
      (Ended (fun file => Legibly tar serde pid origin i file.ino firm) (Unmade firm (Sane tar serde pid origin)))
      (Io.openFile .stateJson .read) σ := by
  have quiet : Quiet (.openFile .stateJson .read) := quiet_of_silent rfl
  refine Thread.sys (readable_lasts firm).stays
    (ended_stays (fun file => (legibly_lasts file.ino firm).stays) (unmade_stays sane_lasts.stays)) ⟨sane,readable⟩
    fun σ choice answer w' held permitted answered => ?_
  obtain ⟨grants,after⟩ := Thread.framed (readable_lasts firm).stays held quiet rfl choice answered
  refine ⟨grants,?_⟩
  rcases open_cases (.inl rfl) answered with ⟨error,rfl,rfl⟩ | ⟨n,found,rfl,rfl⟩
  · refine ⟨after.1,fun sure => ?_⟩
    obtain ⟨s,read⟩ := held.2 sure
    obtain ⟨n,found,_⟩ := readState_some read
    have fine := firmly sure _ choice σ rfl permitted
    simp [machine,answer,openAnswer,fine,found] at answered
  · have known (s : InstallState) (parsed : serde.fromStr (σ.world.data n) = some s) : readState serde σ.world = some s :=
      (readState_of_file found).trans parsed
    have free : σ.Settled n := fun j owned => (held.1.draft j n owned).2 found
    have old : n < σ.world.fresh := exists_of_file found
    refine ⟨⟨after.1,old,grants.settled n old free,fun s parsed => ⟨held.1.known s (known s parsed),fun _ => ?_⟩⟩,
      fun sure => ?_⟩
    · exact ⟨s,known s parsed,rfl⟩
    · obtain ⟨s,read⟩ := held.2 sure
      rw [readState_of_file found] at read
      exact ⟨s,read⟩

/-- What is known of a text that was read. -/
def Texted (tar : TarCrate) (serde : Serde) (pid : Nat) (origin : Option InstallState) (i : Nat) (firm : Prop)
    (text : Bytes) (σ : Shared) : Prop :=
  Sane tar serde pid origin σ ∧ (∀ s, serde.fromStr text = some s → Loaded tar serde pid origin i s σ) ∧
    (firm → ∃ s, serde.fromStr text = some s)

theorem texted_lasts (firm : Prop) (text : Bytes) :
    Lasts tar serde pid origin i (Texted tar serde pid origin i firm text) :=
  ⟨fun now => now.1,fun now around =>
    ⟨around.sane,fun s parsed => (loaded_lasts s).moved (now.2.1 s parsed) around,now.2.2⟩⟩

theorem Legibly.texted {n : Nat} (legibly : Legibly tar serde pid origin i n firm σ) :
    Texted tar serde pid origin i firm (σ.world.data n) σ :=
  ⟨legibly.1.sane,fun s parsed => ⟨legibly.1.sane,(legibly.1.means s parsed).1,(legibly.1.means s parsed).2⟩,legibly.2⟩

theorem readText_thread {file : Handle} (firmly : Firmly may firm)
    (legibly : Legibly tar serde pid origin i file.ino firm σ) :
    Thread tar serde pid origin i may
      (Ended (Texted tar serde pid origin i firm) (Unmade firm (Sane tar serde pid origin))) (Io.readToString file) σ := by
  have stays : Stays tar serde pid origin i (Legibly tar serde pid origin i file.ino firm) :=
    (legibly_lasts file.ino firm).stays
  refine Thread.sys stays (ended_stays (fun text => (texted_lasts firm text).stays) (unmade_stays sane_lasts.stays)) legibly
    fun σ choice answer w' held permitted answered => ?_
  obtain ⟨grants,after⟩ := Thread.framed stays held (quiet_of_silent rfl) rfl choice answered
  refine ⟨grants,?_⟩
  obtain ⟨rfl,⟨error,rfl⟩ | rfl⟩ := readToString_cases answered
  · refine ⟨after.1.sane,fun sure => ?_⟩
    have fine := firmly sure _ choice σ rfl permitted
    simp [machine,answer,fine] at answered
  · exact after.texted

/-- Whatever the others do, a load ends with a state that was there, and where `firm` it does. -/
theorem load_thread {installRoot : String} (firmly : Firmly may firm) (sane : Sane tar serde pid origin σ)
    (readable : firm → ∃ s, readState serde σ.world = some s) :
    Thread tar serde pid origin i may (LoadEnd tar serde pid origin i firm) (load serde installRoot) σ := by
  refine Thread.bind _ (Thread.context (openRead_thread firmly sane readable)) ?_ fun _ _ now => now
  intro file σ now
  have legibly : Stays tar serde pid origin i (Legibly tar serde pid origin i file.ino firm) :=
    (legibly_lasts file.ino firm).stays
  refine Thread.closing (loadEnd_stays firm) ?_
  refine Thread.bind _ (Thread.context (Thread.quietly firmly legibly now (quiet_of_silent rfl) rfl rfl
    fun choice w fine => by simp [machine,answer,fine])) ?_ fun _ _ now => ⟨now.1.1.sane,now.2⟩
  intro _ σ locked
  refine Thread.bind _ (Thread.context (readText_thread firmly locked)) ?_ fun _ _ now => now
  intro text σ now
  cases parsed : serde.fromStr text with
  | none =>
    refine Thread.fail (loadEnd_stays firm _) ⟨now.1,fun sure => ?_⟩
    obtain ⟨s,some⟩ := now.2.2 sure
    rw [parsed] at some
    cases some
  | some s =>
    refine Thread.bind _ (Thread.ignoring (loaded_lasts s).stays (now.2.1 s parsed) (quiet_of_silent rfl) rfl) ?_
      fun _ _ absurd => absurd.elim
    exact fun _ σ now => Thread.pure (loadEnd_stays firm _) now

/-- Beside what lasts, this thread's draft with these bytes. -/
def Drafted (i n : Nat) (bytes : Bytes) (before : Shared → Prop) (σ : Shared) : Prop :=
  before σ ∧ σ.draft = some (i,n) ∧ σ.world.data n = bytes

variable {before after : Shared → Prop}

theorem drafted_stays (lasts : Lasts tar serde pid origin i before) (n : Nat) (bytes : Bytes) :
    Stays tar serde pid origin i (Drafted i n bytes before) := by
  refine ⟨fun now => lasts.sane now.1,fun now relies => ⟨lasts.moved now.1 relies.toAround,?_⟩⟩
  obtain ⟨draft,data⟩ := relies.own n now.2.1
  exact ⟨draft,data.trans now.2.2⟩

/-- The draft is there with these bytes, or a call that the save needs has failed. -/
abbrev DraftEnd (i : Nat) (firm : Prop) (before : Shared → Prop) (bytes : Bytes) (n : Nat) :
    Except ε Unit → Shared → Prop :=
  Ended (fun _ => Drafted i n bytes before) (Unmade firm before)

theorem draftEnd_stays (lasts : Lasts tar serde pid origin i before) (bytes : Bytes) (n : Nat) (outcome : Except ε Unit) :
    Stays tar serde pid origin i (DraftEnd i firm before bytes n outcome) :=
  ended_stays (fun _ => drafted_stays lasts n bytes) (unmade_stays lasts.stays) outcome

theorem createTmp_thread (lasts : Lasts tar serde pid origin i before) (firmly : Firmly may firm)
    (room : firm → ∀ choice σ, may (.openFile (.stateTmp pid) .createNew) choice σ → σ.world.node (.stateTmp pid) = none)
    (now : before σ) :
    Thread tar serde pid origin i may (Ended (fun tmp => Drafted i tmp.ino [] before) (Unmade firm before))
      (Io.openFile (.stateTmp pid) .createNew) σ := by
  refine Thread.sys lasts.stays (ended_stays (fun tmp => drafted_stays lasts tmp.ino []) (unmade_stays lasts.stays)) now
    fun σ choice answer w' held permitted answered => ?_
  rcases createNew_cases answered with ⟨error,rfl,rfl⟩ | ⟨free,rfl,rfl⟩
  · obtain ⟨grants,relies⟩ := framed_grants i (.openFile (.stateTmp pid) .createNew) choice (lasts.sane held) rfl
      (.refl _ _)
    refine ⟨grants,lasts.moved held relies.toAround,fun sure => ?_⟩
    have fine := firmly sure _ choice σ rfl permitted
    have free := room sure choice σ permitted
    simp [machine,answer,openAnswer,fine,free,World.parentOk] at answered
  · obtain ⟨grants,around,draft,empty⟩ := createTmp_grants i choice (lasts.sane held) free
    exact ⟨grants,lasts.moved held around,draft,empty⟩

theorem writeTmp_thread {tmp : Handle} {bytes : Bytes} (lasts : Lasts tar serde pid origin i before)
    (firmly : Firmly may firm) (now : Drafted i tmp.ino [] before σ) :
    Thread tar serde pid origin i may (DraftEnd i firm before bytes tmp.ino) (Io.writeAll tmp bytes) σ := by
  refine Thread.sys (drafted_stays lasts tmp.ino []) (draftEnd_stays lasts bytes tmp.ino) now
    fun σ choice answer w' held permitted answered => ?_
  obtain ⟨held,owned,empty⟩ := held
  rcases writeAll_cases answered with ⟨error,n,rfl,_,rfl⟩ | ⟨rfl,rfl⟩
  · obtain ⟨grants,around,_⟩ := write_grants i (.writeAll tmp bytes) choice rfl (lasts.sane held) owned
    refine ⟨grants,lasts.moved held around,fun sure => ?_⟩
    have fine := firmly sure _ choice σ rfl permitted
    simp [machine,answer,fine] at answered
  · obtain ⟨grants,around,draft⟩ := write_grants i (.writeAll tmp bytes) choice rfl (lasts.sane held) owned
    refine ⟨grants,lasts.moved held around,draft,?_⟩
    simp [Shared.after,World.overwrite,empty]

theorem draftStep_thread {operation : Call} {reply : Reply operation → Except IoError Unit} {message : String} {n : Nat}
    {bytes : Bytes} (lasts : Lasts tar serde pid origin i before) (firmly : Firmly may firm)
    (quiet : Quiet operation) (mute : sends operation = false) (need : needed operation = true)
    (plain : ∀ choice w, choice.fails = false → reply ((machine tar).exec operation choice w).1 = .ok ())
    (now : Drafted i n bytes before σ) :
    Thread tar serde pid origin i may (DraftEnd i firm before bytes n) (context message (sys operation reply)) σ := by
  refine (Thread.context (Thread.quietly firmly (drafted_stays lasts n bytes) now quiet mute need plain)).mono ?_
  intro outcome σ ended
  cases outcome with
  | ok value => exact ended
  | error error => exact ⟨ended.1.1,ended.2⟩

theorem saveBytes_thread {tmp : Handle} {destLock : Option Handle} {tmpPath : String} {t : InstallState}
    (lasts : Lasts tar serde pid origin i before) (firmly : Firmly may firm) (now : Drafted i tmp.ino [] before σ) :
    Thread tar serde pid origin i may (DraftEnd i firm before (serde.toVecPretty t) tmp.ino)
      (saveBytes serde tmp destLock tmpPath t) σ := by
  have locked : Thread tar serde pid origin i may (DraftEnd i firm before [] tmp.ino) (lockDest destLock) σ := by
    cases destLock with
    | none => exact Thread.pure (drafted_stays lasts tmp.ino []) now
    | some file =>
      exact draftStep_thread lasts firmly (quiet_of_silent rfl) rfl rfl
        (fun choice w fine => by simp [machine,answer,fine]) now
  refine Thread.bind _ locked ?_ fun _ _ now => now
  intro _ σ now
  refine Thread.bind _ (Thread.context (writeTmp_thread lasts firmly now)) ?_ fun _ _ now => now
  intro _ σ now
  refine Thread.bind _ (draftStep_thread lasts firmly (quiet_of_silent rfl) rfl rfl
    (fun choice w fine => by simp [machine,answer,fine]) now) ?_ fun _ _ now => now
  intro _ σ now
  exact draftStep_thread lasts firmly (quiet_of_silent rfl) rfl rfl
    (fun choice w fine => by simp [machine,answer,fine]) now

/-- A save has replaced `state.json`, or a call that it needs has failed. -/
abbrev Replaced (firm : Prop) (before after : Shared → Prop) : Except ε Unit → Shared → Prop :=
  Ended (fun _ => after) (Unmade firm before)

theorem replaced_stays (lasts : Lasts tar serde pid origin i before) (stays : Stays tar serde pid origin i after)
    (outcome : Except ε Unit) : Stays tar serde pid origin i (Replaced firm before after outcome) :=
  ended_stays (fun _ => stays) (unmade_stays lasts.stays) outcome

/-- What a thread owes for the call that replaces `state.json` by the draft of this state. -/
def Replaces (tar : TarCrate) (serde : Serde) (pid : Nat) (origin : Option InstallState) (i : Nat)
    (may : Call → Choice → Shared → Prop) (before after : Shared → Prop) (t : InstallState) : Prop :=
  ∀ σ n choice, Drafted i n (serde.toVecPretty t) before σ → may (recorded pid) choice σ →
    (machine tar).exec (recorded pid) choice σ.world = (.ok (),σ.world.move (.stateTmp pid) .stateJson) →
    Grants tar serde pid origin i σ (σ.after tar pid i (recorded pid) choice (σ.world.move (.stateTmp pid) .stateJson)) ∧
      after (σ.after tar pid i (recorded pid) choice (σ.world.move (.stateTmp pid) .stateJson))

theorem renameTmp_thread {n : Nat} {t : InstallState} (lasts : Lasts tar serde pid origin i before)
    (stays : Stays tar serde pid origin i after) (firmly : Firmly may firm)
    (there : firm → ∀ σ, before σ → ∃ s, readState serde σ.world = some s)
    (replaces : Replaces tar serde pid origin i may before after t) (now : Drafted i n (serde.toVecPretty t) before σ) :
    Thread tar serde pid origin i may (Replaced firm before after) (Io.rename (.stateTmp pid) .stateJson) σ := by
  refine Thread.sys (drafted_stays lasts n _) (replaced_stays lasts stays) now
    fun σ choice answer w' held permitted answered => ?_
  rcases rename_cases answered with ⟨error,rfl,rfl⟩ | ⟨rfl,_,rfl⟩
  · obtain ⟨grants,relies⟩ := framed_grants i (recorded pid) choice (lasts.sane held.1) rfl (.refl _ _)
    refine ⟨grants,lasts.moved held.1 relies.toAround,fun sure => ?_⟩
    have fine := firmly sure _ choice σ rfl permitted
    have source := ((lasts.sane held.1).draft i n held.2.1).1
    obtain ⟨s,read⟩ := there sure σ held.1
    obtain ⟨cell,target,_⟩ := readState_some read
    simp [machine,answer,fine,World.renameError,source,target] at answered
  · exact replaces σ n choice held permitted answered

theorem moveTmp_thread {n : Nat} {t : InstallState} {destLock : Option Handle} {message : String}
    (lasts : Lasts tar serde pid origin i before) (stays : Stays tar serde pid origin i after) (firmly : Firmly may firm)
    (there : firm → ∀ σ, before σ → ∃ s, readState serde σ.world = some s)
    (replaces : Replaces tar serde pid origin i may before after t) (now : Drafted i n (serde.toVecPretty t) before σ) :
    Thread tar serde pid origin i may (Replaced firm before after)
      (do
        context message (Io.rename (.stateTmp pid) .stateJson)
        ignore (Io.syncDir .root)
        unlockDest destLock) σ := by
  refine Thread.bind _ (Thread.context (renameTmp_thread lasts stays firmly there replaces now)) ?_ fun _ _ now => now
  intro _ σ now
  refine Thread.bind _ (Thread.ignoring stays now (quiet_of_silent rfl) rfl) ?_ fun _ _ absurd => absurd.elim
  intro _ σ now
  cases destLock with
  | none => exact Thread.pure stays now
  | some file =>
    refine (Thread.ignoring stays now (quiet_of_silent rfl) rfl).mono fun outcome σ ended => ?_
    cases outcome with
    | ok value => exact ended
    | error error => exact ended.elim

/-- A save through whatever the others do: it replaces `state.json` or a call it needs fails. -/
theorem save_thread {installRoot : String} {t : InstallState} (lasts : Lasts tar serde pid origin i before)
    (stays : Stays tar serde pid origin i after) (firmly : Firmly may firm)
    (room : firm → ∀ choice σ, may (.openFile (.stateTmp pid) .createNew) choice σ → σ.world.node (.stateTmp pid) = none)
    (there : firm → ∀ σ, before σ → ∃ s, readState serde σ.world = some s)
    (replaces : Replaces tar serde pid origin i may before after t) (now : before σ) :
    Thread tar serde pid origin i may (Replaced firm before after) (save serde installRoot pid t) σ := by
  refine Thread.bind _ (Thread.context (Thread.quietly firmly lasts.stays now (quiet_of_silent rfl) rfl rfl
    fun choice w fine => by simp [machine,answer,fine])) ?_ fun _ _ now => now
  intro _ σ now
  refine Thread.bind _ (Thread.context (createTmp_thread lasts firmly room now)) ?_ fun _ _ now => now
  intro tmp σ now
  have drafted := drafted_stays lasts tmp.ino []
  have opening : Thread tar serde pid origin i may (fun _ => Drafted i tmp.ino [] before)
      (Io.openFile .stateJson .readWriteCreate) σ := by
    refine Thread.sys drafted (fun _ => drafted) now fun σ choice answer w' held _ answered => ?_
    obtain ⟨grants,relies⟩ := openCell_grants (drafted.sane held) answered
    exact ⟨grants,drafted.moved held relies⟩
  refine Thread.bind _ (Thread.attempt opening) ?_ fun _ _ absurd => absurd.elim
  intro destLock σ now
  refine Thread.closingOption (replaced_stays lasts stays) ?_
  refine Thread.bind _ (Thread.closing (draftEnd_stays lasts _ tmp.ino) (saveBytes_thread lasts firmly now)) ?_
    fun _ _ now => now
  exact fun _ σ now => moveTmp_thread lasts stays firmly there replaces now

end Rules
end GatewaySdk.Upgrade
