import GatewaySdk.Upgrade.Lifecycle
import GatewaySdk.Upgrade.Respawn
import GatewaySdk.Upgrade.Steady

/-! The boots of a freshly staged version on a machine that fails no call, counted: so
many attempts, the way back, its announcement, and then nothing any more. -/
namespace GatewaySdk.Upgrade
open GatewaySdk.Effect GatewaySdk.Host

def readings (log : Log) : List Int := log.filterMap fun event =>
  match event with
  | ⟨_,.now,_,time⟩ => some time
  | _ => none

/-- A promotion is due: the window is over and the last beat is recent, at the times told. -/
def Due (cfg : UpgradeConfig) (s : InstallState) : List Int → Prop
  | first::second::_ => s.status = .pendingHealth ∧
      cfg.bootHealthWindowSecs ≤ healthyFor (numSeconds (first - s.stagedAt)) ∧
      ∃ last, s.lastHealthAt = some last ∧ numSeconds (second - last) ≤ 60
  | _ => False

section Readings
variable {tar : TarCrate} {serde : Serde} {installRoot : String} {pid : Nat} {s : InstallState} {w : World} {m : Moment}

def Timeless (operation : Call) : Prop := operation ≠ .now

theorem readings_append (log more : Log) : readings (log ++ more) = readings log ++ readings more :=
  List.filterMap_append

theorem readings_timeless {event : Event Sig Choice World} (timeless : Timeless event.operation) : readings [event] = [] := by
  obtain ⟨before,operation,choice,reply⟩ := event
  cases operation with
  | now => exact absurd rfl timeless
  | _ => rfl

theorem readings_stable (times : List Int) : Stable (machine tar) Timeless (fun m => readings m.2 = times) := by
  intro operation choice m timeless held
  have same : readings (m.2 ++ [(machine tar).event operation choice m.1]) = times := by
    rw [readings_append,readings_timeless timeless,List.append_nil]
    exact held
  exact same

/-- Once two times are told it stays decided whether the promotion is due. -/
theorem due_stable (cfg : UpgradeConfig) (s : InstallState) {allowed : Call → Prop} :
    Stable (machine tar) allowed (fun m => Due cfg s (readings m.2)) := by
  intro operation choice m _ due
  have more : readings ((machine tar).record.exec operation choice m).2.2 =
      readings m.2 ++ readings [(machine tar).event operation choice m.1] := readings_append _ _
  rw [more]
  match found : readings m.2 with
  | [] => exact (found ▸ due : Due cfg s []).elim
  | [_] => exact (found ▸ due : Due cfg s [_]).elim
  | first::second::rest => exact (found ▸ due : Due cfg s (first::second::rest))

theorem now_holds {ε : Type} {times : List Int} (told : readings m.2 = times) :
    Holds (machine tar).record (fun _ => True)
      (fun outcome m' => ∃ time, outcome = .ok time ∧ readings m'.2 = times ++ [time])
      (Io.now : Prog ε Int) m := by
  refine @Run.request tar ε (fun _ => True) .now _ m trivial (fun choice time w' _ => ⟨trivial,time,rfl,?_⟩)
  rw [readings_append,told]
  rfl

theorem load_timeless : Uses Timeless (load serde installRoot) := by
  refine (load_looks serde installRoot).mono fun operation looks => ?_
  cases looks <;> exact nofun

theorem finalizeFrom_due {ε : Type} {cfg : UpgradeConfig} {last : Int} (pending : s.status = .pendingHealth)
    (healthy : s.lastHealthAt = some last) (untold : readings m.2 = []) :
    Holds (machine tar).record (fun _ => True)
      (fun outcome m' => ∀ saved, outcome = .ok saved → (saved.isSome = true ↔ Due cfg s (readings m'.2)))
      (finalizeFrom serde installRoot pid cfg s last : Prog ε (Option (Except Error Unit))) m := by
  have undue {m : Moment} (not : ¬ Due cfg s (readings m.2)) (saved : Option (Except Error Unit))
      (same : (Except.ok none : Except ε (Option (Except Error Unit))) = .ok saved) :
      saved.isSome = true ↔ Due cfg s (readings m.2) := by
    cases same
    exact ⟨fun some => (by cases some),fun due => absurd due not⟩
  refine Holds.bind _ (now_holds untold) ?_ (fun _ _ _ ended => by obtain ⟨_,same,_⟩ := ended; cases same)
  intro first m _ ended
  obtain ⟨_,same,told⟩ := ended
  cases same
  dsimp only
  split
  next short => exact ⟨trivial,undue (by rw [told]; exact id)⟩
  next long =>
    refine Holds.bind _ (now_holds told) ?_ (fun _ _ _ ended => by obtain ⟨_,same,_⟩ := ended; cases same)
    intro second m _ ended
    obtain ⟨_,same,told⟩ := ended
    cases same
    split
    next late =>
      refine ⟨trivial,undue ?_⟩
      rw [told]
      rintro ⟨_,_,_,found,recent⟩
      obtain rfl := Option.some.inj (healthy.symm.trans found)
      omega
    next recent =>
      have due : Due cfg s (readings m.2) := by
        rw [told]
        exact ⟨pending,UInt32.not_lt.mp long,last,healthy,Int.not_lt.mp recent⟩
      refine Holds.bind _ (((Uses.any _).stable (@due_stable tar cfg s fun _ => True) due).mono (fun _ _ => trivial)
        (fun _ _ _ held => held)) ?_ ?_
      · intro outcome m _ due
        refine Holds.bind _ (((Uses.any _).stable (@due_stable tar cfg s fun _ => True) due).mono (fun _ _ => trivial)
          (fun _ _ _ held => held)) ?_ ?_
        · intro _ m _ due
          refine ⟨trivial,fun saved same => ?_⟩
          cases same
          exact ⟨fun _ => due,fun _ => rfl⟩
        · exact fun _ _ _ _ _ failed => by cases failed
      · exact fun _ _ _ _ _ failed => by cases failed

/-- A promotion is made exactly where it is due. -/
theorem finalize_due {ε : Type} {cfg : UpgradeConfig} :
    Holds (machine tar).record (fun _ => True)
      (fun outcome m => ∀ saved, outcome = .ok saved →
        (saved.isSome = true ↔ ∃ s, readState serde w = some s ∧ Due cfg s (readings m.2)))
      (finalizeIfStable serde installRoot pid cfg : Prog ε (Option (Except Error Unit))) (w,[]) := by
  have undue {m : Moment} (untold : readings m.2 = []) (saved : Option (Except Error Unit))
      (same : (Except.ok none : Except ε (Option (Except Error Unit))) = .ok saved) :
      saved.isSome = true ↔ ∃ s, readState serde w = some s ∧ Due cfg s (readings m.2) := by
    cases same
    refine ⟨fun some => (by cases some),?_⟩
    rintro ⟨s,_,due⟩
    rw [untold] at due
    exact due.elim
  have reads : Stable (machine tar) Quiet (fun m => readState serde m.1 = readState serde w) := readState_stable _
  have loads := ((@load_timeless serde installRoot).stable (@readings_stable tar []) (m := (w,[])) rfl).and
    (((load_uses serde installRoot).stable reads rfl).and (load_holds reads rfl))
  apply Holds.bind (fun outcome m => ∃ loaded, outcome = .ok loaded ∧ readings m.2 = [] ∧
    ∀ s, loaded = .ok s → readState serde w = some s)
  · apply Holds.attempt
    refine loads.mono (fun _ _ => trivial) (fun loaded m _ ended => ⟨loaded,rfl,ended.1,fun s same => ?_⟩)
    exact ended.2.1.symm.trans (ended.2.2.1 s (by rw [same]; rfl))
  · rintro loaded m _ ⟨_,same,untold,read⟩
    cases same
    cases loaded with
    | error error => exact ⟨trivial,undue untold⟩
    | ok s =>
      dsimp only
      split
      · exact ⟨trivial,undue untold⟩
      next pending =>
        split
        · exact ⟨trivial,undue untold⟩
        next last healthy =>
          refine (finalizeFrom_due (not_not.mp pending) healthy untold).mono (fun _ _ => trivial) ?_
          intro outcome m' _ ended saved same
          rw [ended saved same]
          refine ⟨fun due => ⟨s,read s rfl,due⟩,?_⟩
          rintro ⟨t,found,due⟩
          exact Option.some.inj ((read s rfl).symm.trans found) ▸ due
  · rintro error m _ ⟨_,same,_⟩
    cases same

end Readings

/-- Where a staged version is on its way. -/
inductive Phase where
  | watched (attempts : UInt32)
  | rolledBack
  | settled
  | promoted
  deriving DecidableEq, Repr

namespace Phase

/-- One boot further. -/
def booted (maxBootAttempts : UInt32) : Phase → Phase
  | .watched attempts => if attempts < maxBootAttempts then .watched (attempts + 1) else .rolledBack
  | .rolledBack => .settled
  | .settled => .settled
  | .promoted => .promoted

/-- What `state.json` says there, of a state staged over the version p. -/
def Shows (s : InstallState) (p : String) (maxBootAttempts : UInt32) : Phase → InstallState → Prop
  | .watched attempts,t => attempts ≤ maxBootAttempts ∧
      ∃ health, t = {s with bootAttempts := attempts, lastHealthAt := health}
  | .rolledBack,t => ∃ attempts health,
      t = {revertedState s p with status := .rolledBack, bootAttempts := attempts, lastHealthAt := health}
  | .settled,t => ∃ health,
      t = {revertedState s p with status := .stable, bootAttempts := 0, lastHealthAt := health}
  | .promoted,t => t.status = .stable

variable {maxBootAttempts attempts : UInt32}

theorem booted_few (few : attempts < maxBootAttempts) :
    booted maxBootAttempts (.watched attempts) = .watched (attempts + 1) := if_pos few

theorem booted_last : booted maxBootAttempts (.watched maxBootAttempts) = .rolledBack :=
  if_neg (UInt32.lt_irrefl _)

theorem booted_settled (n : Nat) : (booted maxBootAttempts)^[n] .settled = .settled :=
  Function.iterate_fixed rfl n

theorem ofNat_below {n : Nat} (few : n < maxBootAttempts.toNat) : UInt32.ofNat n < maxBootAttempts := by
  rw [UInt32.lt_iff_toNat_lt,UInt32.toNat_ofNat_of_lt' (Nat.lt_trans few maxBootAttempts.toNat_lt)]
  exact few

theorem booted_watched {n : Nat} (few : n ≤ maxBootAttempts.toNat) :
    (booted maxBootAttempts)^[n] (.watched 0) = .watched (UInt32.ofNat n) := by
  induction n with
  | zero => rfl
  | succ n ih =>
    rw [Function.iterate_succ_apply',ih (Nat.le_of_lt few),booted_few (ofNat_below few),UInt32.ofNat_add]
    rfl

/-- After the attempts, the way back and its announcement every boot finds all settled. -/
theorem booted_after {n : Nat} (more : maxBootAttempts.toNat + 1 < n) :
    (booted maxBootAttempts)^[n] (.watched 0) = .settled := by
  obtain ⟨k,rfl⟩ := Nat.exists_eq_add_of_lt more
  have split : maxBootAttempts.toNat + 1 + k + 1 = k + (maxBootAttempts.toNat + 2) := by omega
  rw [split,Function.iterate_add_apply,Function.iterate_succ_apply',Function.iterate_succ_apply',
    booted_watched (Nat.le_refl _),UInt32.ofNat_toNat,booted_last]
  exact booted_settled k

/-- How a boot ends there, and what it leaves of the files it found. -/
def Reports (s : InstallState) (p : String) (maxBootAttempts : UInt32) : Phase → Except Error BootEnd → World → World → Prop
  | .watched attempts,outcome,_,w' =>
    if attempts < maxBootAttempts then outcome = .ok (.returned (.pendingHealth (attempts + 1)) none)
    else outcome = .ok (.exited 1 (.ok ())) ∧ w'.node .current = some (.symlink (.version p))
  | .rolledBack,outcome,_,_ => outcome = .ok (.returned (.rolledBack s.currentVersion p) (some (.ok ())))
  | .settled,outcome,w,w' | .promoted,outcome,w,w' => outcome = .ok (.returned .continue none) ∧ SameFiles w w'

theorem Shows.noted {s t u : InstallState} {p : String} {phase : Phase} (shows_ : phase.Shows s p maxBootAttempts t)
    (noted : Noted t u) : phase.Shows s p maxBootAttempts u := by
  obtain rfl | ⟨pending,now,rfl⟩ := noted
  · exact shows_
  · cases phase with
    | watched attempts =>
      obtain ⟨few,health,rfl⟩ := shows_
      exact ⟨few,some now,rfl⟩
    | rolledBack =>
      obtain ⟨attempts,health,rfl⟩ := shows_
      cases pending
    | settled =>
      obtain ⟨health,rfl⟩ := shows_
      cases pending
    | promoted => cases pending.symm.trans shows_

end Phase

section Course
variable {tar : TarCrate} {serde : Serde} {pid : Nat} {s : InstallState} {p : String} {w : World}
  {maxBootAttempts : UInt32} {phase : Phase}

/-- A version just staged over p, in an install root with nothing left over. -/
structure Fresh (serde : Serde) (s : InstallState) (p : String) (w : World) : Prop where
  read : readState serde w = some s
  pending : s.status = .pendingHealth
  unbooted : s.bootAttempts = 0
  previous : s.previousVersion = some p
  there : ∃ ino content, w.node (.version p) = some (.dir ino content)
  orderly : Orderly w

/-- An install in a phase of its way. -/
structure Course (serde : Serde) (s : InstallState) (p : String) (maxBootAttempts : UInt32) (phase : Phase) (w : World) :
    Prop where
  orderly : Orderly w
  there : ∃ ino content, w.node (.version p) = some (.dir ino content)
  shown : ∃ t, readState serde w = some t ∧ phase.Shows s p maxBootAttempts t

theorem Fresh.course (fresh : Fresh serde s p w) : Course serde s p maxBootAttempts (.watched 0) w := by
  refine ⟨fresh.orderly,fresh.there,s,fresh.read,UInt32.le_iff_toNat_le.mpr (Nat.zero_le _),s.lastHealthAt,?_⟩
  rw [← fresh.unbooted]

theorem Course.isDir (course : Course serde s p maxBootAttempts phase w) : w.isDir (.version p) = true := by
  obtain ⟨ino,content,found⟩ := course.there
  rw [World.isDir,World.stat_of_no_link _ _ _ found nofun]

theorem Course.of_same {w' : World} (course : Course serde s p maxBootAttempts phase w) (same : SameFiles w w') :
    Course serde s p maxBootAttempts phase w' := by
  have state : readState serde w' = readState serde w :=
    readState_same (congrFun same.node _) fun ino _ => congrFun same.data ino
  exact ⟨course.orderly.of_node same.node,same.node ▸ course.there,state ▸ course.shown⟩

theorem Course.of_kept {w' : World} {t : InstallState} {next : Phase} (course : Course serde s p maxBootAttempts phase w)
    (kept : Kept serde pid t w w') (shown : next.Shows s p maxBootAttempts t) :
    Course serde s p maxBootAttempts next w' := by
  refine ⟨course.orderly.of_kept kept,?_,t,kept.read,shown⟩
  rw [kept.framed.node (.version p) (by simp [stateFiles])]
  exact course.there

theorem bumped_succ {t : InstallState} (room : t.bootAttempts.toNat < 2 ^ 32 - 1) :
    bumped t = {t with bootAttempts := t.bootAttempts + 1} := by
  have below : t.bootAttempts ≠ 4294967295 := by
    intro same
    rw [same] at room
    exact absurd room (by decide)
  simp [bumped,saturatingSucc,below]

/-- A boot of a version under watch: one more attempt, or the way back. -/
theorem watched_boots {attempts : UInt32} {installRoot : String} {t : InstallState} {v : World}
    (previous : s.previousVersion = some p) (room : maxBootAttempts.toNat < 2 ^ 32 - 1)
    (course : Course serde s p maxBootAttempts (.watched attempts) v) (read : readState serde v = some t)
    (shown : (Phase.watched attempts).Shows s p maxBootAttempts t) :
    Ends (steadily tar) (fun outcome w' => (Phase.watched attempts).Reports s p maxBootAttempts outcome v w' ∧
        Course serde s p maxBootAttempts ((Phase.watched attempts).booted maxBootAttempts) w')
      (countBoot serde installRoot pid maxBootAttempts t) v := by
  obtain ⟨within,health,rfl⟩ := shown
  have counted : bumped {s with bootAttempts := attempts, lastHealthAt := health} =
      {s with bootAttempts := attempts + 1, lastHealthAt := health} :=
    bumped_succ (Nat.lt_of_le_of_lt (UInt32.le_iff_toNat_le.mp within) room)
  have succ : (attempts + 1).toNat = attempts.toNat + 1 := by
    have bound := UInt32.le_iff_toNat_le.mp within
    rw [UInt32.toNat_add]
    exact Nat.mod_eq_of_lt (by simp; omega)
  by_cases few : attempts < maxBootAttempts
  · have still : attempts + 1 ≤ maxBootAttempts := by
      rw [UInt32.le_iff_toNat_le,succ]
      exact UInt32.lt_iff_toNat_lt.mp few
    rw [Phase.booted_few few]
    refine (countBoot_steady read (by rw [counted]; exact still)).mono ?_
    rintro outcome w' ⟨rfl,node,state⟩
    rw [counted] at state ⊢
    refine ⟨?_,course.orderly.of_node node,node ▸ course.there,_,state,still,health,rfl⟩
    rw [Phase.Reports,if_pos few]
  · obtain rfl : attempts = maxBootAttempts := UInt32.le_antisymm within (UInt32.not_lt.mp few)
    have more : attempts < attempts + 1 := by
      rw [UInt32.lt_iff_toNat_lt,succ]
      exact Nat.lt_succ_self _
    rw [Phase.booted_last]
    refine (rollBack_steady read (by rw [counted]; exact more) previous course.isDir course.orderly).mono ?_
    rintro outcome w' ⟨rfl,live,orderly,there,state⟩
    refine ⟨?_,orderly,there p ▸ course.there,_,state,attempts,health,rfl⟩
    rw [Phase.Reports,if_neg few]
    exact ⟨rfl,live⟩

theorem boot_course (cfg : UpgradeConfig) (enabled : cfg.enabled = true) (bound : cfg.maxBootAttempts = maxBootAttempts)
    (pending : s.status = .pendingHealth) (previous : s.previousVersion = some p)
    (room : maxBootAttempts.toNat < 2 ^ 32 - 1) (course : Course serde s p maxBootAttempts phase w) :
    Ends (steadily tar) (fun outcome w' => phase.Reports s p maxBootAttempts outcome w w' ∧
        Course serde s p maxBootAttempts (phase.booted maxBootAttempts) w')
      (runBootWatchdog serde pid (some cfg)) w := by
  obtain ⟨t,read,shown⟩ := course.shown
  have goes : runBootWatchdog serde pid (some cfg) = watch serde pid cfg := if_neg (by simp [enabled])
  rw [goes]
  refine watch_steady read fun v same => ?_
  have found := course.of_same same
  have read' : readState serde v = some t :=
    (readState_same (congrFun same.node _) fun ino _ => congrFun same.data ino).trans read
  rw [bound]
  cases phase with
  | watched attempts =>
    have status : t.status = .pendingHealth := by
      obtain ⟨_,_,rfl⟩ := shown
      exact pending
    simp only [bootFrom,status]
    exact watched_boots previous room found read' shown
  | rolledBack =>
    obtain ⟨attempts,health,rfl⟩ := shown
    refine (announce_steady read' found.orderly).mono ?_
    rintro outcome w' ⟨rfl,kept⟩
    exact ⟨rfl,found.of_kept kept ⟨health,rfl⟩⟩
  | settled =>
    obtain ⟨health,rfl⟩ := shown
    exact ⟨⟨rfl,same⟩,found⟩
  | promoted =>
    have status : t.status = .stable := shown
    simp only [bootFrom,status]
    exact ⟨⟨rfl,same⟩,found⟩

theorem beat_course {ε : Type} {installRoot : String} (course : Course serde s p maxBootAttempts phase w) :
    Ends (steadily tar) (fun _ w' => Course serde s p maxBootAttempts phase w')
      (recordHealthyBeat serde installRoot pid : Prog ε (Except Error Unit)) w := by
  obtain ⟨t,read,shown⟩ := course.shown
  refine (beat_steady read course.orderly).mono ?_
  rintro _ w' ⟨u,noted,kept⟩
  exact course.of_kept kept (shown.noted noted)

theorem finalize_course {ε : Type} {installRoot : String} {cfg : UpgradeConfig}
    (course : Course serde s p maxBootAttempts phase w) :
    Ends (steadily tar) (fun outcome w' => ∃ saved, outcome = .ok saved ∧
        Course serde s p maxBootAttempts (if saved.isSome = true then .promoted else phase) w')
      (finalizeIfStable serde installRoot pid cfg : Prog ε (Option (Except Error Unit))) w := by
  obtain ⟨t,read,shown⟩ := course.shown
  refine (finalize_steady read course.orderly).mono ?_
  rintro _ w' (⟨rfl,same⟩ | ⟨rfl,kept⟩)
  · exact ⟨none,rfl,course.of_same same⟩
  · exact ⟨some (.ok ()),rfl,course.of_kept kept rfl⟩

end Course

section Life
variable {crates : Crates} {s : InstallState} {p : String} {w : World} {maxBootAttempts : UInt32} {phase : Phase}

def Act.isBoot (act : Act) : Bool :=
  match act.action with
  | .boot _ _ => true
  | _ => false

def boots (life : List Act) : Nat := life.countP Act.isBoot

/-- Boots of an enabled watchdog with this bound, beats and checks for promotion, each
brought to its end with no call made to fail. -/
def Fair (crates : Crates) (maxBootAttempts : UInt32) (w : World) (act : Act) : Prop :=
  act.Faultless ∧ act.Concluded crates w ∧
    match act.action with
    | .boot cfg _ => ∃ c, cfg = some c ∧ c.enabled = true ∧ c.maxBootAttempts = maxBootAttempts
    | .beat _ _ | .finalize _ _ => True
    | .stage _ _ _ | .gc _ _ => False

/-- A check for promotion that finds it due. -/
def IsDue (crates : Crates) (w : World) (act : Act) : Prop :=
  match act.action with
  | .finalize cfg _ => ∃ s, readState crates.serde w = some s ∧ Due cfg s (readings (act.moment crates w).2)
  | _ => False

theorem act_course (pending : s.status = .pendingHealth) (previous : s.previousVersion = some p)
    (room : maxBootAttempts.toNat < 2 ^ 32 - 1) {act : Act} (fair : Fair crates maxBootAttempts w act)
    (course : Course crates.serde s p maxBootAttempts phase w) :
    (IsDue crates w act → Course crates.serde s p maxBootAttempts .promoted (act.after crates w)) ∧
      (¬ IsDue crates w act → Course crates.serde s p maxBootAttempts
        (if act.isBoot = true then phase.booted maxBootAttempts else phase) (act.after crates w)) := by
  obtain ⟨faultless,concluded,kind⟩ := fair
  obtain ⟨action,choices⟩ := act
  cases action with
  | stage | gc => exact kind.elim
  | boot cfg pid =>
    obtain ⟨c,rfl,enabled,bound⟩ := kind
    obtain ⟨outcome,ended⟩ := Option.isSome_iff_exists.mp concluded
    refine ⟨fun due => due.elim,fun _ => ?_⟩
    exact (ends_recorded (boot_course c enabled bound pending previous room course) faultless ended).2
  | beat installRoot pid =>
    obtain ⟨outcome,ended⟩ := Option.isSome_iff_exists.mp concluded
    refine ⟨fun due => due.elim,fun _ => ?_⟩
    exact ends_recorded (beat_course course) faultless ended
  | finalize cfg pid =>
    obtain ⟨outcome,ended⟩ := Option.isSome_iff_exists.mp concluded
    obtain ⟨saved,rfl,next⟩ := ends_recorded (finalize_course course) faultless ended
    have due := ((@finalize_due crates.tar crates.serde cfg.installRoot pid w Error cfg).run choices).2 _ ended saved rfl
    refine ⟨fun isDue => ?_,fun undue => ?_⟩
    · rw [if_pos (due.mpr isDue)] at next
      exact next
    · rw [if_neg (fun some => undue (due.mp some))] at next
      exact next

/-- No check for promotion of a life finds it due. -/
def Undue (crates : Crates) (w : World) (life : List Act) : Prop :=
  Meets (Act.after crates) (fun w act => ¬ IsDue crates w act) w life

theorem promoted_course (pending : s.status = .pendingHealth) (previous : s.previousVersion = some p)
    (room : maxBootAttempts.toNat < 2 ^ 32 - 1) {life : List Act}
    (fair : Meets (Act.after crates) (Fair crates maxBootAttempts) w life)
    (course : Course crates.serde s p maxBootAttempts .promoted w) :
    Course crates.serde s p maxBootAttempts .promoted (life.foldl (Act.after crates) w) := by
  refine fair.keeps (fun w act fair course => ?_) course
  obtain ⟨due,undue⟩ := act_course pending previous room fair course
  by_cases isDue : IsDue crates w act
  · exact due isDue
  · have next := undue isDue
    rw [Phase.booted,ite_self] at next
    exact next

/-- A life without promotion is as far as its boots, and one with a promotion stays there. -/
theorem life_course (pending : s.status = .pendingHealth) (previous : s.previousVersion = some p)
    (room : maxBootAttempts.toNat < 2 ^ 32 - 1) {life : List Act}
    (fair : Meets (Act.after crates) (Fair crates maxBootAttempts) w life)
    (course : Course crates.serde s p maxBootAttempts phase w) :
    (Undue crates w life → Course crates.serde s p maxBootAttempts ((Phase.booted maxBootAttempts)^[boots life] phase)
        (life.foldl (Act.after crates) w)) ∧
      (¬ Undue crates w life → Course crates.serde s p maxBootAttempts .promoted (life.foldl (Act.after crates) w)) := by
  induction life generalizing w phase with
  | nil => exact ⟨fun _ => course,fun due => absurd trivial due⟩
  | cons act life ih =>
    obtain ⟨due,undue⟩ := act_course pending previous room fair.1 course
    by_cases isDue : IsDue crates w act
    · refine ⟨fun none => absurd isDue none.1,fun _ => ?_⟩
      have rest := promoted_course pending previous room fair.2 (due isDue)
      exact rest
    · obtain ⟨more,promoted⟩ := ih fair.2 (undue isDue)
      refine ⟨fun none => ?_,fun some => promoted fun rest => some ⟨isDue,rest⟩⟩
      have far := more none.2
      by_cases boot : act.isBoot = true
      · rw [if_pos boot,← Function.iterate_succ_apply] at far
        rw [boots,List.countP_cons_of_pos boot]
        exact far
      · rw [if_neg boot] at far
        rw [boots,List.countP_cons_of_neg boot]
        exact far

def Answers (crates : Crates) (w : World) (boot : Boot) (outcome : WatchdogOutcome) : Prop :=
  ∃ saved, (boot.run crates w).1.result = some (.ok (.returned outcome saved))

/-- It points `current` at p, records the rollback with the versions exchanged, and exits. -/
def GoesBack (crates : Crates) (s : InstallState) (p : String) (w : World) (boot : Boot) : Prop :=
  (boot.run crates w).1.result = some (.ok (.exited 1 (.ok ()))) ∧
    (boot.after crates w).node .current = some (.symlink (.version p)) ∧
    ∃ t, readState crates.serde (boot.after crates w) = some t ∧ t.status = .rolledBack ∧
      t.currentVersion = p ∧ t.previousVersion = some s.currentVersion

/-- It returns the rollback, the failed version and the restored one named, and records
the latter as stable. -/
def Owns (crates : Crates) (s : InstallState) (p : String) (w : World) (boot : Boot) : Prop :=
  Answers crates w boot (.rolledBack s.currentVersion p) ∧
    ∃ t, readState crates.serde (boot.after crates w) = some t ∧ t.status = .stable ∧ t.bootAttempts = 0

/-- It continues, no file changed. -/
def GoesOn (crates : Crates) (w : World) (boot : Boot) : Prop :=
  Answers crates w boot .continue ∧ SameFiles w (boot.after crates w)

theorem boot_reports (pending : s.status = .pendingHealth) (previous : s.previousVersion = some p)
    (room : maxBootAttempts.toNat < 2 ^ 32 - 1) {boot : Boot} (fair : Fair crates maxBootAttempts w boot.act)
    (course : Course crates.serde s p maxBootAttempts phase w) :
    ∃ outcome, (boot.run crates w).1.result = some outcome ∧
      phase.Reports s p maxBootAttempts outcome w (boot.after crates w) ∧
      Course crates.serde s p maxBootAttempts (phase.booted maxBootAttempts) (boot.after crates w) := by
  obtain ⟨cfg,pid,choices⟩ := boot
  obtain ⟨faultless,concluded,c,same,enabled,bound⟩ := fair
  subst same
  obtain ⟨outcome,ended⟩ := Option.isSome_iff_exists.mp concluded
  exact ⟨outcome,ended,ends_recorded (boot_course c enabled bound pending previous room course) faultless ended⟩

/-- The boots of a staged version with no promotion before them: so many attempts, one
that goes back, one that announces it, and from then on nothing; after a promotion
nothing is gone back to. -/
theorem boots_counted (crates : Crates) (maxBootAttempts : UInt32) (room : maxBootAttempts.toNat < 2 ^ 32 - 1)
    (s : InstallState) (p : String) (w : World) (fresh : Fresh crates.serde s p w) (before : List Act) (boot : Boot)
    (fair : Meets (Act.after crates) (Fair crates maxBootAttempts) w before)
    (next : Fair crates maxBootAttempts (before.foldl (Act.after crates) w) boot.act) :
    (Undue crates w before →
      (boots before < maxBootAttempts.toNat → Answers crates (before.foldl (Act.after crates) w) boot
        (.pendingHealth (UInt32.ofNat (boots before + 1)))) ∧
      (boots before = maxBootAttempts.toNat → GoesBack crates s p (before.foldl (Act.after crates) w) boot) ∧
      (boots before = maxBootAttempts.toNat + 1 → Owns crates s p (before.foldl (Act.after crates) w) boot) ∧
      (maxBootAttempts.toNat + 1 < boots before → GoesOn crates (before.foldl (Act.after crates) w) boot)) ∧
    (¬ Undue crates w before → GoesOn crates (before.foldl (Act.after crates) w) boot) := by
  obtain ⟨far,promoted⟩ := life_course fresh.pending fresh.previous room fair fresh.course
  refine ⟨fun undue => ?_,fun due => ?_⟩
  · have course := far undue
    refine ⟨fun few => ?_,fun last => ?_,fun after => ?_,fun more => ?_⟩
    · rw [Phase.booted_watched (Nat.le_of_lt few)] at course
      obtain ⟨outcome,ended,reports,_⟩ := boot_reports fresh.pending fresh.previous room next course
      have below : UInt32.ofNat (boots before) < maxBootAttempts := Phase.ofNat_below few
      rw [Phase.Reports,if_pos below] at reports
      rw [Answers,UInt32.ofNat_add]
      exact ⟨none,reports ▸ ended⟩
    · rw [last,Phase.booted_watched (Nat.le_refl _),UInt32.ofNat_toNat] at course
      obtain ⟨outcome,ended,reports,course⟩ := boot_reports fresh.pending fresh.previous room next course
      rw [Phase.Reports,if_neg (UInt32.lt_irrefl _)] at reports
      rw [Phase.booted_last] at course
      obtain ⟨t,read,attempts,health,rfl⟩ := course.shown
      exact ⟨reports.1 ▸ ended,reports.2,_,read,rfl,rfl,rfl⟩
    · rw [after,Function.iterate_succ_apply',Phase.booted_watched (Nat.le_refl _),UInt32.ofNat_toNat,
        Phase.booted_last] at course
      obtain ⟨outcome,ended,reports,course⟩ := boot_reports fresh.pending fresh.previous room next course
      obtain ⟨t,read,health,rfl⟩ := course.shown
      exact ⟨⟨some (.ok ()),reports ▸ ended⟩,_,read,rfl,rfl⟩
    · rw [Phase.booted_after more] at course
      obtain ⟨outcome,ended,⟨rfl,same⟩,_⟩ := boot_reports fresh.pending fresh.previous room next course
      exact ⟨⟨none,ended⟩,same⟩
  · obtain ⟨outcome,ended,⟨rfl,same⟩,_⟩ := boot_reports fresh.pending fresh.previous room next (promoted due)
    exact ⟨⟨none,ended⟩,same⟩

end Life

namespace Sample

def justStaged : InstallState := stateOf "0.45.4" (some "0.45.3") .pendingHealth 0 143

/-- Booted once, then heard of at the start of the clock. -/
def heard : InstallState := {bumped justStaged with lastHealthAt := some 0}

noncomputable def knowingStaged : Crates := knowing [justStaged,bumped justStaged,heard,bumped heard]

def firstBoot : Boot := ⟨some enabled,8,List.replicate 40 smooth⟩

/-- One attempt is all there is. -/
def sparing : UpgradeConfig := {enabled := true, maxBootAttempts := 1}

def sparingBoot : Boot := ⟨some sparing,8,List.replicate 40 smooth⟩

/-- A beat of the version that is tried, and a check for its promotion that comes too early. -/
def earlyBeat : Act := ⟨.beat sparing.installRoot 8,List.replicate 40 smooth⟩

def earlyCheck : Act := ⟨.finalize sparing 8,List.replicate 40 smooth⟩

def tried : List Act := [sparingBoot.act,earlyBeat,earlyCheck]

theorem fresh_staged : Fresh knowingStaged.serde justStaged "0.45.3" (upgraded justStaged) where
  read := readState_upgraded _ _
  pending := rfl
  unbooted := rfl
  previous := rfl
  there := ⟨1,[],rfl⟩
  orderly := ⟨fun _ => rfl,nofun,nofun⟩

theorem attempt_fair : Fair knowingStaged 1 (upgraded justStaged) sparingBoot.act := by
  refine ⟨smooth_faultless _ _,?_,sparing,rfl,rfl,rfl⟩
  change (sparingBoot.run knowingStaged (upgraded justStaged)).1.result.isSome = true
  decide +kernel

theorem tried_fair : Meets (Act.after knowingStaged) (Fair knowingStaged 1) (upgraded justStaged) tried := by
  refine ⟨attempt_fair,⟨smooth_faultless _ _,?_,trivial⟩,⟨smooth_faultless _ _,?_,trivial⟩,trivial⟩
  · simp only [Act.Concluded,earlyBeat]
    decide +kernel
  · simp only [Act.Concluded,earlyCheck]
    decide +kernel

theorem early_told : readings (earlyCheck.moment knowingStaged
    ([sparingBoot.act,earlyBeat].foldl (Act.after knowingStaged) (upgraded justStaged))).2 = [0] := by
  decide +kernel

theorem early_undue {w : World} {time : Int} (told : readings (earlyCheck.moment knowingStaged w).2 = [time]) :
    ¬ IsDue knowingStaged w earlyCheck := by
  rintro ⟨s,_,due⟩
  rw [told] at due
  exact due

theorem tried_undue : Undue knowingStaged (upgraded justStaged) tried :=
  ⟨fun due => due.elim,fun due => due.elim,early_undue early_told,trivial⟩

theorem last_fair : Fair knowingStaged 1 (tried.foldl (Act.after knowingStaged) (upgraded justStaged)) sparingBoot.act := by
  refine ⟨smooth_faultless _ _,?_,sparing,rfl,rfl,rfl⟩
  change (sparingBoot.run knowingStaged (tried.foldl (Act.after knowingStaged) (upgraded justStaged))).1.result.isSome = true
  decide +kernel

end Sample

/-- The one attempt, and after a beat and a check the boot that goes back. -/
theorem sample_boots_counted :
    Answers Sample.knowingStaged (Sample.upgraded Sample.justStaged) Sample.sparingBoot (.pendingHealth 1) ∧
      GoesBack Sample.knowingStaged Sample.justStaged "0.45.3"
        (Sample.tried.foldl (Act.after Sample.knowingStaged) (Sample.upgraded Sample.justStaged)) Sample.sparingBoot :=
  ⟨((boots_counted Sample.knowingStaged 1 (by decide) Sample.justStaged "0.45.3" (Sample.upgraded Sample.justStaged)
      Sample.fresh_staged [] Sample.sparingBoot trivial Sample.attempt_fair).1 trivial).1 (by decide),
    ((boots_counted Sample.knowingStaged 1 (by decide) Sample.justStaged "0.45.3" (Sample.upgraded Sample.justStaged)
      Sample.fresh_staged Sample.tried Sample.sparingBoot Sample.tried_fair Sample.last_fair).1 Sample.tried_undue).2.1 rfl⟩

end GatewaySdk.Upgrade
