import GatewaySdk.Upgrade.Attempts

/-! A version under watch is promoted in time: what a beat notes and what a check decides by
the times they are told, and the first check behind the health window. -/
namespace GatewaySdk.Upgrade
open GatewaySdk.Effect GatewaySdk.Host

/-- The machine that fails no call, every call written down. -/
abbrev watching (tar : TarCrate) : Machine Sig Nat Moment := (machine tar).record.under steady

section Told
variable {tar : TarCrate} {serde : Serde} {installRoot : String} {pid : Nat} {s : InstallState} {w : World} {m : Moment}
  {ε α : Type}

theorem ends_watched {post : Except ε α → Moment → Prop} {program : Prog ε α} (ends : Ends (watching tar) post program (w,[]))
    {choices : List Choice} (faultless : ∀ choice ∈ choices, choice.fails = false) {outcome : Except ε α}
    (done : ((machine tar).record.run choices program (w,[])).1.result = some outcome) :
    post outcome ((machine tar).record.run choices program (w,[])).2 := by
  obtain ⟨amounts,rfl⟩ := steady_choices faultless
  rw [← Machine.run_under] at done ⊢
  exact ends.run amounts done

theorem told_stable (time : Int) {allowed : Call → Prop} : Stable (machine tar) allowed (fun m => time ∈ readings m.2) := by
  intro operation choice m _ told
  have more : time ∈ readings (m.2 ++ [(machine tar).event operation choice m.1]) := by
    rw [readings_append]
    exact List.mem_append_left _ told
  exact more

theorem now_told (choice : Choice) (m : Moment) :
    (((machine tar).exec .now choice m.1).1 : Int) ∈ readings ((machine tar).record.exec .now choice m).2.2 := by
  have more : readings ((machine tar).record.exec .now choice m).2.2 =
      readings m.2 ++ [((machine tar).exec .now choice m.1).1] := readings_append _ _
  rw [more]
  exact List.mem_append_right _ List.mem_cons_self

theorem told_ends {time : Int} (told : time ∈ readings m.2) (program : Prog ε α) :
    Ends (watching tar) (fun _ m => time ∈ readings m.2) program m :=
  (((Uses.any program).stable (@told_stable tar time fun _ => True) told).always).under steady

theorem beat_notes (read : readState serde w = some s) (pending : s.status = .pendingHealth) (orderly : Orderly w) :
    Ends (watching tar) (fun _ m => ∃ time ∈ readings m.2, Kept serde pid {s with lastHealthAt := some time} w m.1)
      (recordHealthyBeat serde installRoot pid : Prog ε (Except Error Unit)) (w,[]) := by
  unfold recordHealthyBeat
  rw [Ends.attempt]
  refine ((load_steady read).recorded []).next ?_
  intro m same
  have notes : Ends (watching tar) (fun outcome m' => ∃ t, outcome = .ok t ∧ SameFiles m.1 m'.1 ∧
      ∃ time ∈ readings m'.2, t = {s with lastHealthAt := some time}) (noteHealth s) m := by
    unfold noteHealth
    rw [if_pos pending]
    intro amount
    exact ⟨_,rfl,⟨rfl,rfl,rfl⟩,_,now_told (steady amount) m,rfl⟩
  refine notes.after ?_
  rintro t m' ⟨ticked,time,told,rfl⟩
  have still : SameFiles w m'.1 := same.trans ticked
  have free : m'.1.node (.stateTmp pid) = none := by
    rw [still.node]
    exact orderly.drafts pid
  have cell : NoDir m'.1 .stateJson := fun ino content => still.node ▸ noDir_of_read read ino content
  refine (((save_steady free cell).recorded m'.2).and (told_ends told _)).mono ?_
  rintro outcome m'' ⟨⟨rfl,kept⟩,told⟩
  exact ⟨time,told,kept.of_same still⟩

/-- A check of a version under watch that has come to its times and promotes nothing was told
one too early or one too late. -/
theorem finalizeFrom_decides {cfg : UpgradeConfig} {last : Int} (untold : readings m.2 = []) :
    Holds (machine tar).record (fun _ => True)
      (fun outcome m => ∀ saved, outcome = .ok saved → saved.isSome = true ∨ ∃ time ∈ readings m.2,
        healthyFor (numSeconds (time - s.stagedAt)) < cfg.bootHealthWindowSecs ∨ 60 < numSeconds (time - last))
      (finalizeFrom serde installRoot pid cfg s last : Prog ε (Option (Except Error Unit))) m := by
  refine Holds.bind _ (now_holds untold) ?_ (fun _ _ _ ended => by obtain ⟨_,same,_⟩ := ended; cases same)
  intro first m _ ended
  obtain ⟨_,same,told⟩ := ended
  cases same
  dsimp only
  split
  next short =>
    refine ⟨trivial,fun _ _ => .inr ⟨first,?_,.inl short⟩⟩
    rw [told]
    exact List.mem_cons_self
  next long =>
    refine Holds.bind _ (now_holds told) ?_ (fun _ _ _ ended => by obtain ⟨_,same,_⟩ := ended; cases same)
    intro second m _ ended
    obtain ⟨_,same,told⟩ := ended
    cases same
    split
    next late =>
      refine ⟨trivial,fun _ _ => .inr ⟨second,?_,.inr late⟩⟩
      rw [told]
      exact List.mem_append_right _ List.mem_cons_self
    next recent =>
      refine Holds.bind (fun _ _ => True) (((Uses.any _).stable (Stable.const True) trivial).mono (fun _ _ => trivial)
        (fun _ _ _ _ => trivial)) ?_ ?_
      · intro outcome m _ _
        refine Holds.bind (fun _ _ => True) (((Uses.any _).stable (Stable.const True) trivial).mono (fun _ _ => trivial)
          (fun _ _ _ _ => trivial)) ?_ ?_
        · intro _ m _ _
          refine ⟨trivial,fun saved same => ?_⟩
          cases same
          exact .inl rfl
        · exact fun _ _ _ _ _ failed => by cases failed
      · exact fun _ _ _ _ _ failed => by cases failed

/-- A check of a version under watch records it as stable, or leaves the files and was told a
time too early or too late. -/
theorem check_decides {cfg : UpgradeConfig} {last : Int} (read : readState serde w = some s)
    (pending : s.status = .pendingHealth) (healthy : s.lastHealthAt = some last) (orderly : Orderly w) :
    Ends (watching tar) (fun _ m => Kept serde pid {s with status := .stable} w m.1 ∨
        SameFiles w m.1 ∧ ∃ time ∈ readings m.2,
          healthyFor (numSeconds (time - s.stagedAt)) < cfg.bootHealthWindowSecs ∨ 60 < numSeconds (time - last))
      (finalizeIfStable serde installRoot pid cfg : Prog ε (Option (Except Error Unit))) (w,[]) := by
  have decides : Ends (watching tar) (fun outcome m => ∀ saved, outcome = .ok saved → saved.isSome = true ∨
      ∃ time ∈ readings m.2, healthyFor (numSeconds (time - s.stagedAt)) < cfg.bootHealthWindowSecs ∨
        60 < numSeconds (time - last))
      (finalizeIfStable serde installRoot pid cfg : Prog ε (Option (Except Error Unit))) (w,[]) := by
    have untold := (((@load_timeless serde installRoot).stable (@readings_stable tar []) (m := (w,[])) rfl).always).under steady
    have loaded : Ends (watching tar) (fun outcome m => outcome = .ok (.ok s) ∧ readings m.2 = [])
        ((load serde installRoot).attempt : Prog ε (Except Error InstallState)) (w,[]) := by
      rw [Ends.attempt]
      refine (((load_steady read).recorded []).and untold).mono ?_
      rintro outcome m ⟨⟨rfl,_⟩,untold⟩
      exact ⟨rfl,untold⟩
    refine loaded.next ?_
    intro m untold
    dsimp only
    rw [if_neg (not_not.mpr pending),healthy]
    exact ((finalizeFrom_decides untold).always).under steady
  refine (((finalize_steady read orderly).recorded []).and decides).mono ?_
  rintro outcome m ⟨⟨rfl,same⟩ | ⟨_,kept⟩,decided⟩
  · obtain none_ | late := decided none rfl
    · cases none_
    · exact .inr ⟨same,late⟩
  · exact .inl kept

end Told

/-- So many seconds, in the nanoseconds of the clock. -/
def seconds (n : Nat) : Int := n*1000000000

theorem numSeconds_recent {time last : Int} (recent : time ≤ last + seconds 60) : numSeconds (time - last) ≤ 60 := by
  have small : time - last ≤ 60*1000000000 := Int.sub_left_le_of_le_add recent
  exact Int.tdiv_le_tdiv (by decide) small

/-- Behind the window its length is up, unless a u32 no longer holds the seconds. -/
theorem healthyFor_up {time stagedAt : Int} {window : UInt32} (up : stagedAt + seconds window.toNat ≤ time)
    (held : time < stagedAt + seconds (2 ^ 32)) : window ≤ healthyFor (numSeconds (time - stagedAt)) := by
  unfold seconds at up held
  have ahead : numSeconds (time - stagedAt) = (time - stagedAt)/1000000000 := Int.tdiv_eq_ediv_of_nonneg (by omega)
  have below : (max (numSeconds (time - stagedAt)) 0).toNat < 2 ^ 32 := by omega
  rw [healthyFor,UInt32.le_iff_toNat_le,UInt32.toNat_ofNat_of_lt' below]
  omega

/-- An act and the time it is begun at. -/
structure TimedAct where
  begun : Int
  act : Act

namespace TimedAct

def isBeat (a : TimedAct) : Bool :=
  match a.act.action with
  | .beat _ _ => true
  | _ => false

def isCheck (a : TimedAct) : Bool :=
  match a.act.action with
  | .finalize _ _ => true
  | _ => false

/-- The world it leaves, and when the last beat was begun. -/
def after (crates : Crates) (σ : World × Option Int) (a : TimedAct) : World × Option Int :=
  (a.act.after crates σ.1,if a.isBeat = true then some a.begun else σ.2)

def told (crates : Crates) (w : World) (a : TimedAct) : List Int := readings (a.act.moment crates w).2

end TimedAct

def checksOf (vigil : List TimedAct) : List Int := (vigil.filter TimedAct.isCheck).map TimedAct.begun

/-- The acts of a process that is well: beats, each begun after the one before it, and checks
for promotion. None is told a time before it was begun, and a check behind the window is at its
end within a minute of the begin of the last beat. -/
structure Vigilant (crates : Crates) (stagedAt : Int) (window : UInt32) (σ : World × Option Int) (a : TimedAct) : Prop where
  faultless : a.act.Faultless
  concluded : a.act.Concluded crates σ.1
  kind : a.isBeat = true ∨ ∃ cfg pid, a.act.action = .finalize cfg pid ∧ cfg.bootHealthWindowSecs = window
  told : ∀ time ∈ a.told crates σ.1, a.begun ≤ time ∧ time < stagedAt + seconds (2 ^ 32)
  later : ∀ beat, σ.2 = some beat → beat ≤ a.begun
  alive : a.isCheck = true → stagedAt + seconds window.toNat ≤ a.begun →
    ∃ beat, σ.2 = some beat ∧ ∀ time ∈ a.told crates σ.1, time ≤ beat + seconds 60

theorem Vigilant.beat {crates : Crates} {stagedAt : Int} {window : UInt32} {σ : World × Option Int} {a : TimedAct}
    (vigilant : Vigilant crates stagedAt window σ a) (other : ¬ a.isCheck = true) : a.isBeat = true := by
  refine vigilant.kind.resolve_right ?_
  rintro ⟨_,_,same,_⟩
  rw [TimedAct.isCheck,same] at other
  exact other rfl

section Vigil
variable {crates : Crates} {s : InstallState} {window : UInt32} {σ : World × Option Int} {a : TimedAct}

/-- Still under watch, its health noted at a time after the begin of the last beat. -/
structure OnWatch (serde : Serde) (s : InstallState) (σ : World × Option Int) : Prop where
  orderly : Orderly σ.1
  noted : ∃ health, readState serde σ.1 = some {s with lastHealthAt := health} ∧
    ∀ beat, σ.2 = some beat → ∃ last, health = some last ∧ beat ≤ last

/-- Recorded as stable, all else as it was staged. -/
structure Through (serde : Serde) (s : InstallState) (w : World) : Prop where
  orderly : Orderly w
  recorded : ∃ health, readState serde w = some {s with status := .stable, lastHealthAt := health}

theorem OnWatch.beaten (watch : OnWatch crates.serde s σ) (pending : s.status = .pendingHealth)
    (vigilant : Vigilant crates s.stagedAt window σ a) (beat : a.isBeat = true) :
    OnWatch crates.serde s (a.after crates σ) := by
  obtain ⟨health,read,_⟩ := watch.noted
  obtain ⟨begun,action,choices⟩ := a
  cases action with
  | stage | boot | finalize | gc => cases beat
  | beat installRoot pid =>
    obtain ⟨outcome,ended⟩ := Option.isSome_iff_exists.mp vigilant.concluded
    obtain ⟨time,told,kept⟩ := ends_watched (beat_notes read pending watch.orderly) vigilant.faultless ended
    refine ⟨watch.orderly.of_kept kept,some time,kept.read,?_⟩
    rintro _ ⟨⟩
    exact ⟨time,rfl,(vigilant.told time told).1⟩

theorem Through.stays (through : Through crates.serde s σ.1) (vigilant : Vigilant crates s.stagedAt window σ a) :
    Through crates.serde s (a.after crates σ).1 := by
  obtain ⟨health,read⟩ := through.recorded
  have kind := vigilant.kind
  obtain ⟨begun,action,choices⟩ := a
  cases action with
  | stage | boot | gc => obtain beat | ⟨_,_,same,_⟩ := kind <;> contradiction
  | beat installRoot pid =>
    obtain ⟨outcome,ended⟩ := Option.isSome_iff_exists.mp vigilant.concluded
    obtain ⟨t,rfl | ⟨pending,_⟩,kept⟩ := ends_recorded (beat_steady read through.orderly) vigilant.faultless ended
    · exact ⟨through.orderly.of_kept kept,health,kept.read⟩
    · cases pending
  | finalize cfg pid =>
    obtain ⟨outcome,ended⟩ := Option.isSome_iff_exists.mp vigilant.concluded
    obtain ⟨_,same⟩ | ⟨_,kept⟩ := ends_recorded (finalize_steady read through.orderly) vigilant.faultless ended
    · have still := (readState_same (congrFun same.node _) fun ino _ => congrFun same.data ino).trans read
      exact ⟨through.orderly.of_node same.node,health,still⟩
    · exact ⟨through.orderly.of_kept kept,health,kept.read⟩

/-- A check leaves it under watch or takes it through, and behind the window it takes it through. -/
theorem OnWatch.checked (watch : OnWatch crates.serde s σ) (pending : s.status = .pendingHealth)
    (vigilant : Vigilant crates s.stagedAt window σ a) (check : a.isCheck = true) :
    Through crates.serde s (a.after crates σ).1 ∨
      OnWatch crates.serde s (a.after crates σ) ∧ a.begun < s.stagedAt + seconds window.toNat := by
  obtain ⟨health,read,noted⟩ := watch.noted
  have kind := vigilant.kind
  have alive := vigilant.alive check
  obtain ⟨begun,action,choices⟩ := a
  cases action with
  | stage | boot | beat | gc => cases check
  | finalize cfg pid =>
    obtain ⟨outcome,ended⟩ := Option.isSome_iff_exists.mp vigilant.concluded
    by_cases up : s.stagedAt + seconds window.toNat ≤ begun
    · obtain ⟨beat,last,recent⟩ := alive up
      obtain ⟨last,rfl,later⟩ := noted beat last
      obtain ⟨_,_,same,rfl⟩ := kind.resolve_left nofun
      cases same
      have decided := ends_watched (check_decides read pending rfl watch.orderly) vigilant.faultless ended
      obtain kept | ⟨_,time,told,early | late⟩ := decided
      · exact .inl ⟨watch.orderly.of_kept kept,some last,kept.read⟩
      · have bounds := vigilant.told time told
        exact absurd (healthyFor_up (up.trans bounds.1) bounds.2) (UInt32.not_le.mpr early)
      · exact absurd (numSeconds_recent ((recent time told).trans (Int.add_le_add_right later _))) (Int.not_le.mpr late)
    · obtain ⟨_,same⟩ | ⟨_,kept⟩ := ends_recorded (finalize_steady read watch.orderly) vigilant.faultless ended
      · have still := (readState_same (congrFun same.node _) fun ino _ => congrFun same.data ino).trans read
        exact .inr ⟨⟨watch.orderly.of_node same.node,health,still,noted⟩,Int.not_le.mp up⟩
      · exact .inl ⟨watch.orderly.of_kept kept,health,kept.read⟩

theorem through_remains {vigil : List TimedAct} (through : Through crates.serde s σ.1)
    (kept : Meets (TimedAct.after crates) (Vigilant crates s.stagedAt window) σ vigil) :
    Through crates.serde s (vigil.foldl (TimedAct.after crates) σ).1 := by
  induction vigil generalizing σ with
  | nil => exact through
  | cons a vigil ih => exact ih (through.stays kept.1) kept.2

/-- The first check behind the window is begun less than one gap behind it, and takes the version
through. -/
theorem vigil_promotes {vigil : List TimedAct} {start gap : Int} (pending : s.status = .pendingHealth)
    (watch : OnWatch crates.serde s σ ∨ Through crates.serde s σ.1)
    (kept : Meets (TimedAct.after crates) (Vigilant crates s.stagedAt window) σ vigil)
    (begins : start < s.stagedAt + seconds window.toNat) (often : (start::checksOf vigil).IsChain fun x y => y ≤ x + gap)
    (past : ∃ check ∈ checksOf vigil, s.stagedAt + seconds window.toNat ≤ check) :
    ∃ before check after, vigil = before ++ check::after ∧ check.isCheck = true ∧
      s.stagedAt + seconds window.toNat ≤ check.begun ∧ check.begun < s.stagedAt + seconds window.toNat + gap ∧
      ∀ soon, soon <+: after → Through crates.serde s ((before ++ check::soon).foldl (TimedAct.after crates) σ).1 := by
  induction vigil generalizing σ start with
  | nil =>
    obtain ⟨check,member,_⟩ := past
    cases member
  | cons a vigil ih =>
    obtain ⟨vigilant,kept⟩ := kept
    by_cases check : a.isCheck = true
    · have here : checksOf (a::vigil) = a.begun::checksOf vigil := by simp [checksOf,check]
      rw [here] at often past
      obtain ⟨soon,often⟩ := List.isChain_cons_cons.mp often
      have step : Through crates.serde s (a.after crates σ).1 ∨
          OnWatch crates.serde s (a.after crates σ) ∧ a.begun < s.stagedAt + seconds window.toNat := by
        obtain watch | through := watch
        · exact watch.checked pending vigilant check
        · exact .inl (through.stays vigilant)
      by_cases up : s.stagedAt + seconds window.toNat ≤ a.begun
      · obtain through | ⟨_,early⟩ := step
        · refine ⟨[],a,vigil,rfl,check,up,by omega,fun soon first => ?_⟩
          obtain ⟨rest,rfl⟩ := first
          exact @through_remains _ _ _ (a.after crates σ) soon through kept.front
        · exact absurd early (Int.not_lt.mpr up)
      · have ahead : ∃ check ∈ checksOf vigil, s.stagedAt + seconds window.toNat ≤ check := by
          obtain ⟨time,member,behind⟩ := past
          obtain rfl | member := List.mem_cons.mp member
          · exact absurd behind up
          · exact ⟨time,member,behind⟩
        obtain ⟨before,later,after,rfl,rest⟩ := ih (step.symm.imp_left And.left) kept (Int.not_le.mp up) often ahead
        exact ⟨a::before,later,after,rfl,rest⟩
    · have there : checksOf (a::vigil) = checksOf vigil := by simp [checksOf,check]
      rw [there] at often past
      have beat : a.isBeat = true := vigilant.beat check
      have step : OnWatch crates.serde s (a.after crates σ) ∨ Through crates.serde s (a.after crates σ).1 := by
        obtain watch | through := watch
        · exact .inl (watch.beaten pending vigilant beat)
        · exact .inr (through.stays vigilant)
      obtain ⟨before,later,after,rfl,rest⟩ := ih step kept begins often past
      exact ⟨a::before,later,after,rfl,rest⟩

end Vigil

/-- A version that was staged, booted within its attempts and then kept its health is recorded as
stable by the first check behind the health window, less than one interval of the checks late,
and nothing else of its state is changed; and so it stays. -/
theorem promoted_in_time (crates : Crates) (maxBootAttempts : UInt32) (room : maxBootAttempts.toNat < 2 ^ 32 - 1)
    (s : InstallState) (p : String) (w : World) (fresh : Fresh crates.serde s p w) (lead : List Act)
    (fair : Meets (Act.after crates) (Fair crates maxBootAttempts) w lead) (undue : Undue crates w lead)
    (few : boots lead ≤ maxBootAttempts.toNat) (window : UInt32) (start gap : Int) (vigil : List TimedAct)
    (kept : Meets (TimedAct.after crates) (Vigilant crates s.stagedAt window) (lead.foldl (Act.after crates) w,none) vigil)
    (begins : start < s.stagedAt + seconds window.toNat) (often : (start::checksOf vigil).IsChain fun x y => y ≤ x + gap)
    (past : ∃ check ∈ checksOf vigil, s.stagedAt + seconds window.toNat ≤ check) :
    ∃ before check after, vigil = before ++ check::after ∧ check.isCheck = true ∧
      s.stagedAt + seconds window.toNat ≤ check.begun ∧ check.begun < s.stagedAt + seconds window.toNat + gap ∧
      ∀ soon, soon <+: after → ∃ health, readState crates.serde
        ((before ++ check::soon).foldl (TimedAct.after crates) (lead.foldl (Act.after crates) w,none)).1 =
          some {s with status := .stable, bootAttempts := UInt32.ofNat (boots lead), lastHealthAt := health} := by
  have course := (life_course fresh.pending fresh.previous room fair fresh.course).1 undue
  rw [Phase.booted_watched few] at course
  obtain ⟨t,read,_,health,rfl⟩ := course.shown
  have watch : OnWatch crates.serde {s with bootAttempts := UInt32.ofNat (boots lead)} (lead.foldl (Act.after crates) w,none) :=
    ⟨course.orderly,health,read,nofun⟩
  obtain ⟨before,check,after,whole,rest⟩ := @vigil_promotes _ {s with bootAttempts := UInt32.ofNat (boots lead)} _ _ _ _ _
    fresh.pending (.inl watch) kept begins often past
  refine ⟨before,check,after,whole,rest.1,rest.2.1,rest.2.2.1,fun soon first => ?_⟩
  exact (rest.2.2.2 soon first).recorded

namespace Sample

noncomputable def knowingHeard : Crates := knowing [justStaged,bumped justStaged,heard,{heard with status := .stable}]

noncomputable def bootedOnce : World := [firstBoot.act].foldl (Act.after knowingHeard) (upgraded justStaged)

def beatOnce : TimedAct := ⟨0,.beat "/opt/app" 8,List.replicate 40 smooth⟩

def oneSecond : UpgradeConfig := {enabled := true, installRoot := "/opt/app", bootHealthWindowSecs := 1}

/-- Every call of it takes a second. -/
def checkOnce : TimedAct :=
  ⟨seconds 1,.finalize oneSecond 8,List.replicate 40 (steady 1000000000)⟩

theorem once_fair : Meets (Act.after knowingHeard) (Fair knowingHeard 3) (upgraded justStaged) [firstBoot.act] := by
  refine ⟨⟨smooth_faultless _ _,?_,enabled,rfl,rfl,rfl⟩,trivial⟩
  change (firstBoot.run knowingHeard (upgraded justStaged)).1.result.isSome = true
  decide +kernel

theorem beat_vigilant : Vigilant knowingHeard 0 1 (bootedOnce,none) beatOnce := by
  refine ⟨smooth_faultless _ _,?_,.inl rfl,?_,nofun,nofun⟩
  · simp only [Act.Concluded,beatOnce]
    decide +kernel
  · have told : beatOnce.told knowingHeard bootedOnce = [0] := by decide +kernel
    rw [told]
    decide

theorem check_vigilant : Vigilant knowingHeard 0 1 (beatOnce.after knowingHeard (bootedOnce,none)) checkOnce := by
  have told : checkOnce.told knowingHeard (beatOnce.after knowingHeard (bootedOnce,none)).1 =
      [1000000000,2000000000] := by decide +kernel
  refine ⟨?_,?_,.inr ⟨_,_,rfl,rfl⟩,?_,?_,fun _ _ => ⟨0,rfl,?_⟩⟩
  · intro choice member
    rw [List.eq_of_mem_replicate member]
    rfl
  · simp only [Act.Concluded,checkOnce]
    decide +kernel
  · rw [told]
    decide
  · rintro beat ⟨⟩
    decide
  · rw [told]
    decide

end Sample

theorem sample_promoted : ∃ health, readState Sample.knowingHeard.serde
    ([Sample.beatOnce,Sample.checkOnce].foldl (TimedAct.after Sample.knowingHeard) (Sample.bootedOnce,none)).1 =
      some {Sample.justStaged with status := .stable, bootAttempts := 1, lastHealthAt := health} := by
  have fresh : Fresh Sample.knowingHeard.serde Sample.justStaged "0.45.3" (Sample.upgraded Sample.justStaged) :=
    ⟨Sample.readState_upgraded _ _,rfl,rfl,rfl,⟨1,[],rfl⟩,⟨fun _ => rfl,nofun,nofun⟩⟩
  obtain ⟨before,check,after,whole,_,_,_,stays⟩ := promoted_in_time Sample.knowingHeard 3 (by decide) Sample.justStaged "0.45.3"
    (Sample.upgraded Sample.justStaged) fresh [Sample.firstBoot.act] Sample.once_fair ⟨nofun,trivial⟩ (by decide) 1 0
    (seconds 5) [Sample.beatOnce,Sample.checkOnce] ⟨Sample.beat_vigilant,Sample.check_vigilant,trivial⟩ (by decide) (by decide)
    (by decide)
  rw [whole]
  exact stays after (List.prefix_refl _)

end GatewaySdk.Upgrade
