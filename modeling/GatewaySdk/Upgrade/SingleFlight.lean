import GatewaySdk.Effect.Exclusive
import GatewaySdk.Upgrade.Codes
import GatewaySdk.Upgrade.Agreement

/-! Stage calls on the clones of one coordinator: the guard lets one at a time through, and
whatever else happens the install is that of whole stage calls, one after another. -/
namespace GatewaySdk.Upgrade
open GatewaySdk.Effect GatewaySdk.Host

variable (crates : Crates) (coordinator : UpgradeCoordinator)

/-- What a call with these answers of the network runs once it has the guard and has read
the configuration. -/
def stageOn (cfg : UpgradeConfig) (job : Network × StageRequest) : Prog UpgradeError StagedUpgrade :=
  stage crates {coordinator with config := cfg} job.1 {job.2 with inFlight := false}

/-- A step of the callers of `stage`, or a `set_config` between two of their steps. -/
abbrev CoordinatorStep := PoolStep (host crates.tar) (stageOn crates coordinator)

abbrev Callers := Pool Sig UpgradeError StagedUpgrade (Network × StageRequest) UpgradeConfig World

abbrev CallerFact := CallFact UpgradeError StagedUpgrade (Network × StageRequest) UpgradeConfig

abbrev StageFlight := Flight Choice UpgradeError StagedUpgrade (Network × StageRequest) UpgradeConfig

theorem stage_refused (network : Network) (request : StageRequest) :
    stage crates coordinator network {request with inFlight := true} =
      .fail ⟨ErrorCodes.upgradeInProgress,"another upgrade is already staging"⟩ := rfl

/-- The stage calls of an install's life that a flight is: none where it was given up
before it read the configuration. -/
def actsOf (flight : StageFlight) : List Act :=
  flight.settings.toList.map fun cfg =>
    ⟨.stage {coordinator with config := cfg} flight.job.1 {flight.job.2 with inFlight := false},flight.choices⟩

/-- The code of a refusal. -/
def Elsewise (error : UpgradeError) : Prop := error.code ≠ ErrorCodes.upgradeInProgress

variable {crates coordinator} {network : Network} {request : StageRequest} {cfg : UpgradeConfig} {w before : World}

theorem elsewise {code message : String} (other : code ≠ ErrorCodes.upgradeInProgress) : Elsewise ⟨code,message⟩ := other

theorem checkRequest_elsewise : Effect.Refuses Elsewise (checkRequest crates coordinator {request with inFlight := false}) := by
  unfold checkRequest
  refine Effect.Refuses.bind (fun _ => nofun) fun _ _ => ?_
  refine (refuses_bailAs (elsewise (by decide))).bind fun _ _ => ?_
  refine (refuses_bailAs (elsewise (by decide))).bind fun _ _ => ?_
  refine (Effect.Refuses.mapError fun _ _ => elsewise (by decide)).bind fun _ _ => ?_
  refine (Effect.Refuses.mapError fun _ _ => elsewise (by decide)).bind fun _ _ => ?_
  refine (Effect.Refuses.mapError fun _ _ => elsewise (by decide)).bind fun _ _ => ?_
  exact Effect.Refuses.mapError fun _ _ => elsewise (by decide)

theorem mapVerifyError_elsewise (e : Error) : Elsewise (mapVerifyError e) := by
  unfold mapVerifyError
  split
  · exact elsewise (by decide)
  · split
    · exact elsewise (by decide)
    · exact elsewise (by decide)

theorem fetchError_elsewise (e : Error) : Elsewise (fetchError e) := by
  unfold fetchError
  split
  · exact elsewise (by decide)
  · exact elsewise (by decide)

theorem fetchManifest_elsewise (base : String) : Effect.Refuses Elsewise (fetchManifest crates coordinator network request base) := by
  unfold fetchManifest
  refine (Effect.Refuses.mapError fun _ _ => elsewise (by decide)).bind fun _ _ => ?_
  refine (Effect.Refuses.mapError fun _ _ => elsewise (by decide)).bind fun _ _ => ?_
  refine (Effect.Refuses.mapError fun e _ => mapVerifyError_elsewise e).bind fun _ _ => ?_
  refine (Effect.Refuses.mapError fun _ _ => elsewise (by decide)).bind fun _ _ => ?_
  refine (Effect.Refuses.mapError fun _ _ => elsewise (by decide)).bind fun _ _ => ?_
  exact .ok _

theorem checkSequence_elsewise (manifest : Manifest) (state : Option InstallState) :
    Effect.Refuses Elsewise (checkSequence manifest state) := by
  cases state with
  | none => exact .ok ()
  | some s => exact refuses_bailAs (elsewise (by decide))

theorem fetchTarball_elsewise (manifest : Manifest) : Effect.Refuses Elsewise (fetchTarball crates coordinator network request manifest) := by
  unfold fetchTarball
  dsimp only
  split
  · intro error same
    cases same
    exact elsewise (by decide)
  · exact Effect.Refuses.mapError fun e _ => fetchError_elsewise e

theorem install_elsewise (manifest : Manifest) (tarballBytes : Bytes) :
    Errs Elsewise (install crates coordinator request manifest tarballBytes) := by
  unfold install recordStaged
  refine Errs.bind (Errs.mapError fun _ => elsewise (by decide)) fun installDir => ?_
  refine Errs.bind ?_ fun _ => (errs_ignore _).bind fun _ => trivial
  refine (errs_tryLoad _ _).bind fun prevState => ?_
  refine Errs.bind (fun _ => trivial) fun now => ?_
  exact Errs.mapError fun _ => elsewise (by decide)

theorem stageOn_elsewise (job : Network × StageRequest) : Errs Elsewise (stageOn crates coordinator cfg job) := by
  unfold stageOn stage approve
  refine Errs.bind ?_ fun approved => install_elsewise _ _
  refine Errs.check checkRequest_elsewise fun base _ => ?_
  refine (errs_ignore _).bind fun _ => ?_
  refine Errs.check (fetchManifest_elsewise base) fun manifest _ => ?_
  refine (errs_tryLoad _ _).bind fun state => ?_
  refine Errs.check (checkSequence_elsewise manifest state) fun _ _ => ?_
  refine Errs.check (fetchTarball_elsewise manifest) fun tarballBytes _ => ?_
  refine (errs_ignore _).bind fun _ => ?_
  exact Errs.check (refuses_bailAs (elsewise (by decide))) fun _ _ => trivial

theorem stage_act {choices : List Choice} {program : Prog UpgradeError StagedUpgrade} {w' : World}
    (ran : (host crates.tar).run choices (stage crates coordinator network request) w = (program,w')) :
    Act.after crates w ⟨.stage coordinator network request,choices⟩ = w' := by
  have recorded := ((host crates.tar).run_record choices (stage crates coordinator network request) w []).2
  rw [ran] at recorded
  exact recorded

theorem flown_acts {flight : StageFlight} {w' : World} (flown : Flown (host crates.tar) (stageOn crates coordinator) w flight w') :
    (actsOf coordinator flight).foldl (Act.after crates) w = w' := by
  cases flown with
  | unread i job => rfl
  | returned i job cfg choices outcome ran finished => exact stage_act ran
  | givenUp i job cfg choices ran => exact stage_act ran

theorem inTurn_acts {flights : List StageFlight}
    (inTurn : InTurn (host crates.tar) (stageOn crates coordinator) w flights before) :
    (flights.flatMap (actsOf coordinator)).foldl (Act.after crates) w = before := by
  induction inTurn with
  | none => rfl
  | next before flown ih =>
    rw [List.flatMap_append,List.foldl_append,ih,List.flatMap_singleton]
    exact flown_acts flown

theorem flown_outcome {flight : StageFlight} {w' : World} {error : UpgradeError}
    (flown : Flown (host crates.tar) (stageOn crates coordinator) w flight w') (failed : flight.outcome = some (.error error)) :
    Elsewise error := by
  cases flown with
  | unread i job => cases failed
  | givenUp i job cfg choices ran => cases failed
  | returned i job cfg choices outcome ran finished =>
    cases failed
    apply (stageOn_elsewise job).run choices w
    rw [ran]
    exact finished

/-- An act of an install's life that is a stage call of this coordinator, under one of these
configurations. -/
def IsStage (coordinator : UpgradeCoordinator) (known : List UpgradeConfig) (act : Act) : Prop :=
  ∃ cfg ∈ known, ∃ (network : Network) (request : StageRequest) (choices : List Choice),
    act = ⟨.stage {coordinator with config := cfg} network {request with inFlight := false},choices⟩

theorem actsOf_stage {flight : StageFlight} {known : List UpgradeConfig}
    (read : ∀ cfg, flight.settings = some cfg → cfg ∈ known) (act : Act) (member : act ∈ actsOf coordinator flight) :
    IsStage coordinator known act := by
  obtain ⟨cfg,settings,rfl⟩ := List.mem_map.mp member
  exact ⟨cfg,read cfg (Option.mem_toList.mp settings),_,_,_,rfl⟩

/-- The install as the flights and the call that is under way leave it, as acts of its life. -/
theorem serial_acts {history : List CallerFact} {p : Callers}
    (serial : Serial (host crates.tar) (stageOn crates coordinator) w cfg history p) :
    ∃ acts : List Act, (∀ act ∈ acts, IsStage coordinator (cfg::configuredOf history) act) ∧ p.state = acts.foldl (Act.after crates) w := by
  obtain ⟨-,flights,before,inTurn,-,read,underway⟩ := serial
  have staged (act : Act) (member : act ∈ flights.flatMap (actsOf coordinator)) :
      IsStage coordinator (cfg::configuredOf history) act := by
    obtain ⟨flight,flew,own⟩ := List.mem_flatMap.mp member
    exact actsOf_stage (read flight flew) act own
  have past := inTurn_acts inTurn
  cases underway with
  | free unlocked away same => exact ⟨_,staged,same.trans past.symm⟩
  | admitted i job locked others here same => exact ⟨_,staged,same.trans past.symm⟩
  | running i job now choices program locked others here known ran =>
    have last (act : Act) (member : act ∈ actsOf coordinator ⟨i,job,some now,choices,none⟩) :
        IsStage coordinator (cfg::configuredOf history) act :=
      actsOf_stage (fun cfg same => Option.some.inj same ▸ known) act member
    refine ⟨flights.flatMap (actsOf coordinator) ++ actsOf coordinator ⟨i,job,some now,choices,none⟩,fun act member => ?_,?_⟩
    · exact (List.mem_append.mp member).elim (staged act) (last act)
    · rw [List.foldl_append,past]
      exact (flown_acts (.givenUp i job now choices ran)).symm

/-- Stage calls of one coordinator take turns, in any order of their steps, given up
anywhere and with the configuration changed in between: each that got the guard ran alone,
under one configuration, the install is that of such calls one after another, and who is
told that another upgrade is staging changed nothing and is told so while there is one. -/
theorem stages_take_turns {history : List CallerFact} {p : Callers}
    (runs : Reaches (CoordinatorStep crates coordinator) (.start w cfg) history p) :
    (∃ flights before, InTurn (host crates.tar) (stageOn crates coordinator) w flights before ∧
        flights.map Flight.told = concludedOf history ∧
        Underway (host crates.tar) (stageOn crates coordinator) (cfg::configuredOf history) before p) ∧
      (∃ acts : List Act, (∀ act ∈ acts, IsStage coordinator (cfg::configuredOf history) act) ∧ p.state = acts.foldl (Act.after crates) w) ∧
      (∀ i job error, (i,job,some (.error error)) ∈ concludedOf history → error.code ≠ ErrorCodes.upgradeInProgress) ∧
      ∀ more p' i job, CoordinatorStep crates coordinator p more p' → CallFact.refused i job ∈ more →
        p' = p ∧ (∃ j, j ≠ i ∧ p.caller j ≠ .away) ∧
          stage crates coordinator job.1 {job.2 with inFlight := true} =
            .fail ⟨ErrorCodes.upgradeInProgress,"another upgrade is already staging"⟩ := by
  have serial := runs_serial runs
  refine ⟨?_,serial_acts serial,fun i job error member => ?_,fun more p' i job moved refused => ?_⟩
  · obtain ⟨-,flights,before,inTurn,told,-,underway⟩ := serial
    exact ⟨flights,before,inTurn,told,underway⟩
  · obtain ⟨-,flights,before,inTurn,told,-,-⟩ := serial
    rw [← told] at member
    obtain ⟨flight,flew,same⟩ := List.mem_map.mp member
    obtain ⟨w',w'',flown⟩ := inTurn.flown flight flew
    exact flown_outcome flown (congrArg (fun told => told.2.2) same)
  · obtain ⟨unchanged,other⟩ := refused_behind runs moved refused
    exact ⟨unchanged,other,stage_refused _ _ _ _⟩

theorem stage_outcome (choices : List Choice) (w : World) : ((host crates.tar).run choices
    (stage crates coordinator network request) w).1 = (stageRun crates coordinator network request choices w).1 :=
  ((host crates.tar).run_record choices (stage crates coordinator network request) w []).1.symm

namespace Sample

def job : Network × StageRequest := (Sample.network newRelease,Sample.request newRelease)

/-- A second caller comes while the first one stages and the configuration is changed: it is refused, and when it comes
again it is told that staging is switched off. -/
theorem contended : ∃ history p error,
    Reaches (CoordinatorStep Sample.crates Sample.coordinator) (.start installed Sample.coordinator.config) history p ∧
    CallFact.refused 1 job ∈ history ∧ concludedOf history = [(0,job,some (.ok staged)),(1,job,some (.error error))] := by
  have first : Reaches (CoordinatorStep Sample.crates Sample.coordinator) (.start installed Sample.coordinator.config) _ _ :=
    Reaches.start.next (.admits 0 job rfl rfl)
  have read := first.next (.reads 0 job rfl)
  have second := read.next (.refuses 1 job rfl rfl)
  have set := second.next (.configures {enabled := false})
  have ended : ((host Sample.crates.tar).run (List.replicate 60 smooth)
      (stage Sample.crates Sample.coordinator (network newRelease) (request newRelease)) installed).1.result = some (.ok staged) := by
    rw [stage_outcome]
    exact upgrade_staged
  generalize answered : (host Sample.crates.tar).run (List.replicate 60 smooth)
    (stage Sample.crates Sample.coordinator (network newRelease) (request newRelease)) installed = done at ended
  obtain ⟨program,t⟩ := done
  have ran := set.trans (PoolStep.answered (i := 0) rfl answered)
  have finished := ran.next (.returns 0 job _ (.ok staged) rfl ended)
  have again := finished.next (.admits 1 job rfl rfl)
  have readAgain := again.next (.reads 1 job rfl)
  have refused := readAgain.next (.returns 1 job _ _ rfl rfl)
  exact ⟨_,_,_,refused,by simp,rfl⟩

end Sample

theorem contended_take_turns : ∃ history p error,
    Reaches (CoordinatorStep Sample.crates Sample.coordinator) (.start Sample.installed Sample.coordinator.config) history p ∧
    CallFact.refused 1 Sample.job ∈ history ∧
    ∃ flights before,
      InTurn (host Sample.crates.tar) (stageOn Sample.crates Sample.coordinator) Sample.installed flights before ∧
      flights.map Flight.told = [(0,Sample.job,some (.ok Sample.staged)),(1,Sample.job,some (.error error))] := by
  obtain ⟨history,p,error,runs,refused,concluded⟩ := Sample.contended
  obtain ⟨⟨flights,before,inTurn,told,_⟩,_⟩ := stages_take_turns runs
  exact ⟨history,p,error,runs,refused,flights,before,inTurn,told.trans concluded⟩

end GatewaySdk.Upgrade
