import GatewaySdk.Upgrade.Steady

/-! What a save that is broken off leaves for the saves after it: a temporary file that
no later save of a process of the same id can make again. -/
namespace GatewaySdk.Upgrade
open GatewaySdk.Effect GatewaySdk.Host

/-- The step that makes the temporary file. -/
def drafted (pid : Nat) : Call := .openFile (.stateTmp pid) .createNew

/-- The temporary file of a process at a moment of one of its saves. -/
inductive DraftCase (pid : Nat) (w : World) (m : Moment) : Prop
  | none (place : m.1.node (.stateTmp pid) = w.node (.stateTmp pid)) (draft : ¬ Done (drafted pid) m.2)
    (record : ¬ Done (recorded pid) m.2)
  | there (free : w.node (.stateTmp pid) = none) (ino : Nat) (place : m.1.node (.stateTmp pid) = some (.file ino))
    (draft : Done (drafted pid) m.2) (record : ¬ Done (recorded pid) m.2)
  | moved (free : w.node (.stateTmp pid) = none) (place : m.1.node (.stateTmp pid) = none)
    (draft : Done (drafted pid) m.2) (record : Done (recorded pid) m.2)

section Draft
variable {tar : TarCrate} {serde : Serde} {installRoot : String} {pid : Nat} {s : InstallState} {w : World} {m : Moment}

theorem DraftCase.stable (pid : Nat) (w : World) :
    Stable (machine tar) (Apart (.stateTmp pid)) (DraftCase pid w) := by
  intro operation choice m apart held
  have place := (@exec_effect tar choice m.1 operation).node apart
  have drafts : operation ≠ drafted pid := fun same => apart (same ▸ rfl)
  have records : operation ≠ recorded pid := fun same => apart (same ▸ .inl rfl)
  cases held with
  | none same draft record =>
    exact .none (place.trans same) (not_done_other draft drafts) (not_done_other record records)
  | there free ino found draft record =>
    exact .there free ino (place.trans found) (done_snoc.mpr (.inl draft)) (not_done_other record records)
  | moved free gone draft record =>
    exact .moved free (place.trans gone) (done_snoc.mpr (.inl draft)) (done_snoc.mpr (.inl record))

/-- The file is there, made by this save. -/
def Drafting (pid : Nat) (w : World) (m : Moment) : Prop :=
  w.node (.stateTmp pid) = none ∧ (∃ ino, m.1.node (.stateTmp pid) = some (.file ino)) ∧
    Done (drafted pid) m.2 ∧ ¬ Done (recorded pid) m.2

theorem Drafting.case (drafting : Drafting pid w m) : DraftCase pid w m := by
  obtain ⟨free,⟨ino,found⟩,draft,record⟩ := drafting
  exact .there free ino found draft record

theorem Drafting.stable (pid : Nat) (w : World) : Stable (machine tar) (Apart (.stateTmp pid)) (Drafting pid w) := by
  refine (Stable.const _).and ((Stable.entry _ fun entry => ∃ ino, entry = some (.file ino)).and
    ((Stable.done _).and (Stable.not_done ?_)))
  exact fun apart => apart (.inl rfl)

theorem draft_holds (place : m.1.node (.stateTmp pid) = w.node (.stateTmp pid)) (draft : ¬ Done (drafted pid) m.2)
    (record : ¬ Done (recorded pid) m.2) :
    Holds (machine tar).record (DraftCase pid w) (fun outcome m => ∀ tmp, outcome = .ok tmp → Drafting pid w m)
      (Io.openFile (.stateTmp pid) .createNew) m := by
  refine Run.sys (.none place draft record) (fun choice answer v answered => ?_)
  have silent := @not_done_other (recorded pid) _ _ m.1 choice answer record
    (by simp [recorded] : Call.openFile (.stateTmp pid) .createNew ≠ recorded pid)
  obtain ⟨error,rfl,rfl⟩ | ⟨free,rfl,rfl⟩ := createNew_cases answered
  · exact ⟨.none place (not_done_failed draft rfl) silent,fun tmp same => by cases same⟩
  · have made : Drafting pid w ((m.1.create (.stateTmp pid)).opened,
        m.2 ++ [⟨m.1,drafted pid,choice,.ok (m.1.handle m.1.fresh)⟩]) :=
      ⟨place ▸ free,⟨m.1.fresh,by simp⟩,done_snoc.mpr (.inr ⟨rfl,rfl⟩),silent⟩
    exact ⟨made.case,fun _ _ => made⟩

theorem saveBytes_apart {tmp : Handle} {destLock : Option Handle} {tmpPath : String} :
    Uses (Apart (.stateTmp pid)) (saveBytes serde tmp destLock tmpPath s) := by
  have silently {operation : Call} (quiet : silent operation = true) : Apart (.stateTmp pid) operation :=
    fun own => (quiet_of_silent quiet).touches _ own
  have lock : Uses (Apart (.stateTmp pid)) (lockDest destLock) := by
    cases destLock with
    | none => trivial
    | some file => exact Calls.context (Calls.sys (silently rfl))
  refine lock.bind fun _ => ?_
  refine (Calls.context (Calls.sys nofun)).bind fun _ => ?_
  refine (Calls.context (Calls.sys (silently rfl))).bind fun _ => ?_
  exact Calls.context (Calls.sys (silently rfl))

theorem moveDraft_holds {destLock : Option Handle} {message : String} (start : Drafting pid w m) :
    Holds (machine tar).record (DraftCase pid w) (fun _ => DraftCase pid w)
      (do
        context message (Io.rename (.stateTmp pid) .stateJson)
        ignore (Io.syncDir .root)
        unlockDest destLock) m := by
  have silently {operation : Call} (quiet : silent operation = true) : Apart (.stateTmp pid) operation :=
    fun own => (quiet_of_silent quiet).touches _ own
  have unlock : Uses (Apart (.stateTmp pid)) (unlockDest destLock) := by
    cases destLock with
    | none => trivial
    | some file => exact Calls.ignore (Calls.sys (silently rfl))
  apply Holds.bind (fun _ => DraftCase pid w)
  · apply Run.context
    refine Run.sys start.case (fun choice answer v answered => ?_)
    obtain ⟨free,⟨ino,found⟩,draft,record⟩ := start
    obtain ⟨error,rfl,rfl⟩ | ⟨rfl,_,rfl⟩ := rename_cases answered
    · have still : DraftCase pid w (m.1,m.2 ++ [⟨m.1,recorded pid,choice,.error error⟩]) :=
        .there free ino found (done_snoc.mpr (.inl draft)) (not_done_failed record rfl)
      exact ⟨still,still⟩
    · have gone : (m.1.move (.stateTmp pid) .stateJson).node (.stateTmp pid) = none := by
        rw [World.move_node m.1 found]
        simp
      have moved : DraftCase pid w (m.1.move (.stateTmp pid) .stateJson,m.2 ++ [⟨m.1,recorded pid,choice,.ok ()⟩]) :=
        .moved free gone (done_snoc.mpr (.inl draft)) (done_snoc.mpr (.inr ⟨rfl,rfl⟩))
      exact ⟨moved,moved⟩
  · intro _ m _ held
    exact ((Calls.ignore (Calls.sys (silently rfl))).bind fun _ => unlock).stable (DraftCase.stable pid w) held
  · exact fun _ _ held _ => held

theorem save_draft : Holds (machine tar).record (DraftCase pid w) (fun _ => DraftCase pid w)
    (save serde installRoot pid s) (w,[]) := by
  have silently {operation : Call} (quiet : silent operation = true) : Apart (.stateTmp pid) operation :=
    fun own => (quiet_of_silent quiet).touches _ own
  have unmade : Stable (machine tar) Quiet (fun m => m.1.node (.stateTmp pid) = w.node (.stateTmp pid) ∧
      ¬ Done (drafted pid) m.2 ∧ ¬ Done (recorded pid) m.2) :=
    ((Stable.node _ id _).mono fun _ => Quiet.still).and ((Stable.not_done fun quiet => quiet.touches (.stateTmp pid) rfl).and
      (Stable.not_done (recorded_loud pid)))
  have early {m : Moment} (held : m.1.node (.stateTmp pid) = w.node (.stateTmp pid) ∧ ¬ Done (drafted pid) m.2 ∧
      ¬ Done (recorded pid) m.2) : DraftCase pid w m := .none held.1 held.2.1 held.2.2
  refine Holds.bind _ (((Calls.context (Calls.sys (quiet_of_silent rfl))).stable unmade
    ⟨rfl,not_done_nil _,not_done_nil _⟩).mono (fun _ => early) (fun _ _ _ held => held)) ?_ (fun _ _ now _ => now)
  intro _ m _ held
  apply Holds.bind (fun outcome m => ∀ tmp, outcome = .ok tmp → Drafting pid w m)
  · apply Run.context
    refine (draft_holds held.1 held.2.1 held.2.2).mono (fun _ now => now) (fun outcome _ _ ends => ?_)
    cases outcome with
    | ok tmp => exact fun other _ => ends tmp rfl
    | error error => exact nofun
  · intro tmp m _ made
    have drafting := made tmp rfl
    have keep := @Drafting.stable tar pid w
    have opens : Uses (Apart (.stateTmp pid)) (Io.openFile .stateJson .readWriteCreate) :=
      Calls.sys fun own => by cases own
    refine Holds.bind _ ((opens.attempt.stable keep drafting).mono (fun _ => Drafting.case)
      (fun _ _ _ held => held)) ?_ (fun _ _ now _ => now)
    intro destLock m _ drafting
    apply closingOption_holds ((DraftCase.stable pid w).mono fun _ quiet own => quiet.touches _ own)
      (fun _ => (DraftCase.stable pid w).mono fun _ quiet own => quiet.touches _ own)
    refine Holds.bind _ (((Calls.closing (silently rfl) saveBytes_apart).stable keep drafting).mono
      (fun _ => Drafting.case) (fun _ _ _ held => held)) ?_ (fun _ _ now _ => now)
    exact fun _ m _ drafting => moveDraft_holds drafting
  · exact fun _ _ now _ => now

end Draft

section Saves

theorem Fits.sys {α : Type} {operation : Call} {reply : Reply operation → Except IoError α} :
    Fits 1 (sys operation reply) := by
  intro answer
  change Fits 0 (Program.ofExcept (reply answer))
  cases reply answer with
  | ok value => trivial
  | error error => trivial

theorem Fits.closing {α : Type} {n : Nat} {file : Handle} {body : Prog Error α} (fits : Fits n body) :
    Fits (n + 1) (closing file body) := by
  refine fits.attempt.bind fun outcome => ?_
  refine @Fits.bind _ _ _ _ 1 0 _ _ (@Fits.bind _ _ _ _ 1 0 _ _ Fits.sys.attempt fun _ => trivial) fun _ => ?_
  cases outcome with
  | ok value => trivial
  | error error => trivial

theorem save_fits {serde : Serde} {installRoot : String} {pid : Nat} {s : InstallState} :
    Fits 12 (save serde installRoot pid s) := by
  have lock (file : Option Handle) : Fits 1 (lockDest file) := by
    cases file with
    | none => trivial
    | some file => exact Fits.sys.mapError
  have unlock (file : Option Handle) : Fits 1 (unlockDest file) := by
    cases file with
    | none => trivial
    | some file => exact @Fits.bind _ _ _ _ 1 0 _ _ Fits.sys.attempt fun _ => trivial
  have written (tmp : Handle) (destLock : Option Handle) (tmpPath : String) :
      Fits 4 (saveBytes serde tmp destLock tmpPath s) := by
    refine @Fits.bind _ _ _ _ 1 3 _ _ (lock destLock) fun _ => ?_
    refine @Fits.bind _ _ _ _ 1 2 _ _ Fits.sys.mapError fun _ => ?_
    exact @Fits.bind _ _ _ _ 1 1 _ _ Fits.sys.mapError fun _ => Fits.sys.mapError
  have whole (file : Option Handle) (body : Prog Error Unit) (fits : Fits 8 body) : Fits 9 (closingOption file body) := by
    cases file with
    | none => exact fits.mono (by decide)
    | some file => exact Fits.closing fits
  refine @Fits.bind _ _ _ _ 1 11 _ _ Fits.sys.mapError fun _ => ?_
  refine @Fits.bind _ _ _ _ 1 10 _ _ Fits.sys.mapError fun tmp => ?_
  refine @Fits.bind _ _ _ _ 1 9 _ _ Fits.sys.attempt fun destLock => whole _ _ ?_
  refine @Fits.bind _ _ _ _ 5 3 _ _ (Fits.closing (written _ _ _)) fun _ => ?_
  refine @Fits.bind _ _ _ _ 1 2 _ _ Fits.sys.mapError fun _ => ?_
  refine @Fits.bind _ _ _ _ 1 1 _ _ ?_ fun _ => unlock _
  exact @Fits.bind _ _ _ _ 1 0 _ _ Fits.sys.attempt fun _ => trivial

/-- A call of `save` and what its calls meet. -/
structure SaveCall where
  pid : Nat
  state : InstallState
  choices : List Choice

namespace SaveCall

def run (tar : TarCrate) (serde : Serde) (installRoot : String) (w : World) (call : SaveCall) :
    Prog Error Unit × Moment :=
  (machine tar).record.run call.choices (save serde installRoot call.pid call.state) (w,[])

def after (tar : TarCrate) (serde : Serde) (installRoot : String) (w : World) (call : SaveCall) : World :=
  (call.run tar serde installRoot w).2.1

/-- No call of it was made to fail, and it came to an end. -/
structure Unfailing (call : SaveCall) : Prop where
  faultless : ∀ choice ∈ call.choices, choice.fails = false
  enough : 12 ≤ call.choices.length

end SaveCall

variable {tar : TarCrate} {serde : Serde} {installRoot : String} {pid : Nat} {w : World} {call : SaveCall}

/-- The save returns `Ok`, and every load after it that no call fails returns the state. -/
def Lands (tar : TarCrate) (serde : Serde) (installRoot : String) (w : World) (call : SaveCall) : Prop :=
  (call.run tar serde installRoot w).1.result = some (.ok ()) ∧
    ∀ choices : List Choice, (∀ choice ∈ choices, choice.fails = false) → 5 ≤ choices.length →
      ((machine tar).record.run choices (load serde installRoot) (call.after tar serde installRoot w,[])).1.result =
        some (.ok call.state)

/-- The save made its temporary file and then failed, or was cut short, before it
could move it into place. -/
def BrokenOff (tar : TarCrate) (serde : Serde) (installRoot : String) (w : World) (call : SaveCall) : Prop :=
  Done (drafted call.pid) (call.run tar serde installRoot w).2.2 ∧
    ¬ Done (recorded call.pid) (call.run tar serde installRoot w).2.2

/-- The save is not one of this process id that is broken off. -/
def NotBroken (tar : TarCrate) (serde : Serde) (installRoot : String) (pid : Nat) (w : World) (call : SaveCall) : Prop :=
  call.pid = pid → ¬ BrokenOff tar serde installRoot w call

theorem draft_case : DraftCase call.pid w (call.run tar serde installRoot w).2 :=
  ((@save_draft tar serde installRoot call.pid call.state w).run call.choices).1

theorem save_entry {place : Loc} (apart : ¬ stateFiles call.pid place) :
    (call.after tar serde installRoot w).node place = w.node place := by
  have keep := (@Stable.entry tar place fun entry => entry = w.node place).mono
    fun operation (saves : Saves call.pid operation) own => apart (saves.touches own)
  exact (((save_uses serde installRoot call.pid call.state).stable keep (m := (w,[])) rfl).run call.choices).1

theorem free_after_iff : (call.after tar serde installRoot w).node (.stateTmp pid) = none ↔
    w.node (.stateTmp pid) = none ∧ NotBroken tar serde installRoot pid w call := by
  by_cases own : call.pid = pid
  · subst own
    cases @draft_case tar serde installRoot w call with
    | none place draft record =>
      refine ⟨fun gone => ⟨place.symm.trans gone,fun _ broken => draft broken.1⟩,fun free => place.trans free.1⟩
    | there free ino place draft record =>
      refine ⟨fun gone => ?_,fun unbroken => absurd ⟨draft,record⟩ (unbroken.2 rfl)⟩
      cases place.symm.trans gone
    | moved free place draft record => exact ⟨fun _ => ⟨free,fun _ broken => broken.2 record⟩,fun _ => place⟩
  · have other : ¬ stateFiles call.pid (.stateTmp pid) := by
      simp [stateFiles,Ne.symm own]
    rw [save_entry other]
    exact ⟨fun free => ⟨free,fun same => absurd same own⟩,fun free => free.1⟩

/-- A temporary file is free after some saves where it was free before them and none of
them, of that process id, was broken off. -/
theorem free_after_all_iff (saves : List SaveCall) :
    (saves.foldl (SaveCall.after tar serde installRoot) w).node (.stateTmp pid) = none ↔
      w.node (.stateTmp pid) = none ∧
        Meets (SaveCall.after tar serde installRoot) (NotBroken tar serde installRoot pid) w saves := by
  induction saves generalizing w with
  | nil => simp [Meets]
  | cons call saves ih => rw [List.foldl_cons,ih,free_after_iff,and_assoc,Meets]

theorem save_keeps_file (cell : NoDir w .stateJson) : NoDir (call.after tar serde installRoot w) .stateJson := by
  obtain unsaved | saved := ((@save_holds tar serde installRoot call.pid w call.state (w,[]) (unsaved_start _ w)).run
    call.choices).1
  · obtain same | ⟨_,ino,_,found,_⟩ := unsaved.2.1
    · exact fun ino content => same ▸ cell ino content
    · exact fun held content other => nomatch found.symm.trans other
  · obtain ⟨ino,_,found,_⟩ := saved.2.1
    exact fun held content other => nomatch found.symm.trans other

theorem lands_iff (cell : NoDir w .stateJson) (unfailing : call.Unfailing) :
    Lands tar serde installRoot w call ↔ w.node (.stateTmp call.pid) = none := by
  constructor
  · rintro ⟨ended,_⟩
    have saved := ((@save_holds tar serde installRoot call.pid w call.state (w,[]) (unsaved_start _ w)).run
      call.choices).2 (.ok ()) ended
    obtain ⟨_,done⟩ | ⟨⟨error,failed⟩,_⟩ := saved
    · cases @draft_case tar serde installRoot w call with
      | none place draft record => exact absurd done.2.2 record
      | there free ino place draft record => exact absurd done.2.2 record
      | moved free place draft record => exact free
    · cases failed
  · intro free
    obtain ⟨outcome,ended⟩ := save_fits.run unfailing.enough (w,[])
    obtain ⟨rfl,kept⟩ := ends_recorded (save_steady free cell) unfailing.faultless ended
    refine ⟨ended,fun choices faultless enough => ?_⟩
    obtain ⟨found,loaded⟩ := load_fits.run enough (call.after tar serde installRoot w,[])
    obtain ⟨rfl,_⟩ := ends_recorded (load_steady kept.read) faultless loaded
    exact loaded

/-- After any saves, failed or cut short anywhere, a save that no call fails lands exactly
where its temporary file was free at first and no earlier save of its process id was broken off. -/
theorem save_lands_iff (tar : TarCrate) (serde : Serde) (installRoot : String) (w : World) (saves : List SaveCall)
    (call : SaveCall) (cell : NoDir w .stateJson) (unfailing : call.Unfailing) :
    Lands tar serde installRoot (saves.foldl (SaveCall.after tar serde installRoot) w) call ↔
      w.node (.stateTmp call.pid) = none ∧
        Meets (SaveCall.after tar serde installRoot) (NotBroken tar serde installRoot call.pid) w saves := by
  have still : NoDir (saves.foldl (SaveCall.after tar serde installRoot) w) .stateJson := by
    induction saves generalizing w with
    | nil => exact cell
    | cons save saves ih => exact ih _ (save_keeps_file cell)
  rw [lands_iff still unfailing,free_after_all_iff]

end Saves

section Process

noncomputable def pendingSerde : Serde := stateSerde [pending]

def savePending : SaveCall := ⟨7,pending,List.replicate 12 smooth⟩

/-- The same, its write made to fail after a few bytes. -/
def diskFull : SaveCall := ⟨7,pending,List.replicate 4 smooth ++ [⟨true,40⟩] ++ List.replicate 7 smooth⟩

theorem savePending_unfailing : savePending.Unfailing where
  faultless choice member := by
    rw [List.eq_of_mem_replicate member]
    rfl
  enough := Nat.le_refl 12

theorem bare_save_lands :
    Lands noTar pendingSerde "/opt/bilbycast/gateway"
      ([savePending].foldl (SaveCall.after noTar pendingSerde "/opt/bilbycast/gateway") World.bare) savePending := by
  refine (save_lands_iff noTar pendingSerde "/opt/bilbycast/gateway" World.bare [savePending] savePending nofun
    savePending_unfailing).mpr ⟨rfl,fun _ broken => broken.2 ?_,trivial⟩
  unfold Done Saw
  decide +kernel

/-- A write fails once for want of space; from then on no save of that process id lands. -/
theorem diskFull_wedges :
    ¬ Lands noTar pendingSerde "/opt/bilbycast/gateway"
      ([diskFull].foldl (SaveCall.after noTar pendingSerde "/opt/bilbycast/gateway") World.bare) savePending := by
  intro lands
  have ended := lands.1
  have failed : ((savePending.run noTar pendingSerde "/opt/bilbycast/gateway"
      ([diskFull].foldl (SaveCall.after noTar pendingSerde "/opt/bilbycast/gateway") World.bare)).1.result.map
        Except.isOk) = some false := by
    decide +kernel
  rw [ended] at failed
  cases failed

end Process
end GatewaySdk.Upgrade
