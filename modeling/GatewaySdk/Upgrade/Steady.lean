import GatewaySdk.Host.Steady
import GatewaySdk.Upgrade.Atomic
import GatewaySdk.Upgrade.WatchdogFacts

/-! The operations on `state.json` and the revert on a machine that fails no call: each
ends well wherever the files it needs are there and those it makes are not. -/
namespace GatewaySdk.Upgrade
open GatewaySdk.Effect GatewaySdk.Host

section Wrapped
variable {tar : TarCrate} {M : Machine Sig Nat World} {ε δ α : Type} {w : World}

@[simp] theorem ends_ofExcept {post : Except ε α → World → Prop} {outcome : Except ε α} :
    Ends M post (Program.ofExcept outcome) w ↔ post outcome w := by
  cases outcome with
  | ok value => exact Iff.rfl
  | error error => exact Iff.rfl

@[simp] theorem ends_sys {operation : Call} {reply : Reply operation → Except IoError α}
    {post : Except IoError α → World → Prop} :
    Ends (steadily tar) post (sys operation reply) w ↔
      ∀ amount, post (reply (answer tar operation (steady amount) w).1) (answer tar operation (steady amount) w).2 :=
  forall_congr' fun _ => ends_ofExcept

@[simp] theorem ends_context {message : String} {program : Prog IoError α} {post : Except Error α → World → Prop} :
    Ends M post (context message program) w ↔
      Ends M (fun outcome w => post (outcome.mapError fun _ => message) w) program w :=
  Ends.mapError

@[simp] theorem ends_bare {program : Prog IoError α} {post : Except Error α → World → Prop} :
    Ends M post (bare program) w ↔ Ends M (fun outcome w => post (outcome.mapError IoError.text) w) program w :=
  Ends.mapError

@[simp] theorem ends_ignore {program : Prog ε α} {post : Except δ Unit → World → Prop} :
    Ends M post (ignore program : Prog δ Unit) w ↔ Ends M (fun _ w => post (.ok ()) w) program w := by
  simp [ignore]

@[simp] theorem ends_closing {file : Handle} {body : Prog Error α} {post : Except Error α → World → Prop} :
    Ends (steadily tar) post (closing file body) w ↔
      Ends (steadily tar) (fun outcome w => post outcome (w.release file)) body w := by
  simp [closing,Io.close,answer]

end Wrapped

section Operations
variable {tar : TarCrate} {serde : Serde} {installRoot : String} {pid : Nat} {s : InstallState} {w : World}

/-- What a save leaves that has done its work. -/
structure Kept (serde : Serde) (pid : Nat) (s : InstallState) (w w' : World) : Prop where
  read : readState serde w' = some s
  free : w'.node (.stateTmp pid) = none
  framed : Framed (stateFiles pid) w w'

theorem Kept.of_same {v w' : World} (same : SameFiles w v) (kept : Kept serde pid s v w') : Kept serde pid s w w' := by
  refine ⟨kept.read,kept.free,fun place out => ?_,fun ino old => ?_,?_⟩
  · exact (kept.framed.node place out).trans (congrFun same.node place)
  · exact (kept.framed.data ino (same.fresh ▸ old)).trans (congrFun same.data ino)
  · exact same.fresh ▸ kept.framed.fresh

theorem Kept.then_same {v w' : World} (kept : Kept serde pid s w v) (same : SameFiles v w') : Kept serde pid s w w' := by
  refine ⟨?_,same.node ▸ kept.free,fun place out => ?_,fun ino old => ?_,?_⟩
  · exact (readState_same (congrFun same.node _) fun ino _ => congrFun same.data ino).trans kept.read
  · exact (congrFun same.node place).trans (kept.framed.node place out)
  · exact (congrFun same.data ino).trans (kept.framed.data ino old)
  · exact same.fresh ▸ kept.framed.fresh

theorem load_steady (read : readState serde w = some s) :
    Ends (steadily tar) (fun outcome w' => outcome = .ok s ∧ SameFiles w w') (load serde installRoot) w := by
  obtain ⟨ino,found,parsed⟩ := readState_some read
  simp [load,Io.openFile,Io.lockShared,Io.readToString,Io.unlock,answer,openAnswer,found,parsed,Except.mapError]
  exact ⟨rfl,rfl,rfl⟩

theorem saveBytes_goes {tmp : Handle} {destLock : Option Handle} {tmpPath : String} :
    Ends (steadily tar) (fun outcome w' => outcome = .ok () ∧ w'.node = w.node)
      (saveBytes serde tmp destLock tmpPath s) w := by
  cases destLock with
  | none => simp [saveBytes,lockDest,Io.writeAll,Io.flush,Io.syncAll,answer,Except.mapError]
  | some file => simp [saveBytes,lockDest,Io.lockExclusive,Io.writeAll,Io.flush,Io.syncAll,answer,Except.mapError]

theorem moveTmp_goes {ino : Nat} {destLock : Option Handle} {message : String}
    (place : w.node (.stateTmp pid) = some (.file ino)) (cell : NoDir w .stateJson) :
    Ends (steadily tar) (fun outcome w' => outcome = .ok () ∧ w'.node (.stateTmp pid) = none)
      (do
        context message (Io.rename (.stateTmp pid) .stateJson)
        ignore (Io.syncDir .root)
        unlockDest destLock) w := by
  have allowed : w.renameError (.stateTmp pid) .stateJson = none := by
    unfold World.renameError
    rw [place]
    cases found : w.node .stateJson with
    | none => rfl
    | some entry =>
      cases entry with
      | dir held content => exact absurd found (cell held content)
      | file held => rfl
      | symlink target => rfl
  have moved : (w.move (.stateTmp pid) .stateJson).node (.stateTmp pid) = none := by
    rw [World.move_node w place]
    simp
  cases destLock with
  | none => simp [Io.rename,Io.syncDir,unlockDest,answer,allowed,Except.mapError,moved]
  | some file => simp [Io.rename,Io.syncDir,unlockDest,Io.unlock,answer,allowed,Except.mapError,moved]

theorem closingOption_goes {file : Option Handle} {body : Prog Error Unit}
    {post : Except Error Unit → (Loc → Option Node) → Prop}
    (ends : Ends (steadily tar) (fun outcome w => post outcome w.node) body w) :
    Ends (steadily tar) (fun outcome w => post outcome w.node) (closingOption file body) w := by
  cases file with
  | none => exact ends
  | some file => simpa [closingOption] using ends

theorem save_goes (free : w.node (.stateTmp pid) = none) (cell : NoDir w .stateJson) :
    Ends (steadily tar) (fun outcome w' => outcome = .ok () ∧ w'.node (.stateTmp pid) = none)
      (save serde installRoot pid s) w := by
  have parent : Ends (steadily tar) (fun outcome v => outcome = .ok () ∧ v = w)
      (context ("creating state parent " ++ installRoot) (Io.createDirAll .root)) w := by
    simp [Io.createDirAll,answer,Except.mapError]
  have draft : Ends (steadily tar) (fun outcome v => outcome = .ok (w.handle w.fresh) ∧
      v = (w.create (.stateTmp pid)).opened)
      (context ("creating " ++ (Loc.stateTmp pid).display installRoot) (Io.openFile (.stateTmp pid) .createNew)) w := by
    simp [Io.openFile,answer,openAnswer,free,World.parentOk,Except.mapError]
  have lock : Ends (steadily tar) (fun outcome v => ∃ destLock, outcome = .ok destLock ∧
      v.node (.stateTmp pid) = some (.file w.fresh) ∧ NoDir v .stateJson)
      ((Io.openFile .stateJson .readWriteCreate).attempt : Prog Error (Except IoError Handle))
      (w.create (.stateTmp pid)).opened := by
    have still : NoDir (w.create (.stateTmp pid)).opened .stateJson := fun ino content => by
      simpa using cell ino content
    cases found : w.node .stateJson with
    | none => simp [Io.openFile,answer,openAnswer,found,World.parentOk,NoDir]
    | some entry =>
      cases entry with
      | dir ino content => exact absurd found (cell ino content)
      | file ino =>
        simp [Io.openFile,answer,openAnswer,found]
        exact still
      | symlink target =>
        simp [Io.openFile,answer,openAnswer,found]
        exact still
  refine parent.next ?_
  intro v same
  rw [same]
  refine draft.next ?_
  intro v same
  rw [same]
  refine lock.after ?_
  rintro destLock v ⟨place,cell⟩
  apply @closingOption_goes tar _ _ _ fun outcome node => outcome = .ok () ∧ node (.stateTmp pid) = none
  have written := @saveBytes_goes tar serde s v (w.handle w.fresh) destLock.toOption
    ((Loc.stateTmp pid).display installRoot)
  have closed : Ends (steadily tar) (fun outcome v' => outcome = .ok () ∧ v'.node = v.node)
      (closing (w.handle w.fresh) (saveBytes serde (w.handle w.fresh) destLock.toOption
        ((Loc.stateTmp pid).display installRoot) s)) v := by
    simpa using written
  refine closed.next ?_
  intro v' same
  apply moveTmp_goes (same ▸ place)
  exact fun ino content => same ▸ cell ino content

theorem save_steady (free : w.node (.stateTmp pid) = none) (cell : NoDir w .stateJson) :
    Ends (steadily tar) (fun outcome w' => outcome = .ok () ∧ Kept serde pid s w w')
      (save serde installRoot pid s) w := by
  have saved := (@save_holds tar serde installRoot pid w s (w,[]) (unsaved_start pid w)).ends.under steady
  refine ((save_goes free cell).and saved).mono ?_
  rintro outcome w' ⟨⟨rfl,gone⟩,log,⟨_,done⟩ | ⟨⟨error,failed⟩,_⟩⟩
  · exact ⟨rfl,readState_saved done,gone,done.1⟩
  · cases failed

theorem bump_steady (read : readState serde w = some s) :
    Ends (steadily tar) (fun outcome w' => outcome = .ok (bumped s).bootAttempts ∧ w'.node = w.node ∧
      readState serde w' = some (bumped s)) (bumpBootAttempts serde) w := by
  obtain ⟨ino,found,parsed⟩ := readState_some read
  have text := serde.fromStr_toVecPretty (bumped s)
  simp [bumpBootAttempts,rewrite,Io.openFile,Io.lockExclusive,Io.seekStart,Io.readToString,Io.setLenZero,Io.writeAll,
    Io.flush,Io.syncAll,Io.unlock,answer,openAnswer,found,parsed,Except.mapError,readState,World.content,text]

theorem update_steady {mutate : InstallState → Prog Error InstallState} {change : InstallState → Prop}
    (read : readState serde w = some s) (free : w.node (.stateTmp pid) = none)
    (changes : ∀ w, Ends (steadily tar) (fun outcome w' => ∃ t, outcome = .ok t ∧ change t ∧ SameFiles w w') (mutate s) w) :
    Ends (steadily tar) (fun outcome w' => outcome = .ok () ∧ ∃ t, change t ∧ Kept serde pid t w w')
      (update serde installRoot pid mutate) w := by
  obtain ⟨ino,found,_⟩ := readState_some read
  refine (load_steady read).next ?_
  intro v same
  refine (changes v).after ?_
  rintro t v' ⟨changed,same'⟩
  have same : SameFiles w v' := same.trans same'
  have cell : NoDir v' .stateJson := by simp [NoDir,same.node,found]
  refine (save_steady (same.node ▸ free) cell).mono ?_
  rintro outcome w' ⟨rfl,kept⟩
  exact ⟨rfl,t,changed,kept.of_same same⟩

theorem swapTmp_goes {p : String} (free : w.node .currentTmp = none) (live : NoDir w .current) :
    Ends (steadily tar) (fun outcome w' => outcome = .ok (revertedState s p) ∧ w'.node .currentTmp = none)
      (do
        bare (Io.symlink (.version p) .currentTmp)
        bare (Io.rename .currentTmp .current)
        return revertedState s p) w := by
  have linked : (w.link .currentTmp (.version p)).node .currentTmp = some (.symlink (.version p)) := by simp
  have allowed : (w.link .currentTmp (.version p)).renameError .currentTmp .current = none := by
    unfold World.renameError
    rw [linked]
    cases found : w.node .current with
    | none => simp [found,World.parentOk]
    | some entry =>
      cases entry with
      | dir ino content => exact absurd found (live ino content)
      | file ino => simp [found]
      | symlink target => simp [found]
  have moved : ((w.link .currentTmp (.version p)).move .currentTmp .current).node .currentTmp = none := by
    rw [World.move_node _ linked]
    simp
  simp [Io.symlink,Io.rename,answer,free,World.parentOk,allowed,moved,Except.mapError]

theorem revert_steady {p : String} (named : s.previousVersion = some p) (there : w.isDir (.version p) = true)
    (tmp : NoDir w .currentTmp) (live : NoDir w .current) :
    Ends (steadily tar) (fun outcome w' => outcome = .ok (revertedState s p) ∧
      w'.node .current = some (.symlink (.version p)) ∧ w'.node .currentTmp = none ∧ Framed swapPlaces w w')
      (revertToPrevious installRoot s) w := by
  have goes : Ends (steadily tar) (fun outcome w' => outcome = .ok (revertedState s p) ∧ w'.node .currentTmp = none)
      (revertToPrevious installRoot s) w := by
    have looked : Ends (steadily tar) (fun outcome v => outcome = .ok true ∧ v = w)
        (Io.isDir (.version p) : Prog Error Bool) w :=
      fun _ => ⟨congrArg Except.ok there,rfl⟩
    have cleared : Ends (steadily tar) (fun outcome v => outcome = .ok () ∧ v.node .currentTmp = none ∧ NoDir v .current)
        (ignore (Io.removeFile .currentTmp) : Prog Error Unit) w := by
      cases found : w.node .currentTmp with
      | none => simp [Io.removeFile,answer,found,live]
      | some entry =>
        cases entry with
        | dir ino content => exact absurd found (tmp ino content)
        | file ino =>
          simp [Io.removeFile,answer,found]
          exact fun ino content => by simpa using live ino content
        | symlink target =>
          simp [Io.removeFile,answer,found]
          exact fun ino content => by simpa using live ino content
    unfold revertToPrevious
    rw [named]
    refine looked.next ?_
    intro v same
    rw [same]
    refine cleared.next ?_
    rintro v ⟨free,live⟩
    exact swapTmp_goes free live
  have reverts := (@revert_holds tar installRoot s w (w,[]) ⟨rfl,not_done_nil _⟩ (.refl _ _) fun _ _ held => held).ends
  refine (goes.and (reverts.under steady)).mono ?_
  rintro outcome w' ⟨⟨rfl,free⟩,log,framed,⟨q,_,reverted⟩ | ⟨⟨error,failed⟩,_⟩⟩
  · obtain rfl := Option.some.inj (reverted.1.symm.trans named)
    exact ⟨rfl,reverted.2.2.1,free,framed⟩
  · cases failed

/-- No process has left a draft of the state, and no directory is in the way of the links. -/
structure Orderly (w : World) : Prop where
  drafts : ∀ pid, w.node (.stateTmp pid) = none
  current : NoDir w .current
  currentTmp : NoDir w .currentTmp

theorem Orderly.of_node {w' : World} (orderly : Orderly w) (same : w'.node = w.node) : Orderly w' :=
  ⟨fun pid => same ▸ orderly.drafts pid,fun ino content => same ▸ orderly.current ino content,
    fun ino content => same ▸ orderly.currentTmp ino content⟩

theorem Orderly.of_kept {w' : World} (orderly : Orderly w) (kept : Kept serde pid s w w') : Orderly w' := by
  refine ⟨fun other => ?_,fun ino content => ?_,fun ino content => ?_⟩
  · by_cases same : other = pid
    · exact same ▸ kept.free
    · exact (kept.framed.node (.stateTmp other) (by simp [stateFiles,same])).trans (orderly.drafts other)
  · rw [kept.framed.node .current (by simp [stateFiles])]
    exact orderly.current ino content
  · rw [kept.framed.node .currentTmp (by simp [stateFiles])]
    exact orderly.currentTmp ino content

theorem noDir_of_read (read : readState serde w = some s) : NoDir w .stateJson := by
  obtain ⟨ino,found,_⟩ := readState_some read
  simp [NoDir,found]

theorem trySend_goes {ε : Type} {event : UpgradeEvent} :
    Ends (steadily tar) (fun outcome v => outcome = .ok () ∧ SameFiles w v) (ignore (Io.trySend event) : Prog ε Unit) w := by
  simp [Io.trySend,answer]
  exact ⟨rfl,rfl,rfl⟩

theorem now_goes {ε : Type} :
    Ends (steadily tar) (fun outcome v => ∃ time, outcome = .ok time ∧ SameFiles w v) (Io.now : Prog ε Int) w :=
  fun _ => ⟨_,rfl,rfl,rfl,rfl⟩

theorem watch_steady {post : Except Error BootEnd → World → Prop} {cfg : UpgradeConfig}
    (read : readState serde w = some s) (rest : ∀ v, SameFiles w v →
      Ends (steadily tar) post (bootFrom serde cfg.installRoot pid cfg.maxBootAttempts s) v) :
    Ends (steadily tar) post (watch serde pid cfg) w := by
  obtain ⟨ino,found,_⟩ := readState_some read
  have there : (w.stat .stateJson).isSome = true := by
    rw [World.stat_of_no_link _ _ _ found nofun]
    rfl
  have looked : Ends (steadily tar) (fun outcome v => outcome = .ok true ∧ v = w)
      (Io.pathExists .stateJson : Prog Error Bool) w :=
    fun _ => ⟨congrArg Except.ok there,rfl⟩
  refine looked.next ?_
  intro v same
  rw [same]
  have loaded : Ends (steadily tar) (fun outcome v => outcome = .ok (.ok s) ∧ SameFiles w v)
      ((load serde cfg.installRoot).attempt : Prog Error (Except Error InstallState)) w := by
    rw [Ends.attempt]
    exact (load_steady read).mono fun outcome v ended => ⟨congrArg Except.ok ended.1,ended.2⟩
  exact loaded.next rest

theorem countBoot_steady {maxBootAttempts : UInt32} (read : readState serde w = some s)
    (few : (bumped s).bootAttempts ≤ maxBootAttempts) :
    Ends (steadily tar) (fun outcome w' => outcome = .ok (.returned (.pendingHealth (bumped s).bootAttempts) none) ∧
      w'.node = w.node ∧ readState serde w' = some (bumped s)) (countBoot serde installRoot pid maxBootAttempts s) w := by
  refine (bump_steady read).next ?_
  intro v held
  rw [if_neg (UInt32.not_lt.mpr few)]
  exact ⟨rfl,held⟩

theorem rollBack_steady {maxBootAttempts : UInt32} {p : String} (read : readState serde w = some s)
    (more : maxBootAttempts < (bumped s).bootAttempts) (named : s.previousVersion = some p)
    (there : w.isDir (.version p) = true) (orderly : Orderly w) :
    Ends (steadily tar) (fun outcome w' => outcome = .ok (.exited 1 (.ok ())) ∧
      w'.node .current = some (.symlink (.version p)) ∧ Orderly w' ∧
      (∀ name, w'.node (.version name) = w.node (.version name)) ∧
      readState serde w' = some {revertedState s p with status := .rolledBack})
      (countBoot serde installRoot pid maxBootAttempts s) w := by
  refine (bump_steady read).next ?_
  rintro v ⟨node,_⟩
  rw [if_pos more]
  have counted := orderly.of_node node
  have reverted : Ends (steadily tar) (fun outcome u => outcome = .ok (.ok (revertedState s p)) ∧
      u.node .current = some (.symlink (.version p)) ∧ Orderly u ∧ NoDir u .stateJson ∧
      ∀ name, u.node (.version name) = w.node (.version name))
      ((revertToPrevious installRoot s).attempt : Prog Error (Except Error InstallState)) v := by
    rw [Ends.attempt]
    refine (revert_steady named ((isDir_same node _).trans there) counted.currentTmp counted.current).mono ?_
    rintro outcome u ⟨rfl,live,free,framed⟩
    refine ⟨rfl,live,⟨fun other => ?_,by simp [NoDir,live],by simp [NoDir,free]⟩,fun ino content => ?_,fun name => ?_⟩
    · exact (framed.node (.stateTmp other) (by simp [swapPlaces])).trans (counted.drafts other)
    · rw [framed.node .stateJson (by simp [swapPlaces]),node]
      exact noDir_of_read read ino content
    · rw [framed.node (.version name) (by simp [swapPlaces]),node]
  refine reverted.next ?_
  rintro u ⟨live,orderly,cell,there⟩
  have recorded : Ends (steadily tar) (fun outcome u' => outcome = .ok (.ok ()) ∧
      Kept serde pid {revertedState s p with status := .rolledBack} u u')
      ((save serde installRoot pid {revertedState s p with status := .rolledBack}).attempt :
        Prog Error (Except Error Unit)) u := by
    rw [Ends.attempt]
    exact (save_steady (orderly.drafts pid) cell).mono fun outcome u' ended => ⟨congrArg Except.ok ended.1,ended.2⟩
  refine recorded.next ?_
  intro u' kept
  refine trySend_goes.next ?_
  intro last same
  refine ⟨rfl,?_,(orderly.of_kept kept).of_node same.node,fun name => ?_,?_⟩
  · rw [same.node,kept.framed.node .current (by simp [stateFiles])]
    exact live
  · rw [same.node,kept.framed.node (.version name) (by simp [stateFiles])]
    exact there name
  · exact (readState_same (congrFun same.node _) fun ino _ => congrFun same.data ino).trans kept.read

theorem announce_steady (read : readState serde w = some s) (orderly : Orderly w) :
    Ends (steadily tar) (fun outcome w' =>
      outcome = .ok (.returned (.rolledBack (s.previousVersion.getD "unknown") s.currentVersion) (some (.ok ()))) ∧
        Kept serde pid {s with status := .stable, bootAttempts := 0} w w')
      (announceRollback serde installRoot pid s) w := by
  refine trySend_goes.next ?_
  intro v same
  have cell : NoDir v .stateJson := fun ino content => same.node ▸ noDir_of_read read ino content
  have recorded : Ends (steadily tar) (fun outcome u => outcome = .ok (.ok ()) ∧
      Kept serde pid {s with status := .stable, bootAttempts := 0} v u)
      ((save serde installRoot pid {s with status := .stable, bootAttempts := 0}).attempt :
        Prog Error (Except Error Unit)) v := by
    rw [Ends.attempt]
    exact (save_steady ((orderly.of_node same.node).drafts pid) cell).mono fun outcome u ended =>
      ⟨congrArg Except.ok ended.1,ended.2⟩
  refine recorded.next ?_
  intro u kept
  exact ⟨rfl,kept.of_same same⟩

theorem beat_steady {ε : Type} (read : readState serde w = some s) (orderly : Orderly w) :
    Ends (steadily tar) (fun _ w' => ∃ t, Noted s t ∧ Kept serde pid t w w')
      (recordHealthyBeat serde installRoot pid : Prog ε (Except Error Unit)) w := by
  have notes (v : World) : Ends (steadily tar)
      (fun outcome v' => ∃ t, outcome = .ok t ∧ Noted s t ∧ SameFiles v v') (noteHealth s) v := by
    unfold noteHealth
    split
    next pending => exact fun amount => ⟨_,rfl,.inr ⟨pending,_,rfl⟩,⟨rfl,rfl,rfl⟩⟩
    · exact ⟨s,rfl,.inl rfl,.refl v⟩
  unfold recordHealthyBeat
  rw [Ends.attempt]
  exact (update_steady read (orderly.drafts pid) notes).mono fun _ _ ended => ended.2

theorem promote_steady {ε : Type} {u : World} {t : InstallState} {seconds : UInt32} (same : SameFiles w u)
    (read : readState serde w = some s) (orderly : Orderly w) :
    Ends (steadily tar) (fun outcome w' => outcome = .ok (some (.ok ())) ∧ Kept serde pid {s with status := .stable} w w')
      (promote serde installRoot pid t seconds : Prog ε (Option (Except Error Unit))) u := by
  have promotes (v : World) : Ends (steadily tar)
      (fun outcome v' => ∃ r, outcome = .ok r ∧ r = {s with status := .stable} ∧ SameFiles v v')
      (return {s with status := .stable} : Prog Error InstallState) v := ⟨_,rfl,rfl,.refl v⟩
  have found : readState serde u = some s :=
    (readState_same (congrFun same.node _) fun ino _ => congrFun same.data ino).trans read
  have saved : Ends (steadily tar) (fun outcome v => outcome = .ok (.ok ()) ∧ Kept serde pid {s with status := .stable} u v)
      ((update serde installRoot pid (fun s => return {s with status := .stable})).attempt :
        Prog ε (Except Error Unit)) u := by
    rw [Ends.attempt]
    refine (update_steady found ((orderly.of_node same.node).drafts pid) promotes).mono ?_
    rintro outcome v ⟨rfl,_,rfl,kept⟩
    exact ⟨rfl,kept⟩
  refine saved.next ?_
  intro v kept
  refine trySend_goes.next ?_
  intro last sent
  exact ⟨rfl,(kept.of_same same).then_same sent⟩

theorem finalize_steady {ε : Type} {cfg : UpgradeConfig} (read : readState serde w = some s) (orderly : Orderly w) :
    Ends (steadily tar) (fun outcome w' => (outcome = .ok none ∧ SameFiles w w') ∨
        outcome = .ok (some (.ok ())) ∧ Kept serde pid {s with status := .stable} w w')
      (finalizeIfStable serde installRoot pid cfg : Prog ε (Option (Except Error Unit))) w := by
  have loaded : Ends (steadily tar) (fun outcome v => outcome = .ok (.ok s) ∧ SameFiles w v)
      ((load serde installRoot).attempt : Prog ε (Except Error InstallState)) w := by
    rw [Ends.attempt]
    exact (load_steady read).mono fun outcome v ended => ⟨congrArg Except.ok ended.1,ended.2⟩
  refine loaded.next ?_
  intro v same
  dsimp only
  split
  · exact .inl ⟨rfl,same⟩
  · split
    · exact .inl ⟨rfl,same⟩
    · refine now_goes.after ?_
      intro first u ticked
      dsimp only
      split
      · exact .inl ⟨rfl,same.trans ticked⟩
      · refine now_goes.after ?_
        intro second u' ticked'
        have still : SameFiles w u' := (same.trans ticked).trans ticked'
        split
        · exact .inl ⟨rfl,still⟩
        · exact (promote_steady still read orderly).mono fun _ _ => .inr

end Operations
end GatewaySdk.Upgrade
