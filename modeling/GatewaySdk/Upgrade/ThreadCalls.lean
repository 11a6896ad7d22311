import GatewaySdk.Upgrade.Threads

/-! What the calls of a save grant the other threads. -/
namespace GatewaySdk.Upgrade
open GatewaySdk.Effect GatewaySdk.Host

variable {tar : TarCrate} {serde : Serde} {pid : Nat} {origin : Option InstallState} {i : Nat} {σ : Shared}

theorem Sane.no_draft (sane : Sane tar serde pid origin σ) (free : σ.world.node (.stateTmp pid) = none) (j n : Nat) :
    σ.draft ≠ some (j,n) := by
  intro owned
  have found := (sane.draft j n owned).1
  rw [free] at found
  cases found

theorem createTmp_grants (i : Nat) (choice : Choice) (sane : Sane tar serde pid origin σ)
    (free : σ.world.node (.stateTmp pid) = none) :
    let σ' := σ.after tar pid i (.openFile (.stateTmp pid) .createNew) choice (σ.world.create (.stateTmp pid)).opened
    Grants tar serde pid origin i σ σ' ∧ Around tar serde pid origin i σ σ' ∧ σ'.draft = some (i,σ.world.fresh) ∧
      σ'.world.data σ.world.fresh = [] := by
  intro σ'
  have cell : σ'.world.node .stateJson = σ.world.node .stateJson := by simp [σ',Shared.after]
  have data (n : Nat) (old : n < σ.world.fresh) : σ'.world.data n = σ.world.data n := by
    simp [σ',Shared.after,Nat.ne_of_lt old]
  have place : σ'.world.node (.stateTmp pid) = some (.file σ.world.fresh) := by simp [σ',Shared.after]
  have draft : σ'.draft = some (i,σ.world.fresh) := by
    have other : σ'.world.node (.stateTmp pid) ≠ σ.world.node (.stateTmp pid) := by
      rw [place,free]
      nofun
    change draftAfter pid i σ.world σ'.world σ.draft = _
    rw [draftAfter,if_neg other,place]
  have none := sane.no_draft free
  have unread : Unread serde pid i σ σ' := by
    refine ⟨fun j n owned => ?_,readState_same cell data,Nat.le_succ _,fun n old _ => data n old,fun n old _ j owned => ?_,
      fun j n _ owned => absurd owned (none j n),⟨_,rfl,completionOf_mute rfl⟩⟩
    · rw [draft] at owned
      cases owned
      refine ⟨place,fun same => ?_⟩
      rw [cell] at same
      exact Nat.lt_irrefl _ (exists_of_file same)
    · rw [draft] at owned
      cases owned
      exact Nat.lt_irrefl _ old
  exact ⟨unread.grants sane,unread.around sane,draft,by simp [σ',Shared.after]⟩

theorem openCell_grants {choice : Choice} {answer : Except IoError Handle} {w' : World} (sane : Sane tar serde pid origin σ)
    (answered : (machine tar).exec (.openFile .stateJson .readWriteCreate) choice σ.world = (answer,w')) :
    let σ' := σ.after tar pid i (.openFile .stateJson .readWriteCreate) choice w'
    Grants tar serde pid origin i σ σ' ∧ Relies tar serde pid origin i σ σ' := by
  rcases openCreate_cases answered with ⟨error,_,rfl⟩ | ⟨ino,found,_,rfl⟩ | ⟨free,_,rfl⟩
  · exact framed_grants i (.openFile .stateJson .readWriteCreate) choice sane rfl (.refl _ _)
  · exact framed_grants i (.openFile .stateJson .readWriteCreate) choice sane rfl
      ⟨fun _ _ => rfl,fun _ _ => rfl,Nat.le_refl _⟩
  · have data (n : Nat) (old : n < σ.world.fresh) : (σ.world.create .stateJson).opened.data n = σ.world.data n := by
      simp [Nat.ne_of_lt old]
    have read : readState serde (σ.world.create .stateJson).opened = readState serde σ.world := by
      have found : (σ.world.create .stateJson).opened.node .stateJson = some (.file σ.world.fresh) := by simp
      have none : readState serde σ.world = none := by simp [readState,World.content,free]
      rw [readState_of_file found,none,World.opened_data,World.create_data,Function.update_self,fromStr_nil]
    have cell (n : Nat) (old : n < σ.world.fresh)
        (found : (σ.world.create .stateJson).opened.node .stateJson = some (.file n)) :
        σ.world.node .stateJson = some (.file n) := by
      simp only [World.opened_node,World.create_node,Function.update_self,Option.some.injEq,Node.file.injEq] at found
      omega
    obtain ⟨unread,draft⟩ := unread_of i (.openFile .stateJson .readWriteCreate) choice _ sane rfl (by simp) cell read
      (Nat.le_succ _) fun n old _ => data n old
    exact ⟨unread.grants sane,unread.around sane,fun n owned => ⟨draft.trans owned,data n (sane.draft_old owned)⟩⟩

theorem write_grants (i : Nat) (operation : Call) (choice : Choice) {file : Handle} {bytes : Bytes}
    (mute : sends operation = false) (sane : Sane tar serde pid origin σ) (owned : σ.draft = some (i,file.ino)) :
    let σ' := σ.after tar pid i operation choice (σ.world.write file.ino bytes)
    Grants tar serde pid origin i σ σ' ∧ Around tar serde pid origin i σ σ' ∧ σ'.draft = some (i,file.ino) := by
  have apart := (sane.draft i file.ino owned).2
  have read : readState serde (σ.world.write file.ino bytes) = readState serde σ.world := by
    unfold readState World.content
    rw [World.write_node]
    split
    next n found =>
      have other : n ≠ file.ino := fun same => apart (same ▸ found)
      rw [World.write_data,Function.update_of_ne other]
    next => rfl
  obtain ⟨unread,draft⟩ := unread_of i operation choice (σ.world.write file.ino bytes) sane mute rfl
    (fun _ _ found => found) read (Nat.le_refl _) fun n _ foreign => by
      have other : n ≠ file.ino := fun same => foreign (same ▸ owned)
      rw [World.write_data,Function.update_of_ne other]
  exact ⟨unread.grants sane,unread.around sane,draft.trans owned⟩

/-- A draft that is whole replaces `state.json`: a beat's where it has the status that is there,
the tick's while nothing else was told than that status. -/
theorem replace_grants (choice : Choice) {n : Nat} {t : InstallState} (sane : Sane tar serde pid origin σ)
    (owned : σ.draft = some (i,n)) (whole : σ.world.data n = serde.toVecPretty t) (known : Descends origin t)
    (told : completions σ.log ≠ [] → t.status = .stable)
    (level : i ≠ 0 → ∀ s, readState serde σ.world = some s → t.status = s.status) :
    let σ' := σ.after tar pid i (recorded pid) choice (σ.world.move (.stateTmp pid) .stateJson)
    Grants tar serde pid origin i σ σ' ∧ readState serde σ'.world = some t := by
  intro σ'
  have found := (sane.draft i n owned).1
  have node := @World.move_node σ.world _ .stateJson _ found
  have gone : σ'.world.node (.stateTmp pid) = none := by
    change (σ.world.move _ _).node _ = none
    simp [node]
  have cell : σ'.world.node .stateJson = some (.file n) := by
    change (σ.world.move _ _).node _ = _
    simp [node]
  have data : σ'.world.data = σ.world.data := World.move_data ..
  have draft : σ'.draft = none := by
    have other : σ'.world.node (.stateTmp pid) ≠ σ.world.node (.stateTmp pid) := by
      rw [gone,found]
      nofun
    change draftAfter pid i σ.world σ'.world σ.draft = _
    rw [draftAfter,if_neg other,gone]
  have read : readState serde σ'.world = some t := by
    rw [readState_of_file cell,data,whole,serde.fromStr_toVecPretty]
  have mute : completionOf ((machine tar).event (recorded pid) choice σ.world) = none := rfl
  have quiet : completions σ'.log = completions σ.log := by
    change completions (σ.log ++ [_]) = _
    rw [completions_snoc,mute,Option.toList_none,List.append_nil]
  have sane' : Sane tar serde pid origin σ' := by
    refine ⟨fun j m other => ?_,fun s there => ?_,sane.told.mute mute,fun some => ⟨t,read,told (quiet ▸ some)⟩⟩
    · rw [draft] at other
      cases other
    · obtain rfl := Option.some.inj (read.symm.trans there)
      exact known
  refine ⟨⟨sane',Nat.le_of_eq (World.move_fresh ..).symm,fun m _ _ => congrFun data m,fun m _ _ j other => ?_,
    fun j m foreign other => ?_,fun s there => ⟨t,read,fun beat => level beat s there⟩,List.prefix_append _ _,
    fun _ => quiet⟩,read⟩
  · rw [draft] at other
    cases other
  · rw [owned] at other
    cases other
    exact absurd rfl foreign

theorem send_grants (choice : Choice) {told : UpgradeEvent} {v : String} (sane : Sane tar serde pid origin σ)
    (silent : completions σ.log = []) (named : told.toVersion = some v) (made : ∃ event ∈ σ.log, Promotes tar serde v event)
    (there : OnDisk serde v .stable σ.world) {w' : World} (files : SameFiles σ.world w') :
    let σ' := σ.after tar pid 0 (.trySend told) choice w'
    Grants tar serde pid origin 0 σ σ' := by
  intro σ'
  have draft : σ'.draft = σ.draft := draftAfter_same (congrFun files.node _) σ.draft
  have read : readState serde σ'.world = readState serde σ.world :=
    readState_same (congrFun files.node _) fun n _ => congrFun files.data n
  have sane' : Sane tar serde pid origin σ' := by
    refine ⟨fun j n owned => ?_,fun s found => sane.known s (read ▸ found),⟨along_snoc.mpr ⟨sane.told.truthful,?_⟩,?_⟩,
      fun _ => ?_⟩
    · change w'.node _ = _ ∧ w'.node _ ≠ _
      rw [files.node]
      exact sane.draft j n (draft ▸ owned)
    · intro other same
      have own : other = told := by
        unfold completionOf Machine.event at same
        simp only at same
        split at same
        · exact (Option.some.inj same).symm
        · cases same
      exact ⟨v,own ▸ named,made,there⟩
    · change (completions (σ.log ++ [_])).length ≤ 1
      rw [completions_snoc,silent,List.nil_append]
      cases completionOf _ <;> simp
    · obtain ⟨s,found,_,stable⟩ := there
      exact ⟨s,read.trans found,stable⟩
  exact ⟨sane',Nat.le_of_eq files.fresh.symm,fun n _ _ => congrFun files.data n,
    fun n _ free j owned => free j (draft ▸ owned),fun j n _ owned => draft.trans owned,
    fun s found => ⟨s,read.trans found,fun _ => rfl⟩,List.prefix_append _ _,fun other => absurd rfl other⟩

end GatewaySdk.Upgrade
