import GatewaySdk.Upgrade.Lifecycle

/-! What a stage call makes of the directories under `versions`, at every moment of every
run of it: each is what it was, or removed, or the one the call itself has completed. -/
namespace GatewaySdk.Upgrade
open GatewaySdk.Effect GatewaySdk.Host

/-- A call was made to remove this version's directory. -/
def Removal (q : String) (event : Event Sig Choice World) : Prop := event.operation = .removeDirAll (.version q)

/-- A version's directory was put in its place, as its partial directory was. -/
def Put (v : String) (entry : Node) (event : Event Sig Choice World) : Prop :=
  event.operation = completed v ∧ succeeded event.operation event.reply = true ∧
    event.before.node (.partialOf v) = some entry

section Directories

variable {tar : TarCrate} {v : String} {tarballBytes : Bytes} {w : World} {m : Moment}

/-- The version's directory is the one that was put there. -/
def Stands (v : String) (m : Moment) : Prop :=
  ∃ ino content, m.1.node (.version v) = some (.dir ino content) ∧ Saw (Put v (.dir ino content)) m.2

/-- A version's directory is what it was, or was to be removed. -/
def Left (q : String) (w : World) (m : Moment) : Prop :=
  m.1.node (.version q) = w.node (.version q) ∨ Saw (Removal q) m.2

/-- Nothing is put in its place yet. -/
def Vacant (v : String) (w : World) (m : Moment) : Prop :=
  (∀ q, Loc.version q ≠ .partialOf v → Left q w m) ∧ ¬ Done swapped m.2

/-- The new version is in its place. -/
def Placed (v : String) (w : World) (m : Moment) : Prop :=
  (∀ q, q ≠ v → Loc.version q ≠ .partialOf v → Left q w m) ∧ Stands v m

/-- Calls that change a version's directory only by removing it. -/
def Removes (v : String) (operation : Call) : Prop :=
  ∀ q, Loc.version q ≠ .partialOf v → Touches operation (.version q) → operation = .removeDirAll (.version q)

theorem Removes.of_apart {operation : Call} (apart : ∀ q, ¬ Touches operation (.version q)) : Removes v operation :=
  fun q _ own => absurd own (apart q)

theorem Removes.of_quiet {operation : Call} (quiet : Quiet operation) : Removes v operation :=
  .of_apart fun _ own => quiet.touches _ own

theorem Removes.of_clears {operation : Call} (clears : Clears v operation) : Removes v operation := by
  obtain quiet | rfl | rfl | rfl | rfl := clears
  · exact .of_quiet quiet
  · exact .of_apart fun _ own => nomatch own
  · exact fun q apart own => absurd own apart
  · exact fun q apart own => absurd own apart
  · intro q _ own
    obtain rfl : q = v := by simpa [Touches] using own
    rfl

theorem Removes.of_fills {operation : Call} (fills : Fills tar v tarballBytes operation) : Removes v operation :=
  fun _ apart own => absurd (fills.within.touches _ own) apart

theorem Left.stable {operation : Call} {choice : Choice} {q : String} (left : Left q w m)
    (removes : Touches operation (.version q) → operation = .removeDirAll (.version q)) :
    Left q w ((machine tar).record.exec operation choice m).2 := by
  obtain same | removed := left
  · by_cases own : Touches operation (.version q)
    · exact .inr (saw_snoc.mpr (.inr (removes own)))
    · exact .inl (((exec_effect operation).node own).trans same)
  · exact .inr (saw_snoc.mpr (.inl removed))

theorem Vacant.stable (v : String) (w : World) :
    Stable (machine tar) (fun operation => Removes v operation ∧ operation ≠ swapped) (Vacant v w) := by
  intro operation choice m ok held
  refine ⟨fun q apart => (held.1 q apart).stable (ok.1 q apart),?_⟩
  exact not_done_other held.2 ok.2

theorem Stands.stable (v : String) : Stable (machine tar) (Apart (.version v)) (Stands v) := by
  intro operation choice m apart held
  obtain ⟨ino,content,found,put⟩ := held
  exact ⟨ino,content,((exec_effect operation).node apart).trans found,saw_snoc.mpr (.inl put)⟩

theorem Placed.stable (v : String) (w : World) :
    Stable (machine tar) (fun operation => Removes v operation ∧ Apart (.version v) operation) (Placed v w) := by
  intro operation choice m ok held
  exact ⟨fun q other apart => (held.1 q other apart).stable (ok.1 q apart),
    Stands.stable v operation choice m ok.2 held.2⟩

theorem Clears.not_swapped {operation : Call} (clears : Clears v operation) : operation ≠ swapped := by
  intro same
  subst same
  obtain quiet | same | same | same | same := clears
  · exact quiet.touches .current (.inr rfl)
  all_goals cases same

/-- Its partial directory is there. -/
def Packing (v : String) (w : World) (m : Moment) : Prop :=
  Vacant v w m ∧ ∃ ino content, m.1.node (.partialOf v) = some (.dir ino content)

theorem Fills.refills {operation : Call} (fills : Fills tar v tarballBytes operation) :
    Apart (.partialOf v) operation ∨ Refills (.partialOf v) operation := by
  cases fills with
  | looks still => exact .inl fun own => still.touches _ own
  | unpack | setMode | rename => exact .inr rfl

theorem Packing.fills (w : World) : Stable (machine tar) (Fills tar v tarballBytes) (Packing v w) := by
  intro operation choice m fills held
  have other : operation ≠ swapped := by
    intro same
    have own : Touches operation .current := same ▸ .inr rfl
    cases fills.within.touches _ own
  refine ⟨Vacant.stable v w operation choice m ⟨.of_fills fills,other⟩ held.1,?_⟩
  obtain ⟨ino,content,found⟩ := held.2
  obtain apart | refills := fills.refills
  · exact ⟨ino,content,((exec_effect operation).node apart).trans found⟩
  · exact ⟨ino,exec_refilled refills found⟩

theorem Links.keeps {operation : Call} (links : Links operation) :
    Removes v operation ∧ Apart (.version v) operation := by
  have apart (q : String) : ¬ Touches operation (.version q) := fun own => by
    obtain other | other := links.within.touches _ own <;> cases other
  exact ⟨.of_apart apart,apart v⟩

theorem Collects.keeps {operation : Call} (collects : Collects v operation) :
    Removes v operation ∧ Apart (.version v) operation := by
  obtain quiet | ⟨name,other,rfl⟩ := collects
  · exact ⟨.of_quiet quiet,fun own => quiet.touches _ own⟩
  · refine ⟨fun q _ own => ?_,fun own => ?_⟩
    · obtain rfl : q = name := by simpa [Touches] using own
      rfl
    · exact other (by simpa [Touches] using own.symm)

theorem swapped_keeps (v : String) : Removes v swapped ∧ Apart (.version v) swapped := by
  have apart (q : String) : ¬ Touches swapped (.version q) := by simp [Touches,swapped]
  exact ⟨.of_apart apart,apart v⟩

theorem Packing.put {choice : Choice} {w' : World} (packing : Packing v w m)
    (answered : (machine tar).exec (completed v) choice m.1 = (.ok (),w')) :
    Placed v w (w',m.2 ++ [⟨m.1,completed v,choice,.ok ()⟩]) := by
  obtain ⟨vacant,ino,content,found⟩ := packing
  obtain ⟨error,failed,_⟩ | ⟨_,_,rfl⟩ := rename_cases answered
  · cases failed
  · refine ⟨fun q other apart => ?_,ino,content,?_,saw_snoc.mpr (.inr ⟨rfl,rfl,found⟩)⟩
    · obtain same | removed := vacant.1 q apart
      · have place : Loc.version q ≠ .version v := fun same => other (Loc.version.inj same)
        exact .inl ((World.move_node_of_ne _ apart place).trans same)
      · exact .inr (saw_snoc.mpr (.inl removed))
    · rw [World.move_node m.1 found]
      simp

theorem placing (v : String) (w : World) (tarballBytes : Bytes) :
    Phases tar v tarballBytes (Vacant v w) (Packing v w) (Placed v w) (Placed v w) where
  clears := (Vacant.stable v w).mono fun _ clears => ⟨.of_clears clears,clears.not_swapped⟩
  made m choice w' answered vacant := by
    have clears : Clears v (.createDir (.partialOf v)) := .inr (.inr (.inl rfl))
    refine ⟨(Vacant.stable v w).after ⟨.of_clears clears,clears.not_swapped⟩ vacant answered,?_⟩
    obtain ⟨error,failed,_⟩ | ⟨_,_,rfl⟩ := createDir_cases answered
    · cases failed
    · exact ⟨m.1.fresh,[],by simp⟩
  fills := Packing.fills w
  moved _ _ _ answered packing := packing.put answered
  unmoved m choice error _ packing := by
    refine ⟨⟨fun q apart => (packing.1.1 q apart).imp id fun removed => saw_snoc.mpr (.inl removed),?_⟩,packing.2⟩
    exact not_done_other packing.1.2 (by simp [completed,swapped,Loc.partialOf])
  links := (Placed.stable v w).mono fun _ => Links.keeps
  swaps _ _ _ answered placed _ _ := (Placed.stable v w).after (swapped_keeps v) placed answered
  unswapped _ _ _ answered placed := (Placed.stable v w).after (swapped_keeps v) placed answered
  collects := (Placed.stable v w).mono fun _ => Collects.keeps

/-- The directories at a moment of a stage call. -/
def VersionDirs (v : String) (w : World) (m : Moment) : Prop := Vacant v w m ∨ Placed v w m

theorem Saves.keeps_dirs {pid : Nat} {operation : Call} (saves : Saves pid operation) (v : String) :
    Removes v operation ∧ operation ≠ swapped ∧ Apart (.version v) operation := by
  have apart (q : String) : ¬ Touches operation (.version q) := fun own => by
    obtain other | other := saves.touches own <;> cases other
  refine ⟨.of_apart apart,fun same => ?_,apart v⟩
  subst same
  have own : Touches swapped .current := .inr rfl
  obtain other | other := saves.touches own <;> cases other

theorem VersionDirs.stable (v : String) (w : World) (pid : Nat) : Stable (machine tar) (Saves pid) (VersionDirs v w) :=
  ((Vacant.stable v w).mono fun _ saves => ⟨(saves.keeps_dirs v).1,(saves.keeps_dirs v).2.1⟩).or
    ((Placed.stable v w).mono fun _ saves => ⟨(saves.keeps_dirs v).1,(saves.keeps_dirs v).2.2⟩)

theorem VersionDirs.left {q : String} (dirs : VersionDirs v w m) (apart : Loc.version q ≠ .partialOf v) :
    Left q w m ∨ q = v ∧ Stands v m := by
  obtain vacant | placed := dirs
  · exact .inl (vacant.1 q apart)
  · by_cases same : q = v
    · exact .inr ⟨same,placed.2⟩
    · exact .inl (placed.1 q same apart)

theorem VersionDirs.stands (dirs : VersionDirs v w m) (swap : Done swapped m.2) : Stands v m :=
  dirs.elim (fun vacant => absurd swap vacant.2) fun placed => placed.2

theorem stage_dirs {crates : Crates} {coordinator : UpgradeCoordinator} {network : Network} {request : StageRequest} :
    Holds (machine crates.tar).record (VersionDirs request.version w) (fun _ => VersionDirs request.version w)
      (stage crates coordinator network request) (w,[]) := by
  have start : Vacant request.version w (w,[]) := ⟨fun _ _ => .inl rfl,not_done_nil _⟩
  have quietly : Stable (machine crates.tar) Quiet (Vacant request.version w) :=
    (Vacant.stable _ w).mono fun _ quiet =>
      ⟨.of_quiet quiet,fun same => (same ▸ quiet : Quiet swapped).touches .current (.inr rfl)⟩
  refine stage_rule quietly (fun _ => .inl) (VersionDirs.stable request.version w coordinator.pid) start ?_
  intro manifest tarballBytes m vacant
  refine (@stageNewVersion_holds crates.tar request.version tarballBytes _ _ _ _ m coordinator.config.installRoot
    coordinator.profile.binaryName manifest (placing request.version w tarballBytes) vacant).mono ?_ ?_
  · intro m held
    obtain vacant | packing | placed | placed := held
    · exact .inl vacant
    · exact .inl packing.1
    · exact .inr placed
    · exact .inr placed
  · intro outcome m _ ended
    obtain ⟨_,placed | ⟨vacant,_⟩⟩ | ⟨_,vacant | packing | placed⟩ := ended
    · exact .inr placed
    · exact .inl vacant
    · exact .inl vacant
    · exact .inl packing.1
    · exact .inr placed

end Directories
end GatewaySdk.Upgrade
