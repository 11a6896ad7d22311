import GatewaySdk.Host.Links
import GatewaySdk.Upgrade.StageFacts

/-! Links in a tarball. `extract_tarball` looks at the text of a path and not at what it
leads through, so an entry may reach anywhere through a link that an earlier one left,
and so may the search for the binary. Where none does, a stage call on the host goes as
it does on the machine that knows no such links. -/
namespace GatewaySdk.Upgrade
open GatewaySdk.Effect GatewaySdk.Host

/-- The entries that are unpacked: those before the first that is unreadable or refused. -/
def unpacked : List (Option TarEntry) → List TarEntry
  | some entry::rest => if (checkEntryPath entry.path).isOk then entry::unpacked rest else []
  | _ => []

/-- No entry is unpacked at or below a link, and no link is where the binary is looked for:
at the top, or under its name in a directory there. -/
structure Unfollowed (binaryName : String) (entries : List TarEntry) : Prop where
  apart : entries.Pairwise fun earlier later =>
    earlier.kind.isLink = true → ¬ relative earlier.path <+: relative later.path
  deep : ∀ entry ∈ entries, entry.kind.isLink = true →
    2 ≤ (relative entry.path).length ∧ ∀ top, relative entry.path ≠ [top,binaryName]

/-- So it is of every tarball the checks of a call accept. -/
def Unfollowing (crates : Crates) (coordinator : UpgradeCoordinator) (network : Network) (request : StageRequest) : Prop :=
  ∀ manifest tarballBytes, Approved crates coordinator network request manifest tarballBytes →
    ∀ entries, crates.tar.entries tarballBytes = some entries →
      Unfollowed coordinator.profile.binaryName (unpacked entries)

theorem Unfollowed.of_plain {binaryName : String} {entries : List TarEntry}
    (plain : ∀ entry ∈ entries, entry.kind.isLink = false) : Unfollowed binaryName entries where
  apart := List.pairwise_of_forall_mem_list fun earlier member _ _ isLink => by
    rw [plain earlier member] at isLink
    cases isLink
  deep entry member isLink := by
    rw [plain entry member] at isLink
    cases isLink

section Outside
variable {v : String} {operation : Call}

theorem Links.outside (links : Links operation) : Outside operation := by
  cases links with
  | quiet quiet => exact quiet.outside
  | remove | link => trivial

theorem Relinks.outside (relinks : Relinks operation) : Outside operation := by
  obtain links | rfl := relinks
  · exact links.outside
  · trivial

theorem Clears.outside (clears : Clears v operation) : Outside operation := by
  obtain quiet | rfl | rfl | rfl | rfl := clears
  · exact quiet.outside
  all_goals trivial

theorem Collects.outside (collects : Collects v operation) : Outside operation := by
  obtain quiet | ⟨name,_,rfl⟩ := collects
  · exact quiet.outside
  · trivial

theorem Saves.outside {pid : Nat} (saves : Saves pid operation) : Outside operation := by
  cases saves with
  | quiet quiet => exact quiet.outside
  | draft | cell | write | replace => trivial

end Outside

section Extracting
variable {tar : TarCrate} {place : Loc} {path : RelPath} {dir content : Dir} {w : World} {m : Moment} {choice : Choice}
  {binaryName : String} {done rest : List TarEntry} {entry : TarEntry}

/-- Every link below the directory is one of these entries. -/
def LinksFrom (entries : List TarEntry) (dir : Dir) : Prop :=
  ∀ held ∈ dir, held.2.isLink = true → ∃ entry ∈ entries, entry.kind.isLink = true ∧ relative entry.path = held.1

theorem LinksFrom.clear (links : LinksFrom done dir)
    (apart : ∀ entry ∈ done, entry.kind.isLink = true → ¬ relative entry.path <+: path) : linkOn dir path = false := by
  rw [linkOn,List.any_eq_false]
  intro held member on
  rw [Bool.and_eq_true,List.isPrefixOf_iff_prefix] at on
  obtain ⟨entry,among,isLink,same⟩ := links held member on.1
  exact apart entry among isLink (same ▸ on.2)

theorem LinksFrom.mono (links : LinksFrom done dir) (kept : ∀ held ∈ content, held.2.isLink = true → held ∈ dir) :
    LinksFrom done content :=
  fun held member isLink => links held (kept held member isLink) isLink

/-- Where the binary is looked for. -/
def Near (binaryName : String) (path : RelPath) : Prop := path.length ≤ 1 ∨ ∃ top, path = [top,binaryName]

theorem Unfollowed.sought (unfollowed : Unfollowed binaryName done) (links : LinksFrom done dir)
    (near : Near binaryName path) : linkOn dir path = false := by
  apply links.clear
  intro entry member isLink above
  obtain ⟨deep,apart⟩ := unfollowed.deep entry member isLink
  have within := above.length_le
  obtain short | ⟨top,rfl⟩ := near
  · omega
  · exact apart top (above.eq_of_length (Nat.le_antisymm within deep))

theorem mem_refill {held : RelPath × Item} (member : held ∈ (w.refill place content).contentOf place) : held ∈ content := by
  unfold World.contentOf at member
  by_cases isDir : ∃ ino old, w.node place = some (.dir ino old)
  · obtain ⟨ino,old,found⟩ := isDir
    rw [World.refill_dir w place found,Function.update_self] at member
    exact member
  · have other : ∀ ino old, w.node place ≠ some (.dir ino old) := fun ino old found => isDir ⟨ino,old,found⟩
    rw [World.refill_other w place other] at member
    split at member
    next ino old found => exact absurd found (other ino old)
    next => cases member

theorem still_links {operation : Call} (still : Within (fun _ => False) operation) {reply : Reply operation} {w' : World}
    (answered : (machine tar).exec operation choice w = (reply,w')) (links : LinksFrom done (w.contentOf place)) :
    LinksFrom done (w'.contentOf place) := by
  have same : w'.node place = w.node place := by
    have effect := @exec_effect tar choice w operation
    rw [answered] at effect
    exact effect.node (still.touches place)
  rw [World.contentOf,same]
  exact links

theorem unpack_links {reply : Except IoError Unit} {w' : World}
    (answered : (machine tar).exec (.unpack entry place (relative entry.path)) choice w = (reply,w'))
    (links : LinksFrom done (w.contentOf place)) : LinksFrom (done ++ [entry]) (w'.contentOf place) := by
  have refilled : w' = w.refill place (tar.unpack entry (relative entry.path) choice (w.contentOf place)).1 := by
    simp only [machine] at answered
    split at answered <;> exact (congrArg Prod.snd answered).symm
  intro held member isLink
  rw [refilled] at member
  obtain there | ⟨own,linked⟩ := tar.links _ _ _ _ held (mem_refill member) isLink
  · obtain ⟨other,among,linked,same⟩ := links held there isLink
    exact ⟨other,List.mem_append_left _ among,linked,same⟩
  · exact ⟨entry,List.mem_append_right _ (List.mem_singleton_self entry),linked,own.symm⟩

theorem setMode_links {mode : Nat} {reply : Except IoError Unit} {w' : World}
    (answered : (machine tar).exec (.setModeIn place path mode) choice w = (reply,w'))
    (links : LinksFrom done (w.contentOf place)) : LinksFrom done (w'.contentOf place) := by
  simp only [machine] at answered
  split at answered
  · cases answered
    exact links
  · simp only [answer] at answered
    split at answered
    · cases answered
      refine links.mono fun held member isLink => ?_
      obtain ⟨old,there,same⟩ := List.mem_map.mp (mem_refill member)
      split at same
      · subst same
        cases isLink
      · exact same ▸ there
    · cases answered
      exact links
    · cases answered
      exact links

theorem direct_outside : Stable (machine tar) Outside (fun m => Direct m.2) :=
  fun _ _ m outside direct => direct_snoc.mpr ⟨direct,outside.not_linked m.1⟩

theorem unpackAll_direct (entries : List (Option TarEntry)) (apart : (done ++ unpacked entries).Pairwise fun earlier later =>
      earlier.kind.isLink = true → ¬ relative earlier.path <+: relative later.path)
    (direct : Direct m.2) (links : LinksFrom done (m.1.contentOf place)) :
    Holds (machine tar).record (fun m => Direct m.2)
      (fun outcome m => outcome = .ok () → LinksFrom (done ++ unpacked entries) (m.1.contentOf place))
      (unpackAll place entries) m := by
  induction entries generalizing done m with
  | nil =>
    refine ⟨direct,fun _ => ?_⟩
    simpa [unpacked] using links
  | cons entry rest ih =>
    cases entry with
    | none => exact ⟨direct,fun made => by cases made⟩
    | some entry =>
      refine Run.bindExcept direct (fun _ checked => ?_) (fun _ _ => nofun)
      have here : unpacked (some entry::rest) = entry::unpacked rest := by simp [unpacked,checked,Except.isOk,Except.toBool]
      rw [here] at apart ⊢
      have clear : linkOn (m.1.contentOf place) (relative entry.path) = false :=
        links.clear fun other member => List.pairwise_append.mp apart |>.2.2 other member entry List.mem_cons_self
      have step : done ++ entry::unpacked rest = (done ++ [entry]) ++ unpacked rest := by simp
      refine Holds.bind (fun _ m => LinksFrom (done ++ [entry]) (m.1.contentOf place)) ?_ ?_ (fun _ _ _ _ => nofun)
      · apply Run.bare
        refine Run.sys direct (fun choice answer w' answered => ⟨direct_snoc.mpr ⟨direct,clear⟩,?_⟩)
        exact unpack_links answered links
      · intro _ m direct links
        rw [step] at apart ⊢
        exact ih apart direct links

theorem findNested_gives (entries : List String) :
    Gives (fun found => ∀ source, found = some source → Near binaryName source) (findNested place binaryName entries) := by
  induction entries with
  | nil => exact fun _ none => nomatch none
  | cons entry rest ih =>
    refine (Gives.any _).bind fun dir _ => ?_
    split
    · refine (Gives.any _).bind fun nested _ => ?_
      split
      · exact fun source same => .inr ⟨entry,(Option.some.inj same).symm⟩
      · exact ih
    · exact ih

theorem locateBinary_gives :
    Gives (fun found => ∀ source, found = some source → Near binaryName source) (locateBinary place binaryName) := by
  refine (Gives.any _).bind fun direct _ => ?_
  split
  · exact fun source same => .inl (Option.some.inj same ▸ Nat.le_refl 1)
  · refine (Gives.any _).bind fun listed _ => ?_
    cases listed with
    | error => exact fun _ none => nomatch none
    | ok entries => exact findNested_gives entries

theorem search_direct (unfollowed : Unfollowed binaryName done) :
    Stable (machine tar) (Searches place binaryName) (fun m => Direct m.2 ∧ LinksFrom done (m.1.contentOf place)) := by
  intro operation choice m searches held
  refine ⟨direct_snoc.mpr ⟨held.1,?_⟩,still_links searches.still rfl held.2⟩
  cases searches with
  | direct => exact unfollowed.sought held.2 (.inl (Nat.le_refl 1))
  | list => rfl
  | top entry => exact unfollowed.sought held.2 (.inl (Nat.le_refl 1))
  | nested entry => exact unfollowed.sought held.2 (.inr ⟨entry,rfl⟩)

theorem prepareBinary_direct (unfollowed : Unfollowed binaryName done) (direct : Direct m.2)
    (links : LinksFrom done (m.1.contentOf place)) :
    Holds (machine tar).record (fun m => Direct m.2) (fun _ m => Direct m.2) (prepareBinary place binaryName) m := by
  have look {source : RelPath} (near : Near binaryName source) {m : Moment} (links : LinksFrom done (m.1.contentOf place)) :
      linkOn (m.1.contentOf place) source = false := unfollowed.sought links near
  have top : Near binaryName [binaryName] := .inl (Nat.le_refl 1)
  refine Holds.bind (fun outcome m => LinksFrom done (m.1.contentOf place) ∧
    ∀ found, outcome = .ok found → ∀ source, found = some source → Near binaryName source) ?_ ?_ (fun _ _ direct _ => direct)
  · exact (((locateBinary_uses place binaryName).stable (search_direct unfollowed) ⟨direct,links⟩).gives
      locateBinary_gives).mono (fun _ held => held.1) (fun _ _ _ ends => ⟨ends.1.2,ends.2⟩)
  intro found m direct located
  obtain ⟨links,near⟩ := located
  cases found with
  | none => exact ⟨direct,direct⟩
  | some source =>
    have near := near _ rfl source rfl
    refine Holds.bind (fun _ m => LinksFrom done (m.1.contentOf place)) ?_ ?_ (fun _ _ direct _ => direct)
    · apply Run.bare
      refine Run.sys direct (fun choice answer w' answered => ⟨direct_snoc.mpr ⟨direct,look near links⟩,?_⟩)
      have still : Within (fun _ => False) (.metadataIn place source) := ⟨fun _ own => own,fun _ own => own⟩
      exact still_links still answered links
    intro _ m direct links
    refine Holds.bind (fun _ m => LinksFrom done (m.1.contentOf place)) ?_ ?_ (fun _ _ direct _ => direct)
    · apply Run.bare
      refine Run.sys direct (fun choice answer w' answered => ⟨direct_snoc.mpr ⟨direct,look near links⟩,?_⟩)
      exact setMode_links answered links
    intro _ m direct links
    unfold moveUp
    split
    · apply Run.bare
      refine Run.sys direct (fun choice answer w' answered => ?_)
      have clear : m.1.linked (.renameIn place source [binaryName]) = false :=
        Bool.or_eq_false_iff.mpr ⟨look near links,look top links⟩
      exact ⟨direct_snoc.mpr ⟨direct,clear⟩,direct_snoc.mpr ⟨direct,clear⟩⟩
    · exact ⟨direct,direct⟩

variable {v : String} {tarballBytes : Bytes}

theorem installVersion_direct (unfollowed : ∀ entries, tar.entries tarballBytes = some entries →
      Unfollowed binaryName (unpacked entries)) (direct : Direct m.2) :
    Holds (machine tar).record (fun m => Direct m.2) (fun _ m => Direct m.2)
      (installVersion tar v binaryName tarballBytes) m := by
  have outside {α : Type} {program : Prog Error α} (uses : Uses Outside program) {m : Moment} (direct : Direct m.2) :
      Holds (machine tar).record (fun m => Direct m.2) (fun _ m => Direct m.2) program m :=
    uses.stable direct_outside direct
  refine Holds.bind (fun outcome m => outcome = .ok () → LinksFrom [] (m.1.contentOf (.partialOf v))) ?_ ?_
    (fun _ _ direct _ => direct)
  · apply Run.bare
    refine Run.sys direct (fun choice answer w' answered => ⟨direct_snoc.mpr ⟨direct,rfl⟩,fun made => ?_⟩)
    obtain ⟨error,rfl,rfl⟩ | ⟨rfl,_,rfl⟩ := createDir_cases answered
    · cases made
    · simp [LinksFrom,World.contentOf]
  intro _ m direct empty
  refine Holds.bind (fun outcome m => outcome = .ok () → ∃ entries, tar.entries tarballBytes = some entries ∧
    LinksFrom (unpacked entries) (m.1.contentOf (.partialOf v))) ?_ ?_ (fun _ _ direct _ => direct)
  · unfold extractTarball
    cases read : tar.entries tarballBytes with
    | none => exact ⟨direct,fun made => by cases made⟩
    | some entries =>
      exact (@unpackAll_direct _ _ _ [] entries (unfollowed entries read).apart direct (empty rfl)).mono
        (fun _ direct => direct) (fun _ _ _ links made => ⟨entries,rfl,links made⟩)
  intro _ m direct filled
  obtain ⟨entries,read,links⟩ := filled rfl
  refine Holds.bind _ (prepareBinary_direct (unfollowed entries read) direct links) ?_ (fun _ _ direct _ => direct)
  intro _ m direct _
  refine outside ?_ direct
  refine (Calls.ignore (Calls.sys trivial)).bind fun _ => ?_
  refine (Calls.bare (Calls.sys trivial)).bind fun _ => ?_
  refine ((swap_relinks _).mono fun _ => Relinks.outside).bind fun _ => ?_
  exact (Calls.ignore ((gcVersions_uses 3).mono fun _ => Collects.outside)).bind fun _ => trivial

variable {crates : Crates} {coordinator : UpgradeCoordinator} {network : Network} {request : StageRequest}

/-- A stage call that accepts only tarballs whose links are left alone goes through none. -/
theorem stage_direct (unfollowing : Unfollowing crates coordinator network request) (w : World) :
    Holds (machine crates.tar).record (fun m => Direct m.2) (fun _ m => Direct m.2)
      (stage crates coordinator network request) (w,[]) := by
  have outside {ε α : Type} {program : Prog ε α} (uses : Uses Outside program) {m : Moment} (direct : Direct m.2) :
      Holds (machine crates.tar).record (fun m => Direct m.2) (fun _ m => Direct m.2) program m :=
    uses.stable direct_outside direct
  refine Holds.bind _ (approve_holds (direct_outside.mono fun _ => Quiet.outside) direct_nil) ?_ (fun _ _ direct _ => direct)
  intro accepted m direct approved
  obtain ⟨approved,_⟩ := approved _ _ rfl
  refine Holds.bind (fun _ m => Direct m.2) ?_ ?_ (fun _ _ direct _ => direct)
  · apply Holds.mapError
    refine Run.bindExcept direct (fun _ _ => ?_) (fun _ _ => direct)
    have room : Outside (.createDirAll .versions) := trivial
    refine Holds.bind _ (outside (Calls.context (Calls.sys room)) direct) ?_ (fun _ _ direct _ => direct)
    intro _ m direct _
    refine Holds.bind _ (outside (clearPartial_uses.mono fun _ => Clears.outside) direct) ?_ (fun _ _ direct _ => direct)
    intro _ m direct _
    refine Holds.bind _ (outside (clearFinal_uses.mono fun _ => Clears.outside) direct) ?_ (fun _ _ direct _ => direct)
    intro live m direct _
    split
    · exact ⟨direct,direct⟩
    · exact installVersion_direct (unfollowing _ _ approved) direct
  · intro _ m direct _
    refine outside ?_ direct
    refine ((recordStaged_uses accepted.1).mono fun _ => Saves.outside).bind fun _ => ?_
    exact (Calls.ignore (Calls.sys trivial)).bind fun _ => trivial

end Extracting
end GatewaySdk.Upgrade
