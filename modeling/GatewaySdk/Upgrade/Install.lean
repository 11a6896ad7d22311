import GatewaySdk.Upgrade.Removals
import GatewaySdk.Upgrade.Rollback
import GatewaySdk.Upgrade.Steady

/-! An accepted release on a machine that fails no call: where nothing stands in its way in the
install root and its tarball unpacks, its staging goes through. -/
namespace GatewaySdk.Upgrade
open GatewaySdk.Effect GatewaySdk.Host

/-- Where the binary is looked for and moved from: the top of a directory, or a directory there while nothing at the
top bears its name. -/
inductive Carries (binaryName : String) (content : Dir) : Prop
  | top (mode : Nat) (bytes : Bytes) (found : content.get [binaryName] = some (.file mode bytes))
  | nested (folder : String) (mode : Nat) (bytes : Bytes) (listed : folder ∈ content.top)
    (dir : content.get [folder] = some .dir) (found : content.get [folder,binaryName] = some (.file mode bytes))
    (free : content.get [binaryName] = none)
    (plain : ∀ other target, content.get [other,binaryName] ≠ some (.link target))

/-- Files and directories that are readable, stay below the directory they are unpacked into and are unpacked
whole, and then leave the binary where it is looked for. -/
def Packed (tar : TarCrate) (binaryName : String) : List (Option TarEntry) → Dir → Prop
  | [],content => Carries binaryName content
  | none::_,_ => False
  | some entry::rest,content => entry.kind.isPlain = true ∧ checkEntryPath entry.path = .ok () ∧ ∀ amount,
      (tar.unpack entry (relative entry.path) (steady amount) content).2 = true ∧
        Packed tar binaryName rest (tar.unpack entry (relative entry.path) (steady amount) content).1

/-- Nothing at a place, or a directory. -/
def Clear (w : World) (place : Loc) : Prop :=
  w.node place = none ∨ ∃ ino content, w.node place = some (.dir ino content)

section Places
variable {w u : World} {place : Loc}

theorem Clear.stat (clear : Clear w place) : w.stat place = w.node place := by
  obtain absent | ⟨ino,content,found⟩ := clear
  · unfold World.stat World.target
    rw [World.follow,absent]
    exact absent
  · rw [World.stat_of_no_link _ _ _ found (fun _ link => by cases link),found]

theorem Clear.of_node (clear : Clear w place) (same : u.node place = w.node place) : Clear u place := by
  unfold Clear
  rw [same]
  exact clear

theorem noDir_of_node (free : NoDir w place) (same : u.node place = w.node place) : NoDir u place := by
  intro ino content
  rw [same]
  exact free ino content

theorem Clear.exists_ (clear : Clear w place) : (w.stat place).isSome = (w.node place).isSome := by rw [clear.stat]

theorem parentOk_of {ino : Nat} {content : Dir} (found : w.node .versions = some (.dir ino content)) (name : String) :
    w.parentOk (.version name) = true := by
  unfold World.parentOk World.isDir
  rw [World.stat_of_no_link _ _ _ found nofun]

theorem Dir.get_set {dir : Dir} {path : RelPath} {item : Item} {other : Item} (there : dir.get path = some other) :
    (dir.set path item).get path = some item := by
  unfold Dir.get Dir.set at *
  induction dir with
  | nil => cases there
  | cons entry dir ih =>
    by_cases same : entry.1 = path
    · simp [same]
    · have rest : (entry::dir).find? (fun entry => entry.1 == path) = dir.find? fun entry => entry.1 == path := by
        simp [same]
      rw [rest] at there
      have skipped := ih there
      simpa [same] using skipped

theorem Dir.get_set_of_ne {dir : Dir} {path other : RelPath} {item : Item} (apart : other ≠ path) :
    (dir.set path item).get other = dir.get other := by
  unfold Dir.get Dir.set
  induction dir with
  | nil => rfl
  | cons entry dir ih =>
    by_cases same : entry.1 = path
    · have skipped : entry.1 ≠ other := fun here => apart (here.symm.trans same)
      simpa [same,apart.symm] using ih
    · by_cases here : entry.1 = other
      · simp [here,apart]
      · simpa [same,here] using ih

theorem Dir.rename_free {dir : Dir} {source target : RelPath} {item : Item} (there : dir.get source = some item)
    (free : dir.get target = none) : ∃ moved, dir.rename source target = some moved ∧ moved.get target = some item := by
  refine ⟨_,by rw [Dir.rename,there,free],?_⟩
  unfold Dir.get
  rw [List.find?_append,List.find?_eq_none.mpr,Option.none_or]
  · simp
  · intro entry member
    simp at member
    simp [member.2.2]

end Places

section Clearing
variable {tar : TarCrate} {v : String} {w : World} {message : String}

theorem makeVersions_goes (clear : Clear w .versions) :
    Ends (steadily tar) (fun outcome u => outcome = .ok () ∧ (∃ ino content, u.node .versions = some (.dir ino content)) ∧
      ∀ place, place ≠ .versions → u.node place = w.node place) (context message (Io.createDirAll .versions)) w := by
  obtain absent | ⟨ino,content,found⟩ := clear
  · have stat : w.stat .versions = none := (Clear.stat (.inl absent)).trans absent
    simp [Io.createDirAll,answer,World.isDir,stat,absent,Except.mapError]
    exact fun place other => Function.update_of_ne other _ _
  · have stat := World.stat_of_no_link _ _ _ found (fun _ link => by cases link)
    simp [Io.createDirAll,answer,World.isDir,stat,found,Except.mapError]

theorem looked_goes {ε : Type} {place : Loc} {there : Bool} (found : (w.stat place).isSome = there) :
    Ends (steadily tar) (fun outcome u => outcome = .ok there ∧ u = w) (Io.pathExists place : Prog ε Bool) w :=
  fun _ => ⟨congrArg Except.ok found,rfl⟩

theorem clearPartial_goes (clear : Clear w (.partialOf v)) :
    Ends (steadily tar) (fun outcome u => outcome = .ok () ∧ u.node = Function.update w.node (.partialOf v) none)
      (clearPartial v) w := by
  refine (looked_goes clear.exists_).next ?_
  rintro u rfl
  obtain absent | ⟨ino,content,found⟩ := clear
  · simp [absent]
  · simp [found,Io.removeDirAll,answer,Except.mapError]

theorem clearFinal_goes (clear : Clear w (.version v)) (other : w.node .current ≠ some (.symlink (.version v))) :
    Ends (steadily tar) (fun outcome u => outcome = .ok false ∧ u.node = Function.update w.node (.version v) none)
      (clearFinal v) w := by
  refine (looked_goes clear.exists_).next ?_
  rintro u rfl
  obtain absent | ⟨ino,content,found⟩ := clear
  · simp [absent]
  · have read : Ends (steadily tar) (fun outcome u' => ∃ link, outcome = .ok link ∧ link.toOption ≠ some (.version v) ∧ u' = u)
        ((Io.readLink .current).attempt : Prog Error (Except IoError Loc)) u := by
      simp only [Ends.attempt,Io.readLink,ends_sys]
      intro _
      cases link : u.node .current with
      | none => simp [answer,link,Except.toOption]
      | some entry =>
        cases entry with
        | dir | file => simp [answer,link,Except.toOption]
        | symlink target =>
          have apart : target ≠ .version v := by
            rintro rfl
            exact other link
          simp [answer,link,Except.toOption,apart]
    rw [found,Option.isSome_some,if_pos rfl]
    refine read.after ?_
    rintro link u' ⟨apart,rfl⟩
    simp [apart,found,Io.removeDirAll,answer,Except.mapError]

end Clearing

section Filling
variable {tar : TarCrate} {base : Loc} {binaryName : String} {w : World} {ino : Nat} {content : Dir}

theorem contentOf_dir (found : w.node base = some (.dir ino content)) : w.contentOf base = content := by
  unfold World.contentOf
  rw [found]

theorem unpackAll_goes {entries : List (Option TarEntry)} (packed : Packed tar binaryName entries content)
    (found : w.node base = some (.dir ino content)) :
    Ends (steadily tar) (fun outcome u => outcome = .ok () ∧ ∃ content, u.node base = some (.dir ino content) ∧
      Carries binaryName content) (unpackAll base entries) w := by
  induction entries generalizing content w with
  | nil => exact ⟨rfl,content,found,packed⟩
  | cons entry entries ih =>
    cases entry with
    | none => exact packed.elim
    | some entry =>
      obtain ⟨_,allowed,whole⟩ := packed
      have unpacked : Ends (steadily tar) (fun outcome u => outcome = .ok () ∧ ∃ content,
          u.node base = some (.dir ino content) ∧ Packed tar binaryName entries content)
          (bare (sys (.unpack entry base (relative entry.path)) id)) w := by
        rw [ends_bare,ends_sys]
        intro amount
        obtain ⟨good,rest⟩ := whole amount
        simp only [answer,contentOf_dir found,good,if_true]
        exact ⟨rfl,_,by rw [World.refill_dir _ _ found]; exact Function.update_self ..,rest⟩
      unfold unpackAll
      rw [allowed]
      refine unpacked.next ?_
      rintro u ⟨content,found,rest⟩
      exact ih rest found

/-- What the search for the binary comes back with. -/
def Located (binaryName : String) (content : Dir) (source : RelPath) : Prop :=
  (∃ mode bytes, content.get source = some (.file mode bytes)) ∧
    (source = [binaryName] ∨ source ≠ [binaryName] ∧ content.get [binaryName] = none)

theorem findNested_goes {listed : List String} {folder : String} {mode : Nat} {bytes : Bytes}
    (found : w.node base = some (.dir ino content)) (member : folder ∈ listed) (dir : content.get [folder] = some .dir)
    (there : content.get [folder,binaryName] = some (.file mode bytes)) (free : content.get [binaryName] = none)
    (plain : ∀ other target, content.get [other,binaryName] ≠ some (.link target)) :
    Ends (steadily tar) (fun outcome u => ∃ found, outcome = .ok found ∧ (∃ source, found = some source ∧
      Located binaryName content source) ∧ u = w) (findNested base binaryName listed) w := by
  induction listed with
  | nil => cases member
  | cons entry listed ih =>
    have later (apart : entry ≠ folder) : folder ∈ listed := by
      obtain rfl | later := List.mem_cons.mp member
      · exact absurd rfl apart
      · exact later
    have asked : Ends (steadily tar) (fun outcome u => ∃ inside, outcome = .ok inside ∧
        (entry = folder → inside = true) ∧ u = w)
        (@Program.request Sig Error (.isDirIn base [entry])) w := by
      intro amount
      rw [steadily_exec]
      simp only [answer,contentOf_dir found]
      split
      next listed => exact ⟨true,rfl,fun _ => rfl,rfl⟩
      next link => exact ⟨_,rfl,fun same => by simp [same,dir] at link,rfl⟩
      next other _ => exact ⟨false,rfl,fun same => (other (same ▸ dir)).elim,rfl⟩
    have nested : Ends (steadily tar) (fun outcome u => ∃ there, outcome = .ok there ∧
        (there = true → Located binaryName content [entry,binaryName]) ∧ (entry = folder → there = true) ∧ u = w)
        (@Program.request Sig Error (.isFileIn base [entry,binaryName])) w := by
      intro amount
      rw [steadily_exec]
      simp only [answer,contentOf_dir found]
      split
      next mode bytes held => exact ⟨true,rfl,fun _ => ⟨⟨mode,bytes,held⟩,.inr ⟨by simp,free⟩⟩,fun _ => rfl,rfl⟩
      next target link => exact absurd link (plain entry target)
      next other _ => exact ⟨false,rfl,(fun yes => by cases yes),fun same => (other mode bytes (same ▸ there)).elim,rfl⟩
    unfold findNested
    refine asked.after ?_
    rintro inside u ⟨known,rfl⟩
    split
    · refine nested.after ?_
      rintro there u' ⟨located,known,rfl⟩
      split
      next yes => exact ⟨_,rfl,⟨_,rfl,located yes⟩,rfl⟩
      next no => exact ih (later fun same => no (known same))
    next no => exact ih (later fun same => no (known same))

theorem locateBinary_goes (found : w.node base = some (.dir ino content)) (carries : Carries binaryName content) :
    Ends (steadily tar) (fun outcome u => ∃ found, outcome = .ok found ∧ (∃ source, found = some source ∧
      Located binaryName content source) ∧ u = w) (locateBinary base binaryName) w := by
  cases carries with
  | top mode bytes there =>
    have direct : Ends (steadily tar) (fun outcome u => outcome = .ok true ∧ u = w)
        (@Program.request Sig Error (.isFileIn base [binaryName])) w := by
      intro amount
      rw [steadily_exec]
      simp [answer,contentOf_dir found,there]
    refine direct.next ?_
    rintro u rfl
    exact ⟨_,rfl,⟨_,rfl,⟨mode,bytes,there⟩,.inl rfl⟩,rfl⟩
  | nested folder mode bytes listed dir there free plain =>
    have direct : Ends (steadily tar) (fun outcome u => outcome = .ok false ∧ u = w)
        (@Program.request Sig Error (.isFileIn base [binaryName])) w := by
      intro amount
      rw [steadily_exec]
      simp [answer,contentOf_dir found,free]
    have read : Ends (steadily tar) (fun outcome u => outcome = .ok (.ok content.top) ∧ u = w)
        ((sys (.readDirIn base) id).attempt : Prog Error (Except IoError (List String))) w := by
      simp [answer,contentOf_dir found]
    refine direct.next ?_
    rintro u rfl
    refine read.next ?_
    rintro u' rfl
    exact findNested_goes found listed dir there free plain

theorem prepareBinary_goes (found : w.node base = some (.dir ino content)) (carries : Carries binaryName content) :
    Ends (steadily tar) (fun outcome u => outcome = .ok () ∧ ∃ content bytes, u.node base = some (.dir ino content) ∧
      content.get [binaryName] = some (.file 0o755 bytes)) (prepareBinary base binaryName) w := by
  refine (locateBinary_goes found carries).after ?_
  rintro _ u ⟨⟨source,rfl,⟨mode,bytes,there⟩,place⟩,rfl⟩
  have looked : Ends (steadily tar) (fun outcome u' => outcome = .ok () ∧ u' = u)
      (bare (sys (.metadataIn base source) id)) u := by
    simp [answer,contentOf_dir found,there,Except.mapError]
  have marked : Ends (steadily tar) (fun outcome u' => outcome = .ok () ∧
      u'.node base = some (.dir ino (content.set source (.file 0o755 bytes))))
      (bare (sys (.setModeIn base source 0o755) id)) u := by
    simp [answer,contentOf_dir found,there,Except.mapError,World.refill_dir _ _ found]
  refine looked.next ?_
  rintro u' rfl
  refine marked.next ?_
  intro u found
  have mode := @Dir.get_set content source (.file 0o755 bytes) _ there
  unfold moveUp
  obtain rfl | ⟨apart,free⟩ := place
  · rw [if_neg (not_not_intro rfl)]
    exact ⟨rfl,_,bytes,found,mode⟩
  · have other := (@Dir.get_set_of_ne content source [binaryName] (.file 0o755 bytes) apart.symm).trans free
    obtain ⟨moved,renamed,top⟩ := Dir.rename_free mode other
    rw [if_pos apart]
    simp [answer,contentOf_dir found,renamed,Except.mapError,World.refill_dir _ _ found]
    exact ⟨bytes,top⟩

end Filling

section Linking
variable {tar : TarCrate} {w : World} {place target : Loc}

theorem removeFile_goes {ε : Type} (cell : NoDir w place) :
    Ends (steadily tar) (fun outcome u => outcome = .ok () ∧ u.node = Function.update w.node place none)
      (ignore (Io.removeFile place) : Prog ε Unit) w := by
  cases found : w.node place with
  | none => simp [Io.removeFile,answer,found]
  | some entry =>
    cases entry with
    | dir ino content => exact absurd found (cell ino content)
    | file | symlink => simp [Io.removeFile,answer,found]

theorem keepPrevious_goes (old : NoDir w .previous) :
    Ends (steadily tar) (fun outcome u => outcome = .ok () ∧ (∀ place, place ≠ .previous → u.node place = w.node place) ∧
      ∀ target, w.node .current = some (.symlink target) → u.node .previous = some (.symlink target)) keepPrevious w := by
  have read : Ends (steadily tar) (fun outcome u => ∃ existing, outcome = .ok existing ∧ u = w ∧
      ∀ target, existing = .ok target ↔ w.node .current = some (.symlink target))
      ((Io.readLink .current).attempt : Prog Error (Except IoError Loc)) w := by
    simp only [Ends.attempt,Io.readLink,ends_sys]
    intro _
    cases found : w.node .current with
    | none => simp [answer,found]
    | some entry => cases entry <;> simp [answer,found]
  unfold keepPrevious
  refine read.after ?_
  rintro existing u ⟨rfl,found⟩
  cases existing with
  | error error => exact ⟨rfl,fun _ _ => rfl,fun target link => by cases (found target).mpr link⟩
  | ok target =>
    refine (removeFile_goes old).next ?_
    intro u' removed
    have linked : Ends (steadily tar) (fun outcome last => outcome = .ok () ∧
        last.node = Function.update u'.node .previous (some (.symlink target)))
        (bare (Io.symlink target .previous)) u' := by
      simp [Io.symlink,answer,removed,World.parentOk,Except.mapError]
    refine linked.mono ?_
    rintro outcome last ⟨rfl,made⟩
    refine ⟨rfl,fun place other => ?_,fun target link => ?_⟩
    · rw [made,removed]
      simp [other]
    · obtain rfl := Except.ok.inj ((found target).mpr link)
      rw [made]
      exact Function.update_self ..

/-- The swap on a machine that fails no call, where no directory is in the way of a link. -/
theorem swap_goes (live : NoDir w .current) (old : NoDir w .previous) (tmp : NoDir w .currentTmp) :
    Ends (steadily tar) (fun outcome u => outcome = .ok () ∧ u.node .current = some (.symlink target) ∧
      u.node .currentTmp = none ∧ ∀ place, w.node .current = some (.symlink place) → u.node .previous = some (.symlink place))
      (swapCurrentSymlink target) w := by
  refine (keepPrevious_goes old).next ?_
  rintro u ⟨same,kept⟩
  have tmp' : NoDir u .currentTmp := fun ino content => by
    rw [same .currentTmp nofun]
    exact tmp ino content
  refine (removeFile_goes tmp').next ?_
  intro u' removed
  have linked : Ends (steadily tar) (fun outcome last => outcome = .ok () ∧
      last.node = Function.update u.node .currentTmp (some (.symlink target)))
      (bare (Io.symlink target .currentTmp)) u' := by
    simp [Io.symlink,answer,removed,World.parentOk,Except.mapError]
  refine linked.next ?_
  intro last made
  have link : last.node .currentTmp = some (.symlink target) := by
    rw [made]
    exact Function.update_self ..
  have live' : NoDir last .current := fun ino content => by
    have still : last.node .current = w.node .current := by simp [made,same]
    exact still ▸ live ino content
  have moved : Ends (steadily tar) (fun outcome after => outcome = .ok () ∧
      after.node = Function.update (Function.update last.node .currentTmp none) .current (some (.symlink target)))
      (bare (Io.rename .currentTmp .current)) last := by
    simp [Io.rename,answer,rename_free link live',Except.mapError,World.move_node _ link]
  refine moved.next ?_
  intro after swapped
  rw [ends_ignore]
  intro _
  refine ⟨rfl,?_,?_,fun place pointed => ?_⟩
  · simp [answer,swapped]
  · simp [answer,swapped]
  · simpa [answer,swapped,made] using kept place pointed

end Linking

section Collecting
variable {tar : TarCrate} {v : String} {w : World}

/-- What such calls leave as it was, at the end of any program of them. -/
theorem surrounds_ends {ε α : Type} {program : Prog ε α} (uses : Uses (Builds v) program) :
    Ends (steadily tar) (fun _ u => Surrounds v w u) program w := by
  have stable : Stable (machine tar) (Builds v) (fun m => Surrounds v w m.1) :=
    Stable.state fun operation choice u builds held => held.trans (exec_surrounds builds)
  have held := (uses.stable stable (m := (w,[])) (.refl v w)).ends.under steady
  exact held.mono fun _ _ ⟨_,around⟩ => around

/-- The first pass keeps at most the other versions, and what it removes is partial. -/
theorem gcEntries_goes (names : List String) :
    Ends (steadily tar) (fun outcome u => ∃ entries, outcome = .ok entries ∧
      entries.length ≤ (names.filter fun name => name ≠ v && !endsWith name ".partial").length ∧
      ∀ name, name = v ∨ endsWith name ".partial" = false → u.node (.version name) = w.node (.version name))
      (gcEntries v names) w := by
  induction names generalizing w with
  | nil => exact ⟨[],rfl,Nat.zero_le _,fun _ _ => rfl⟩
  | cons name names ih =>
    unfold gcEntries
    by_cases own : name = v
    · rw [if_pos own]
      refine ih.mono ?_
      rintro outcome u ⟨entries,rfl,few,kept⟩
      refine ⟨entries,rfl,?_,kept⟩
      simpa [own] using few
    rw [if_neg own]
    by_cases part : endsWith name ".partial" = true
    · rw [if_pos part]
      have removed : Ends (steadily tar) (fun outcome u => outcome = .ok () ∧
          ∀ other, other = v ∨ endsWith other ".partial" = false → u.node (.version other) = w.node (.version other))
          (ignore (Io.removeDirAll (.version name)) : Prog Error Unit) w := by
        rw [Io.removeDirAll,ends_ignore,ends_sys]
        intro amount
        refine ⟨rfl,fun other kind => (answer_effect (.removeDirAll (.version name))).node fun same => ?_⟩
        obtain rfl := Loc.version.inj same
        obtain same | whole := kind
        · exact own same
        · exact absurd (part.symm.trans whole) (by decide)
      refine removed.next ?_
      intro u before
      refine ih.mono ?_
      rintro outcome last ⟨entries,rfl,few,kept⟩
      refine ⟨entries,rfl,?_,fun other kind => (kept other kind).trans (before other kind)⟩
      simpa [part] using few
    rw [if_neg part]
    have asked : Ends (steadily tar) (fun outcome u => ∃ mtime, outcome = .ok mtime ∧ u = w)
        ((sys (.modified (.version name)) id).attempt : Prog Error (Except IoError Nat)) w := by
      rw [Ends.attempt,ends_sys]
      intro amount
      refine ⟨_,rfl,?_⟩
      simp only [answer]
      split <;> rfl
    refine asked.after ?_
    rintro mtime u rfl
    refine ih.after ?_
    rintro entries last ⟨few,kept⟩
    have longer : entries.length + 1 ≤ ((name::names).filter fun name => name ≠ v && !endsWith name ".partial").length := by
      simpa [own,part] using few
    cases mtime with
    | error => exact ⟨entries,rfl,Nat.le_of_succ_le longer,kept⟩
    | ok mtime => exact ⟨_,rfl,longer,kept⟩

/-- With at most as many others as are kept, every whole version stays. -/
theorem gcVersions_goes {keep : Nat} (few : (others v w).length ≤ keep) :
    Ends (steadily tar) (fun _ u => ∀ name, name = v ∨ endsWith name ".partial" = false →
      u.node (.version name) = w.node (.version name)) (gcVersions v keep) w := by
  cases there : w.isDir .versions with
  | false => simp [gcVersions,answer,there,Except.mapError]
  | true =>
    have listed : Ends (steadily tar) (fun outcome u => outcome =
        .ok (w.names.filter fun name => (w.node (.version name)).isSome) ∧ u = w) (bare (sys .readVersions id)) w := by
      simp [answer,there,Except.mapError]
    unfold gcVersions
    refine listed.next ?_
    rintro u rfl
    refine (gcEntries_goes _).after ?_
    rintro entries u' ⟨short,kept⟩
    have none : gcVictims entries keep = [] := by
      have same : ((u.names.filter fun name => (u.node (.version name)).isSome).filter
          fun name => name ≠ v && !endsWith name ".partial") = others v u := by
        rw [List.filter_filter]
        rfl
      unfold gcVictims
      rw [List.drop_eq_nil_of_le,List.map_nil]
      rw [List.length_mergeSort]
      exact (short.trans_eq (congrArg List.length same)).trans few
    rw [none]
    exact kept

theorem builds_ends {ε α : Type} {program : Prog ε α} {value : α} {good : World → Prop}
    (goes : Ends (steadily tar) (fun outcome u => outcome = .ok value ∧ good u) program w) (uses : Uses (Builds v) program) :
    Ends (steadily tar) (fun outcome u => outcome = .ok value ∧ good u ∧ Surrounds v w u) program w :=
  (goes.and (surrounds_ends uses)).mono fun _ _ held => ⟨held.1.1,held.1.2,held.2⟩

end Collecting

section Placing
variable {tar : TarCrate} {v : String} {tarballBytes : Bytes} {w : World} {binaryName : String}

/-- Beside the partial directory nothing has changed. -/
def Filled (v : String) (w u : World) : Prop := Surrounds v w u ∧ ∀ place, place ≠ .partialOf v → u.node place = w.node place

theorem Filled.trans {u u' : World} (first : Filled v w u) (second : Filled v u u') : Filled v w u' :=
  ⟨first.1.trans second.1,fun place other => (second.2 place other).trans (first.2 place other)⟩

theorem framed_ends {ε α : Type} {places : Loc → Prop} {program : Prog ε α} (uses : Uses (Within places) program) :
    Ends (steadily tar) (fun _ u => Framed places w u) program w := by
  have framed := (uses.stable (@Framed.stable tar places w) (m := (w,[])) (.refl _ w)).ends.under steady
  exact framed.mono fun _ _ ⟨_,held⟩ => held

theorem fills_ends {ε α : Type} {program : Prog ε α} (uses : Uses (Fills tar v tarballBytes) program) :
    Ends (steadily tar) (fun _ u => Filled v w u) program w := by
  have framed := @framed_ends tar w _ _ _ _ (uses.mono fun _ fills => fills.within)
  refine ((surrounds_ends (uses.mono fun _ fills => .of_unfinished fills.within)).and framed).mono ?_
  rintro _ u ⟨around,framed⟩
  exact ⟨around,fun place other => framed.node place other⟩

/-- The version is complete, live and the way back is kept. -/
structure Installation (v binaryName : String) (w u : World) : Prop where
  framed : Framed installPlaces w u
  live : u.node .current = some (.symlink (.version v))
  tmp : u.node .currentTmp = none
  previous : ∀ place, w.node .current = some (.symlink place) → u.node .previous = some (.symlink place)
  binary : ∃ ino content bytes, u.node (.version v) = some (.dir ino content) ∧
    content.get [binaryName] = some (.file 0o755 bytes)
  kept : (others v w).length ≤ 3 → ∀ name, name ≠ v → endsWith name ".partial" = false →
    u.node (.version name) = w.node (.version name)

theorem collects_framed (w : World) {keep : Nat} : Ends (steadily tar)
    (fun _ u => Framed (fun place => ∃ name, place = .version name ∧ name ≠ v) w u) (gcVersions v keep) w := by
  refine framed_ends ((gcVersions_uses keep).mono fun operation collects => ?_)
  obtain quiet | ⟨name,other,rfl⟩ := collects
  · exact quiet.within _
  · exact ⟨fun place own => ⟨name,own,other⟩,nofun⟩

theorem Installation.of_collected {u u' : World} (installed : Installation v binaryName w u)
    (framed : Framed (fun place => ∃ name, place = .version name ∧ name ≠ v) u u')
    (spared : (others v w).length ≤ 3 → ∀ name, name = v ∨ endsWith name ".partial" = false →
      u'.node (.version name) = u.node (.version name)) : Installation v binaryName w u' := by
  have still (place : Loc) (other : ∀ name, name ≠ v → place ≠ .version name) : u'.node place = u.node place :=
    framed.node place fun ⟨name,same,apart⟩ => other name apart same
  refine ⟨installed.framed.trans (framed.mono fun place ⟨name,same,_⟩ => .inr (.inr ⟨name,same⟩)),?_,?_,fun place link => ?_,?_,
    fun few name other part => ?_⟩
  · exact (still .current nofun).trans installed.live
  · exact (still .currentTmp nofun).trans installed.tmp
  · exact (still .previous nofun).trans (installed.previous place link)
  · obtain ⟨ino,content,bytes,found,binary⟩ := installed.binary
    have own : u'.node (.version v) = u.node (.version v) := still _ fun name other same => other (Loc.version.inj same).symm
    exact ⟨ino,content,bytes,own.trans found,binary⟩
  · exact (spared few name (.inr part)).trans (installed.kept few name other part)

/-- The collection takes nothing away that an installation has put in place. -/
theorem collect_goes {u : World} (installed : Installation v binaryName w u) (listed : others v u = others v w) :
    Ends (steadily tar) (fun outcome u => outcome = .ok () ∧ Installation v binaryName w u)
      (ignore (gcVersions v 3) : Prog Error Unit) u := by
  rw [ends_ignore]
  by_cases few : (others v w).length ≤ 3
  · have spares := @gcVersions_goes tar v u 3 (listed ▸ few)
    refine (spares.and (collects_framed u)).mono ?_
    rintro outcome u' ⟨spared,framed⟩
    exact ⟨rfl,installed.of_collected framed fun _ => spared⟩
  · refine (collects_framed u).mono ?_
    intro outcome u' framed
    exact ⟨rfl,installed.of_collected framed fun few' => absurd few' few⟩

theorem link_ne_version {place : Loc} (link : linkPlaces place) (name : String) : place ≠ .version name := by
  rintro rfl
  simp [linkPlaces] at link

theorem link_ne_versions {place : Loc} (link : linkPlaces place) : place ≠ .versions := by
  rintro rfl
  simp [linkPlaces] at link

/-- A filled partial directory is put in place, made live, and the others are collected. -/
theorem complete_goes {u : World} {top ino : Nat} {listing content : Dir} {bytes : Bytes}
    (filled : Filled v w u) (found : u.node (.partialOf v) = some (.dir ino content))
    (binary : content.get [binaryName] = some (.file 0o755 bytes)) (parent : w.node .versions = some (.dir top listing))
    (final : w.node (.version v) = none) (live : NoDir w .current) (old : NoDir w .previous) (tmp : NoDir w .currentTmp) :
    Ends (steadily tar) (fun outcome u => outcome = .ok (Loc.version v) ∧ Installation v binaryName w u)
      (do
        bare (Io.rename (.partialOf v) (.version v))
        swapCurrentSymlink (.version v)
        ignore (gcVersions v 3)
        return Loc.version v) u := by
  have still (place : Loc) (other : place ≠ .partialOf v) := filled.2 place other
  have free : u.node (.version v) = none := (still _ (partialOf_ne v).symm).trans final
  have room : u.parentOk (.version v) = true := parentOk_of ((still .versions (fun same => by cases same)).trans parent) _
  have allowed : u.renameError (.partialOf v) (.version v) = none := by
    unfold World.renameError
    rw [found,free]
    exact if_pos room
  have moved : Ends (steadily tar) (fun outcome u' => outcome = .ok () ∧
      u'.node = Function.update (Function.update u.node (.partialOf v) none) (.version v) (some (.dir ino content)))
      (bare (Io.rename (.partialOf v) (.version v))) u := by
    simp [Io.rename,answer,allowed,Except.mapError,World.move_node _ found]
  have renames : Uses (Builds v) (bare (Io.rename (.partialOf v) (.version v))) := Calls.bare (Calls.sys .completed)
  have moves : Ends (steadily tar) (fun outcome u' => outcome = .ok () ∧ u'.node (.version v) = some (.dir ino content) ∧
      (∀ place, (∀ name, place ≠ .version name) → u'.node place = w.node place) ∧ Surrounds v w u')
      (bare (Io.rename (.partialOf v) (.version v))) u := by
    refine (moved.and (surrounds_ends renames)).mono ?_
    rintro outcome u' ⟨⟨rfl,node⟩,around⟩
    refine ⟨rfl,?_,fun place other => ?_,filled.1.trans around⟩
    · rw [node]
      exact Function.update_self ..
    · have apart : place ≠ .partialOf v := other _
      rw [node,Function.update_of_ne (other v),Function.update_of_ne apart]
      exact still place apart
  refine moves.next ?_
  rintro u' ⟨put,same,around⟩
  have links (place : Loc) (link : linkPlaces place) : u'.node place = w.node place := same place (link_ne_version link)
  have swaps := @swap_goes tar u' (.version v) (noDir_of_node live (links .current (.inl rfl)))
    (noDir_of_node old (links .previous (.inr (.inl rfl)))) (noDir_of_node tmp (links .currentTmp (.inr (.inr rfl))))
  have linked := @surrounds_ends tar v u' _ _ _ ((swap_relinks (.version v)).mono fun _ => .of_relinks)
  have apart := @framed_ends tar u' _ _ linkPlaces _ ((swap_relinks (.version v)).mono fun _ => Relinks.within)
  have swapped : Ends (steadily tar) (fun outcome u => outcome = .ok () ∧ Installation v binaryName w u ∧
      others v u = others v w) (swapCurrentSymlink (.version v)) u' := by
    refine ((swaps.and linked).and apart).mono ?_
    rintro outcome last ⟨⟨⟨rfl,live,gone,previous⟩,linked⟩,apart⟩
    have whole := around.trans linked
    have own : last.node (.version v) = u'.node (.version v) := apart.node _ (by simp [linkPlaces])
    refine ⟨rfl,⟨whole.framed,live,gone,fun place pointed => ?_,?_,fun _ => whole.kept⟩,whole.listed⟩
    · exact previous place ((links .current (.inl rfl)).trans pointed)
    · exact ⟨ino,content,bytes,own.trans put,binary⟩
  refine swapped.next ?_
  rintro last ⟨installed,listed⟩
  refine (collect_goes installed listed).next ?_
  exact fun _ held => ⟨rfl,held⟩

/-- An installation into a place that is free, from a tarball that unpacks. -/
theorem installVersion_goes {entries : List (Option TarEntry)} (read : tar.entries tarballBytes = some entries)
    (packed : Packed tar binaryName entries []) (versions : ∃ ino content, w.node .versions = some (.dir ino content))
    (partly : w.node (.partialOf v) = none) (final : w.node (.version v) = none) (live : NoDir w .current)
    (old : NoDir w .previous) (tmp : NoDir w .currentTmp) :
    Ends (steadily tar) (fun outcome u => outcome = .ok (.version v) ∧ Installation v binaryName w u)
      (installVersion tar v binaryName tarballBytes) w := by
  obtain ⟨top,listing,parent⟩ := versions
  have room : w.parentOk (.partialOf v) = true := parentOk_of parent _
  have makes : Uses (Builds v) (bare (Io.createDir (.partialOf v))) :=
    Calls.bare (Calls.sys (.of_unfinished ⟨fun place own => own,nofun⟩))
  have made : Ends (steadily tar) (fun outcome u => outcome = .ok () ∧
      u.node = Function.update w.node (.partialOf v) (some (.dir w.fresh []))) (bare (Io.createDir (.partialOf v))) w := by
    simp [Io.createDir,answer,partly,room,Except.mapError]
  have starts : Ends (steadily tar) (fun outcome u => outcome = .ok () ∧ u.node (.partialOf v) = some (.dir w.fresh []) ∧
      Filled v w u) (bare (Io.createDir (.partialOf v))) w := by
    refine (made.and (surrounds_ends makes)).mono ?_
    rintro outcome u ⟨⟨rfl,node⟩,around⟩
    refine ⟨rfl,?_,around,fun place other => ?_⟩
    · rw [node]
      exact Function.update_self ..
    · rw [node]
      exact Function.update_of_ne other ..
  refine starts.next ?_
  rintro u ⟨found,filled⟩
  have unpacks : Ends (steadily tar) (fun outcome u' => outcome = .ok () ∧ (∃ content,
      u'.node (.partialOf v) = some (.dir w.fresh content) ∧ Carries binaryName content) ∧ Filled v w u')
      (extractTarball tar tarballBytes (.partialOf v)) u := by
    have goes := @unpackAll_goes tar (.partialOf v) binaryName u w.fresh [] entries packed found
    have whole : extractTarball tar tarballBytes (.partialOf v) = unpackAll (.partialOf v) entries := by
      unfold extractTarball
      rw [read]
    rw [whole]
    refine (goes.and (fills_ends (unpackAll_uses read entries fun _ member => member))).mono ?_
    rintro outcome u' ⟨⟨rfl,there⟩,more⟩
    exact ⟨rfl,there,filled.trans more⟩
  refine unpacks.next ?_
  rintro u ⟨⟨content,found,carries⟩,filled⟩
  have prepares : Ends (steadily tar) (fun outcome u' => outcome = .ok () ∧ (∃ content bytes,
      u'.node (.partialOf v) = some (.dir w.fresh content) ∧ content.get [binaryName] = some (.file 0o755 bytes)) ∧
      Filled v w u') (prepareBinary (.partialOf v) binaryName) u := by
    refine ((prepareBinary_goes found carries).and (fills_ends (@prepareBinary_uses tar v tarballBytes binaryName))).mono ?_
    rintro outcome u' ⟨⟨rfl,there⟩,more⟩
    exact ⟨rfl,there,filled.trans more⟩
  refine prepares.next ?_
  rintro u ⟨⟨content,bytes,found,binary⟩,filled⟩
  have synced : Ends (steadily tar) (fun outcome u' => outcome = .ok () ∧ u' = u)
      (ignore (Io.syncDir (.partialOf v)) : Prog Error Unit) u := by
    simp [Io.syncDir,answer]
  refine synced.next ?_
  rintro u' rfl
  exact complete_goes filled found binary parent final live old tmp

end Placing

section Staging
variable {crates : Crates} {coordinator : UpgradeCoordinator} {network : Network} {request : StageRequest}
  {manifest : Manifest} {tarballBytes : Bytes} {v : String} {w : World}

/-- Nothing in the install root stands in the way of a version. -/
structure Ready (v : String) (w : World) : Prop where
  orderly : Orderly w
  state : NoDir w .stateJson
  previous : NoDir w .previous
  versions : Clear w .versions
  partly : Clear w (.partialOf v)
  final : Clear w (.version v)
  idle : w.node .current ≠ some (.symlink (.version v))

theorem Installation.of_around {binaryName : String} {u u' : World} (around : Surrounds v w u)
    (same : u.node .current = w.node .current) (installed : Installation v binaryName u u') : Installation v binaryName w u' where
  framed := around.framed.trans installed.framed
  live := installed.live
  tmp := installed.tmp
  previous place pointed := installed.previous place (same.trans pointed)
  binary := installed.binary
  kept few name other part :=
    (installed.kept (around.listed ▸ few) name other part).trans (around.kept name other part)

theorem stageNewVersion_goes {tar : TarCrate} {installRoot binaryName : String} {entries : List (Option TarEntry)}
    (read : tar.entries tarballBytes = some entries) (packed : Packed tar binaryName entries [])
    (named : v = manifest.version) (ready : Ready v w) :
    Ends (steadily tar) (fun outcome u => outcome = .ok (.version v) ∧ Installation v binaryName w u)
      (stageNewVersion tar installRoot v binaryName tarballBytes manifest) w := by
  have checked : bailIf (v ≠ manifest.version) ("internal error: stage_new_version called with new_version=" ++ v ++
      " but manifest.version=" ++ manifest.version) = .ok () := if_neg (not_not_intro named)
  have makes : Uses (Builds v) (context ("creating " ++ installRoot ++ "/versions") (Io.createDirAll .versions)) :=
    Calls.context (Calls.sys (.of_clears (.inr (.inl rfl))))
  have away (name : String) : Loc.version name ≠ .versions := fun same => by cases same
  unfold stageNewVersion
  rw [checked]
  refine (builds_ends (makeVersions_goes ready.versions) makes).next ?_
  rintro u ⟨⟨⟨ino,listing,parent⟩,same⟩,around⟩
  have partly : Clear u (.partialOf v) := ready.partly.of_node (same _ (away _))
  refine (builds_ends (clearPartial_goes partly) (clearPartial_uses.mono fun _ => .of_clears)).next ?_
  rintro u' ⟨cleared,around'⟩
  have same' (place : Loc) (other : place ≠ .versions) (apart : place ≠ .partialOf v) : u'.node place = w.node place := by
    rw [cleared,Function.update_of_ne apart]
    exact same place other
  have final : Clear u' (.version v) := ready.final.of_node (same' _ (away _) (partialOf_ne v).symm)
  have unmoved (place : Loc) (link : linkPlaces place) : u'.node place = w.node place :=
    same' place (link_ne_versions link) (link_ne_version link _)
  have idle : u'.node .current ≠ some (.symlink (.version v)) := by
    rw [unmoved .current (.inl rfl)]
    exact ready.idle
  refine (builds_ends (clearFinal_goes final idle) (clearFinal_uses.mono fun _ => .of_clears)).next ?_
  rintro last ⟨freed,around''⟩
  have links (place : Loc) (link : linkPlaces place) : last.node place = w.node place := by
    rw [freed,Function.update_of_ne (link_ne_version link v)]
    exact unmoved place link
  have parent' : ∃ ino content, last.node .versions = some (.dir ino content) :=
    ⟨ino,listing,by simp [freed,cleared,Loc.partialOf,parent]⟩
  have partial_ : last.node (.partialOf v) = none := by
    rw [freed,Function.update_of_ne (partialOf_ne v),cleared]
    exact Function.update_self ..
  have free : last.node (.version v) = none := by
    rw [freed]
    exact Function.update_self ..
  have installs := @installVersion_goes tar v tarballBytes last binaryName entries read packed parent' partial_ free
    (noDir_of_node ready.orderly.current (links .current (.inl rfl)))
    (noDir_of_node ready.previous (links .previous (.inr (.inl rfl))))
    (noDir_of_node ready.orderly.currentTmp (links .currentTmp (.inr (.inr rfl))))
  refine installs.mono ?_
  rintro outcome after ⟨rfl,installed⟩
  exact ⟨rfl,installed.of_around ((around.trans around').trans around'') (links .current (.inl rfl))⟩

theorem load_refused {tar : TarCrate} {serde : Serde} {installRoot : String} (unread : readState serde w = none) :
    Ends (steadily tar) (fun outcome u => outcome.toOption = none ∧ SameFiles w u) (load serde installRoot) w := by
  cases found : w.node .stateJson with
  | none =>
    simp [load,Io.openFile,answer,openAnswer,found,Except.mapError,Except.toOption]
    exact .refl w
  | some entry =>
    cases entry with
    | dir | symlink =>
      simp [load,Io.openFile,answer,openAnswer,found,Except.mapError,Except.toOption]
      exact .refl w
    | file ino =>
      have broken : serde.fromStr (w.data ino) = none := by simpa [readState,World.content,found] using unread
      simp [load,Io.openFile,Io.lockShared,Io.readToString,answer,openAnswer,found,broken,Except.mapError,Except.toOption]
      exact ⟨rfl,rfl,rfl⟩

theorem tryLoad_goes {ε : Type} {tar : TarCrate} {serde : Serde} {installRoot : String} (w : World) :
    Ends (steadily tar) (fun outcome u => outcome = .ok (readState serde w) ∧ SameFiles w u)
      (tryLoad serde installRoot : Prog ε (Option InstallState)) w := by
  have loaded : Ends (steadily tar) (fun outcome u => outcome.toOption = readState serde w ∧ SameFiles w u)
      (load serde installRoot) w := by
    cases read : readState serde w with
    | none => exact load_refused read
    | some s =>
      refine (load_steady read).mono ?_
      rintro outcome u ⟨rfl,same⟩
      exact ⟨rfl,same⟩
  have tried : Ends (steadily tar) (fun outcome u => ∃ loaded, outcome = .ok loaded ∧
      loaded.toOption = readState serde w ∧ SameFiles w u)
      ((load serde installRoot).attempt : Prog ε (Except Error InstallState)) w := by
    rw [Ends.attempt]
    exact loaded.mono fun outcome u held => ⟨outcome,rfl,held⟩
  unfold tryLoad
  cases there : (w.stat .stateJson).isSome with
  | true =>
    refine (looked_goes there).next ?_
    rintro u rfl
    refine tried.after ?_
    rintro loaded u' ⟨same,files⟩
    exact ⟨congrArg Except.ok same,files⟩
  | false =>
    refine (looked_goes there).next ?_
    rintro u rfl
    have gone : readState serde u = none := by
      unfold readState World.content
      split
      next ino found =>
        rw [World.stat_of_no_link _ _ _ found nofun] at there
        cases there
      next => rfl
    exact ⟨congrArg Except.ok gone.symm,.refl u⟩

theorem recordStaged_goes (free : w.node (.stateTmp coordinator.pid) = none) (cell : NoDir w .stateJson) :
    Ends (steadily crates.tar) (fun outcome u => outcome = .ok () ∧ ∃ now, Kept crates.serde coordinator.pid
      (stagedState coordinator request manifest (readState crates.serde w) now) w u)
      (recordStaged crates coordinator request manifest) w := by
  refine (tryLoad_goes w).next ?_
  intro u same
  refine now_goes.after ?_
  rintro now u' same'
  have same := same.trans same'
  rw [Ends.mapError]
  refine (save_steady (same.node ▸ free) (noDir_of_node cell (congrFun same.node _))).mono ?_
  rintro outcome last ⟨rfl,kept⟩
  exact ⟨rfl,now,kept.of_same same⟩

theorem Approved.named (approved : Approved crates coordinator network request manifest tarballBytes) :
    request.version = manifest.version := by
  obtain ⟨base,_,fetched⟩ := approved.checked
  obtain ⟨manifestBytes,_,fetched⟩ := bind_ok.mp fetched
  obtain ⟨bundleBytes,_,fetched⟩ := bind_ok.mp fetched
  obtain ⟨_,_,fetched⟩ := bind_ok.mp fetched
  obtain ⟨decoded,_,fetched⟩ := bind_ok.mp fetched
  obtain ⟨_,valid,fetched⟩ := bind_ok.mp fetched
  obtain rfl : decoded = manifest := Except.ok.inj fetched
  obtain ⟨_,version,_⟩ := bind_ok.mp (coded_ok.mp valid)
  exact (not_not.mp (bailIf_ok.mp version)).symm

/-- What a stage call leaves that has done its work: the version in place, live and on record, with nothing
left over. -/
structure Upgraded (crates : Crates) (coordinator : UpgradeCoordinator) (request : StageRequest) (manifest : Manifest)
    (w u : World) : Prop where
  live : u.node .current = some (.symlink (.version request.version))
  previous : ∀ place, w.node .current = some (.symlink place) → u.node .previous = some (.symlink place)
  binary : ∃ ino content bytes, u.node (.version request.version) = some (.dir ino content) ∧
    content.get [coordinator.profile.binaryName] = some (.file 0o755 bytes)
  state : ∃ now, readState crates.serde u =
    some (stagedState coordinator request manifest (readState crates.serde w) now)
  kept : (others request.version w).length ≤ 3 → ∀ name, name ≠ request.version → endsWith name ".partial" = false →
    u.node (.version name) = w.node (.version name)
  orderly : Orderly u

theorem Installation.recorded {u u' : World} {now : Int} (orderly : Orderly w)
    (installed : Installation request.version coordinator.profile.binaryName w u)
    (kept : Kept crates.serde coordinator.pid (stagedState coordinator request manifest (readState crates.serde w) now) u u') :
    Upgraded crates coordinator request manifest w u' := by
  have still (place : Loc) (other : ¬ stateFiles coordinator.pid place) := kept.framed.node place other
  have drafted (pid : Nat) : u.node (.stateTmp pid) = none := by
    have same := installed.framed.node (.stateTmp pid) (by simp [installPlaces,linkPlaces])
    exact same.trans (orderly.drafts pid)
  have tidy : Orderly u := ⟨drafted,by simp [NoDir,installed.live],by simp [NoDir,installed.tmp]⟩
  refine ⟨?_,fun place link => ?_,?_,⟨now,kept.read⟩,fun few name other part => ?_,tidy.of_kept kept⟩
  · exact (still .current (by simp [stateFiles])).trans installed.live
  · exact (still .previous (by simp [stateFiles])).trans (installed.previous place link)
  · obtain ⟨ino,content,bytes,found,binary⟩ := installed.binary
    exact ⟨ino,content,bytes,(still (.version _) (by simp [stateFiles])).trans found,binary⟩
  · exact (still (.version name) (by simp [stateFiles])).trans (installed.kept few name other part)

theorem Upgraded.then_same {u u' : World} (upgraded : Upgraded crates coordinator request manifest w u)
    (same : SameFiles u u') : Upgraded crates coordinator request manifest w u' := by
  have state : readState crates.serde u' = readState crates.serde u :=
    readState_same (congrFun same.node _) fun ino _ => congrFun same.data ino
  obtain ⟨live,previous,binary,read,kept,orderly⟩ := upgraded
  exact ⟨same.node ▸ live,same.node ▸ previous,same.node ▸ binary,state ▸ read,same.node ▸ kept,orderly.of_node same.node⟩

theorem Ready.of_node {u : World} (ready : Ready v w) (same : u.node = w.node) : Ready v u :=
  ⟨ready.orderly.of_node same,noDir_of_node ready.state (congrFun same _),noDir_of_node ready.previous (congrFun same _),
    ready.versions.of_node (congrFun same _),ready.partly.of_node (congrFun same _),ready.final.of_node (congrFun same _),
    same ▸ ready.idle⟩

theorem install_goes {entries : List (Option TarEntry)} (read : crates.tar.entries tarballBytes = some entries)
    (packed : Packed crates.tar coordinator.profile.binaryName entries []) (named : request.version = manifest.version)
    (ready : Ready request.version w) : Ends (steadily crates.tar) (fun outcome u => outcome = .ok
      ⟨coordinator.currentVersion,request.version,request.channel,request.variantName,request.archOn coordinator,
        .version request.version⟩ ∧ Upgraded crates coordinator request manifest w u)
      (install crates coordinator request manifest tarballBytes) w := by
  have stages : Ends (steadily crates.tar) (fun outcome u => outcome = .ok (Loc.version request.version) ∧
      Installation request.version coordinator.profile.binaryName w u)
      ((stageNewVersion crates.tar coordinator.config.installRoot request.version coordinator.profile.binaryName tarballBytes
        manifest).mapError (fun e => (⟨ErrorCodes.upgradeExtractFailed,e⟩ : UpgradeError))) w := by
    rw [Ends.mapError]
    refine (stageNewVersion_goes read packed named ready).mono ?_
    rintro outcome u ⟨rfl,installed⟩
    exact ⟨rfl,installed⟩
  unfold install
  refine stages.next ?_
  intro u installed
  have still (place : Loc) (other : ¬ installPlaces place) := installed.framed.node place other
  have free : u.node (.stateTmp coordinator.pid) = none :=
    (still _ (by simp [installPlaces,linkPlaces])).trans (ready.orderly.drafts _)
  have cell : NoDir u .stateJson := noDir_of_node ready.state (still _ (by simp [installPlaces,linkPlaces]))
  have same : readState crates.serde u = readState crates.serde w :=
    readState_same (still _ (by simp [installPlaces,linkPlaces])) installed.framed.data
  have records : Ends (steadily crates.tar) (fun outcome u' => outcome = .ok () ∧
      Upgraded crates coordinator request manifest w u') (recordStaged crates coordinator request manifest) u := by
    refine (recordStaged_goes free cell).mono ?_
    rintro outcome u' ⟨rfl,now,kept⟩
    exact ⟨rfl,installed.recorded ready.orderly (same ▸ kept)⟩
  refine records.next ?_
  intro u' upgraded
  refine trySend_goes.next ?_
  intro last same
  exact ⟨rfl,upgraded.then_same same⟩

theorem quietly_ends {ε α : Type} {program : Prog ε α} {value : α}
    (goes : Ends (steadily crates.tar) (fun outcome u => outcome = .ok value ∧ SameFiles w u) program w)
    (uses : Uses Quiet program) : Ends (steadily crates.tar)
    (fun outcome u => outcome = .ok value ∧ SameFiles w u ∧ Surrounds v w u) program w :=
  builds_ends goes (uses.mono fun _ => .of_quiet)

theorem Upgraded.of_quiet {u u' : World} (same : SameFiles w u) (around : Surrounds request.version w u)
    (upgraded : Upgraded crates coordinator request manifest u u') : Upgraded crates coordinator request manifest w u' := by
  have state : readState crates.serde u = readState crates.serde w :=
    readState_same (congrFun same.node _) fun ino _ => congrFun same.data ino
  obtain ⟨live,previous,binary,read,kept,orderly⟩ := upgraded
  refine ⟨live,fun place pointed => ?_,binary,state ▸ read,fun few name other part => ?_,orderly⟩
  · exact previous place ((congrFun same.node _).trans pointed)
  · exact (kept (around.listed ▸ few) name other part).trans (congrFun same.node _)

theorem Packed.plain {entries : List (Option TarEntry)} {binaryName : String} {content : Dir}
    (packed : Packed crates.tar binaryName entries content) : ∀ entry ∈ unpacked entries, entry.kind.isLink = false := by
  induction entries generalizing content with
  | nil => exact List.forall_mem_nil _
  | cons first rest ih =>
    cases first with
    | none => exact packed.elim
    | some entry =>
      obtain ⟨plain,allowed,whole⟩ := packed
      rw [unpacked,allowed]
      exact List.forall_mem_cons.mpr ⟨EntryKind.not_link plain,ih (whole 0).2⟩

theorem Packed.unfollowing {entries : List (Option TarEntry)}
    (packed : Packed crates.tar coordinator.profile.binaryName entries [])
    (approved : Approved crates coordinator network request manifest tarballBytes)
    (read : crates.tar.entries tarballBytes = some entries) : Unfollowing crates coordinator network request := by
  intro _ _ again listed read'
  obtain ⟨rfl,rfl⟩ := approved.same again
  obtain rfl := Option.some.inj (read.symm.trans read')
  exact .of_plain packed.plain

theorem stage_goes {entries : List (Option TarEntry)}
    (approved : Approved crates coordinator network request manifest tarballBytes)
    (newer : ∀ s, readState crates.serde w = some s → s.lastSequence < manifest.sequence)
    (read : crates.tar.entries tarballBytes = some entries)
    (packed : Packed crates.tar coordinator.profile.binaryName entries []) (ready : Ready request.version w) :
    Ends (steadily crates.tar) (fun outcome u => outcome = .ok
      ⟨coordinator.currentVersion,request.version,request.channel,request.variantName,request.archOn coordinator,
        .version request.version⟩ ∧ Upgraded crates coordinator request manifest w u)
      (stage crates coordinator network request) w := by
  obtain ⟨base,checked,fetched⟩ := approved.checked
  rw [stage_eq checked fetched approved.fetched (Bool.eq_false_iff.mpr approved.automatic)]
  have sends (event : UpgradeEvent) : Uses Quiet (ignore (Io.trySend event) : Prog UpgradeError Unit) :=
    Calls.ignore (Calls.sys (quiet_of_silent rfl))
  refine (@quietly_ends crates request.version w _ _ _ _ trySend_goes (sends _)).next ?_
  rintro u ⟨same,around⟩
  refine (@quietly_ends crates request.version u _ _ _ _ (tryLoad_goes u) (tryLoad_uses _ _)).next ?_
  rintro u' ⟨same',around'⟩
  have state : readState crates.serde u = readState crates.serde w :=
    readState_same (congrFun same.node _) fun ino _ => congrFun same.data ino
  have passed : checkSequence manifest (readState crates.serde u) = .ok () := by
    rw [state]
    cases found : readState crates.serde w with
    | none => rfl
    | some s => exact bailAs_ok.mpr (UInt64.not_le.mpr (newer s found))
  rw [passed,Program.ofExcept,Program.pure_bind]
  refine (@quietly_ends crates request.version u' _ _ _ _ trySend_goes (sends _)).next ?_
  rintro last ⟨same'',around''⟩
  have still := (same.trans same').trans same''
  refine (install_goes read packed approved.named (ready.of_node still.node)).mono ?_
  rintro outcome after ⟨rfl,upgraded⟩
  exact ⟨rfl,upgraded.of_quiet still ((around.trans around').trans around'')⟩

end Staging

/-- A program that goes through on a machine that fails no call comes to its end there, whatever times it is told. -/
theorem ends_steadily {tar : TarCrate} {ε α : Type} {w : World} {post : Except ε α → World → Prop} {program : Program Sig ε α}
    (ends : Ends (steadily tar) post program w) (amounts : Nat → Nat) :
    ∃ n outcome, ((machine tar).record.run ((List.range n).map fun i => steady (amounts i)) program (w,[])).1.result =
        some outcome ∧
      post outcome ((machine tar).record.run ((List.range n).map fun i => steady (amounts i)) program (w,[])).2.1 := by
  obtain ⟨n,ended⟩ := (machine tar).record.run_ends (fun i => steady (amounts i)) program (w,[])
  obtain ⟨outcome,done⟩ := Option.isSome_iff_exists.mp ended
  have faultless : ∀ choice ∈ (List.range n).map fun i => steady (amounts i), choice.fails = false := by
    intro choice member
    obtain ⟨i,_,rfl⟩ := List.mem_map.mp member
    rfl
  exact ⟨n,outcome,done,ends_recorded ends faultless done⟩

/-- An accepted release whose tarball unpacks, on a machine that fails no call and with nothing in the way of its
version, is installed: whatever times the stage call is told, it comes to an end and ends well. The binary is in its
place and executable, the version is live, where `current` pointed before is kept in `previous`, the state for the next
boot is saved over the one that was there, and no other version is gone unless there were more than three. -/
theorem accepted_release_installs (crates : Crates) (coordinator : UpgradeCoordinator) (network : Network)
    (request : StageRequest) (manifest : Manifest) (tarballBytes : Bytes) (w : World)
    (approved : Approved crates coordinator network request manifest tarballBytes)
    (newer : ∀ s, readState crates.serde w = some s → s.lastSequence < manifest.sequence)
    (entries : List (Option TarEntry)) (read : crates.tar.entries tarballBytes = some entries)
    (packed : Packed crates.tar coordinator.profile.binaryName entries []) (ready : Ready request.version w)
    (amounts : Nat → Nat) :
    ∃ n, (stageRun crates coordinator network request ((List.range n).map fun i => steady (amounts i)) w).1.result =
        some (.ok ⟨coordinator.currentVersion,request.version,request.channel,request.variantName,request.archOn coordinator,
          .version request.version⟩) ∧
      Upgraded crates coordinator request manifest w
        (stageRun crates coordinator network request ((List.range n).map fun i => steady (amounts i)) w).2.1 := by
  obtain ⟨n,_,done,rfl,upgraded⟩ := ends_steadily (stage_goes approved newer read packed ready) amounts
  refine ⟨n,?_⟩
  rw [stageRun_machine (packed.unfollowing approved read)]
  exact ⟨done,upgraded⟩

namespace Sample

theorem new_packed : Packed tarCrate "gateway" [some ⟨[.normal "gateway"],.file 0o755 [35,33]⟩] [] :=
  ⟨rfl,rfl,fun _ => ⟨rfl,.top 0o755 [35,33] rfl⟩⟩

theorem bare_ready (v : String) : Ready v World.bare :=
  ⟨⟨fun _ => rfl,nofun,nofun⟩,nofun,nofun,.inl rfl,.inl rfl,.inl rfl,nofun⟩

end Sample

theorem sample_release_installs : ∃ n, ∃ staged, (stageRun Sample.crates Sample.coordinator
    (Sample.network Sample.newRelease) (Sample.request Sample.newRelease) ((List.range n).map fun i => steady i)
      World.bare).1.result = some (.ok staged) := by
  have approved : Approved Sample.crates Sample.coordinator (Sample.network Sample.newRelease)
      (Sample.request Sample.newRelease) Sample.newRelease.manifest Sample.tarball :=
    ⟨⟨_,Sample.checked_new,Sample.fetched_new⟩,Sample.tarball_new,nofun⟩
  obtain ⟨n,ended,_⟩ := accepted_release_installs Sample.crates Sample.coordinator (Sample.network Sample.newRelease)
    (Sample.request Sample.newRelease) Sample.newRelease.manifest Sample.tarball World.bare approved nofun _ rfl
    Sample.new_packed (Sample.bare_ready _) id
  exact ⟨n,_,ended⟩

end GatewaySdk.Upgrade
