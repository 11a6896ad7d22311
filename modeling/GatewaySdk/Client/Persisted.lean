import Mathlib.Data.List.Infix
import GatewaySdk.Client.Credentials
import GatewaySdk.Upgrade.Pem

/-! What becomes of the credentials file while it is written over: what a later load finds
at every step, and who may read the new secret meanwhile. -/
namespace GatewaySdk.Client
open GatewaySdk.Effect
open GatewaySdk.Host (File Process Private OthersRead othersRead_iff owner_only)
open GatewaySdk.Text (PrefixFree utf8EncodeChar_free utf8EncodeChar_solid)
open GatewaySdk.Text.Compact (quote escapeChar escapeChar_solid escapeChar_free escapeChar_ne_quote)
open GatewaySdk.Upgrade (Bytes utf8 fromUtf8 orElse orElse_ok mapError_ok bind_ok utf8_eq fromUtf8_utf8 utf8_of_fromUtf8)

abbrev FileMoment := Disk × Trace FileSig FileChoice Disk

def Opened : Event FileSig FileChoice Disk → Prop
  | ⟨_,.create,_,.ok _⟩ => True
  | _ => False

/-- The write that took the last of the text. -/
def Landed : Event FileSig FileChoice Disk → Prop
  | ⟨_,.write bytes,_,.ok n⟩ => n = bytes.length
  | _ => False

def Closed : Event FileSig FileChoice Disk → Prop
  | ⟨_,.setPermissions _,_,.ok _⟩ => True
  | _ => False

/-- Nothing of the file has changed yet. -/
structure Untouched (d : Disk) (m : FileMoment) : Prop where
  file : m.1.file = d.file
  opened : ¬ Saw Opened m.2
  landed : ¬ Saw Landed m.2
  closed : ¬ Saw Closed m.2

/-- The file is cut off within the new text. -/
structure Torn (f : File) (text : Bytes) (k : Nat) (m : FileMoment) : Prop where
  disk : m.1 = .held {f with bytes := text.take k}
  short : k < text.length
  opened : Saw Opened m.2
  landed : ¬ Saw Landed m.2
  closed : ¬ Saw Closed m.2

/-- All of the text is there, under the bits the file was opened with. -/
structure Whole (f : File) (text : Bytes) (m : FileMoment) : Prop where
  disk : m.1 = .held {f with bytes := text}
  opened : Saw Opened m.2
  landed : Saw Landed m.2
  closed : ¬ Saw Closed m.2

structure Secured (process : Process) (f : File) (text : Bytes) (m : FileMoment) : Prop where
  disk : m.1 = .held {f with bytes := text,mode := 0o600#9}
  may : process.mayChmod f
  opened : Saw Opened m.2
  landed : Saw Landed m.2
  closed : Saw Closed m.2

inductive Passing (process : Process) (d : Disk) (text : Bytes) (m : FileMoment) : Prop
  | untouched (now : Untouched d m)
  | torn (k : Nat) (now : Torn (emptied process d.file) text k m)
  | whole (now : Whole (emptied process d.file) text m)
  | secured (now : Secured process (emptied process d.file) text m)

/-- One of the four, and the bits were changed of a file that was whole. -/
structure Persisting (process : Process) (d : Disk) (text : Bytes) (m : FileMoment) : Prop where
  now : Passing process d text m
  past : Along (fun past event => Closed event → Whole (emptied process d.file) text (event.before,past)) m.2

section Steps
variable {process : Process} {d : Disk} {text : Bytes} {m : FileMoment} {event : Event FileSig FileChoice Disk} {s : Disk}

theorem Persisting.snoc (persisting : Persisting process d text m) (silent : ¬ Closed event)
    (next : Passing process d text (s,m.2 ++ [event])) : Persisting process d text (s,m.2 ++ [event]) :=
  ⟨next,along_snoc.mpr ⟨persisting.past,fun closed => absurd closed silent⟩⟩

theorem Untouched.snoc (untouched : Untouched d m) (same : s.file = d.file) (opened : ¬ Opened event)
    (landed : ¬ Landed event) (closed : ¬ Closed event) : Untouched d (s,m.2 ++ [event]) where
  file := same
  opened := by simp [saw_snoc,untouched.opened,opened]
  landed := by simp [saw_snoc,untouched.landed,landed]
  closed := by simp [saw_snoc,untouched.closed,closed]

theorem createDirAll_holds (persisting : Persisting process d text m) (untouched : Untouched d m) :
    Holds (fileSystem process).record (Persisting process d text)
      (Ending (fun _ => Untouched d) (fun _ => True)) createDirAll m := by
  refine Holds.answered persisting (fun choice reply s answered => ?_)
  have same := (createDirAll_cases answered).trans untouched.file
  have next : Untouched d (s,m.2 ++ [⟨m.1,.createDirAll,choice,reply⟩]) := untouched.snoc same id id id
  have during : Persisting process d text (s,m.2 ++ [⟨m.1,.createDirAll,choice,reply⟩]) := persisting.snoc id (.untouched next)
  cases reply with
  | ok a => exact ⟨during,.inl ⟨a,rfl,next⟩⟩
  | error e => exact ⟨during,.inr ⟨⟨e,rfl⟩,trivial⟩⟩

theorem create_holds (persisting : Persisting process d text m) (untouched : Untouched d m) (solid : text ≠ []) :
    Holds (fileSystem process).record (Persisting process d text)
      (Ending (fun _ => Torn (emptied process d.file) text 0) (fun _ => True)) create m := by
  refine Holds.answered persisting (fun choice reply s answered => ?_)
  rcases create_cases answered with ⟨error,rfl,rfl⟩ | ⟨rfl,rfl⟩
  · have next : Untouched d (m.1,m.2 ++ [⟨m.1,.create,choice,.error error⟩]) := untouched.snoc untouched.file id id id
    exact ⟨persisting.snoc id (.untouched next),.inr ⟨⟨error,rfl⟩,trivial⟩⟩
  · have empty : emptied process d.file = {emptied process d.file with bytes := text.take 0} := by
      cases d.file <;> rfl
    have next : Torn (emptied process d.file) text 0
        (.held (emptied process m.1.file),m.2 ++ [⟨m.1,.create,choice,.ok ()⟩]) := by
      refine ⟨?_,List.length_pos_of_ne_nil solid,saw_snoc.mpr (.inr trivial),?_,?_⟩
      · rw [untouched.file,← empty]
      · simp [saw_snoc,untouched.landed,Landed]
      · simp [saw_snoc,untouched.closed,Closed]
    exact ⟨persisting.snoc id (.torn 0 next),.inl ⟨(),rfl,next⟩⟩

/-- Each write takes some of what is left, and the last of them the last of it. -/
theorem writeAll_holds {k : Nat} (persisting : Persisting process d text m) (torn : Torn (emptied process d.file) text k m) :
    Holds (fileSystem process).record (Persisting process d text)
      (Ending (fun _ => Whole (emptied process d.file) text) (fun _ => True)) (writeAll (text.drop k)) m := by
  induction left : text.length-k using Nat.strong_induction_on generalizing k m with
  | _ left ih =>
    have short := torn.short
    have length : (text.drop k).length = text.length-k := List.length_drop
    rw [writeAll_solid (List.ne_nil_of_length_pos (by omega))]
    refine Holds.answered persisting (fun choice reply s answered => ?_)
    rw [torn.disk] at answered
    rcases write_cases answered with ⟨error,rfl,rfl⟩ | ⟨n,within,rfl,rfl⟩
    · have next : Torn (emptied process d.file) text k
          (.held {emptied process d.file with bytes := text.take k},
            m.2 ++ [⟨m.1,.write (text.drop k),choice,.error error⟩]) := by
        refine ⟨rfl,short,saw_snoc.mpr (.inl torn.opened),?_,?_⟩
        · simp [saw_snoc,torn.landed,Landed]
        · simp [saw_snoc,torn.closed,Closed]
      exact ⟨persisting.snoc id (.torn k next),.inr ⟨⟨error,rfl⟩,trivial⟩⟩
    · have grown : text.take k ++ (text.drop k).take n = text.take (k+n) := List.take_add.symm
      by_cases last : n = (text.drop k).length
      · have next : Whole (emptied process d.file) text
            (.held {emptied process d.file with bytes := text.take k ++ (text.drop k).take n},
              m.2 ++ [⟨m.1,.write (text.drop k),choice,.ok n⟩]) := by
          refine ⟨?_,saw_snoc.mpr (.inl torn.opened),saw_snoc.mpr (.inr last),?_⟩
          · rw [grown,List.take_of_length_le (by omega)]
          · simp [saw_snoc,torn.closed,Closed]
        cases n with
        | zero => omega
        | succ n =>
          have done : writeAll ((text.drop k).drop (n+1)) = .pure () := by
            rw [last,List.drop_length,writeAll,if_pos rfl]
          change Holds _ _ _ (writeAll ((text.drop k).drop (n+1))) _
          rw [done]
          exact ⟨persisting.snoc id (.whole next),.inl ⟨(),rfl,next⟩⟩
      · have next : Torn (emptied process d.file) text (k+n)
            (.held {emptied process d.file with bytes := text.take k ++ (text.drop k).take n},
              m.2 ++ [⟨m.1,.write (text.drop k),choice,.ok n⟩]) := by
          refine ⟨by rw [grown],by omega,saw_snoc.mpr (.inl torn.opened),?_,?_⟩
          · rintro saw
            rcases saw_snoc.mp saw with before | now
            · exact torn.landed before
            · exact last now
          · simp [saw_snoc,torn.closed,Closed]
        cases n with
        | zero => exact ⟨persisting.snoc id (.torn _ next),.inr ⟨⟨_,rfl⟩,trivial⟩⟩
        | succ n =>
          change Holds _ _ _ (writeAll ((text.drop k).drop (n+1))) _
          rw [List.drop_drop]
          exact ih (text.length-(k+(n+1))) (by omega) (persisting.snoc id (.torn _ next)) next rfl

theorem setPermissions_holds (persisting : Persisting process d text m) (whole : Whole (emptied process d.file) text m) :
    Holds (fileSystem process).record (Persisting process d text) (fun _ _ => True) (setPermissions 0o600#9) m := by
  refine Holds.answered persisting (fun choice reply s answered => ?_)
  rw [whole.disk] at answered
  rcases setPermissions_cases answered with ⟨error,rfl,rfl⟩ | ⟨may,rfl,rfl⟩
  · have next : Whole (emptied process d.file) text (.held {emptied process d.file with bytes := text},
        m.2 ++ [⟨m.1,.setPermissions 0o600#9,choice,.error error⟩]) := by
      refine ⟨rfl,saw_snoc.mpr (.inl whole.opened),saw_snoc.mpr (.inl whole.landed),?_⟩
      simp [saw_snoc,whole.closed,Closed]
    exact ⟨persisting.snoc id (.whole next),trivial⟩
  · have next : Secured process (emptied process d.file) text
        (.held {emptied process d.file with bytes := text,mode := 0o600#9},
          m.2 ++ [⟨m.1,.setPermissions 0o600#9,choice,.ok ()⟩]) :=
      ⟨rfl,may,saw_snoc.mpr (.inl whole.opened),saw_snoc.mpr (.inl whole.landed),saw_snoc.mpr (.inr trivial)⟩
    exact ⟨⟨.secured next,along_snoc.mpr ⟨persisting.past,fun _ => whole⟩⟩,trivial⟩

variable {json : CredentialsJson}

theorem text_solid (creds : PersistedCredentials) : utf8 (json.toStringPretty creds) ≠ [] := by
  rw [utf8_eq]
  obtain ⟨c,rest,split⟩ := List.exists_cons_of_ne_nil fun none => json.solid creds (String.toList_injective none)
  rw [split,List.flatMap_cons]
  exact fun none => utf8EncodeChar_solid c (List.append_eq_nil_iff.mp none).1

theorem persistCredentials_holds (path : FilePath) (creds : PersistedCredentials) :
    Holds (fileSystem process).record (Persisting process d (utf8 (json.toStringPretty creds))) (fun _ _ => True)
      (persistCredentials json path creds) (d,[]) := by
  have start : Untouched d (d,[]) := ⟨rfl,not_saw_nil _,not_saw_nil _,not_saw_nil _⟩
  have persisting : Persisting process d (utf8 (json.toStringPretty creds)) (d,[]) := ⟨.untouched start,along_nil _⟩
  apply Holds.forward (fun _ => Untouched d) (fun _ => True)
  · unfold createParent
    split
    · exact ⟨persisting,.inl ⟨(),rfl,start⟩⟩
    · exact (createDirAll_holds persisting start).renamed _
  · intro _ m persisting untouched
    apply Holds.forward (fun _ => Whole (emptied process d.file) (utf8 (json.toStringPretty creds))) (fun _ => True)
    · apply Holds.renamed
      apply Holds.forward (fun _ => Torn (emptied process d.file) (utf8 (json.toStringPretty creds)) 0) (fun _ => True)
      · exact create_holds persisting untouched (text_solid creds)
      · intro _ m persisting torn
        exact writeAll_holds persisting torn
      · exact fun e _ _ _ => .inr ⟨⟨e,rfl⟩,trivial⟩
    · intro _ m persisting whole
      exact (setPermissions_holds persisting whole).mapError
    · exact fun _ _ _ _ => trivial
  · exact fun _ _ _ _ => trivial

end Steps

section Loads
variable {json : CredentialsJson} {process : Process} {path : FilePath} {d d' : Disk} {f : File}
  {creds read : PersistedCredentials}

/-- These credentials are what the bytes of a file tell. -/
def Tells (json : CredentialsJson) (bytes : Bytes) (creds : PersistedCredentials) : Prop :=
  ∃ text, fromUtf8 bytes = some text ∧ json.fromStr text = .ok creds

theorem tells_text : Tells json (utf8 (json.toStringPretty creds)) creds := ⟨_,fromUtf8_utf8 _,json.fromStr_toStringPretty creds⟩

/-- A text that is cut off tells nothing, be it cut between two characters or within one. -/
theorem torn_tells_nothing {k : Nat} (short : k < (utf8 (json.toStringPretty creds)).length) :
    ¬ Tells json ((utf8 (json.toStringPretty creds)).take k) read := by
  rintro ⟨text,decoded,parsed⟩
  have bytes := utf8_of_fromUtf8 decoded
  have begins : text.toList <+: (json.toStringPretty creds).toList := by
    apply utf8EncodeChar_free.flatMap_prefix utf8EncodeChar_solid
    rw [← utf8_eq,← utf8_eq,bytes]
    exact List.take_prefix _ _
  have shorter : text ≠ json.toStringPretty creds := by
    rintro rfl
    have lengths := congrArg List.length bytes
    rw [List.length_take] at lengths
    omega
  obtain ⟨error,failed⟩ := json.fromStr_prefix creds text begins shorter
  rw [failed] at parsed
  cases parsed

theorem load_file (there : d.file = some f) :
    loadCredentials json process path d = .ok read ↔ process.may .read f ∧ Tells json f.bytes read := by
  unfold loadCredentials readToString Tells
  rw [there]
  simp only [bind_ok,mapError_ok]
  constructor
  · rintro ⟨text,decoded,parsed⟩
    split at decoded
    next may => exact ⟨may,text,orElse_ok.mp decoded,parsed⟩
    next => cases decoded
  · rintro ⟨may,text,decoded,parsed⟩
    rw [if_pos may]
    exact ⟨text,orElse_ok.mpr decoded,parsed⟩

theorem load_same (same : d'.file = d.file) :
    loadCredentials json process path d' = loadCredentials json process path d := by
  unfold loadCredentials
  rw [same]

end Loads

/-- The bytes are the text's up to where the secret stands in it, its quote, and a part of it. -/
def ShowsSecret (json : CredentialsJson) (creds : PersistedCredentials) (bytes : Bytes) : Prop :=
  ∃ secret before behind part, creds.nodeSecret = some secret ∧
    (json.toStringPretty creds).toList = before ++ quote secret.toList ++ behind ∧ part ≠ [] ∧
    part <+: (secret.toList.flatMap escapeChar).flatMap String.utf8EncodeChar ∧
    (before ++ ['"']).flatMap String.utf8EncodeChar ++ part <+: bytes

/-- Part of the new secret is in the file that was opened, for others than its owner to read. -/
def Exposed (json : CredentialsJson) (creds : PersistedCredentials) (m : FileMoment) : Prop :=
  Saw Opened m.2 ∧ ∃ f, m.1.file = some f ∧ ShowsSecret json creds f.bytes ∧ OthersRead f

/-- What a run of `persist_credentials` leaves, with the calls it made; it may be cut short. -/
def persisted (json : CredentialsJson) (process : Process) (path : FilePath) (creds : PersistedCredentials)
    (choices : List FileChoice) (d : Disk) : FileMoment :=
  ((fileSystem process).record.run choices (persistCredentials json path creds) (d,[])).2

/-- No file, or one that tells these credentials, under any bits. -/
def Prior (json : CredentialsJson) (d : Disk) (old : PersistedCredentials) : Prop :=
  match d.file with
  | none => old = default
  | some f => Tells json f.bytes old

structure Survives (json : CredentialsJson) (process : Process) (path : FilePath) (old creds : PersistedCredentials)
    (choices : List FileChoice) (d : Disk) : Prop where
  loads : loadCredentials json process path (persisted json process path creds choices d).1 = .ok old ∨
    loadCredentials json process path (persisted json process path creds choices d).1 = .ok creds
  hidden : ∀ n, ¬ Exposed json creds (persisted json process path creds (choices.take n) d)

/-- The file, if opened, was written to its end and was for its owner alone to read already, and
until its bits are set the process may read what is there. -/
structure SafelyWritten (process : Process) (creds : PersistedCredentials) (d : Disk) (m : FileMoment) : Prop where
  whole : Saw Opened m.2 → Saw Landed m.2
  hidden : Saw Opened m.2 → ∀ secret, creds.nodeSecret = some secret → secret ≠ "" → Private (emptied process d.file).mode
  readable : Saw Opened m.2 ∨ d.file.isSome = true → Saw Closed m.2 ∨ process.may .read (emptied process d.file)

section Survival
variable {json : CredentialsJson} {process : Process} {path : FilePath} {d : Disk} {f : File} {m : FileMoment}
  {old creds read : PersistedCredentials}

theorem ShowsSecret.secret {bytes : Bytes} (shows_ : ShowsSecret json creds bytes) :
    ∃ secret, creds.nodeSecret = some secret ∧ secret ≠ "" := by
  obtain ⟨secret,_,_,part,there,_,solid,begins,_⟩ := shows_
  refine ⟨secret,there,?_⟩
  rintro rfl
  exact solid (List.prefix_nil.mp begins)

theorem text_shows {secret : String} (there : creds.nodeSecret = some secret) (solid : secret ≠ "") :
    ShowsSecret json creds (utf8 (json.toStringPretty creds)) := by
  obtain ⟨before,behind,laid⟩ := json.secret_quoted creds secret there
  refine ⟨secret,before,behind,(secret.toList.flatMap escapeChar).flatMap String.utf8EncodeChar,there,laid.symm,?_,
    List.prefix_rfl,?_⟩
  · have letters : secret.toList ≠ [] := fun none => solid (String.toList_injective none)
    obtain ⟨c,rest,split⟩ := List.exists_cons_of_ne_nil letters
    have escaped := escapeChar_solid c
    rw [split]
    intro none
    obtain ⟨e,more,same⟩ := List.exists_cons_of_ne_nil escaped
    rw [List.flatMap_cons,same] at none
    exact utf8EncodeChar_solid e (List.append_eq_nil_iff.mp none).1
  · rw [utf8_eq,← List.flatMap_append]
    have begins : before ++ ['"'] ++ secret.toList.flatMap escapeChar <+: (json.toStringPretty creds).toList := by
      refine ⟨'"'::behind,?_⟩
      rw [← laid]
      simp [quote]
    exact begins.flatMap _

theorem persisted_passes (choices : List FileChoice) :
    Persisting process d (utf8 (json.toStringPretty creds)) (persisted json process path creds choices d) :=
  ((persistCredentials_holds path creds).run choices).1

theorem Persisting.opened {text : Bytes} (persisting : Persisting process d text m) (changed : m.1.file ≠ d.file) :
    Saw Opened m.2 := by
  cases persisting.now with
  | untouched now => exact absurd now.file changed
  | torn k now => exact now.opened
  | whole now => exact now.opened
  | secured now => exact now.opened

theorem Persisting.landed {text : Bytes} (persisting : Persisting process d text m) (opened : Saw Opened m.2)
    (there : m.1.file = some f) (all : f.bytes = text) : Saw Landed m.2 := by
  cases persisting.now with
  | untouched now => exact absurd opened now.opened
  | torn k now =>
    have lengths := congrArg List.length all
    have short := now.short
    rw [now.disk] at there
    cases there
    rw [List.length_take] at lengths
    omega
  | whole now => exact now.landed
  | secured now => exact now.landed

theorem Whole.bits_private (whole : Whole f (utf8 (json.toStringPretty creds)) m) (hidden : ¬ Exposed json creds m) {secret : String}
    (there : creds.nodeSecret = some secret) (solid : secret ≠ "") : Private f.mode := by
  by_contra open_
  refine hidden ⟨whole.opened,{f with bytes := utf8 (json.toStringPretty creds)},?_,text_shows there solid,?_⟩
  · rw [whole.disk]
    rfl
  · exact othersRead_iff.mpr open_

theorem not_exposed (persisting : Persisting process d (utf8 (json.toStringPretty creds)) m)
    (private_ : Private (emptied process d.file).mode) : ¬ Exposed json creds m := by
  rintro ⟨opened,f,there,_,others⟩
  apply othersRead_iff.mp others
  cases persisting.now with
  | untouched now => exact absurd opened now.opened
  | torn k now =>
    rw [now.disk] at there
    cases there
    exact private_
  | whole now =>
    rw [now.disk] at there
    cases there
    exact private_
  | secured now =>
    rw [now.disk] at there
    cases there
    exact (owner_only (emptied process d.file)).1

theorem may_emptied (process : Process) {access : Host.Access} (there : d.file = some f) :
    process.may access (emptied process d.file) ↔ process.may access f := by
  rw [there]
  rfl

theorem Untouched.loads (now : Untouched d m) (prior : Prior json d old)
    (may : d.file.isSome = true → process.may .read (emptied process d.file)) :
    loadCredentials json process path m.1 = .ok old := by
  rw [load_same now.file]
  cases file : d.file with
  | none =>
    rw [Prior,file] at prior
    simp only [prior,loadCredentials,file]
  | some f =>
    rw [Prior,file] at prior
    rw [load_file file]
    exact ⟨(may_emptied process file).mp (may (by rw [file]; rfl)),prior⟩

theorem Untouched.may (now : Untouched d m) (loads : loadCredentials json process path m.1 = .ok read)
    (file : d.file.isSome = true) : process.may .read (emptied process d.file) := by
  obtain ⟨f,there⟩ := Option.isSome_iff_exists.mp file
  rw [load_same now.file,load_file there] at loads
  exact (may_emptied process there).mpr loads.1

theorem Torn.lost {k : Nat} (now : Torn f (utf8 (json.toStringPretty creds)) k m) :
    loadCredentials json process path m.1 ≠ .ok read := by
  rw [Ne,load_file (congrArg Disk.file now.disk)]
  exact fun told => torn_tells_nothing now.short told.2

theorem Whole.loads (now : Whole f (utf8 (json.toStringPretty creds)) m) (may : process.may .read f) :
    loadCredentials json process path m.1 = .ok creds :=
  (load_file (congrArg Disk.file now.disk)).mpr ⟨may,tells_text⟩

theorem Whole.may (now : Whole f (utf8 (json.toStringPretty creds)) m) (loads : loadCredentials json process path m.1 = .ok read) :
    process.may .read f :=
  ((load_file (congrArg Disk.file now.disk)).mp loads).1

theorem Secured.loads (now : Secured process f (utf8 (json.toStringPretty creds)) m) :
    loadCredentials json process path m.1 = .ok creds :=
  (load_file (congrArg Disk.file now.disk)).mpr ⟨(owner_only _).2 process now.may,tells_text⟩

theorem whole_before {choices : List FileChoice} (closed : Saw Closed (persisted json process path creds choices d).2) :
    ∃ n, Whole (emptied process d.file) (utf8 (json.toStringPretty creds)) (persisted json process path creds (choices.take n) d) := by
  obtain ⟨event,member,closed⟩ := closed
  obtain ⟨past,rest,log⟩ := List.append_of_mem member
  have within : past ++ [event] <+: (persisted json process path creds choices d).2 := ⟨rest,by rw [log]; simp⟩
  obtain ⟨n,reached⟩ := moment_of choices _ _ within (by simp)
  refine ⟨n,?_⟩
  rw [persisted,reached]
  exact (persisted_passes choices).past past event within closed

theorem SafelyWritten.of_survives {choices : List FileChoice} (survives : Survives json process path old creds choices d) :
    SafelyWritten process creds d (persisted json process path creds choices d) := by
  obtain ⟨loads,hidden⟩ := survives
  have last := hidden choices.length
  rw [List.take_length] at last
  cases (persisted_passes choices).now with
  | untouched now =>
    refine ⟨fun opened => absurd opened now.opened,fun opened => absurd opened now.opened,?_⟩
    rintro (opened | file)
    · exact absurd opened now.opened
    · exact .inr (loads.elim (fun old => now.may old file) (fun new => now.may new file))
  | torn k now => exact loads.elim (fun old => absurd old now.lost) (fun new => absurd new now.lost)
  | whole now =>
    exact ⟨fun _ => now.landed,fun _ _ there solid => now.bits_private last there solid,
      fun _ => .inr (loads.elim now.may now.may)⟩
  | secured now =>
    -- the file is for its owner alone by now, so what it was before the `chmod` decides
    obtain ⟨n,whole⟩ := whole_before now.closed
    exact ⟨fun _ => now.landed,fun _ _ there solid => whole.bits_private (hidden n) there solid,fun _ => .inl now.closed⟩

theorem SafelyWritten.survives {choices : List FileChoice} (prior : Prior json d old)
    (safely : SafelyWritten process creds d (persisted json process path creds choices d)) :
    Survives json process path old creds choices d := by
  obtain ⟨whole,hidden,readable⟩ := safely
  constructor
  · cases (persisted_passes choices).now with
    | untouched now => exact .inl (now.loads prior (fun file => (readable (.inr file)).resolve_left now.closed))
    | torn k now => exact absurd (whole now.opened) now.landed
    | whole now => exact .inr (now.loads ((readable (.inl now.opened)).resolve_left now.closed))
    | secured now => exact .inr now.loads
  · intro n exposed
    obtain ⟨secret,there,solid⟩ := exposed.2.elim fun _ seen => seen.2.1.secret
    have opened : Saw Opened (persisted json process path creds choices d).2 := by
      obtain ⟨event,member,held⟩ := exposed.1
      exact ⟨event,(log_grows choices _ _ n).subset member,held⟩
    exact not_exposed (persisted_passes (choices.take n)) (hidden opened secret there solid) exposed

/-- A crash or a failing call leaves the old or the new credentials to be loaded, and shows nothing
of the new secret on the way, exactly where the opened file is written to its end, was for its
owner alone already, and can be read by the process. -/
theorem credentials_survive_iff (prior : Prior json d old) (choices : List FileChoice) :
    Survives json process path old creds choices d ↔
      SafelyWritten process creds d (persisted json process path creds choices d) :=
  ⟨SafelyWritten.of_survives,SafelyWritten.survives prior⟩

end Survival

namespace Sample

def value : Option String → List Char
  | none => "null".toList
  | some text => quote text.toList

def beforeSecret (creds : PersistedCredentials) : List Char :=
  "\x7b\n  \"node_id\": ".toList ++ (value creds.nodeId ++ ",\n  \"node_secret\": ".toList)

def pretty (creds : PersistedCredentials) : List Char :=
  beforeSecret creds ++ (value creds.nodeSecret ++
    (",\n  \"registration_token\": ".toList ++ (value creds.registrationToken ++ "\n\x7d".toList)))

theorem value_free : PrefixFree value := by
  have texts := (escapeChar_free.closed ['"'] escapeChar_ne_quote).comp String.toList (fun _ _ => String.toList_injective)
  have code := texts.option "null".toList ['"'] (fun x y same => by simp at same)
  intro a b x y same
  apply code a b x y
  cases a <;> cases b <;> exact same

theorem pretty_free : PrefixFree pretty := by
  have code := ((value_free.trail ",\n  \"node_secret\": ".toList).lead "\x7b\n  \"node_id\": ".toList).pair
    (value_free.pair ((value_free.trail "\n\x7d".toList).lead ",\n  \"registration_token\": ".toList))
  intro a b x y same
  obtain ⟨fields,rest⟩ := code (a.nodeId,a.nodeSecret,a.registrationToken) (b.nodeId,b.nodeSecret,b.registrationToken)
    x y same
  simp only [Prod.mk.injEq] at fields
  obtain ⟨id,secret,token⟩ := fields
  cases a
  cases b
  simp_all

def prettyText (creds : PersistedCredentials) : String := String.ofList (pretty creds)

theorem prettyText_begins {creds other : PersistedCredentials} (begins : (prettyText other).toList <+: (prettyText creds).toList) :
    other = creds := by
  obtain ⟨rest,whole⟩ := begins
  rw [prettyText,prettyText,String.toList_ofList,String.toList_ofList] at whole
  exact (pretty_free other creds rest [] (by rw [whole,List.append_nil])).1

open Classical in
/-- A reader of exactly the texts that are written. -/
noncomputable def fromText (text : String) : Except String PersistedCredentials :=
  if found : ∃ creds, prettyText creds = text then .ok found.choose else .error "EOF while parsing an object"

theorem fromText_prettyText (creds : PersistedCredentials) : fromText (prettyText creds) = .ok creds := by
  have found : ∃ other, prettyText other = prettyText creds := ⟨creds,rfl⟩
  rw [fromText,dif_pos found]
  have begins : (prettyText found.choose).toList <+: (prettyText creds).toList := by rw [found.choose_spec]
  exact congrArg Except.ok (prettyText_begins begins)

noncomputable def credentialsText : CredentialsJson where
  toStringPretty := prettyText
  fromStr := fromText
  fromStr_toStringPretty := fromText_prettyText
  fromStr_prefix creds text begins shorter := by
    refine ⟨_,dif_neg ?_⟩
    rintro ⟨other,rfl⟩
    exact shorter (congrArg prettyText (prettyText_begins begins))
  secret_quoted creds secret there := by
    rw [prettyText,String.toList_ofList,pretty,there]
    exact List.infix_append' _ _ _

def gateway (umask : Host.Mode) : Process := ⟨1000,1000,[],umask⟩

def credentialsJson : FilePath := ⟨false,[],"credentials.json"⟩

def tokenOnly : PersistedCredentials := ⟨none,none,some "t0"⟩

def registered : PersistedCredentials := ⟨some "n1",some "s3cret",none⟩

def before : Disk := .held ⟨utf8 (prettyText tokenOnly),0o600#9,1000,1000⟩

def done : FileChoice := ⟨none,4096⟩

theorem prior : Prior credentialsText before tokenOnly := by
  have told : Tells credentialsText (utf8 (credentialsText.toStringPretty tokenOnly)) tokenOnly := tells_text
  exact told

theorem stopped_empty : (persisted credentialsText (gateway 0o077#9) credentialsJson registered [done] before).1 =
    .held ⟨[],0o600#9,1000,1000⟩ := rfl

theorem written_open : (persisted credentialsText (gateway 0o022#9) credentialsJson registered [done,done] .vacant).1 =
    .held ⟨utf8 (prettyText registered),0o644#9,1000,1000⟩ := by decide +kernel

theorem rewritten : (persisted credentialsText (gateway 0o077#9) credentialsJson registered [done,done,done] before).1 =
    .held ⟨utf8 (prettyText registered),0o600#9,1000,1000⟩ := by decide +kernel

end Sample

example : Sample.prettyText Sample.registered =
    "\x7b\n  \"node_id\": \"n1\",\n  \"node_secret\": \"s3cret\",\n  \"registration_token\": null\n\x7d" := by
  decide +kernel

/-- Stopped after the opening the file is empty and does not load; stopped before the `chmod`
a new file shows the secret to everyone under the usual umask. -/
theorem credentials_lost_or_shown :
    (Prior Sample.credentialsText Sample.before Sample.tokenOnly ∧ ¬ Survives Sample.credentialsText (Sample.gateway 0o077#9)
      Sample.credentialsJson Sample.tokenOnly Sample.registered [Sample.done] Sample.before) ∧
    (Prior Sample.credentialsText .vacant default ∧ ¬ Survives Sample.credentialsText (Sample.gateway 0o022#9)
      Sample.credentialsJson default Sample.registered [Sample.done,Sample.done] .vacant) := by
  refine ⟨⟨Sample.prior,?_⟩,rfl,?_⟩
  · rintro ⟨loads,_⟩
    have there := congrArg Disk.file Sample.stopped_empty
    have solid : 0 < (utf8 (Sample.credentialsText.toStringPretty Sample.registered)).length := List.length_pos_of_ne_nil (text_solid _)
    rw [load_file there,load_file there] at loads
    rcases loads with ⟨_,told⟩ | ⟨_,told⟩
    · exact torn_tells_nothing solid told
    · exact torn_tells_nothing solid told
  · rintro ⟨_,hidden⟩
    apply hidden 2
    have there := congrArg Disk.file Sample.written_open
    refine ⟨(persisted_passes _).opened ?_,_,there,text_shows rfl (by decide),othersRead_iff.mpr (by decide)⟩
    exact fun same => nomatch there.symm.trans same

/-- Under a umask that keeps everyone else out, a run to the end survives. -/
theorem sample_credentials_survive :
    Survives Sample.credentialsText (Sample.gateway 0o077#9) Sample.credentialsJson Sample.tokenOnly Sample.registered
      [Sample.done,Sample.done,Sample.done] Sample.before := by
  refine (credentials_survive_iff Sample.prior _).mpr ⟨fun opened => ?_,fun _ _ _ _ => by decide,fun _ => .inr (by decide)⟩
  exact (persisted_passes _).landed opened (congrArg Disk.file Sample.rewritten) rfl

end GatewaySdk.Client
