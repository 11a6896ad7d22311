import GatewaySdk.Effect.Amid
import GatewaySdk.Upgrade.Vigil

/-! What the threads of a vigil owe one another: a draft belongs to the thread that made it
until it is `state.json`, what is read of `state.json` stays as it was, and only the tick
changes its status. -/
namespace GatewaySdk.Upgrade
open GatewaySdk.Effect GatewaySdk.Host

/-- The install, the draft that is being written with its thread and inode, and all calls so
far. The tick is thread 0. -/
structure Shared where
  world : World
  draft : Option (Nat × Nat)
  log : Log

def draftAfter (pid i : Nat) (w w' : World) (draft : Option (Nat × Nat)) : Option (Nat × Nat) :=
  if w'.node (.stateTmp pid) = w.node (.stateTmp pid) then draft
  else match w'.node (.stateTmp pid) with
    | some (.file n) => some (i,n)
    | _ => none

/-- A call of thread `i` has been made. -/
def Shared.after (tar : TarCrate) (pid i : Nat) (operation : Call) (choice : Choice) (σ : Shared) (w' : World) : Shared :=
  ⟨w',draftAfter pid i σ.world w' σ.draft,σ.log ++ [(machine tar).event operation choice σ.world]⟩

def shared (tar : TarCrate) (pid i : Nat) : Machine Sig Choice Shared where
  exec operation choice σ := (((machine tar).exec operation choice σ.world).1,
    σ.after tar pid i operation choice ((machine tar).exec operation choice σ.world).2)

/-- Nobody is writing this inode. -/
def Shared.Settled (σ : Shared) (n : Nat) : Prop := ∀ i, σ.draft ≠ some (i,n)

/-- The first state, but for its status and its health. -/
def Descends (origin : Option InstallState) (s : InstallState) : Prop :=
  ∃ first, origin = some first ∧ s = {first with status := s.status,lastHealthAt := s.lastHealthAt}

section Descends
variable {origin : Option InstallState} {s t : InstallState}

theorem Descends.sameVersion (first : Descends origin s) (second : Descends origin t) :
    s.currentVersion = t.currentVersion := by
  obtain ⟨a,found,same⟩ := first
  obtain ⟨b,found',same'⟩ := second
  obtain rfl := Option.some.inj (found.symm.trans found')
  rw [same,same']

theorem Descends.withStatus (descends : Descends origin s) (status : UpgradeStatus) : Descends origin {s with status} := by
  obtain ⟨first,found,same⟩ := descends
  refine ⟨first,found,?_⟩
  rw [same]

theorem Descends.withHealth (descends : Descends origin s) (lastHealthAt : Option Int) :
    Descends origin {s with lastHealthAt} := by
  obtain ⟨first,found,same⟩ := descends
  refine ⟨first,found,?_⟩
  rw [same]

end Descends

section Relations
variable (tar : TarCrate) (serde : Serde) (pid : Nat) (origin : Option InstallState)

/-- What holds of the install between any two calls. -/
structure Sane (σ : Shared) : Prop where
  draft : ∀ i n, σ.draft = some (i,n) →
    σ.world.node (.stateTmp pid) = some (.file n) ∧ σ.world.node .stateJson ≠ some (.file n)
  known : ∀ s, readState serde σ.world = some s → Descends origin s
  told : ToldOnce tar serde σ.log
  settled : completions σ.log ≠ [] → ∃ s, readState serde σ.world = some s ∧ s.status = .stable

/-- What stays as it is beside thread `i`'s draft. -/
structure Around (i : Nat) (σ σ' : Shared) : Prop where
  sane : Sane tar serde pid origin σ'
  fresh : σ.world.fresh ≤ σ'.world.fresh
  data : ∀ n < σ.world.fresh, σ.Settled n → σ'.world.data n = σ.world.data n ∧ σ'.Settled n
  read : ∀ s, readState serde σ.world = some s → ∃ s', readState serde σ'.world = some s' ∧ (i = 0 → s'.status = s.status)
  log : σ.log <+: σ'.log
  quiet : i = 0 → completions σ'.log = completions σ.log

/-- What thread `i` relies on: its draft stays as well. -/
structure Relies (i : Nat) (σ σ' : Shared) : Prop extends Around tar serde pid origin i σ σ' where
  own : ∀ n, σ.draft = some (i,n) → σ'.draft = some (i,n) ∧ σ'.world.data n = σ.world.data n

/-- What a call of thread `i` leaves to the others. -/
structure Grants (i : Nat) (σ σ' : Shared) : Prop where
  sane : Sane tar serde pid origin σ'
  fresh : σ.world.fresh ≤ σ'.world.fresh
  data : ∀ n < σ.world.fresh, σ.draft ≠ some (i,n) → σ'.world.data n = σ.world.data n
  settled : ∀ n < σ.world.fresh, σ.Settled n → σ'.Settled n
  other : ∀ j n, j ≠ i → σ.draft = some (j,n) → σ'.draft = some (j,n)
  read : ∀ s, readState serde σ.world = some s → ∃ s', readState serde σ'.world = some s' ∧ (i ≠ 0 → s'.status = s.status)
  log : σ.log <+: σ'.log
  quiet : i ≠ 0 → completions σ'.log = completions σ.log

/-- A call of thread `i` that announces nothing and changes nothing of what is read. -/
structure Unread (i : Nat) (σ σ' : Shared) : Prop where
  draft : ∀ j n, σ'.draft = some (j,n) →
    σ'.world.node (.stateTmp pid) = some (.file n) ∧ σ'.world.node .stateJson ≠ some (.file n)
  read : readState serde σ'.world = readState serde σ.world
  fresh : σ.world.fresh ≤ σ'.world.fresh
  data : ∀ n < σ.world.fresh, σ.draft ≠ some (i,n) → σ'.world.data n = σ.world.data n
  settled : ∀ n < σ.world.fresh, σ.Settled n → σ'.Settled n
  other : ∀ j n, j ≠ i → σ.draft = some (j,n) → σ'.draft = some (j,n)
  log : ∃ event, σ'.log = σ.log ++ [event] ∧ completionOf event = none

def rely (i : Nat) (σ σ' : Shared) : Prop := Sane tar serde pid origin σ → Relies tar serde pid origin i σ σ'

def guar (i : Nat) (σ σ' : Shared) : Prop := Sane tar serde pid origin σ → Grants tar serde pid origin i σ σ'

variable {tar} {serde} {pid} {origin} {i j : Nat} {σ σ' σ'' : Shared}

theorem Sane.draft_old (sane : Sane tar serde pid origin σ) {n : Nat} (owned : σ.draft = some (i,n)) :
    n < σ.world.fresh := exists_of_file (sane.draft i n owned).1

theorem rely_refl (i : Nat) (σ : Shared) : rely tar serde pid origin i σ σ :=
  fun sane => ⟨⟨sane,Nat.le_refl _,fun _ _ free => ⟨rfl,free⟩,fun s read => ⟨s,read,fun _ => rfl⟩,List.prefix_rfl,
    fun _ => rfl⟩,fun _ own => ⟨own,rfl⟩⟩

theorem Relies.trans (first : Relies tar serde pid origin i σ σ') (second : Relies tar serde pid origin i σ' σ'') :
    Relies tar serde pid origin i σ σ'' where
  sane := second.sane
  fresh := Nat.le_trans first.fresh second.fresh
  data n old free := by
    have before := first.data n old free
    have after := second.data n (Nat.lt_of_lt_of_le old first.fresh) before.2
    exact ⟨after.1.trans before.1,after.2⟩
  own n owned := by
    have before := first.own n owned
    have after := second.own n before.1
    exact ⟨after.1,after.2.trans before.2⟩
  read s read := by
    obtain ⟨t,found,same⟩ := first.read s read
    obtain ⟨u,found',same'⟩ := second.read t found
    exact ⟨u,found',fun tick => (same' tick).trans (same tick)⟩
  log := first.log.trans second.log
  quiet tick := (second.quiet tick).trans (first.quiet tick)

theorem rely_trans (i : Nat) (σ σ' σ'' : Shared) (first : rely tar serde pid origin i σ σ')
    (second : rely tar serde pid origin i σ' σ'') : rely tar serde pid origin i σ σ'' :=
  fun sane => (first sane).trans (second (first sane).sane)

/-- What one thread grants is what another relies on. -/
theorem Grants.relies (grants : Grants tar serde pid origin i σ σ') (sane : Sane tar serde pid origin σ) (apart : i ≠ j) :
    Relies tar serde pid origin j σ σ' where
  sane := grants.sane
  fresh := grants.fresh
  data n old free := ⟨grants.data n old (free i),grants.settled n old free⟩
  own n owned := by
    have other : σ.draft ≠ some (i,n) := by simp [owned,apart.symm]
    exact ⟨grants.other j n apart.symm owned,grants.data n (sane.draft_old owned) other⟩
  read s read := by
    obtain ⟨t,found,same⟩ := grants.read s read
    exact ⟨t,found,fun tick => same (tick ▸ apart)⟩
  log := grants.log
  quiet tick := grants.quiet (tick ▸ apart)

theorem completions_snoc (log : Log) (event : Event Sig Choice World) :
    completions (log ++ [event]) = completions log ++ (completionOf event).toList := by
  unfold completions
  rw [List.filterMap_append]
  cases told : completionOf event <;> simp [told]

def sends : Call → Bool
  | .trySend _ => true
  | _ => false

theorem completionOf_mute {operation : Call} {choice : Choice} {w : World} (mute : sends operation = false) :
    completionOf ((machine tar).event operation choice w) = none := by
  unfold completionOf
  split
  next told same =>
    have announced : sends operation = true := congrArg sends same
    rw [mute] at announced
    cases announced
  · rfl

theorem ToldOnce.mute {log : Log} {event : Event Sig Choice World} (told : ToldOnce tar serde log)
    (mute : completionOf event = none) : ToldOnce tar serde (log ++ [event]) where
  truthful := by
    refine along_snoc.mpr ⟨told.truthful,fun e same => ?_⟩
    rw [mute] at same
    cases same
  once := by
    rw [completions_snoc,mute]
    simpa using told.once

theorem Unread.completions (unread : Unread serde pid i σ σ') : completions σ'.log = completions σ.log := by
  obtain ⟨event,log,mute⟩ := unread.log
  rw [log,completions_snoc,mute,Option.toList_none,List.append_nil]

theorem Unread.longer (unread : Unread serde pid i σ σ') : σ.log <+: σ'.log := by
  obtain ⟨event,log,_⟩ := unread.log
  rw [log]
  exact List.prefix_append _ _

theorem Unread.sane (unread : Unread serde pid i σ σ') (sane : Sane tar serde pid origin σ) :
    Sane tar serde pid origin σ' where
  draft := unread.draft
  known s read := sane.known s (unread.read ▸ read)
  told := by
    obtain ⟨event,log,mute⟩ := unread.log
    rw [log]
    exact sane.told.mute mute
  settled told := by
    rw [unread.read]
    exact sane.settled (unread.completions ▸ told)

theorem Unread.grants (unread : Unread serde pid i σ σ') (sane : Sane tar serde pid origin σ) :
    Grants tar serde pid origin i σ σ' where
  sane := unread.sane sane
  fresh := unread.fresh
  data := unread.data
  settled := unread.settled
  other := unread.other
  read s read := ⟨s,unread.read.trans read,fun _ => rfl⟩
  log := unread.longer
  quiet _ := unread.completions

theorem Unread.around (unread : Unread serde pid i σ σ') (sane : Sane tar serde pid origin σ) :
    Around tar serde pid origin i σ σ' where
  sane := unread.sane sane
  fresh := unread.fresh
  data n old free := ⟨unread.data n old (free i),unread.settled n old free⟩
  read s read := ⟨s,unread.read.trans read,fun _ => rfl⟩
  log := unread.longer
  quiet _ := unread.completions

theorem draftAfter_same {w w' : World} (same : w'.node (.stateTmp pid) = w.node (.stateTmp pid))
    (draft : Option (Nat × Nat)) : draftAfter pid i w w' draft = draft := if_pos same

/-- A call that makes no draft and replaces none, and whose effect on the files is told. -/
theorem unread_of (i : Nat) (operation : Call) (choice : Choice) (w' : World) (sane : Sane tar serde pid origin σ)
    (mute : sends operation = false) (tmp : w'.node (.stateTmp pid) = σ.world.node (.stateTmp pid))
    (cell : ∀ n < σ.world.fresh, w'.node .stateJson = some (.file n) → σ.world.node .stateJson = some (.file n))
    (read : readState serde w' = readState serde σ.world) (fresh : σ.world.fresh ≤ w'.fresh)
    (data : ∀ n < σ.world.fresh, σ.draft ≠ some (i,n) → w'.data n = σ.world.data n) :
    Unread serde pid i σ (σ.after tar pid i operation choice w') ∧
      (σ.after tar pid i operation choice w').draft = σ.draft := by
  have draft : (σ.after tar pid i operation choice w').draft = σ.draft := draftAfter_same tmp σ.draft
  refine ⟨⟨fun j n owned => ?_,read,fresh,data,fun n _ free j owned => free j (draft ▸ owned),
    fun j n _ owned => draft.trans owned,⟨_,rfl,completionOf_mute mute⟩⟩,draft⟩
  rw [draft] at owned
  have before := sane.draft j n owned
  exact ⟨tmp.trans before.1,fun same => before.2 (cell n (exists_of_file before.1) same)⟩

theorem framed_grants (i : Nat) (operation : Call) (choice : Choice) {w' : World} (sane : Sane tar serde pid origin σ)
    (mute : sends operation = false) (framed : Framed (fun _ => False) σ.world w') :
    Grants tar serde pid origin i σ (σ.after tar pid i operation choice w') ∧
      Relies tar serde pid origin i σ (σ.after tar pid i operation choice w') := by
  have node (place : Loc) : w'.node place = σ.world.node place := framed.node place id
  obtain ⟨unread,draft⟩ := unread_of i operation choice w' sane mute (node _) (fun n _ found => node _ ▸ found)
    (readState_same (node _) framed.data) framed.fresh fun n old _ => framed.data n old
  exact ⟨unread.grants sane,unread.around sane,fun n owned => ⟨draft.trans owned,framed.data n (sane.draft_old owned)⟩⟩

end Relations
end GatewaySdk.Upgrade
