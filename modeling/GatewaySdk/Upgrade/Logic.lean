import GatewaySdk.Host.Rules
import GatewaySdk.Upgrade.State

/-! Rules for the programs of the upgrade code on the recording host machine: what a
log says was done, predicates that the calls on some places keep, and one rule for
each way the code wraps a call. -/
namespace GatewaySdk.Upgrade
open GatewaySdk.Effect GatewaySdk.Host

abbrev Log := Trace Sig Choice World

/-- A moment of a run: the world and the calls answered so far. -/
abbrev Moment := World × Log

def succeeded : (operation : Call) → Reply operation → Bool
  | .pathExists _,reply | .isDir _,reply | .isFileIn _ _,reply | .isDirIn _ _,reply => reply
  | .now,_ => true
  | .readLink _,reply => reply.isOk
  | .readVersions,reply | .readDirIn _,reply => reply.isOk
  | .modified _,reply => reply.isOk
  | .openFile _ _,reply => reply.isOk
  | .readToString _,reply => reply.isOk
  | .createDirAll _,reply | .createDir _,reply | .removeDirAll _,reply | .removeFile _,reply
  | .symlink _ _,reply | .rename _ _,reply | .syncDir _,reply | .unpack _ _ _,reply
  | .metadataIn _ _,reply | .setModeIn _ _ _,reply | .renameIn _ _ _,reply
  | .lockShared _,reply | .lockExclusive _,reply | .unlock _,reply | .close _,reply
  | .writeAll _ _,reply | .setLenZero _,reply | .seekStart _,reply | .flush _,reply
  | .syncAll _,reply | .trySend _,reply => Except.isOk (show Except IoError Unit from reply)

/-- The call was made and succeeded. -/
def Done (operation : Call) : Log → Prop :=
  Saw (fun event => event.operation = operation ∧ succeeded event.operation event.reply = true)

theorem not_done_nil (operation : Call) : ¬ Done operation [] := not_saw_nil _

theorem done_snoc {operation other : Call} {log : Log} {w : World} {choice : Choice} {reply : Reply other} :
    Done operation (log ++ [⟨w,other,choice,reply⟩]) ↔
      Done operation log ∨ other = operation ∧ succeeded other reply = true :=
  saw_snoc

theorem not_done_other {operation other : Call} {log : Log} {w : World} {choice : Choice} {reply : Reply other}
    (absent : ¬ Done operation log) (apart : other ≠ operation) :
    ¬ Done operation (log ++ [⟨w,other,choice,reply⟩]) := by
  rw [done_snoc]
  rintro (before | ⟨same,_⟩)
  · exact absent before
  · exact apart same

theorem not_done_failed {operation other : Call} {log : Log} {w : World} {choice : Choice} {reply : Reply other}
    (absent : ¬ Done operation log) (failed : succeeded other reply = false) :
    ¬ Done operation (log ++ [⟨w,other,choice,reply⟩]) := by
  rw [done_snoc]
  rintro (before | ⟨_,done⟩)
  · exact absent before
  · rw [failed] at done
    cases done

variable {tar : TarCrate} {ε δ α β : Type} {during : Moment → Prop} {allowed : Call → Prop}

theorem Stable.world {places : Loc → Prop} {P : World → Prop}
    (local_ : ∀ w w', Framed places w w' → P w → P w') :
    Stable (machine tar) (Within places) (fun m => P m.1) :=
  fun _ _ m within held => local_ m.1 _ (exec_framed within) held

theorem Stable.node {places : Loc → Prop} (place : Loc) (out : ¬ places place) (found : Option Node) :
    Stable (machine tar) (Within places) (fun m => m.1.node place = found) :=
  fun _ _ _ within held => ((exec_framed within).node place out).trans held

theorem Stable.entry (place : Loc) (P : Option Node → Prop) :
    Stable (machine tar) (Apart place) (fun m => P (m.1.node place)) := by
  intro operation choice m apart held
  have same := (@exec_effect tar choice m.1 operation).node apart
  exact same ▸ held

theorem Stable.not_done {operation : Call} (out : ¬ allowed operation) :
    Stable (machine tar) allowed (fun m => ¬ Done operation m.2) :=
  Stable.not_saw fun _ ok done => out (done.1 ▸ ok)

theorem Stable.done (operation : Call) : Stable (machine tar) allowed (fun m => Done operation m.2) :=
  Stable.saw _

namespace Run

theorem ofExcept {outcome : Except ε α} {post : Except ε α → Moment → Prop} {m : Moment} (now : during m)
    (ends : post outcome m) : Holds (machine tar).record during post (Program.ofExcept outcome) m := by
  cases outcome with
  | ok value => exact ⟨now,ends⟩
  | error error => exact ⟨now,ends⟩

theorem bindExcept {outcome : Except ε α} {rest : α → Prog ε β} {post : Except ε β → Moment → Prop} {m : Moment}
    (now : during m) (value : ∀ a, outcome = .ok a → Holds (machine tar).record during post (rest a) m)
    (error : ∀ e, outcome = .error e → post (.error e) m) :
    Holds (machine tar).record during post ((Program.ofExcept outcome).bind rest) m := by
  cases outcome with
  | ok a => exact value a rfl
  | error e => exact ⟨now,error e rfl⟩

/-- One system call: what it may answer, and what then holds. -/
theorem sys {operation : Call} {reply : Reply operation → Except IoError α}
    {post : Except IoError α → Moment → Prop} {m : Moment} (now : during m)
    (rest : ∀ choice answer w', (machine tar).exec operation choice m.1 = (answer,w') →
      during (w',m.2 ++ [⟨m.1,operation,choice,answer⟩]) ∧
        post (reply answer) (w',m.2 ++ [⟨m.1,operation,choice,answer⟩])) :
    Holds (machine tar).record during post (Upgrade.sys operation reply) m := by
  refine ⟨now,fun choice => ?_⟩
  obtain ⟨holds,ends⟩ := rest choice _ _ rfl
  exact ofExcept holds ends

theorem kept {P : Moment → Prop} {operation : Call} {reply : Reply operation → Except IoError α} {m : Moment}
    (ok : allowed operation) (stable : Stable (machine tar) allowed P) (now : P m) :
    Holds (machine tar).record P (fun _ => P) (Upgrade.sys operation reply) m := by
  refine ⟨now,fun choice => ?_⟩
  have after := stable operation choice m ok now
  exact ofExcept after after

theorem request {operation : Call} {post : Except ε (Reply operation) → Moment → Prop} {m : Moment}
    (now : during m)
    (rest : ∀ choice answer w', (machine tar).exec operation choice m.1 = (answer,w') →
      during (w',m.2 ++ [⟨m.1,operation,choice,answer⟩]) ∧
        post (.ok answer) (w',m.2 ++ [⟨m.1,operation,choice,answer⟩])) :
    Holds (machine tar).record during post (@Program.request Sig ε operation) m :=
  ⟨now,fun choice => rest choice _ _ rfl⟩

theorem context {message : String} {program : Prog IoError α} {post : Except Error α → Moment → Prop}
    {m : Moment} (holds : Holds (machine tar).record during
      (fun outcome m => post (outcome.mapError (fun _ => message)) m) program m) :
    Holds (machine tar).record during post (Upgrade.context message program) m :=
  holds.mapError

theorem bare {program : Prog IoError α} {post : Except Error α → Moment → Prop}
    {m : Moment} (holds : Holds (machine tar).record during
      (fun outcome m => post (outcome.mapError IoError.text) m) program m) :
    Holds (machine tar).record during post (Upgrade.bare program) m :=
  holds.mapError

theorem ignore {program : Prog ε α} {post : Except δ Unit → Moment → Prop} {m : Moment}
    (holds : Holds (machine tar).record during (fun _ m => post (.ok ()) m) program m) :
    Holds (machine tar).record during post (Upgrade.ignore program) m := by
  apply Holds.bind (fun outcome m => (∃ r, outcome = .ok r) ∧ post (.ok ()) m)
  · apply Holds.attempt
    exact holds.mono (fun _ now => now) (fun outcome _ _ ends => ⟨⟨outcome,rfl⟩,ends⟩)
  · intro outcome s now ends
    exact ⟨now,ends.2⟩
  · intro error s now ends
    obtain ⟨⟨outcome,same⟩,_⟩ := ends
    cases same

/-- An ignored program whose calls keep what holds: it ends well and keeps it. -/
theorem ignored {P : Moment → Prop} {program : Prog ε α} {m : Moment} (uses : Uses allowed program)
    (stable : Stable (machine tar) allowed P) (now : P m) :
    Holds (machine tar).record P (fun outcome m => outcome = .ok () ∧ P m) (Upgrade.ignore program : Prog δ Unit) m :=
  ignore ((uses.stable stable now).mono (fun _ held => held) (fun _ _ _ held => ⟨rfl,held⟩))

theorem closing {file : Handle} {body : Prog Error α} {post : Except Error α → Moment → Prop}
    {m : Moment} (close : allowed (.close file)) (stable : Stable (machine tar) allowed during)
    (ends : ∀ outcome, Stable (machine tar) allowed (post outcome))
    (holds : Holds (machine tar).record during post body m) :
    Holds (machine tar).record during post (Upgrade.closing file body) m := by
  apply Holds.bind (fun outcome m => ∃ r, outcome = .ok r ∧ post r m)
  · apply Holds.attempt
    exact holds.mono (fun _ now => now) (fun outcome _ _ ended => ⟨outcome,rfl,ended⟩)
  · rintro outcome s now ⟨r,same,ended⟩
    cases same
    apply Holds.bind (fun closed m => closed = .ok () ∧ post outcome m)
    · apply ignore
      refine sys now (fun choice answer w' answered => ?_)
      have kept := (stable.and (ends outcome)) (.close file) choice s close ⟨now,ended⟩
      have same : (machine tar).record.exec (.close file) choice s =
          (answer,(w',s.2 ++ [⟨s.1,.close file,choice,answer⟩])) := by
        simp [Machine.record,Machine.event,answered]
      rw [same] at kept
      exact ⟨kept.1,rfl,kept.2⟩
    · rintro _ s' now' ⟨_,ended'⟩
      exact ofExcept now' ended'
    · rintro error s' now' ⟨same,_⟩
      cases same
  · rintro error s now ⟨r,same,_⟩
    cases same

end Run

namespace Calls

theorem sys {operation : Call} {reply : Reply operation → Except IoError α} (ok : allowed operation) :
    Uses allowed (Upgrade.sys operation reply) :=
  ⟨ok,fun answer => Uses.ofExcept (reply answer)⟩

theorem request {operation : Call} (ok : allowed operation) :
    Uses allowed (@Program.request Sig ε operation) :=
  ⟨ok,fun _ => trivial⟩

theorem context {message : String} {program : Prog IoError α} (uses : Uses allowed program) :
    Uses allowed (Upgrade.context message program) := uses.mapError

theorem bare {program : Prog IoError α} (uses : Uses allowed program) :
    Uses allowed (Upgrade.bare program) := uses.mapError

theorem ignore {program : Prog ε α} (uses : Uses allowed program) :
    Uses allowed (Upgrade.ignore program : Prog δ Unit) :=
  uses.attempt.bind (fun _ => trivial)

theorem closing {file : Handle} {body : Prog Error α} (close : allowed (.close file))
    (uses : Uses allowed body) : Uses allowed (Upgrade.closing file body) :=
  uses.attempt.bind fun outcome => (ignore (sys close)).bind fun _ => Uses.ofExcept outcome

end Calls
end GatewaySdk.Upgrade
