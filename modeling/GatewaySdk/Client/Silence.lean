import GatewaySdk.Client.ReadManager

/-! The silence that the reader reports is the manager's: it was waiting for a frame all the
while, and none was there. -/
namespace GatewaySdk.Client

variable {κ ε : Type} {feed : Feed κ ε} {σ τ : ReadManager κ ε}

theorem Feed.run_append (feed : Feed κ ε) (σ : ReadManager κ ε) (early late : List ReadMove) :
    feed.run σ (early ++ late) = (feed.run σ early).bind fun μ => feed.run μ late := List.foldlM_append

theorem onItem_stamped {item : WsItem κ ε} (reading : (σ.onItem feed.capacity item).place = .reading) :
    (σ.onItem feed.capacity item).cadence.lastFrame = (σ.onItem feed.capacity item).now := by
  cases item with
  | ping data =>
    unfold ReadManager.onItem
    dsimp only
    split <;> rfl
  | binary | pongOrFrame => rfl
  | text text | close frame | error e | ended => cases reading

/-- While the reader waits for a frame, a move either leaves it waiting for the same one or
has just stamped one. -/
theorem move_waits {next : ReadMove} (moved : feed.move σ next = some τ) (reading : τ.place = .reading) :
    σ.place = .reading ∧ τ.read = σ.read ∧ τ.cadence = σ.cadence ∧ σ.now ≤ τ.now ∨
      τ.cadence.lastFrame = τ.now := by
  cases (Feed.move_cases moved).1 with
  | wait now later => exact .inl ⟨reading,rfl,rfl,later⟩
  | takes | routes => exact .inl ⟨reading,rfl,rfl,Nat.le_refl _⟩
  | polls polled =>
    cases polled with
    | reads here there => exact .inr (onItem_stamped reading)
    | alive here => exact .inl ⟨here,rfl,rfl,Nat.le_refl _⟩
    | silent | granted => cases reading
    | sent item =>
      cases item with
      | text text => exact .inr rfl
      | ping data | closed frame | failed e | ended => cases reading

/-- Since the last stamp the reader has been waiting for the frame that it still waits for. -/
def Listening (feed : Feed κ ε) (σ₀ : ReadManager κ ε) (moves : List ReadMove) (σ : ReadManager κ ε) : Prop :=
  ∃ early late μ, moves = early ++ late ∧ feed.run σ₀ early = some μ ∧ μ.now = σ.cadence.lastFrame ∧
    ∀ between rest, late = between ++ rest →
      ∃ ν, feed.run μ between = some ν ∧ ν.place = .reading ∧ ν.read = σ.read ∧ ν.now ≤ σ.now

theorem Listening.fresh {σ₀ : ReadManager κ ε} {moves : List ReadMove} (ran : feed.run σ₀ moves = some σ)
    (reading : σ.place = .reading) (stamped : σ.cadence.lastFrame = σ.now) : Listening feed σ₀ moves σ := by
  refine ⟨moves,[],σ,(List.append_nil moves).symm,ran,stamped.symm,fun between rest same => ?_⟩
  obtain ⟨rfl,_⟩ := List.append_eq_nil_iff.mp same.symm
  exact ⟨σ,rfl,reading,rfl,Nat.le_refl _⟩

theorem Listening.more {σ₀ : ReadManager κ ε} {moves : List ReadMove} {next : ReadMove} (listening : Listening feed σ₀ moves σ)
    (ran : feed.run σ₀ moves = some σ) (moved : feed.move σ next = some τ) (reading : τ.place = .reading)
    (read : τ.read = σ.read) (cadence : τ.cadence = σ.cadence) (later : σ.now ≤ τ.now) :
    Listening feed σ₀ (moves ++ [next]) τ := by
  obtain ⟨early,late,μ,rfl,reached,stamp,waits⟩ := listening
  have rest : feed.run μ late = some σ := by
    rw [feed.run_append,reached,Option.bind_some] at ran
    exact ran
  refine ⟨early,late ++ [next],μ,List.append_assoc _ _ _,reached,cadence ▸ stamp,fun between rest' same => ?_⟩
  rcases List.eq_nil_or_concat rest' with rfl | ⟨init,last,rfl⟩
  · rw [List.append_nil] at same
    refine ⟨τ,?_,reading,rfl,Nat.le_refl _⟩
    rw [← same,feed.run_append,rest,Option.bind_some]
    exact Option.bind_eq_some_iff.mpr ⟨τ,moved,rfl⟩
  · rw [List.concat_eq_append,← List.append_assoc] at same
    obtain ⟨ν,found,place,same,early⟩ := waits between init (List.append_inj_left' same rfl)
    exact ⟨ν,found,place,same.trans read.symm,Nat.le_trans early later⟩

/-- Wherever the reader waits for a frame it has been listening since the last stamp. -/
theorem run_listening {σ₀ : ReadManager κ ε} {moves : List ReadMove} (start : σ₀.cadence.lastFrame = σ₀.now)
    (ran : feed.run σ₀ moves = some σ) (reading : σ.place = .reading) : Listening feed σ₀ moves σ := by
  induction moves using List.reverseRecOn generalizing σ with
  | nil =>
    obtain rfl := Option.some.inj ran
    exact .fresh rfl reading start
  | append_singleton moves next ih =>
    have whole := ran
    rw [feed.run_append] at ran
    obtain ⟨mid,before,last⟩ := Option.bind_eq_some_iff.mp ran
    obtain ⟨τ,moved,same⟩ := Option.bind_eq_some_iff.mp last
    obtain rfl := Option.some.inj same
    rcases move_waits moved reading with ⟨waiting,read,cadence,later⟩ | stamped
    · exact (ih before waiting).more before moved reading read cadence later
    · exact .fresh whole reading stamped

/-- A gap is learned from a ping that was read. -/
def Taught (feed : Feed κ ε) (σ : ReadManager κ ε) : Prop :=
  σ.cadence.gaps ≠ [] → ∃ n < σ.read, ∃ data, feed.items n = .ping data

theorem Taught.older (taught : Taught feed σ) (gaps : σ.cadence.gaps ≠ []) :
    ∃ n < σ.read+1, ∃ data, feed.items n = .ping data := by
  obtain ⟨n,early,ping⟩ := taught gaps
  exact ⟨n,Nat.lt_succ_of_lt early,ping⟩

theorem Taught.onItem (taught : Taught feed σ) : Taught feed (σ.onItem feed.capacity (feed.items σ.read)) := by
  cases here : feed.items σ.read with
  | ping data =>
    have now : ∃ n < σ.read+1, ∃ data, feed.items n = .ping data := ⟨σ.read,Nat.lt_succ_self _,data,here⟩
    unfold ReadManager.onItem
    dsimp only
    split
    · exact fun _ => now
    · exact fun _ => now
  | binary | pongOrFrame | text text | close frame | error e | ended => exact taught.older

theorem Taught.same (taught : Taught feed σ) (gaps : τ.cadence.gaps = σ.cadence.gaps) (read : τ.read = σ.read) :
    Taught feed τ := by
  unfold Taught
  rw [gaps,read]
  exact taught

theorem Taught.move {next : ReadMove} (taught : Taught feed σ) (moved : feed.move σ next = some τ) : Taught feed τ := by
  cases (Feed.move_cases moved).1 with
  | wait | takes | routes => exact taught.same rfl rfl
  | polls polled =>
    cases polled with
    | reads reading there => exact taught.onItem
    | alive | silent | granted => exact taught.same rfl rfl
    | sent item => cases item <;> exact taught.same rfl rfl

theorem Taught.run {moves : List ReadMove} (taught : Taught feed σ) (ran : feed.run σ moves = some τ) : Taught feed τ :=
  Feed.run_keeps Taught.move taught ran

/-- The reader returns from a check that finds no frame there, and what it reports is measured
from the last stamp. -/
theorem move_silent {next : ReadMove} {silent limit : Nat} (moved : feed.move σ next = some τ)
    (reported : τ.place = .silent silent limit) : σ.place = .reading ∧ σ.now < feed.arrival σ.read ∧
      τ = {σ with place := .silent silent limit} ∧ σ.cadence.deadFor σ.now = some (silent,limit) := by
  obtain ⟨moved,running⟩ := Feed.move_cases moved
  cases moved with
  | wait | takes | routes => exact absurd reported (running silent limit)
  | polls polled =>
    cases polled with
    | reads reading there =>
      unfold ReadManager.onItem at reported
      split at reported
      · dsimp only at reported
        split at reported <;> exact absurd reported (running silent limit)
      all_goals first | cases reported | exact absurd reported (running silent limit)
    | alive => exact absurd reported (running silent limit)
    | silent silent limit reading none dead =>
      cases reported
      exact ⟨reading,none,rfl,dead⟩
    | granted => cases reported
    | sent item => cases item <;> cases reported

/-- What is true of a session whose reader has reported this silence. -/
structure RealSilence (feed : Feed κ ε) (budget started : Nat) (moves : List ReadMove) (σ : ReadManager κ ε)
    (silent limit : Nat) : Prop where
  pinged : ∃ n < σ.read, ∃ data, feed.items n = .ping data
  past : limit < silent
  floor : silenceFloor ≤ limit
  waited : ∃ early late μ, moves = early ++ late ∧ feed.run (.start budget started) early = some μ ∧
    μ.now+silent = σ.now ∧ ∀ between rest, late = between ++ rest → rest ≠ [] →
      ∃ ν, feed.run μ between = some ν ∧ ν.place = .reading ∧ ν.read = σ.read ∧ ν.now ≤ σ.now
  nothing : σ.now < feed.arrival σ.read

theorem deadFor_eq {c : InboundCadence} {now silent limit : Nat} (dead : c.deadFor now = some (silent,limit)) :
    c.gaps ≠ [] ∧ silenceFloor ≤ limit ∧ limit < silent ∧ silent = now-c.lastFrame := by
  obtain ⟨least,found,reported⟩ := Option.bind_eq_some_iff.mp dead
  obtain ⟨median,among,rfl⟩ := Option.map_eq_some_iff.mp found
  dsimp only at reported
  split at reported
  next past =>
    cases reported
    refine ⟨?_,Nat.le_max_left _ _,past,rfl⟩
    intro none
    simp [none] at among
  · cases reported

/-- Whatever the stream and however long the loop holds the reader up: a silence that the
reader reports is one in which it waited for a frame and none was there. -/
theorem silence_is_real (feed : Feed κ ε) (budget started : Nat) (moves : List ReadMove) (σ : ReadManager κ ε)
    (silent limit : Nat) (ran : feed.run (.start budget started) moves = some σ) (reported : σ.place = .silent silent limit) :
    RealSilence feed budget started moves σ silent limit := by
  rcases List.eq_nil_or_concat moves with rfl | ⟨before,next,rfl⟩
  · obtain rfl := Option.some.inj ran
    cases reported
  · rw [List.concat_eq_append] at ran ⊢
    have whole := ran
    rw [feed.run_append] at whole
    obtain ⟨mid,reached,last⟩ := Option.bind_eq_some_iff.mp whole
    obtain ⟨τ,moved,same⟩ := Option.bind_eq_some_iff.mp last
    obtain rfl := Option.some.inj same
    obtain ⟨reading,none,rfl,dead⟩ := move_silent moved reported
    obtain ⟨gaps,floor,past,measured⟩ := deadFor_eq dead
    have taught : Taught feed mid := by
      have start : Taught feed (.start budget started) := fun some => absurd rfl some
      exact start.run reached
    obtain ⟨early,late,μ,rfl,found,stamp,waits⟩ := run_listening rfl reached reading
    refine ⟨taught gaps,past,floor,⟨early,late ++ [next],μ,List.append_assoc _ _ _,found,?_,?_⟩,none⟩
    · obtain ⟨ν,start,_,_,earlier⟩ := waits [] late rfl
      obtain rfl := Option.some.inj start
      have total : mid.cadence.lastFrame ≤ mid.now := stamp ▸ earlier
      dsimp only
      omega
    · intro between rest same some
      rcases List.eq_nil_or_concat rest with rfl | ⟨init,last,rfl⟩
      · exact absurd rfl some
      · rw [List.concat_eq_append,← List.append_assoc] at same
        exact waits between init (List.append_inj_left' same rfl)

namespace Sample

def lull : Feed Unit Unit where
  items _ := .ping []
  arrival n := n*Duration.fromSecs 120
  capacity := 2

end Sample

theorem sample_silence_is_real : ∃ σ, RealSilence Sample.lull 8 0 [.poll,.wait (Duration.fromSecs 100),.poll] σ
    (Duration.fromSecs 100) silenceFloor := by
  let heard : InboundCadence := ⟨0,0,some 0,[0]⟩
  have dead : heard.deadFor (Duration.fromSecs 100) = some (Duration.fromSecs 100,silenceFloor) := by
    simp [heard,InboundCadence.deadFor,InboundCadence.silenceLimit,Duration.saturatingMul,silenceFloor,Duration.fromSecs]
  let waiting : ReadManager Unit Unit := ⟨Duration.fromSecs 100,1,heard,0,.reading,[.ping []],8,[],[],[]⟩
  have last : waiting.onTick = {waiting with place := .silent (Duration.fromSecs 100) silenceFloor} := by
    unfold ReadManager.onTick
    rw [dead]
  have ran : Sample.lull.run (.start 8 0) [.poll,.wait (Duration.fromSecs 100),.poll] = some waiting.onTick := rfl
  exact ⟨_,silence_is_real _ _ _ _ _ _ _ ran (last ▸ rfl)⟩

end GatewaySdk.Client
