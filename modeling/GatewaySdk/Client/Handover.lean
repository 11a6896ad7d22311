import GatewaySdk.Client.ReadManager
import GatewaySdk.Client.Session

/-! The reader hands over what it reads: in order, each item once, up to the first end of the
stream, and only a ping that finds the channel full is left out. -/
namespace GatewaySdk.Client
open GatewaySdk.Upgrade (Bytes)

variable {κ ε : Type} {feed : Feed κ ε} {σ τ : ReadManager κ ε}

theorem handed_succ (missed : List Nat) (n : Nat) : feed.handed missed (n+1) =
    feed.handed missed n ++ if (missed.all fun other => other != n) = true then (feed.items n).handover.toList else [] := by
  unfold Feed.handed
  rw [List.range_succ,List.filter_append,List.filterMap_append]
  split
  next new => cases item : (feed.items n).handover <;> simp [new,item]
  next old => simp [old]

theorem handed_missed (missed : List Nat) (n : Nat) : feed.handed (missed ++ [n]) n = feed.handed missed n := by
  unfold Feed.handed
  congr 1
  apply List.filter_congr
  intro i member
  have apart : n ≠ i := Nat.ne_of_gt (List.mem_range.mp member)
  simp [apart]

theorem handed_spoken {missed : List Nat} (pings : ∀ i ∈ missed, ∃ data, feed.items i = .ping data) (n : Nat) :
    (feed.handed missed n).filter (fun item => !item.isPing) =
      (((List.range n).map feed.items).filterMap WsItem.handover).filter fun item => !item.isPing := by
  induction n with
  | zero => rfl
  | succ n ih =>
    rw [handed_succ,List.filter_append,ih,List.range_succ,List.map_append,List.filterMap_append,List.filter_append]
    congr 1
    split
    · cases left : (feed.items n).handover <;> simp [left]
    next absent =>
      have out : n ∈ missed := by simpa using absent
      obtain ⟨data,same⟩ := pings n out
      simp [same,WsItem.handover,Handover.isPing]

theorem throughEnd_open {items more : List (WsItem κ ε)} (going : ∀ item ∈ items, item.isEnd = false) :
    throughEnd (items ++ more) = items ++ throughEnd more := by
  induction items with
  | nil => rfl
  | cons item rest ih =>
    have first := going item List.mem_cons_self
    simp only [List.cons_append,throughEnd,first,Bool.false_eq_true,if_false]
    rw [ih fun other member => going other (List.mem_cons_of_mem _ member)]

/-- What the reader has done with the items it has read. -/
structure Keeps (feed : Feed κ ε) (σ : ReadManager κ ε) : Prop where
  handed : σ.received ++ σ.inbound ++ σ.place.items = feed.handed σ.missed σ.read
  before : ∀ n, n+1 < σ.read → (feed.items n).isEnd = false
  last : ∀ n, n+1 = σ.read → (feed.items n).isEnd = σ.place.atEnd
  some : σ.place.atEnd = true → σ.read ≠ 0
  room : ∀ item, σ.place = .room item → item.isPing = false
  pings : ∀ i ∈ σ.missed, i < σ.read ∧ ∃ data, feed.items i = .ping data

theorem Keeps.start (budget started : Nat) : Keeps feed (.start budget started) where
  handed := rfl
  before n early := absurd early (Nat.not_lt_zero _)
  last n early := absurd early (Nat.succ_ne_zero n)
  some over_ := by cases over_
  room item here := by cases here
  pings := List.forall_mem_nil _

/-- While no end was read, the next item is behind items that go on. -/
theorem Keeps.going (keeps : Keeps feed σ) (goes : σ.place.atEnd = false) :
    ∀ n < σ.read, (feed.items n).isEnd = false := by
  intro n early
  rcases Nat.lt_or_eq_of_le (Nat.succ_le_of_lt early) with before | last
  · exact keeps.before n before
  · exact (keeps.last n last).trans goes

theorem Keeps.reads (keeps : Keeps feed σ) (reading : σ.place = .reading) (next : τ.read = σ.read+1)
    (missed : τ.missed = σ.missed) (handed : τ.received ++ τ.inbound ++ τ.place.items =
      σ.received ++ σ.inbound ++ (feed.items σ.read).handover.toList)
    (atEnd : τ.place.atEnd = (feed.items σ.read).isEnd) (room : ∀ item, τ.place = .room item → item.isPing = false) :
    Keeps feed τ where
  handed := by
    have new : (σ.missed.all fun old => old != σ.read) = true := by
      rw [List.all_eq_true]
      exact fun i member => bne_iff_ne.mpr (Nat.ne_of_lt (keeps.pings i member).1)
    have before := keeps.handed
    rw [reading,ReadPlace.items,List.append_nil] at before
    rw [missed,next,handed_succ,if_pos new,← before,handed]
  before n early := by
    rw [next] at early
    exact keeps.going (by rw [reading]; rfl) n (Nat.lt_of_succ_lt_succ early)
  last n same := by
    rw [atEnd,Nat.succ.inj (same.trans next)]
  some _ := by
    rw [next]
    exact Nat.succ_ne_zero _
  room := room
  pings i member := by
    rw [missed] at member
    rw [next]
    exact ⟨Nat.lt_succ_of_lt (keeps.pings i member).1,(keeps.pings i member).2⟩

theorem Keeps.misses {data : Bytes} (keeps : Keeps feed σ) (reading : σ.place = .reading)
    (ping : feed.items σ.read = .ping data) (cadence : InboundCadence) :
    Keeps feed {σ with read := σ.read+1,cadence := cadence,missed := σ.missed ++ [σ.read]} where
  handed := by
    have old : ¬ ((σ.missed ++ [σ.read]).all fun old => old != σ.read) = true := by simp
    have before := keeps.handed
    rw [handed_succ,if_neg old,List.append_nil,handed_missed]
    exact before
  before n early := keeps.going (by rw [reading]; rfl) n (Nat.lt_of_succ_lt_succ early)
  last n same := by
    rw [Nat.succ.inj same,ping]
    dsimp only
    rw [reading]
    rfl
  some _ := Nat.succ_ne_zero _
  room := keeps.room
  pings i member := by
    rcases List.mem_append.mp member with before | now
    · exact ⟨Nat.lt_succ_of_lt (keeps.pings i before).1,(keeps.pings i before).2⟩
    · rw [List.mem_singleton.mp now]
      exact ⟨Nat.lt_succ_self _,data,ping⟩

theorem Keeps.onItem (keeps : Keeps feed σ) (reading : σ.place = .reading) :
    Keeps feed (σ.onItem feed.capacity (feed.items σ.read)) := by
  cases here : feed.items σ.read with
  | ping data =>
    unfold ReadManager.onItem
    dsimp only
    split
    · refine keeps.reads reading rfl rfl ?_ ?_ keeps.room
      · simp [here,reading,ReadPlace.items,WsItem.handover]
      · simp [here,reading,ReadPlace.atEnd,WsItem.isEnd]
    · exact keeps.misses reading here _
  | binary | pongOrFrame =>
    refine keeps.reads reading rfl rfl ?_ ?_ keeps.room
    · simp [ReadManager.onItem,here,reading,ReadPlace.items,WsItem.handover]
    · simp [ReadManager.onItem,here,reading,ReadPlace.atEnd,WsItem.isEnd]
  | text text =>
    refine keeps.reads reading rfl rfl ?_ ?_ nofun
    · simp [ReadManager.onItem,here,ReadPlace.items,WsItem.handover]
    · rw [here]
      rfl
  | close frame | error e | ended =>
    refine keeps.reads reading rfl rfl ?_ ?_ fun item same => ?_
    · simp [ReadManager.onItem,here,ReadPlace.items,WsItem.handover]
    · rw [here]
      rfl
    · cases same
      rfl

theorem Keeps.same (keeps : Keeps feed σ) (read : τ.read = σ.read) (missed : τ.missed = σ.missed)
    (handed : τ.received ++ τ.inbound ++ τ.place.items = σ.received ++ σ.inbound ++ σ.place.items)
    (atEnd : τ.place.atEnd = σ.place.atEnd) (room : ∀ item, τ.place = .room item → item.isPing = false) :
    Keeps feed τ where
  handed := by rw [handed,missed,read,keeps.handed]
  before n early := keeps.before n (read ▸ early)
  last n same := (keeps.last n (same.trans read)).trans atEnd.symm
  some over_ := read ▸ keeps.some (atEnd ▸ over_)
  room := room
  pings i member := by
    rw [read]
    exact keeps.pings i (missed ▸ member)

theorem Keeps.poll (keeps : Keeps feed σ) (polled : feed.Polls σ τ) : Keeps feed τ := by
  cases polled with
  | reads reading there => exact keeps.onItem reading
  | alive reading none alive => exact keeps.same rfl rfl rfl rfl keeps.room
  | silent silent limit reading none dead =>
    refine keeps.same rfl rfl ?_ ?_ nofun
    · simp [reading,ReadPlace.items]
    · simp [reading,ReadPlace.atEnd]
  | granted text waits enough =>
    refine keeps.same rfl rfl ?_ ?_ fun item same => ?_
    · simp [waits,ReadPlace.items]
    · simp [waits,ReadPlace.atEnd,Handover.isEnd]
    · cases same
      rfl
  | sent item waits room =>
    have plain := keeps.room item waits
    cases item with
    | text text =>
      refine keeps.same rfl rfl ?_ ?_ nofun
      · simp [ReadManager.onSent,waits,ReadPlace.items]
      · rw [waits]
        rfl
    | ping data => cases plain
    | closed frame | failed e | ended =>
      refine keeps.same rfl rfl ?_ ?_ nofun
      · simp [ReadManager.onSent,waits,ReadPlace.items]
      · rw [waits]
        rfl

theorem Keeps.move {next : ReadMove} (keeps : Keeps feed σ) (moved : feed.move σ next = .some τ) : Keeps feed τ := by
  cases (Feed.move_cases moved).1 with
  | wait now later => exact keeps.same rfl rfl rfl rfl keeps.room
  | takes item rest first routing =>
    refine keeps.same rfl rfl ?_ rfl keeps.room
    simp [first]
  | routes routing free => exact keeps.same rfl rfl rfl rfl keeps.room
  | polls polled => exact keeps.poll polled

theorem Keeps.run {moves : List ReadMove} (keeps : Keeps feed σ) (ran : feed.run σ moves = .some τ) : Keeps feed τ :=
  Feed.run_keeps Keeps.move keeps ran

theorem throughEnd_closed {items more : List (WsItem κ ε)} {item : WsItem κ ε}
    (going : ∀ item ∈ items, item.isEnd = false) (ends : item.isEnd = true) :
    throughEnd (items ++ item::more) = items ++ [item] := by
  rw [throughEnd_open going,throughEnd,if_pos ends]

/-- What was handed over or is on its way, against the stream read on as far as one likes. -/
theorem Keeps.spoken (keeps : Keeps feed σ) {n : Nat} (further : σ.read ≤ n) :
    (σ.received ++ σ.inbound ++ σ.place.items).filter (fun item => !item.isPing) <+: feed.spoken n ∧
      (σ.place.atEnd = true →
        (σ.received ++ σ.inbound ++ σ.place.items).filter (fun item => !item.isPing) = feed.spoken n) := by
  rw [keeps.handed,handed_spoken fun i member => (keeps.pings i member).2]
  obtain ⟨more,rfl⟩ := Nat.exists_eq_add_of_le further
  unfold Feed.spoken
  cases over_ : σ.place.atEnd with
  | false =>
    have going : ∀ item ∈ (List.range σ.read).map feed.items, item.isEnd = false := by
      intro item member
      obtain ⟨n,early,rfl⟩ := List.mem_map.mp member
      exact keeps.going over_ n (List.mem_range.mp early)
    refine ⟨?_,nofun⟩
    rw [List.range_add,List.map_append,throughEnd_open going,List.filterMap_append,List.filter_append]
    exact List.prefix_append _ _
  | true =>
    obtain ⟨k,last⟩ := Nat.exists_eq_succ_of_ne_zero (keeps.some over_)
    have going : ∀ item ∈ (List.range k).map feed.items, item.isEnd = false := by
      intro item member
      obtain ⟨n,early,rfl⟩ := List.mem_map.mp member
      refine keeps.before n ?_
      rw [last]
      exact Nat.succ_lt_succ (List.mem_range.mp early)
    have ends : (feed.items k).isEnd = true := (keeps.last k last.symm).trans over_
    have same : throughEnd ((List.range (σ.read+more)).map feed.items) = (List.range σ.read).map feed.items := by
      rw [List.range_add,List.map_append,last,Nat.succ_eq_add_one,List.range_succ,List.map_append,List.map_singleton,
        List.append_assoc]
      exact throughEnd_closed going ends
    rw [same]
    exact ⟨List.prefix_rfl,fun _ => rfl⟩

theorem move_missed {next : ReadMove} (moved : feed.move σ next = some τ) : τ.missed = σ.missed ∨
    σ.place = .reading ∧ feed.capacity ≤ σ.inbound.length ∧ τ.missed = σ.missed ++ [σ.read] := by
  cases (Feed.move_cases moved).1 with
  | wait | takes | routes => exact .inl rfl
  | polls polled =>
    cases polled with
    | alive | silent | granted => exact .inl rfl
    | sent item =>
      unfold ReadManager.onSent
      split <;> exact .inl rfl
    | reads reading there =>
      unfold ReadManager.onItem
      split
      next data here =>
        dsimp only
        split
        · exact .inl rfl
        next full => exact .inr ⟨reading,Nat.le_of_not_lt full,rfl⟩
      all_goals exact .inl rfl

/-- A ping is left out only where the channel was full as it was read. -/
theorem run_missed {moves : List ReadMove} (ran : feed.run σ moves = some τ) {i : Nat} (left : i ∈ τ.missed) :
    i ∈ σ.missed ∨ ∃ early late ν, moves = early ++ late ∧ feed.run σ early = some ν ∧ ν.place = .reading ∧
      ν.read = i ∧ feed.capacity ≤ ν.inbound.length := by
  induction moves generalizing σ with
  | nil => exact .inl (Option.some.inj ran ▸ left)
  | cons next moves ih =>
    obtain ⟨mid,moved,rest⟩ := Option.bind_eq_some_iff.mp ran
    rcases ih rest with before | ⟨early,late,ν,rfl,reached,later⟩
    · rcases move_missed moved with same | ⟨reading,full,more⟩
      · exact .inl (same ▸ before)
      · rw [more] at before
        rcases List.mem_append.mp before with before | now
        · exact .inl before
        · exact .inr ⟨[],next::moves,σ,rfl,rfl,reading,(List.mem_singleton.mp now).symm,full⟩
    · exact .inr ⟨next::early,late,ν,rfl,Option.bind_eq_some_iff.mpr ⟨mid,moved,reached⟩,later⟩

/-- How the loop has received the stream, at any moment. -/
structure HandsOver (feed : Feed κ ε) (budget started : Nat) (moves : List ReadMove) (σ : ReadManager κ ε) : Prop where
  spoken : ∀ n ≥ σ.read, σ.received.filter (fun item => !item.isPing) <+: feed.spoken n
  complete : σ.place = .parked → σ.inbound = [] → ∀ n ≥ σ.read,
    σ.received.filter (fun item => !item.isPing) = feed.spoken n
  closing : ∀ early item late, σ.received ++ σ.inbound = early ++ item::late → item.isEnd = true → late = []
  order : σ.received <+: feed.handed σ.missed σ.read
  pings : ∀ i ∈ σ.missed, (∃ data, feed.items i = .ping data) ∧ ∃ early late ν, moves = early ++ late ∧
    feed.run (.start budget started) early = some ν ∧ ν.place = .reading ∧ ν.read = i ∧ feed.capacity ≤ ν.inbound.length

theorem isEnd_handover {item : WsItem κ ε} {given : Handover κ ε} (made : item.handover = some given) :
    given.isEnd = item.isEnd := by
  cases item <;> cases made <;> rfl

/-- Only the last of what is handed over can be an end. -/
theorem handed_closing {missed : List Nat} {n : Nat} (going : ∀ i, i+1 < n → (feed.items i).isEnd = false)
    {early late : List (Handover κ ε)} {item : Handover κ ε} (same : feed.handed missed n = early ++ item::late)
    (ends : item.isEnd = true) : late = [] := by
  cases n with
  | zero =>
    have none : feed.handed missed 0 = [] := rfl
    rw [none] at same
    cases early <;> cases same
  | succ n =>
    have goesOn : ∀ given ∈ feed.handed missed n, given.isEnd = false := by
      intro given member
      obtain ⟨i,found,made⟩ := List.mem_filterMap.mp member
      have early := List.mem_range.mp (List.mem_filter.mp found).1
      exact (isEnd_handover made).trans (going i (Nat.succ_lt_succ early))
    rw [handed_succ] at same
    have short : (if (missed.all fun old => old != n) = true then (feed.items n).handover.toList else []).length ≤ 1 := by
      split
      · cases (feed.items n).handover <;> simp
      · simp
    rcases List.append_eq_append_iff.mp same with ⟨rest,_,tail⟩ | ⟨rest,left,tail⟩
    · rw [tail,List.length_append,List.length_cons] at short
      exact List.length_eq_zero_iff.mp (by omega)
    · cases rest with
      | nil =>
        rw [List.nil_append] at tail
        rw [← tail,List.length_cons] at short
        exact List.length_eq_zero_iff.mp (by omega)
      | cons first rest =>
        obtain ⟨rfl,_⟩ := List.cons.inj tail
        have member : item ∈ feed.handed missed n := by
          rw [left]
          exact List.mem_append_right _ List.mem_cons_self
        exact absurd ends (by rw [goesOn item member]; nofun)

/-- Whatever the stream holds and however the loop takes it: what the loop has received is the
stream in order, up to its first end, short of pings that found the channel full. -/
theorem reader_hands_over (feed : Feed κ ε) (budget started : Nat) (moves : List ReadMove) (σ : ReadManager κ ε)
    (ran : feed.run (.start budget started) moves = some σ) : HandsOver feed budget started moves σ := by
  have keeps : Keeps feed σ := (Keeps.start budget started).run ran
  constructor
  · intro n further
    refine List.IsPrefix.trans ?_ (keeps.spoken further).1
    rw [List.append_assoc,List.filter_append]
    exact List.prefix_append _ _
  · intro parked empty n further
    have whole := (keeps.spoken further).2 (by rw [parked]; rfl)
    rw [parked,empty,ReadPlace.items,List.append_nil,List.append_nil] at whole
    exact whole
  · intro early item late same ends
    have handed := keeps.handed
    rw [same,List.append_assoc,List.cons_append] at handed
    exact (List.append_eq_nil_iff.mp (handed_closing keeps.before handed.symm ends)).1
  · rw [← keeps.handed,List.append_assoc]
    exact List.prefix_append _ _
  · intro i left
    refine ⟨(keeps.pings i left).2,?_⟩
    rcases run_missed ran left with before | full
    · cases before
    · exact full

/-- An item of the channel without what only the log reads of it. -/
def Handover.plain : Handover κ ε → Inbound
  | .text held => .text held
  | .ping data => .ping data
  | .closed _ => .closed
  | .failed _ => .failed
  | .ended => .ended

def ReadPlace.reader : ReadPlace κ ε → Reader
  | .reading => .reading
  | .budget text => .budget text
  | .room item => .room item.plain
  | .parked => .parked
  | .silent _ _ => .gone

/-- The session's view of its reader. -/
structure Shows (σ : ReadManager κ ε) (ρ : Session) : Prop where
  reader : ρ.reader = σ.place.reader
  inbound : ρ.inbound = σ.inbound.map Handover.plain
  free : ρ.inboundFree = σ.free

/-- A poll of the reader is a step of the session's reader, or none that the session sees. -/
theorem poll_readerStep {ρ : Session} (capacity : feed.capacity = inboundChannelSize)
    (short : ∀ n text, feed.items n = .text text → text.utf8ByteSize ≤ maxInboundWsBytes) (shows_ : Shows σ ρ)
    (polled : feed.poll σ = some τ) (going : ∀ silent limit, τ.place ≠ .silent silent limit) :
    ∃ ρ', (ReaderStep ρ ρ' ∨ ρ' = ρ) ∧ Shows τ ρ' := by
  have size : ρ.inbound.length = σ.inbound.length := by rw [shows_.inbound,List.length_map]
  have place := shows_.reader
  cases Feed.poll_cases polled with
  | reads reading there =>
    rw [reading] at place
    cases here : feed.items σ.read with
    | ping data =>
      unfold ReadManager.onItem
      dsimp only
      split
      next room =>
        refine ⟨_,.inl (.ping data place ?_),⟨?_,?_,shows_.free⟩⟩
        · rw [size,← capacity]
          exact room
        · exact shows_.reader
        · simp [shows_.inbound,Handover.plain]
      next => exact ⟨ρ,.inr rfl,⟨shows_.reader,shows_.inbound,shows_.free⟩⟩
    | binary | pongOrFrame => exact ⟨ρ,.inl (.ignored place),⟨shows_.reader,shows_.inbound,shows_.free⟩⟩
    | text text => exact ⟨_,.inl (.text text place (short _ text here)),⟨rfl,shows_.inbound,shows_.free⟩⟩
    | close frame => exact ⟨_,.inl (.ends .closed place (.inl rfl)),⟨rfl,shows_.inbound,shows_.free⟩⟩
    | error e => exact ⟨_,.inl (.ends .failed place (.inr (.inl rfl))),⟨rfl,shows_.inbound,shows_.free⟩⟩
    | ended => exact ⟨_,.inl (.ends .ended place (.inr (.inr rfl))),⟨rfl,shows_.inbound,shows_.free⟩⟩
  | alive reading none alive => exact ⟨ρ,.inr rfl,⟨shows_.reader,shows_.inbound,shows_.free⟩⟩
  | silent silent limit reading none dead => exact absurd rfl (going silent limit)
  | granted text waits enough =>
    rw [waits] at place
    refine ⟨_,.inl (.granted text place ?_),⟨rfl,shows_.inbound,?_⟩⟩
    · rw [shows_.free]
      exact enough
    · rw [shows_.free]
  | sent item waits room =>
    rw [waits] at place
    refine ⟨_,.inl (.handed item.plain place ?_),?_⟩
    · rw [size,← capacity]
      exact room
    · cases item <;> exact ⟨rfl,by simp [ReadManager.onSent,shows_.inbound,Handover.plain],shows_.free⟩

namespace Sample

/-- A ping, a text and then a Close, all there at the start. -/
def brief : Feed Unit Unit where
  items n := if n = 0 then .ping [] else if n = 1 then .text "x" else .close none
  arrival _ := 0
  capacity := 2

/-- The reader is polled until it parks while the loop takes what there is. -/
def takesAll : List ReadMove := [.poll,.poll,.poll,.poll,.take,.poll,.take,.route 0,.poll,.take]

end Sample

theorem sample_reader_hands_over : ∃ σ, HandsOver Sample.brief 8 0 Sample.takesAll σ ∧ σ.place = .parked ∧
    σ.received = [.ping [],.text "x",.closed none] := by
  obtain ⟨σ,ran,parked,received⟩ : ∃ σ, Sample.brief.run (.start 8 0) Sample.takesAll = some σ ∧ σ.place = .parked ∧
      σ.received = [.ping [],.text "x",.closed none] := ⟨_,rfl,rfl,rfl⟩
  exact ⟨σ,reader_hands_over _ _ _ _ _ ran,parked,received⟩

end GatewaySdk.Client
