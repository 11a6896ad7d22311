import GatewaySdk.Client.Connect
import GatewaySdk.Order.Weave

/-! The order in which the addresses of a host are tried: the two families in turn, from the
resolver's first address on. -/
namespace GatewaySdk.Client
open GatewaySdk.Order

structure SocketAddrV4 where
  ip : BitVec 32
  port : UInt16
  deriving DecidableEq, Repr

structure SocketAddrV6 where
  ip : BitVec 128
  port : UInt16
  flowinfo : UInt32
  scopeId : UInt32
  deriving DecidableEq, Repr

inductive SocketAddr where
  | v4 (addr : SocketAddrV4)
  | v6 (addr : SocketAddrV6)
  deriving DecidableEq, Repr

def SocketAddr.isIpv6 : SocketAddr → Bool
  | .v4 _ => false
  | .v6 _ => true

/-- The loop over the two iterators: each pass appends what either still gives. -/
def takeTurns : (lead other ordered : List SocketAddr) → List SocketAddr
  | [],[],ordered => ordered
  | a::lead,[],ordered => takeTurns lead [] (ordered ++ [a])
  | [],b::other,ordered => takeTurns [] other (ordered ++ [b])
  | a::lead,b::other,ordered => takeTurns lead other (ordered ++ [a,b])
termination_by lead other => lead.length+other.length

def interleaveFamilies (addrs : List SocketAddr) : List SocketAddr :=
  match addrs.head? with
  | none => []
  | some first =>
    let leadIsV6 := first.isIpv6
    let (lead,other) := addrs.partition fun addr => addr.isIpv6 == leadIsV6
    takeTurns lead other []

/-- Whichever iterator runs out first, nothing is left behind. -/
theorem takeTurns_weave (lead other ordered : List SocketAddr) :
    takeTurns lead other ordered = ordered ++ weave lead other := by
  induction lead, other, ordered using takeTurns.induct with
  | case1 ordered => simp [takeTurns]
  | case2 ordered a lead ih => simp [takeTurns,ih]
  | case3 ordered b other ih => simp [takeTurns,ih]
  | case4 ordered a lead b other ih => simp [takeTurns,ih]

theorem interleaveFamilies_cons (first : SocketAddr) (rest : List SocketAddr) : interleaveFamilies (first::rest) =
    weave ((first::rest).filter fun addr => addr.isIpv6 == first.isIpv6)
      ((first::rest).filter fun addr => !(addr.isIpv6 == first.isIpv6)) := by
  rw [interleaveFamilies,List.head?_cons]
  dsimp only
  rw [List.partition_eq_filter_filter]
  exact takeTurns_weave _ _ _

theorem interleaveFamilies_interleaved (addrs : List SocketAddr) :
    Interleaved SocketAddr.isIpv6 addrs (interleaveFamilies addrs) := by
  cases addrs with
  | nil => exact ⟨.nil,rfl,fun _ => rfl,.of_same nofun⟩
  | cons first rest =>
    rw [interleaveFamilies_cons]
    exact weave_interleaved SocketAddr.isIpv6 first rest

section Second
variable {Stream : Type} {connect : Nat → SocketAddr → Outcome Stream} {first other : SocketAddr} {rest : List SocketAddr}

/-- The first turn: the first address connects by then, or the second is started. -/
theorem first_turn {choice : Nat} {m : DialMoment SocketAddr Stream}
    (passed : (connectStaggered connect (first::other::rest)).pass connect choice = some m) :
    (∃ after stream, after ≤ connectAttemptDelay ∧ connect 0 first = .succeeds after stream ∧
      m.point = .returned (.ok ⟨stream,first,[]⟩)) ∨
      ∃ at_ ≤ connectAttemptDelay, m.starts = [(first,0),(other,at_)] := by
  obtain ⟨d,ready,at_,here,offered,soonest,rfl⟩ := pass_cases passed
  obtain rfl : ⟨0,other::rest,[⟨0,first,0,connect 0 first⟩],[(0,first)],1,none⟩ = d := DialPoint.selecting.inj here
  have soon : at_ ≤ connectAttemptDelay := by
    have bound := offer_soon soonest (List.cons_ne_nil other rest)
    rwa [Nat.zero_add] at bound
  rcases mem_offers.mp offered with ⟨attempt,member,due,rfl⟩ | ⟨_,rfl,_⟩
  · obtain rfl := List.mem_singleton.mp member
    cases comes : connect 0 first with
    | succeeds after stream =>
      have instant : after = at_ := by simpa [Attempt.due,comes,Outcome.after] using due
      exact .inl ⟨after,stream,instant ▸ soon,rfl,by simp [Dialing.takes]⟩
    | fails after error => exact .inr ⟨at_,soon,by simp [Dialing.takes,Dialing.top,connectStaggered]⟩
    | silent => simp [Attempt.due,comes,Outcome.after] at due
  · exact .inr ⟨at_,soon,by simp [Dialing.takes,Dialing.top,connectStaggered]⟩

theorem second_started {choices : List Nat} {m : DialMoment SocketAddr Stream} (turned : choices ≠ [])
    (ran : staggered connect (first::other::rest) choices = some m) :
    (∃ after stream, after ≤ connectAttemptDelay ∧ connect 0 first = .succeeds after stream ∧
      m.point = .returned (.ok ⟨stream,first,[]⟩)) ∨
      ∃ at_ ≤ connectAttemptDelay, m.starts[1]? = some (other,at_) := by
  cases choices with
  | nil => exact absurd rfl turned
  | cons choice choices =>
    obtain ⟨next,passed,ran⟩ := Option.bind_eq_some_iff.mp ran
    obtain ⟨after,stream,soon,comes,returned⟩ | ⟨at_,soon,starts⟩ := first_turn passed
    · cases choices with
      | nil =>
        obtain rfl := Option.some.inj ran
        exact .inl ⟨after,stream,soon,comes,returned⟩
      | cons again choices =>
        obtain ⟨_,passed,_⟩ := Option.bind_eq_some_iff.mp ran
        obtain ⟨d,_,_,here,_⟩ := pass_cases passed
        cases returned.symm.trans here
    · obtain ⟨more,whole⟩ := staggered_starts ran
      refine .inr ⟨at_,soon,?_⟩
      rw [← whole,starts]
      rfl

/-- The call never waits longer for its first turn than the stagger allows. -/
theorem first_turn_comes : ∃ choice m, (connectStaggered connect (first::other::rest)).pass connect choice = some m :=
  pass_of_offer rfl (List.ne_nil_of_mem (mem_offers.mpr (.inr ⟨List.cons_ne_nil other rest,rfl,rfl⟩)))

end Second

/-- The addresses are all there, in turn by family from the first on; so the first of the other
family is the second, and `connect_staggered` starts it within one stagger whatever comes of the
first, unless that has connected by then. -/
theorem interleave_families_fair {Stream : Type} (connect : Nat → SocketAddr → Outcome Stream) (addrs : List SocketAddr) :
    Interleaved SocketAddr.isIpv6 addrs (interleaveFamilies addrs) ∧
    ∀ first other, addrs.head? = some first → addrs.find? (fun addr => addr.isIpv6 != first.isIpv6) = some other →
      (∃ rest, interleaveFamilies addrs = first::other::rest) ∧
      (∃ choice m, (connectStaggered connect (interleaveFamilies addrs)).pass connect choice = some m) ∧
      ∀ choices m, choices ≠ [] → staggered connect (interleaveFamilies addrs) choices = some m →
        (∃ after stream, after ≤ connectAttemptDelay ∧ connect 0 first = .succeeds after stream ∧
          m.point = .returned (.ok ⟨stream,first,[]⟩)) ∨
        ∃ at_ ≤ connectAttemptDelay, m.starts[1]? = some (other,at_) := by
  have turns := interleaveFamilies_interleaved addrs
  refine ⟨turns,fun first other begins found => ?_⟩
  obtain ⟨rest,shape⟩ := turns.second begins found
  rw [shape]
  exact ⟨⟨rest,rfl⟩,first_turn_comes,fun _ _ turned ran => second_started turned ran⟩

namespace Sample

def v6a : SocketAddr := .v6 ⟨0x20010db8000000000000000000000001#128,443,0,0⟩
def v6b : SocketAddr := .v6 ⟨0x20010db8000000000000000000000002#128,443,0,0⟩
def v4a : SocketAddr := .v4 ⟨0xc0000201#32,443⟩

example : interleaveFamilies [v4a,v6a,v6b] = [v4a,v6a,v6b] := by
  rw [interleaveFamilies_cons]
  decide

def prompt (_ : Nat) (_ : SocketAddr) : Outcome Unit := .succeeds 10 ()

end Sample

/-- The first address connects at once, and the call is over before the other family's turn. -/
theorem prompt_first_alone : Sample.v6a.isIpv6 ≠ Sample.v4a.isIpv6 ∧
    ∃ m, staggered Sample.prompt (interleaveFamilies [Sample.v6a,Sample.v4a]) [0] = some m ∧
      (∀ choice, m.pass Sample.prompt choice = none) ∧ ∀ at_, (Sample.v4a,at_) ∉ m.starts := by
  have turns : interleaveFamilies [Sample.v6a,Sample.v4a] = [Sample.v6a,Sample.v4a] := by
    rw [interleaveFamilies_cons]
    decide
  rw [turns]
  refine ⟨by decide,⟨.returned (.ok ⟨(),Sample.v6a,[]⟩),[(Sample.v6a,0)],[]⟩,rfl,fun _ => rfl,fun at_ started => ?_⟩
  have same := congrArg Prod.fst (List.mem_singleton.mp started)
  cases same

end GatewaySdk.Client
