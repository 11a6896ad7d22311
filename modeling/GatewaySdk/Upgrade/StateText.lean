import GatewaySdk.Text.PrefixFree
import GatewaySdk.Upgrade.State

/-! A stand-in for the JSON crate. It writes what `to_vec_pretty` writes of a state whose
texts are printable ASCII without quote or backslash and whose times are the epoch;
other characters and times it writes in some other one-to-one way. -/
namespace GatewaySdk.Upgrade
open GatewaySdk.Text

def ascii (text : String) : Bytes := text.toByteArray.data.toList

def decimal (n : Nat) : Bytes := (digits n).map (fun d => UInt8.ofNat (48 + d))

def plain (c : Char) : Bool := 32 ≤ c.toNat && c.toNat < 127 && c != '"' && c != '\\'

def charText (c : Char) : Bytes :=
  if plain c = true then [UInt8.ofNat c.toNat] else 92::(decimal c.toNat ++ [59])

/-- The rest of a string value, up to its closing quote. -/
def quoted (text : String) : Bytes := text.toList.flatMap charText ++ [34]

def timeText (time : Int) : Bytes :=
  if time = 0 then ascii "1970-01-01T00:00:00Z"
  else if 0 < time then 43::decimal time.toNat else 45::decimal (-time).toNat

def UpgradeStatus.text : UpgradeStatus → String
  | .stable => "stable"
  | .pendingHealth => "pending_health"
  | .rolledBack => "rolled_back"
  | .stagedManual => "staged_manual"

def previousText (previous : Option String) : Bytes :=
  previous.elim (ascii ",\n  \"channel\": \"") (fun version =>
    ascii ",\n  \"previous_version\": \"" ++ (quoted version ++ ascii ",\n  \"channel\": \""))

def healthText (health : Option Int) : Bytes :=
  health.elim (ascii ",\n  \"last_sequence\": ") (fun time =>
    ascii ",\n  \"last_health_at\": \"" ++ ((timeText time ++ [34]) ++ ascii ",\n  \"last_sequence\": "))

def stateText (s : InstallState) : Bytes :=
  (ascii "\x7b\n  \"current_version\": \"" ++ quoted s.currentVersion) ++
  (previousText s.previousVersion ++ (quoted s.channel ++
  ((ascii ",\n  \"variant\": \"" ++ quoted s.variant) ++
  ((ascii ",\n  \"arch\": \"" ++ quoted s.arch) ++
  ((ascii ",\n  \"status\": \"" ++ quoted s.status.text) ++
  ((ascii ",\n  \"boot_attempts\": " ++ (decimal s.bootAttempts.toNat ++ [44])) ++
  ((ascii "\n  \"staged_at\": \"" ++ (timeText s.stagedAt ++ [34])) ++
  (healthText s.lastHealthAt ++
  ((decimal s.lastSequence.toNat ++ [10]) ++ ascii "\x7d")))))))))

theorem byte_injective {n m : Nat} (small : n < 256) (other : m < 256) (same : UInt8.ofNat n = UInt8.ofNat m) :
    n = m := by
  have values := congrArg UInt8.toNat same
  simp only [UInt8.toNat_ofNat'] at values
  omega

theorem decimal_injective : Function.Injective decimal := by
  intro n m same
  apply digits_injective
  have digit : ∀ u v : List Nat, (∀ d ∈ u, d < 10) → (∀ d ∈ v, d < 10) →
      u.map (fun d => UInt8.ofNat (48 + d)) = v.map (fun d => UInt8.ofNat (48 + d)) → u = v := by
    intro u
    induction u with
    | nil =>
      intro v _ _ equal
      exact (List.map_eq_nil_iff.mp equal.symm).symm
    | cons d u ih =>
      intro v inside outside equal
      cases v with
      | nil => cases equal
      | cons e v =>
        simp only [List.map_cons,List.cons.injEq] at equal
        have low := inside d List.mem_cons_self
        have high := outside e List.mem_cons_self
        have head := byte_injective (by omega) (by omega) equal.1
        rw [ih v (fun k m => inside k (List.mem_cons_of_mem _ m))
          (fun k m => outside k (List.mem_cons_of_mem _ m)) equal.2]
        congr 1
        omega
  exact digit _ _ (fun _ => digits_lt) (fun _ => digits_lt) same

theorem decimal_clean {n : Nat} {byte : UInt8} (member : byte ∈ decimal n) : 48 ≤ byte ∧ byte ≤ 57 := by
  obtain ⟨d,inside,rfl⟩ := List.mem_map.mp member
  have low := digits_lt inside
  have value : (UInt8.ofNat (48 + d)).toNat = 48 + d := by
    rw [UInt8.toNat_ofNat']
    omega
  constructor <;> rw [UInt8.le_iff_toNat_le,value]
  · simp
  · simp
    omega

theorem number_free (stop : UInt8) (apart : stop < 48 ∨ 57 < stop) : PrefixFree (fun n => decimal n ++ [stop]) := by
  apply PrefixFree.terminated decimal_injective
  intro n member
  obtain ⟨low,high⟩ := decimal_clean member
  rcases apart with below | above
  · exact absurd (UInt8.lt_of_lt_of_le below low) (UInt8.lt_irrefl _)
  · exact absurd (UInt8.lt_of_lt_of_le above high) (UInt8.lt_irrefl _)

theorem charText_free : PrefixFree charText := by
  have small {c : Char} (simple : plain c = true) : c.toNat < 256 ∧ c ≠ '\\' := by
    simp only [plain,Bool.and_eq_true,decide_eq_true_eq,bne_iff_ne] at simple
    exact ⟨by omega,simple.2⟩
  have mixed {c : Char} (simple : plain c = true) {x y : Bytes} : UInt8.ofNat c.toNat::x ≠ 92::y := by
    intro same
    simp only [List.cons.injEq] at same
    have value : c.toNat = 92 := byte_injective (small simple).1 (by decide) same.1
    exact (small simple).2 (Char.toNat_inj.mp value)
  intro c d x y same
  unfold charText at same
  split at same
  next simple =>
    split at same
    next other =>
      simp only [List.cons_append,List.nil_append,List.cons.injEq] at same
      have value := byte_injective (small simple).1 (small other).1 same.1
      exact ⟨Char.toNat_inj.mp value,same.2⟩
    next => exact absurd same (mixed simple)
  next =>
    split at same
    next other => exact absurd same.symm (mixed other)
    next =>
      simp only [List.cons_append,List.cons.injEq,true_and] at same
      obtain ⟨value,rest⟩ := number_free 59 (by decide) _ _ _ _ same
      exact ⟨Char.toNat_inj.mp value,rest⟩

theorem charText_clean (c : Char) : 34 ∉ charText c := by
  unfold charText
  split
  next simple =>
    simp only [plain,Bool.and_eq_true,decide_eq_true_eq,bne_iff_ne] at simple
    intro member
    simp only [List.mem_singleton] at member
    have value : 34 = c.toNat := byte_injective (by decide) (by omega) member
    exact simple.1.2 (Char.toNat_inj.mp value.symm)
  next =>
    intro member
    simp only [List.mem_cons,List.mem_append,List.not_mem_nil,or_false] at member
    rcases member with backslash | digit | stop
    · cases backslash
    · exact absurd (decimal_clean digit).1 (by decide)
    · cases stop

theorem quoted_free : PrefixFree quoted := by
  apply PrefixFree.terminated
  · have solid (c : Char) : charText c ≠ [] := by
      unfold charText
      split <;> simp
    exact (PrefixFree.flatMap_injective charText_free solid).comp (fun _ _ => String.toList_injective)
  · intro text member
    obtain ⟨c,_,inside⟩ := List.mem_flatMap.mp member
    exact charText_clean c inside

theorem timeText_injective : Function.Injective timeText := by
  have zero : timeText 0 = 49::ascii "970-01-01T00:00:00Z" := by decide
  have after {t : Int} (late : 0 < t) : timeText t = 43::decimal t.toNat := by
    rw [timeText,if_neg (by omega),if_pos late]
  have before {t : Int} (early : t < 0) : timeText t = 45::decimal (-t).toNat := by
    rw [timeText,if_neg (by omega),if_neg (by omega)]
  intro s t same
  rcases Int.lt_trichotomy s 0 with early | rfl | late
  · rw [before early] at same
    rcases Int.lt_trichotomy t 0 with early' | rfl | late'
    · rw [before early',List.cons.injEq] at same
      have value := decimal_injective same.2
      omega
    · simp [zero] at same
    · simp [after late'] at same
  · rw [zero] at same
    rcases Int.lt_trichotomy t 0 with early' | rfl | late'
    · simp [before early'] at same
    · rfl
    · simp [after late'] at same
  · rw [after late] at same
    rcases Int.lt_trichotomy t 0 with early' | rfl | late'
    · simp [before early'] at same
    · simp [zero] at same
    · rw [after late',List.cons.injEq] at same
      have value := decimal_injective same.2
      omega

theorem timeText_clean (t : Int) : 34 ∉ timeText t := by
  unfold timeText
  split
  · decide
  · split
    · intro member
      simp only [List.mem_cons] at member
      rcases member with sign | digit
      · cases sign
      · exact absurd (decimal_clean digit).1 (by decide)
    · intro member
      simp only [List.mem_cons] at member
      rcases member with sign | digit
      · cases sign
      · exact absurd (decimal_clean digit).1 (by decide)

theorem time_free : PrefixFree (fun t => timeText t ++ [34]) :=
  PrefixFree.terminated timeText_injective 34 timeText_clean

theorem status_injective : Function.Injective UpgradeStatus.text := by
  intro s t same
  cases s <;> cases t <;> first | rfl | exact absurd same (by decide)

theorem previousText_free : PrefixFree previousText := by
  have absent : ascii ",\n  \"channel\": \"" = [44,10,32,32,34,99] ++ ascii "hannel\": \"" := by decide
  have present : ascii ",\n  \"previous_version\": \"" = [44,10,32,32,34,112] ++ ascii "revious_version\": \"" := by
    decide
  refine PrefixFree.option (quoted_free.trail _) _ _ (fun x y same => ?_)
  rw [absent,present] at same
  simp at same

theorem healthText_free : PrefixFree healthText := by
  have absent : ascii ",\n  \"last_sequence\": " = [44,10,32,32,34,108,97,115,116,95,115] ++ ascii "equence\": " := by
    decide
  have present : ascii ",\n  \"last_health_at\": \"" =
      [44,10,32,32,34,108,97,115,116,95,104] ++ ascii "ealth_at\": \"" := by decide
  refine PrefixFree.option (time_free.trail _) _ _ (fun x y same => ?_)
  rw [absent,present] at same
  simp at same

/-- No state's text continues another's. -/
theorem stateText_free : PrefixFree stateText := by
  have attempts := (number_free 44 (by decide)).comp UInt32.toNat (fun _ _ => UInt32.toNat_inj.mp)
  have sequence := (number_free 10 (by decide)).comp UInt64.toNat (fun _ _ => UInt64.toNat_inj.mp)
  have status := quoted_free.comp UpgradeStatus.text status_injective
  have code := (quoted_free.lead (ascii "\x7b\n  \"current_version\": \"")).pair
    (previousText_free.pair (quoted_free.pair
    ((quoted_free.lead (ascii ",\n  \"variant\": \"")).pair
    ((quoted_free.lead (ascii ",\n  \"arch\": \"")).pair
    ((status.lead (ascii ",\n  \"status\": \"")).pair
    ((attempts.lead (ascii ",\n  \"boot_attempts\": ")).pair
    ((time_free.lead (ascii "\n  \"staged_at\": \"")).pair
    (healthText_free.pair (sequence.trail (ascii "\x7d"))))))))))
  intro s t x y same
  obtain ⟨fields,rest⟩ := code
    (s.currentVersion,s.previousVersion,s.channel,s.variant,s.arch,s.status,s.bootAttempts,s.stagedAt,
      s.lastHealthAt,s.lastSequence)
    (t.currentVersion,t.previousVersion,t.channel,t.variant,t.arch,t.status,t.bootAttempts,t.stagedAt,
      t.lastHealthAt,t.lastSequence) x y same
  refine ⟨?_,rest⟩
  cases s
  cases t
  simp_all

/-- The stand-in reads exactly the texts it writes. Those of `known` states it looks up,
so that a run on them evaluates. -/
noncomputable def stateSerde (known : List InstallState) : Serde where
  toVecPretty := stateText
  fromStr text :=
    match known.find? (fun s => stateText s == text) with
    | some s => some s
    | none => by
      classical
      exact if found : ∃ s, stateText s = text then some found.choose else none
  fromStr_toVecPretty s := by
    split
    next t looked =>
      have same : stateText t = stateText s := by simpa using List.find?_some looked
      rw [stateText_free.injective same]
    next =>
      have found : ∃ t, stateText t = stateText s := ⟨s,rfl⟩
      rw [dif_pos found]
      exact congrArg some (stateText_free.injective found.choose_spec)
  fromStr_take s n short := by
    split
    next t looked =>
      have same : stateText t = (stateText s).take n := by simpa using List.find?_some looked
      exact absurd same (stateText_free.take_ne short)
    next =>
      rw [dif_neg]
      intro found
      obtain ⟨t,same⟩ := found
      exact stateText_free.take_ne short same

example : stateText ⟨"0.45.4",some "0.45.3","stable","default","x86_64-linux",.pendingHealth,0,0,none,142⟩ =
    ascii "\x7b
  \"current_version\": \"0.45.4\",
  \"previous_version\": \"0.45.3\",
  \"channel\": \"stable\",
  \"variant\": \"default\",
  \"arch\": \"x86_64-linux\",
  \"status\": \"pending_health\",
  \"boot_attempts\": 0,
  \"staged_at\": \"1970-01-01T00:00:00Z\",
  \"last_sequence\": 142
\x7d" := by decide +kernel

end GatewaySdk.Upgrade
