import GatewaySdk.Upgrade.Manifest

/-! The version window against the unbounded naturals, and the one sum its code makes. -/
namespace GatewaySdk.Upgrade

variable (semver : SemverCrate)

/-- What is looked at before the minor versions are. -/
def windowBeforeGrace (target current : Version) (cfg : UpgradeConfig) : Except Error Unit := do
  checkMinVersion semver target cfg.minVersion
  bailIf (target = current) ("requested " ++ target.display ++ " matches the currently installed version")
  bailIf (target.major ≠ current.major)
    ("requested " ++ target.display ++ " crosses a major version boundary from " ++ current.display ++
      " — major upgrades require a fresh install, not the auto-upgrader")

def graceMessage (target current : Version) (cfg : UpgradeConfig) : Error :=
  "requested " ++ target.display ++ " is more than " ++ toString cfg.rollbackGrace.toNat ++
    " minor versions behind current " ++ current.display ++ " (rollback_grace = " ++
    toString cfg.rollbackGrace.toNat ++ ")"

/-- `u64 + u64` of a build with overflow checks: none where it panics. -/
def checkedAdd (a b : UInt64) : Option UInt64 := if a.toNat + b.toNat < 18446744073709551616 then some (a+b) else none

/-- `check_version_window` in a build with overflow checks. -/
def checkedVersionWindow (target current : Version) (cfg : UpgradeConfig) : Option (Except Error Unit) :=
  match windowBeforeGrace semver target current cfg with
  | .error e => some (.error e)
  | .ok () => (checkedAdd target.minor cfg.rollbackGrace.toUInt64).map fun reach =>
      bailIf (reach < current.minor) (graceMessage target current cfg)

/-- The conditions that do not depend on how far apart the minor versions are. -/
structure SameLine (target current : Version) (cfg : UpgradeConfig) : Prop where
  least : ∀ minStr, cfg.minVersion = some minStr →
    ∃ min, semver.parse minStr = .ok min ∧ semver.compare target min ≠ .lt
  apart : target ≠ current
  major : target.major = current.major

/-- The window, over the unbounded naturals. -/
structure InWindow (target current : Version) (cfg : UpgradeConfig) : Prop extends SameLine semver target current cfg where
  minor : current.minor.toNat ≤ target.minor.toNat + cfg.rollbackGrace.toNat

/-- Nothing overflows, and with overflow checks or without them what is accepted is the window. -/
structure ExactWindow (target current : Version) (cfg : UpgradeConfig) : Prop where
  noOverflow : checkedVersionWindow semver target current cfg ≠ none
  strict : checkedVersionWindow semver target current cfg = some (.ok ()) ↔ InWindow semver target current cfg
  wrapping : checkVersionWindow semver target current cfg = .ok () ↔ InWindow semver target current cfg

section Facts

variable {semver} {target current : Version} {cfg : UpgradeConfig}

theorem checkMinVersion_ok {minVersion : Option String} : checkMinVersion semver target minVersion = .ok () ↔
    ∀ minStr, minVersion = some minStr → ∃ min, semver.parse minStr = .ok min ∧ semver.compare target min ≠ .lt := by
  cases minVersion with
  | none => exact ⟨fun _ _ absent => (by cases absent),fun _ => rfl⟩
  | some minStr =>
    cases parsed : semver.parse minStr with
    | error e =>
      constructor
      · intro accepted
        simp [checkMinVersion,parsed,Except.mapError,bind,Except.bind] at accepted
      · intro least
        obtain ⟨min,found,_⟩ := least minStr rfl
        rw [parsed] at found
        cases found
    | ok min =>
      simp only [checkMinVersion,parsed,Except.mapError,bind,Except.bind,bailIf_ok]
      constructor
      · intro notBelow text same
        obtain rfl := Option.some.inj same
        exact ⟨min,parsed,notBelow⟩
      · intro least
        obtain ⟨other,found,notBelow⟩ := least minStr rfl
        rw [parsed] at found
        obtain rfl := Except.ok.inj found
        exact notBelow

theorem windowBeforeGrace_ok : windowBeforeGrace semver target current cfg = .ok () ↔ SameLine semver target current cfg := by
  simp only [windowBeforeGrace,bind_ok,bailIf_ok]
  constructor
  · intro accepted
    obtain ⟨_,least,_,apart,major⟩ := accepted
    exact ⟨checkMinVersion_ok.mp least,apart,not_not.mp major⟩
  · intro same
    exact ⟨(),checkMinVersion_ok.mpr same.least,(),same.apart,not_not.mpr same.major⟩

theorem checkVersionWindow_split : checkVersionWindow semver target current cfg =
    (windowBeforeGrace semver target current cfg).bind fun _ =>
      bailIf (target.minor + cfg.rollbackGrace.toUInt64 < current.minor) (graceMessage target current cfg) := by
  simp only [checkVersionWindow,windowBeforeGrace,bind,Except.bind]
  cases checkMinVersion semver target cfg.minVersion with
  | error e => rfl
  | ok _ => rcases bailIf (target = current) _ with e | _ <;> rfl

theorem grace_exact (fits : target.minor.toNat + cfg.rollbackGrace.toNat < 18446744073709551616) :
    target.minor + cfg.rollbackGrace.toUInt64 < current.minor ↔
      ¬ current.minor.toNat ≤ target.minor.toNat + cfg.rollbackGrace.toNat := by
  rw [UInt64.lt_iff_toNat_lt,UInt64.toNat_add,UInt32.toNat_toUInt64,Nat.mod_eq_of_lt fits,Nat.not_le]

theorem checkedAdd_grace (fits : target.minor.toNat + cfg.rollbackGrace.toNat < 18446744073709551616) :
    checkedAdd target.minor cfg.rollbackGrace.toUInt64 = some (target.minor + cfg.rollbackGrace.toUInt64) := by
  rw [checkedAdd,UInt32.toNat_toUInt64,if_pos fits]

theorem checkedAdd_overflows (beyond : 18446744073709551616 ≤ target.minor.toNat + cfg.rollbackGrace.toNat) :
    checkedAdd target.minor cfg.rollbackGrace.toUInt64 = none := by
  rw [checkedAdd,UInt32.toNat_toUInt64,if_neg (Nat.not_lt.mpr beyond)]

end Facts

/-- The window is exact where the sum fits, or is not come to. -/
theorem version_window_exact_iff (target current : Version) (cfg : UpgradeConfig) : ExactWindow semver target current cfg ↔
    (SameLine semver target current cfg → target.minor.toNat + cfg.rollbackGrace.toNat < 18446744073709551616) := by
  constructor
  · intro exact_ same
    by_contra beyond
    apply exact_.noOverflow
    rw [checkedVersionWindow,windowBeforeGrace_ok.mpr same]
    simp only [checkedAdd_overflows (Nat.not_lt.mp beyond),Option.map_none]
  · intro fits
    by_cases same : SameLine semver target current cfg
    · have before := windowBeforeGrace_ok.mpr same
      have window : InWindow semver target current cfg ↔
          ¬ target.minor + cfg.rollbackGrace.toUInt64 < current.minor := by
        rw [grace_exact (fits same),not_not]
        exact ⟨fun within => within.minor,fun minor => ⟨same,minor⟩⟩
      have checked : checkedVersionWindow semver target current cfg =
          some (checkVersionWindow semver target current cfg) := by
        rw [checkedVersionWindow,checkVersionWindow_split,before]
        simp only [checkedAdd_grace (fits same),Option.map_some]
        rfl
      have wrapping : checkVersionWindow semver target current cfg = .ok () ↔ InWindow semver target current cfg := by
        rw [checkVersionWindow_split,before,window]
        exact bailIf_ok
      refine ⟨?_,?_,wrapping⟩
      · rw [checked]
        exact Option.some_ne_none _
      · rw [checked,Option.some.injEq]
        exact wrapping
    · obtain ⟨e,refused⟩ : ∃ e, windowBeforeGrace semver target current cfg = .error e := by
        cases before : windowBeforeGrace semver target current cfg with
        | error e => exact ⟨e,rfl⟩
        | ok _ => exact absurd (windowBeforeGrace_ok.mp before) same
      have checked : checkedVersionWindow semver target current cfg = some (.error e) := by
        rw [checkedVersionWindow,refused]
      have outside : ¬ InWindow semver target current cfg := fun within => same within.toSameLine
      refine ⟨?_,?_,?_⟩
      · rw [checked]
        exact Option.some_ne_none _
      · rw [checked]
        exact ⟨fun accepted => (by cases accepted),fun within => absurd within outside⟩
      · rw [checkVersionWindow_split,refused]
        exact ⟨fun accepted => (by cases accepted),fun within => absurd within outside⟩

namespace Sample

/-- Two versions, the first of the greatest minor version there is. -/
def plainSemver : SemverCrate where
  parse text := if text = "0.45.4" then .ok ⟨0,45,4,"",""⟩ else .ok ⟨0,18446744073709551615,0,"",""⟩
  comparePre _ _ := .eq
  compareBuild _ _ := .eq

end Sample

/-- The greatest minor version lies in the window of every lower one; the sum with the default
grace overflows, and where it wraps the version is refused as too far behind. -/
theorem greatest_minor_refused :
    InWindow Sample.plainSemver ⟨0,18446744073709551615,0,"",""⟩ ⟨0,45,4,"",""⟩ {} ∧
      checkedVersionWindow Sample.plainSemver ⟨0,18446744073709551615,0,"",""⟩ ⟨0,45,4,"",""⟩ {} = none ∧
      checkVersionWindow Sample.plainSemver ⟨0,18446744073709551615,0,"",""⟩ ⟨0,45,4,"",""⟩ {} ≠ .ok () ∧
      ¬ ExactWindow Sample.plainSemver ⟨0,18446744073709551615,0,"",""⟩ ⟨0,45,4,"",""⟩ {} := by
  have within : InWindow Sample.plainSemver ⟨0,18446744073709551615,0,"",""⟩ ⟨0,45,4,"",""⟩ {} :=
    ⟨⟨fun _ absent => (by cases absent),by decide,rfl⟩,by decide⟩
  refine ⟨within,by decide,by decide,fun exact_ => ?_⟩
  exact exact_.noOverflow (by decide)

end GatewaySdk.Upgrade
