import Mathlib.Data.List.Forall2
import AiotCloud.Lifecycle

/-!
# Wear of a device

Two assessments of a device that differ in its age, its silence and its breaches.

1. `checkedLifecycleScore_eq`: no division of the score has a divisor of 0.
2. `overallScore_antitone`, `healthRank_deriveStage`: what wears the device lowers its score and
   moves its stage on.
3. `lifecycle_score_antitone`: of the columns an assessment saves.
-/

namespace AiotCloud

/-! ## Rounding -/

theorem jsRound_mono {a b : Rat} (h : a ≤ b) : jsRound a ≤ jsRound b :=
  Int.floor_le_floor (by linarith)

theorem clamp_mono {a b : Rat} (low high : Rat) (h : a ≤ b) :
    clamp a low high ≤ clamp b low high :=
  min_le_min_left high (max_le_max_left low h)

theorem percent_mono {a b : Rat} (h : a ≤ b) :
    jsRound (clamp (100 * (1 - b)) 0 100) ≤ jsRound (clamp (100 * (1 - a)) 0 100) :=
  jsRound_mono (clamp_mono 0 100 (by linarith))

/-! ## Divisions -/

/-- A division by a positive divisor. Any other could give `NaN` or an infinity. -/
def divide (a b : Rat) : Option Rat := if 0 < b then some (a / b) else none

theorem divide_eq_some {b : Rat} (h : 0 < b) (a : Rat) : divide a b = some (a / b) := if_pos h

theorem msPerHour_pos : 0 < msPerHour := by norm_num [msPerHour]
theorem msPerDay_pos : 0 < msPerDay := by norm_num [msPerDay, msPerHour]
theorem daysPerMonth_pos : 0 < daysPerMonth := by norm_num [daysPerMonth]

def percent (ratio : Rat) : Int := jsRound (clamp (100 * (1 - ratio)) 0 100)

def checkedAgeMonths (now installedAt : Date) : Option Rat := do
  let days ← divide (now - installedAt) msPerDay
  divide days daysPerMonth

def checkedAgeScore (ageMonths : Rat) (expectedLifespanMonths : Int) : Option Int :=
  (divide (max 0 ageMonths) expectedLifespanMonths).map percent

def checkedConnectivityScore (status : DeviceStatus) (lastSeenAt : Option Date) (now : Date) :
    Option Int :=
  if status = .online then some 100
  else
    match lastSeenAt with
    | none => some 100
    | some lastSeenAt => do
      let offlineHours ← divide (now - lastSeenAt) msPerHour
      (divide offlineHours connectivityFullDegradeHours).map percent

def checkedTelemetryHealthScore (counts : BreachCounts) : Option Int :=
  if counts.totalChecks = 0 then some 100
  else (divide counts.breaches counts.totalChecks).map percent

/-- The score of an assessment, where every division has to have a positive divisor. -/
def checkedLifecycleScore (now : Date) (counts : BreachCounts) (device : DeviceEntity) :
    Option Int := do
  let ageMonths ← checkedAgeMonths now (installedAt device)
  let age ← checkedAgeScore ageMonths (expectedLifespanMonths device)
  let connectivity ← checkedConnectivityScore device.status device.lastSeenAt now
  let telemetry ← checkedTelemetryHealthScore counts
  return jsRound (0 + age * ageWeight + connectivity * connectivityWeight +
    telemetry * telemetryWeight)

theorem checkedAgeMonths_eq (now installedAt : Date) :
    checkedAgeMonths now installedAt =
      some ((now - installedAt : Rat) / msPerDay / daysPerMonth) := by
  simp only [checkedAgeMonths, divide_eq_some msPerDay_pos, divide_eq_some daysPerMonth_pos,
    Option.bind_eq_bind, Option.bind_some]

theorem checkedAgeScore_eq {months : Int} (h : 0 < months) (ageMonths : Rat) :
    checkedAgeScore ageMonths months = some (computeAgeScore ageMonths months) := by
  rw [checkedAgeScore, divide_eq_some (by exact_mod_cast h)]
  rfl

theorem checkedConnectivityScore_eq (status : DeviceStatus) (lastSeenAt : Option Date)
    (now : Date) :
    checkedConnectivityScore status lastSeenAt now =
      some (computeConnectivityScore status lastSeenAt now) := by
  unfold checkedConnectivityScore computeConnectivityScore
  split
  · rfl
  · cases lastSeenAt with
    | none => rfl
    | some lastSeenAt =>
      have full : 0 < connectivityFullDegradeHours := by norm_num [connectivityFullDegradeHours]
      simp only [divide_eq_some msPerHour_pos, divide_eq_some full, Option.bind_eq_bind,
        Option.bind_some, Option.map_some]
      rfl

theorem checkedTelemetryHealthScore_eq (counts : BreachCounts) :
    checkedTelemetryHealthScore counts = some (computeTelemetryHealthScore counts) := by
  unfold checkedTelemetryHealthScore computeTelemetryHealthScore
  split
  · rfl
  · next checked =>
    rw [divide_eq_some (by exact_mod_cast Nat.pos_of_ne_zero checked)]
    rfl

theorem checkedLifecycleScore_eq {device : DeviceEntity}
    (lifespan : 0 < expectedLifespanMonths device) (now : Date) (counts : BreachCounts) :
    checkedLifecycleScore now counts device =
      some (overallScore (lifecycleFactors now counts device)) := by
  simp only [checkedLifecycleScore, checkedAgeMonths_eq, checkedAgeScore_eq lifespan,
    checkedConnectivityScore_eq, checkedTelemetryHealthScore_eq, Option.bind_eq_bind,
    Option.bind_some]
  rfl

/-! ## Factors -/

theorem computeAgeScore_antitone {age age' : Rat} {months : Int} (h : 0 < months)
    (older : age ≤ age') : computeAgeScore age' months ≤ computeAgeScore age months :=
  percent_mono (div_le_div_of_nonneg_right (max_le_max_left 0 older) (by exact_mod_cast h.le))

theorem computeTelemetryHealthScore_antitone {counts counts' : BreachCounts}
    (checks : counts.totalChecks = counts'.totalChecks)
    (breaches : counts.breaches ≤ counts'.breaches) :
    computeTelemetryHealthScore counts' ≤ computeTelemetryHealthScore counts := by
  unfold computeTelemetryHealthScore
  rw [← checks]
  split
  · exact le_refl _
  · exact percent_mono (div_le_div_of_nonneg_right (by exact_mod_cast breaches) (by positivity))

/-- The silence of a device that is not online. -/
def Silenced (status : DeviceStatus) (lastSeenAt lastSeenAt' : Option Date) (now now' : Date) :
    Prop :=
  (lastSeenAt = none ↔ lastSeenAt' = none) ∧
    (status ≠ .online → ∀ seen seen', lastSeenAt = some seen → lastSeenAt' = some seen' →
      now - seen ≤ now' - seen')

theorem computeConnectivityScore_antitone {status : DeviceStatus}
    {lastSeenAt lastSeenAt' : Option Date} {now now' : Date}
    (silenced : Silenced status lastSeenAt lastSeenAt' now now') :
    computeConnectivityScore status lastSeenAt' now' ≤
      computeConnectivityScore status lastSeenAt now := by
  obtain ⟨seen, longer⟩ := silenced
  unfold computeConnectivityScore
  split
  · exact le_refl _
  · next offline =>
    cases lastSeenAt with
    | none => simp [seen.mp rfl]
    | some lastSeenAt =>
      cases lastSeenAt' with
      | none => cases seen.mpr rfl
      | some lastSeenAt' =>
        have hours : (now - lastSeenAt : Rat) ≤ now' - lastSeenAt' := by
          exact_mod_cast longer offline _ _ rfl rfl
        refine percent_mono (div_le_div_of_nonneg_right (div_le_div_of_nonneg_right hours ?_) ?_)
        · exact msPerHour_pos.le
        · norm_num [connectivityFullDegradeHours]

/-- One factor is worse than another of the same weight. -/
def FactorWorn (factor factor' : DeviceLifecycleFactor) : Prop :=
  factor.weight = factor'.weight ∧ 0 ≤ factor.weight ∧ factor'.score ≤ factor.score

theorem overallScore_antitone {factors factors' : List DeviceLifecycleFactor}
    (h : List.Forall₂ FactorWorn factors factors') :
    overallScore factors' ≤ overallScore factors := by
  rw [overallScore_eq, overallScore_eq]
  refine jsRound_mono ?_
  induction h with
  | nil => exact le_refl _
  | cons worn _ ih =>
    obtain ⟨weight, positive, score⟩ := worn
    rw [List.map_cons, List.sum_cons, List.map_cons, List.sum_cons]
    refine add_le_add ?_ ih
    rw [DeviceLifecycleFactor.share, DeviceLifecycleFactor.share, ← weight]
    exact mul_le_mul_of_nonneg_right (by exact_mod_cast score) positive

/-! ## Assessments -/

/-- What an assessment reads. -/
structure Assessed where
  now : Date
  template : Option DeviceTemplateEntity := none
  records : List DeviceTelemetryEntity := []
  device : DeviceEntity

namespace Assessed

def counts (a : Assessed) : BreachCounts :=
  getTelemetryBreachCounts a.now a.template a.records a.device

/-- The columns that the assessment saves. -/
def saved (a : Assessed) : DevicePatch := (assessDevice a.now a.template a.records a.device).1

structure Assessable (a : Assessed) : Prop where
  stage : a.device.lifecycleStage ≠ .decommissioned
  lifespan : ∀ months, a.device.expectedLifespanMonths = some months → 0 < months

/-- The second assessment finds an older device, silent for longer or with more breaches. -/
structure Worn (a b : Assessed) : Prop where
  lifespan : a.device.expectedLifespanMonths = b.device.expectedLifespanMonths
  status : a.device.status = b.device.status
  older : ageMonths a.device a.now ≤ ageMonths b.device b.now
  silenced : Silenced a.device.status a.device.lastSeenAt b.device.lastSeenAt a.now b.now
  totalChecks : a.counts.totalChecks = b.counts.totalChecks
  breaches : a.counts.breaches ≤ b.counts.breaches

def score (a : Assessed) : Int := overallScore (lifecycleFactors a.now a.counts a.device)

theorem Assessable.expectedLifespanMonths_pos {a : Assessed} (h : a.Assessable) :
    0 < expectedLifespanMonths a.device := by
  unfold expectedLifespanMonths
  cases months : a.device.expectedLifespanMonths with
  | none => decide
  | some months' => exact h.lifespan months' months

theorem score_antitone {a b : Assessed} (ha : a.Assessable) (worn : Worn a b) :
    b.score ≤ a.score := by
  have sameMonths : expectedLifespanMonths b.device = expectedLifespanMonths a.device := by
    unfold expectedLifespanMonths
    rw [worn.lifespan]
  have age := computeAgeScore_antitone ha.expectedLifespanMonths_pos worn.older
  have conn := computeConnectivityScore_antitone worn.silenced
  have tele := computeTelemetryHealthScore_antitone worn.totalChecks worn.breaches
  refine overallScore_antitone
    (.cons ⟨rfl, ?_, ?_⟩ (.cons ⟨rfl, ?_, ?_⟩ (.cons ⟨rfl, ?_, tele⟩ .nil)))
  · norm_num [ageWeight]
  · simpa only [sameMonths] using age
  · norm_num [connectivityWeight]
  · simpa only [← worn.status] using conn
  · norm_num [telemetryWeight]

end Assessed

/-! ## Stages -/

/-- The healthier a stage, the higher. -/
def healthRank : DeviceLifecycleStage → Nat
  | .new => 5
  | .active => 4
  | .aging => 3
  | .maintenanceDue => 2
  | .endOfLife => 1
  | .decommissioned => 0

/-- The stage that a score alone gives. -/
def stageOfScore (score : Int) : DeviceLifecycleStage :=
  ((stageScoreThresholds.find? fun threshold => threshold.2 ≤ score).map (·.1)).getD .endOfLife

theorem stageOfScore_eq (score : Int) :
    stageOfScore score = if 80 ≤ score then .active else if 60 ≤ score then .aging
      else if 35 ≤ score then .maintenanceDue else .endOfLife := by
  unfold stageOfScore stageScoreThresholds
  split
  · next h => simp [h]
  · next h =>
    split
    · next h' => simp [h, h']
    · next h' =>
      split
      · next h'' => simp [h, h', h'']
      · next h'' => simp [h, h', h'']

theorem healthRank_stageOfScore {score score' : Int} (h : score' ≤ score) :
    healthRank (stageOfScore score') ≤ healthRank (stageOfScore score) := by
  rw [stageOfScore_eq, stageOfScore_eq]
  split_ifs <;> first | omega | decide

theorem healthRank_stageOfScore_le (score : Int) : healthRank (stageOfScore score) ≤ 4 := by
  rw [stageOfScore_eq]
  split_ifs <;> decide

/-- A device that is not seen yet is new for some days. -/
def InGrace (device : DeviceEntity) (now : Date) : Prop :=
  (now - installedAt device : Rat) / msPerDay < newStageGraceDays ∧ device.lastSeenAt = none

theorem deriveStage_eq {device : DeviceEntity} (h : device.lifecycleStage ≠ .decommissioned)
    (score : Int) (now : Date) :
    (InGrace device now ∧ deriveStage device score now = .new) ∨
      (¬ InGrace device now ∧ deriveStage device score now = stageOfScore score) := by
  unfold deriveStage
  rw [if_neg h]
  by_cases grace : InGrace device now
  · exact .inl ⟨grace, if_pos grace⟩
  · exact .inr ⟨grace, if_neg grace⟩

namespace Assessed

/-- A worn device is in its grace days only if it was in them before. -/
theorem Worn.inGrace {a b : Assessed} (worn : Worn a b) (h : InGrace b.device b.now) :
    InGrace a.device a.now := by
  obtain ⟨days, unseen⟩ := h
  refine ⟨lt_of_le_of_lt ?_ days, worn.silenced.1.mpr unseen⟩
  have older := mul_le_mul_of_nonneg_right worn.older daysPerMonth_pos.le
  unfold ageMonths at older
  rwa [div_mul_cancel₀ _ daysPerMonth_pos.ne', div_mul_cancel₀ _ daysPerMonth_pos.ne'] at older

theorem healthRank_deriveStage {a b : Assessed} (ha : a.Assessable) (hb : b.Assessable)
    (worn : Worn a b) :
    healthRank (deriveStage b.device b.score b.now) ≤
      healthRank (deriveStage a.device a.score a.now) := by
  rcases deriveStage_eq ha.stage a.score a.now with ⟨-, fresh⟩ | ⟨late, stage⟩
  · rw [fresh]
    rcases deriveStage_eq hb.stage b.score b.now with ⟨-, fresh'⟩ | ⟨-, stage'⟩
    · rw [fresh']
    · rw [stage']
      exact (healthRank_stageOfScore_le _).trans (by decide)
  · rcases deriveStage_eq hb.stage b.score b.now with ⟨grace, -⟩ | ⟨-, stage'⟩
    · exact absurd (worn.inGrace grace) late
    · rw [stage, stage']
      exact healthRank_stageOfScore (score_antitone ha worn)

end Assessed

/-- The saved score is an integer from 0 to 100 in whose computation no divisor is 0. Wear does
not raise it, and the stage does not become healthier. -/
theorem lifecycle_score_antitone {a b : Assessed} (ha : a.Assessable) (hb : b.Assessable) :
    ∃ score score' stage stage',
      a.saved.lifecycleScore = some score ∧ b.saved.lifecycleScore = some score' ∧
      a.saved.lifecycleStage = some stage ∧ b.saved.lifecycleStage = some stage' ∧
      (0 ≤ score ∧ score ≤ 100) ∧ (0 ≤ score' ∧ score' ≤ 100) ∧
      checkedLifecycleScore a.now a.counts a.device = some score ∧
      checkedLifecycleScore b.now b.counts b.device = some score' ∧
      (Assessed.Worn a b → score' ≤ score ∧ healthRank stage' ≤ healthRank stage) :=
  ⟨a.score, b.score, _, _, rfl, rfl, rfl, rfl, overallScore_bounds _ _ _,
    overallScore_bounds _ _ _, checkedLifecycleScore_eq ha.expectedLifespanMonths_pos _ _,
    checkedLifecycleScore_eq hb.expectedLifespanMonths_pos _ _,
    fun worn => ⟨Assessed.score_antitone ha worn, Assessed.healthRank_deriveStage ha hb worn⟩⟩

/-- A pump that went offline at time 0. -/
def silentPump (now : Date) : Assessed :=
  { now := now
    device :=
      { id := "d1", deviceId := "pump-1", name := "Pump", templateId := "t1", userId := "u1"
        lastSeenAt := some 0 } }

theorem silentPump_counts (now : Date) : (silentPump now).counts = {} := by
  simp [silentPump, Assessed.counts, getTelemetryBreachCounts, recentTelemetry]

theorem silentPump_worn : Assessed.Worn (silentPump 0) (silentPump 259200000) where
  lifespan := rfl
  status := rfl
  older := by norm_num [silentPump, ageMonths, installedAt, msPerDay, msPerHour, daysPerMonth]
  silenced := by simp [Silenced, silentPump]
  totalChecks := by rw [silentPump_counts, silentPump_counts]
  breaches := by rw [silentPump_counts, silentPump_counts]

theorem lifecycle_score_antitone_silentPump :
    ∃ score score', (silentPump 0).saved.lifecycleScore = some score ∧
      (silentPump 259200000).saved.lifecycleScore = some score' ∧ score' ≤ score := by
  have assessable (now : Date) : (silentPump now).Assessable :=
    ⟨by simp [silentPump], by simp [silentPump]⟩
  obtain ⟨score, score', _, _, before, after, -, -, -, -, -, -, worn⟩ :=
    lifecycle_score_antitone (assessable 0) (assessable 259200000)
  exact ⟨score, score', before, after, (worn silentPump_worn).1⟩

end AiotCloud
