import Mathlib.Algebra.BigOperators.Group.List.Basic
import Mathlib.Algebra.BigOperators.Ring.List
import Mathlib.Algebra.Order.BigOperators.Group.List
import Mathlib.Algebra.Order.Floor.Ring
import Mathlib.Data.Rat.Floor
import Mathlib.Tactic.Linarith
import AiotCloud.BootConfig
import AiotCloud.DeviceMessages

/-!
# Device lifecycle

`DeviceLifecycleService`: the assessment of a device, the edit of its lifecycle
config, and its decommissioning, with the scores of `health-scoring.util.ts`. Numbers
are exact; the texts that explain a factor are left out.

1. `assessDevice_score`: an assessment saves a score from 0 to 100.
2. `breaches_le_totalChecks`: no more breaches than checks are counted.
3. `assessDevice_decommissioned`: the stage of a decommissioned copy stays.
-/

namespace AiotCloud

/-! ## Scores -/

/-- `Math.round`. -/
def jsRound (value : Rat) : Int := ⌊value + 1 / 2⌋

/-- `Math.min(max, Math.max(min, value))`. -/
def clamp (value low high : Rat) : Rat := min high (max low value)

def roundTo (value : Rat) (decimals : Nat) : Rat := jsRound (value * 10 ^ decimals) / 10 ^ decimals

def connectivityFullDegradeHours : Rat := 72
def msPerHour : Rat := 60 * 60 * 1000
def msPerDay : Rat := 24 * msPerHour

def computeAgeScore (ageMonths : Rat) (expectedLifespanMonths : Int) : Int :=
  jsRound (clamp (100 * (1 - max 0 ageMonths / expectedLifespanMonths)) 0 100)

def computeConnectivityScore (status : DeviceStatus) (lastSeenAt : Option Date) (now : Date) :
    Int :=
  if status = .online then 100
  else
    match lastSeenAt with
    | none => 100
    | some lastSeenAt =>
      let offlineHours := (now - lastSeenAt : Rat) / msPerHour
      jsRound (clamp (100 * (1 - offlineHours / connectivityFullDegradeHours)) 0 100)

/-! ## Telemetry breaches -/

def telemetryAssessmentWindowDays : Int := 30
def telemetryAssessmentSampleLimit : Nat := 500

/-- `payload[key]`. -/
def Json.get (key : String) : Json → Option Json
  | .object fields => fields.lookup key
  | .array items =>
    if key = "length" then some (.number items.length)
    else (items.zipIdx.find? fun item => toString item.2 == key).map (·.1)
  | _ => none

structure BreachCounts where
  breaches : Nat := 0
  totalChecks : Nat := 0
deriving DecidableEq, Repr

/-- One reading against its warning band. -/
def countReading (device : DeviceEntity) (payload : Json) (counts : BreachCounts)
    (field : TelemetryFieldDefinition) : BreachCounts :=
  match payload.get field.key with
  | some (.number value) =>
    let override := device.warningOverrides.bind (·.lookup field.key)
    if override.bind (·.enabled) = some false then counts
    else
      let low := override.bind (·.min) <|> field.warningMin
      let high := override.bind (·.max) <|> field.warningMax
      if low = none ∧ high = none then counts
      else
        { breaches := counts.breaches +
            if low.any (value < ·) || high.any (· < value) then 1 else 0
          totalChecks := counts.totalChecks + 1 }
  | _ => counts

/-- The records of the window, newest first, up to the limit. -/
def recentTelemetry (now : Date) (deviceId : String) (records : List DeviceTelemetryEntity) :
    List DeviceTelemetryEntity :=
  let since := now - telemetryAssessmentWindowDays * (24 * 60 * 60 * 1000)
  ((records.filter fun record => record.deviceId = deviceId ∧ since ≤ record.recordedAt).mergeSort
    fun a b => decide (b.recordedAt ≤ a.recordedAt)).take telemetryAssessmentSampleLimit

def getTelemetryBreachCounts (now : Date) (template : Option DeviceTemplateEntity)
    (records : List DeviceTelemetryEntity) (device : DeviceEntity) : BreachCounts :=
  let schema := (template.bind (·.telemetrySchema)).getD []
  (recentTelemetry now device.id records).foldl
    (fun counts record => schema.foldl (countReading device record.payload) counts) {}

/-! ## The assessment -/

def defaultExpectedLifespanMonths : Int := 60
def newStageGraceDays : Rat := 14
def ageWeight : Rat := 25 / 100
def connectivityWeight : Rat := 35 / 100
def telemetryWeight : Rat := 4 / 10
def daysPerMonth : Rat := 3044 / 100

/-- `STAGE_SCORE_THRESHOLDS`. -/
def stageScoreThresholds : List (DeviceLifecycleStage × Int) :=
  [(.active, 80), (.aging, 60), (.maintenanceDue, 35)]

structure DeviceLifecycleFactor where
  key : String
  label : String
  score : Int
  weight : Rat
deriving DecidableEq, Repr

structure DeviceLifecycleAssessmentDto where
  deviceId : String
  stage : DeviceLifecycleStage
  score : Int
  installedAt : Date
  expectedLifespanMonths : Int
  ageMonths : Rat
  remainingLifespanMonths : Rat
  factors : List DeviceLifecycleFactor
  assessedAt : Date
  decommissionedAt : Option Date
deriving DecidableEq, Repr

def installedAt (device : DeviceEntity) : Date := device.installedAt.getD device.createdAt

def expectedLifespanMonths (device : DeviceEntity) : Int :=
  device.expectedLifespanMonths.getD defaultExpectedLifespanMonths

def ageMonths (device : DeviceEntity) (now : Date) : Rat :=
  (now - installedAt device : Rat) / msPerDay / daysPerMonth

def computeTelemetryHealthScore (counts : BreachCounts) : Int :=
  if counts.totalChecks = 0 then 100
  else jsRound (clamp (100 * (1 - (counts.breaches : Rat) / counts.totalChecks)) 0 100)

def lifecycleFactors (now : Date) (counts : BreachCounts) (device : DeviceEntity) :
    List DeviceLifecycleFactor :=
  [{ key := "age", label := "Device age", weight := ageWeight
     score := computeAgeScore (ageMonths device now) (expectedLifespanMonths device) },
   { key := "connectivity", label := "Connectivity", weight := connectivityWeight
     score := computeConnectivityScore device.status device.lastSeenAt now },
   { key := "telemetryHealth", label := "Telemetry health", weight := telemetryWeight
     score := computeTelemetryHealthScore counts }]

/-- `Math.round(factors.reduce((sum, factor) => sum + factor.score * factor.weight, 0))`. -/
def overallScore (factors : List DeviceLifecycleFactor) : Int :=
  jsRound (factors.foldl (fun sum factor => sum + factor.score * factor.weight) 0)

def deriveStage (device : DeviceEntity) (score : Int) (now : Date) : DeviceLifecycleStage :=
  if device.lifecycleStage = .decommissioned then .decommissioned
  else if (now - installedAt device : Rat) / msPerDay < newStageGraceDays ∧
      device.lastSeenAt = none then .new
  else ((stageScoreThresholds.find? fun threshold => threshold.2 ≤ score).map (·.1)).getD .endOfLife

/-- The columns an assessment updates, and its answer. -/
def assessDevice (now : Date) (template : Option DeviceTemplateEntity)
    (records : List DeviceTelemetryEntity) (device : DeviceEntity) :
    DevicePatch × DeviceLifecycleAssessmentDto :=
  let factors := lifecycleFactors now (getTelemetryBreachCounts now template records device) device
  let score := overallScore factors
  let stage := deriveStage device score now
  ({ lifecycleStage := some stage, lifecycleScore := some score, lifecycleAssessedAt := some now },
    { deviceId := device.id
      stage := stage
      score := score
      installedAt := installedAt device
      expectedLifespanMonths := expectedLifespanMonths device
      ageMonths := roundTo (max 0 (ageMonths device now)) 1
      remainingLifespanMonths := roundTo (expectedLifespanMonths device - ageMonths device now) 1
      factors := factors
      assessedAt := now
      decommissionedAt := device.decommissionedAt })

/-! ## Edits -/

/-- `undefined` leaves a field, `null` clears it. -/
structure UpdateDeviceLifecycleDto where
  installedAt : Option (Option Date) := none
  expectedLifespanMonths : Option (Option Int) := none
deriving DecidableEq, Repr

def applyLifecycleDto (dto : UpdateDeviceLifecycleDto) (device : DeviceEntity) : DeviceEntity :=
  { device with
    installedAt := dto.installedAt.getD device.installedAt
    expectedLifespanMonths := dto.expectedLifespanMonths.getD device.expectedLifespanMonths }

/-- `DeviceLifecycleService.updateConfig`: the answer and its two writes. The assessment
is of the saved copy. -/
def updateLifecycleConfig (now : Date) (template : Option DeviceTemplateEntity)
    (records : List DeviceTelemetryEntity) (dto : UpdateDeviceLifecycleDto) :
    Option DeviceEntity → ResponseCore DeviceLifecycleAssessmentDto × List Persist
  | none => (.fail .notFound "error.deviceNotFound", [])
  | some device =>
    let saved := applyLifecycleDto dto device
    let (columns, assessment) := assessDevice now template records saved
    (.ok assessment, [.save saved, .update columns])

/-- The row `decommission` saves. -/
def decommissioned (now : Date) (device : DeviceEntity) : DeviceEntity :=
  { device with
    lifecycleStage := .decommissioned
    decommissionedAt := some now
    lifecycleAssessedAt := some now
    lifecycleScore := none }

def buildDecommissionedAssessment (now : Date) (device : DeviceEntity) :
    DeviceLifecycleAssessmentDto :=
  let assessedAt := device.lifecycleAssessedAt.getD now
  { deviceId := device.id
    stage := .decommissioned
    score := 0
    installedAt := installedAt device
    expectedLifespanMonths := expectedLifespanMonths device
    ageMonths := roundTo (max 0 (ageMonths device assessedAt)) 1
    remainingLifespanMonths := 0
    factors := []
    assessedAt := assessedAt
    decommissionedAt := device.decommissionedAt }

def decommission (now : Date) :
    Option DeviceEntity → ResponseCore DeviceLifecycleAssessmentDto × Option Persist
  | none => (.fail .notFound "error.deviceNotFound", none)
  | some device =>
    (.ok (buildDecommissionedAssessment now (decommissioned now device)),
      some (.save (decommissioned now device)))

/-! ## Bounds -/

theorem jsRound_clamp (value : Rat) :
    0 ≤ jsRound (clamp value 0 100) ∧ jsRound (clamp value 0 100) ≤ 100 := by
  have low : 0 ≤ clamp value 0 100 := le_min (by norm_num) (le_max_left _ _)
  have high : clamp value 0 100 ≤ 100 := min_le_left _ _
  unfold jsRound
  constructor
  · exact Int.floor_nonneg.mpr (by linarith)
  · have hlt : ⌊clamp value 0 100 + 1 / 2⌋ < 101 := Int.floor_lt.mpr (by push_cast; linarith)
    omega

theorem computeConnectivityScore_bounds (status : DeviceStatus) (lastSeenAt : Option Date)
    (now : Date) :
    0 ≤ computeConnectivityScore status lastSeenAt now ∧
      computeConnectivityScore status lastSeenAt now ≤ 100 := by
  unfold computeConnectivityScore
  split
  · decide
  · split
    · decide
    · exact jsRound_clamp _

theorem computeTelemetryHealthScore_bounds (counts : BreachCounts) :
    0 ≤ computeTelemetryHealthScore counts ∧ computeTelemetryHealthScore counts ≤ 100 := by
  unfold computeTelemetryHealthScore
  split
  · decide
  · exact jsRound_clamp _

/-- What a factor adds to the overall score. -/
def DeviceLifecycleFactor.share (factor : DeviceLifecycleFactor) : Rat :=
  (factor.score : Rat) * factor.weight

theorem overallScore_eq (factors : List DeviceLifecycleFactor) :
    overallScore factors = jsRound (factors.map (·.share)).sum := by
  have run : ∀ (factors : List DeviceLifecycleFactor) (start : Rat),
      factors.foldl (fun sum factor => sum + factor.share) start =
        start + (factors.map (·.share)).sum := by
    intro factors
    induction factors with
    | nil => simp
    | cons factor factors ih =>
      intro start
      rw [List.foldl_cons, ih, List.map_cons, List.sum_cons, ← add_assoc]
  exact congrArg jsRound ((run factors 0).trans (zero_add _))

/-- Where the weights add up to 1, the score is between the least and the greatest of the
factors. -/
theorem overallScore_bounds_of_weights {factors : List DeviceLifecycleFactor}
    (bounds : ∀ factor ∈ factors, 0 ≤ factor.score ∧ factor.score ≤ 100)
    (positive : ∀ factor ∈ factors, 0 ≤ factor.weight)
    (total : (factors.map (·.weight)).sum = 1) :
    0 ≤ overallScore factors ∧ overallScore factors ≤ 100 := by
  have low : 0 ≤ (factors.map (·.share)).sum := by
    refine List.sum_nonneg fun share h => ?_
    obtain ⟨factor, hfactor, rfl⟩ := List.mem_map.mp h
    exact mul_nonneg (by exact_mod_cast (bounds factor hfactor).1) (positive factor hfactor)
  have high : (factors.map (·.share)).sum ≤ 100 := by
    calc (factors.map (·.share)).sum ≤ (factors.map fun factor => 100 * factor.weight).sum :=
          List.sum_le_sum fun factor h =>
            mul_le_mul_of_nonneg_right (by exact_mod_cast (bounds factor h).2) (positive factor h)
      _ = 100 := by rw [List.sum_map_mul_left, total, mul_one]
  rw [overallScore_eq, jsRound]
  constructor
  · exact Int.floor_nonneg.mpr (by linarith)
  · refine Int.lt_add_one_iff.mp (Int.floor_lt.mpr ?_)
    push_cast
    linarith

theorem overallScore_bounds (now : Date) (counts : BreachCounts) (device : DeviceEntity) :
    0 ≤ overallScore (lifecycleFactors now counts device) ∧
      overallScore (lifecycleFactors now counts device) ≤ 100 := by
  refine overallScore_bounds_of_weights ?_ ?_ ?_
  · simp only [lifecycleFactors, List.forall_mem_cons, List.not_mem_nil, false_implies,
      implies_true, and_true]
    exact ⟨jsRound_clamp _, computeConnectivityScore_bounds _ _ _,
      computeTelemetryHealthScore_bounds _⟩
  · norm_num [lifecycleFactors, ageWeight, connectivityWeight, telemetryWeight]
  · norm_num [lifecycleFactors, ageWeight, connectivityWeight, telemetryWeight]

theorem assessDevice_score (now : Date) (template : Option DeviceTemplateEntity)
    (records : List DeviceTelemetryEntity) (device : DeviceEntity) :
    ∃ score, (assessDevice now template records device).1.lifecycleScore = some score ∧
      0 ≤ score ∧ score ≤ 100 :=
  ⟨_, rfl, overallScore_bounds now _ device⟩

theorem countReading_le {device : DeviceEntity} {payload : Json} {counts : BreachCounts}
    (h : counts.breaches ≤ counts.totalChecks) (field : TelemetryFieldDefinition) :
    (countReading device payload counts field).breaches ≤
      (countReading device payload counts field).totalChecks := by
  unfold countReading
  split
  · dsimp only
    split
    · exact h
    · split
      · exact h
      · dsimp only
        split <;> omega
  · exact h

theorem breaches_le_totalChecks (now : Date) (template : Option DeviceTemplateEntity)
    (records : List DeviceTelemetryEntity) (device : DeviceEntity) :
    (getTelemetryBreachCounts now template records device).breaches ≤
      (getTelemetryBreachCounts now template records device).totalChecks := by
  have keeps : ∀ (fields : List TelemetryFieldDefinition) (payload : Json) (counts : BreachCounts),
      counts.breaches ≤ counts.totalChecks →
      (fields.foldl (countReading device payload) counts).breaches ≤
        (fields.foldl (countReading device payload) counts).totalChecks := by
    intro fields payload
    induction fields with
    | nil => exact fun _ h => h
    | cons field fields ih => exact fun counts h => ih _ (countReading_le h field)
  unfold getTelemetryBreachCounts
  generalize recentTelemetry now device.id records = recent
  have start : ({} : BreachCounts).breaches ≤ ({} : BreachCounts).totalChecks := le_refl 0
  generalize ({} : BreachCounts) = counts at start
  induction recent generalizing counts with
  | nil => exact start
  | cons record recent ih => exact ih _ (keeps _ record.payload counts start)

theorem assessDevice_decommissioned (now : Date) (template : Option DeviceTemplateEntity)
    (records : List DeviceTelemetryEntity) {device : DeviceEntity}
    (h : device.lifecycleStage = .decommissioned) :
    (assessDevice now template records device).1.lifecycleStage = some .decommissioned := by
  simp [assessDevice, deriveStage, h]

end AiotCloud
