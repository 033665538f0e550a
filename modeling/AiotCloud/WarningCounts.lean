import Mathlib.Algebra.BigOperators.Group.List.Basic
import Mathlib.Data.List.Perm.Basic
import AiotCloud.Lifecycle
import AiotCloud.Notifications

/-!
# Readings that alert

`DeviceWarningListener.handleTelemetry` and the lifecycle assessment each compare a reading
with its warning band.

1. `countReading_eq`: a reading counts as a breach if and only if the listener warns of it.
2. `breachCounts_eq_warnings`: over the telemetry of a device.
-/

namespace AiotCloud

/-! ## The listener -/

structure ThresholdBreach where
  min : Option Rat
  max : Option Rat
  channels : Option (List NotificationChannelType)
deriving DecidableEq, Repr

def checkThreshold (field : TelemetryFieldDefinition) (value : Rat)
    (override : Option DeviceWarningThreshold) : Option ThresholdBreach :=
  if override.bind (·.enabled) = some false then none
  else
    let low := override.bind (·.min) <|> field.warningMin
    let high := override.bind (·.max) <|> field.warningMax
    if low = none ∧ high = none then none
    else if low.any (value < ·) || high.any (· < value) then
      some { min := low, max := high, channels := override.bind (·.channels) }
    else none

/-- `numberText` is how a template literal writes a number. -/
def buildMessage (numberText : Rat → String) (deviceName : String)
    (field : TelemetryFieldDefinition) (value : Rat) (breach : ThresholdBreach) : String :=
  let low := breach.min.map fun min => "tối thiểu " ++ numberText min
  let high := breach.max.map fun max => "tối đa " ++ numberText max
  let range := ", ".intercalate (low.toList ++ high.toList)
  "[Cảnh báo] " ++ deviceName ++ ": " ++ field.label ++ " = " ++ numberText value ++
    field.unit.getD "" ++ " (kỳ vọng " ++ range ++ ")"

/-- One round of the loop over the schema. -/
def warningOf (numberText : Rat → String) (device : DeviceEntity) (payload : Json)
    (field : TelemetryFieldDefinition) : Option WarningRequest :=
  match payload.get field.key with
  | some (.number value) =>
    (checkThreshold field value (device.warningOverrides.bind (·.lookup field.key))).map
      fun breach =>
        { userId := device.userId
          message := buildMessage numberText device.name field value breach
          channels := breach.channels
          deviceId := some device.id }
  | _ => none

/-- The calls of `sendWarning` for one telemetry event, each of which returns. -/
def handleTelemetry (numberText : Rat → String) (template : Option DeviceTemplateEntity)
    (payload : Json) : Option DeviceEntity → List WarningRequest
  | none => []
  | some device =>
    match template.bind (·.telemetrySchema) with
    | none => []
    | some schema => schema.filterMap (warningOf numberText device payload)

/-! ## Checks -/

/-- The payload has a number for the field. -/
def readsNumber (payload : Json) (field : TelemetryFieldDefinition) : Bool :=
  match payload.get field.key with
  | some (.number _) => true
  | _ => false

/-- The override of a field. -/
def overrideOf (device : DeviceEntity) (field : TelemetryFieldDefinition) :
    Option DeviceWarningThreshold := device.warningOverrides.bind (·.lookup field.key)

/-- The bounds of the band, of the override or else of the template. -/
def lowBound (device : DeviceEntity) (field : TelemetryFieldDefinition) : Option Rat :=
  (overrideOf device field).bind (·.min) <|> field.warningMin

def highBound (device : DeviceEntity) (field : TelemetryFieldDefinition) : Option Rat :=
  (overrideOf device field).bind (·.max) <|> field.warningMax

/-- A reading is a number, its gate is not disabled and its band has a bound. -/
def IsChecked (device : DeviceEntity) (payload : Json) (field : TelemetryFieldDefinition) : Prop :=
  readsNumber payload field ∧ (overrideOf device field).bind (·.enabled) ≠ some false ∧
    (lowBound device field ≠ none ∨ highBound device field ≠ none)

instance (device : DeviceEntity) (payload : Json) :
    DecidablePred (IsChecked device payload) :=
  fun _ => inferInstanceAs (Decidable (_ ∧ _ ∧ _))

variable (numberText : Rat → String) {device : DeviceEntity}

theorem checkThreshold_isSome (field : TelemetryFieldDefinition) (value : Rat) :
    (checkThreshold field value (overrideOf device field)).isSome =
      (decide ((overrideOf device field).bind (·.enabled) ≠ some false) &&
        ((lowBound device field).any (value < ·) || (highBound device field).any (· < value))) := by
  show Option.isSome (if _ then _
    else if lowBound device field = none ∧ highBound device field = none then none
    else if (lowBound device field).any (value < ·) || (highBound device field).any (· < value)
      then _ else none) = _
  by_cases disabled : (overrideOf device field).bind (·.enabled) = some false
  · simp [disabled]
  · rw [if_neg disabled, decide_eq_true disabled, Bool.true_and]
    by_cases unbounded : lowBound device field = none ∧ highBound device field = none
    · simp [unbounded]
    · rw [if_neg unbounded]
      split
      · next outside => rw [outside, Option.isSome_some]
      · next inside => rw [Bool.eq_false_iff.mpr inside, Option.isSome_none]

/-- A reading that is no number is passed over by both. -/
theorem countReading_of_not_number {payload : Json} {field : TelemetryFieldDefinition}
    (h : ∀ value, payload.get field.key ≠ some (.number value)) (counts : BreachCounts) :
    countReading device payload counts field = counts ∧
      warningOf numberText device payload field = none ∧ ¬ IsChecked device payload field := by
  refine ⟨?_, ?_, ?_⟩
  · unfold countReading
    split
    · next value number => exact absurd number (h value)
    · rfl
  · unfold warningOf
    split
    · next value number => exact absurd number (h value)
    · rfl
  · unfold IsChecked readsNumber
    split
    · next value number => exact absurd number (h value)
    · simp

/-- The assessment counts a check where there is one, and a breach where the listener warns. -/
theorem countReading_eq (payload : Json) (counts : BreachCounts)
    (field : TelemetryFieldDefinition) :
    countReading device payload counts field =
      { breaches := counts.breaches +
          if (warningOf numberText device payload field).isSome then 1 else 0
        totalChecks := counts.totalChecks + if IsChecked device payload field then 1 else 0 } := by
  by_cases reads : ∃ value, payload.get field.key = some (.number value)
  · obtain ⟨value, number⟩ := reads
    have warns : (warningOf numberText device payload field).isSome =
        (checkThreshold field value (overrideOf device field)).isSome := by
      simp only [warningOf, number, Option.isSome_map, overrideOf]
    have counted : countReading device payload counts field =
        if (overrideOf device field).bind (·.enabled) = some false then counts
        else if lowBound device field = none ∧ highBound device field = none then counts
        else
          { breaches := counts.breaches +
              if (lowBound device field).any (value < ·) || (highBound device field).any (· < value)
              then 1 else 0
            totalChecks := counts.totalChecks + 1 } := by
      simp only [countReading, number, overrideOf, lowBound, highBound]
      rfl
    have number' : readsNumber payload field = true := by simp only [readsNumber, number]
    have checked : IsChecked device payload field ↔
        (overrideOf device field).bind (·.enabled) ≠ some false ∧
          (lowBound device field ≠ none ∨ highBound device field ≠ none) := by
      simp only [IsChecked, number', true_and]
    simp only [counted, warns, checkThreshold_isSome, checked]
    by_cases disabled : (overrideOf device field).bind (·.enabled) = some false
    · simp [disabled]
    · by_cases unbounded : lowBound device field = none ∧ highBound device field = none
      · simp [unbounded]
      · simp [disabled, unbounded, ← not_and_or]
  · obtain ⟨same, silent, unchecked⟩ := countReading_of_not_number numberText
      (fun value number => reads ⟨value, number⟩) counts
    rw [same, silent, if_neg unchecked]
    rfl

/-! ## All telemetry -/

theorem foldl_countReading_eq (payload : Json) (schema : List TelemetryFieldDefinition)
    (counts : BreachCounts) :
    schema.foldl (countReading device payload) counts =
      { breaches := counts.breaches +
          (schema.filterMap (warningOf numberText device payload)).length
        totalChecks := counts.totalChecks + schema.countP (IsChecked device payload ·) } := by
  induction schema generalizing counts with
  | nil => rfl
  | cons field schema ih =>
    rw [List.foldl_cons, ih, countReading_eq numberText, List.countP_cons]
    cases warns : warningOf numberText device payload field with
    | none =>
      rw [List.filterMap_cons_none warns]
      simp [add_assoc, add_comm]
    | some request =>
      rw [List.filterMap_cons_some warns]
      simp [add_assoc, add_comm, add_left_comm]

/-- The warnings of a list of payloads. -/
def warningCount (numberText : Rat → String) (template : Option DeviceTemplateEntity)
    (device : DeviceEntity) (payloads : List Json) : Nat :=
  (payloads.map fun payload => (handleTelemetry numberText template payload device).length).sum

def checkCount (template : Option DeviceTemplateEntity) (device : DeviceEntity)
    (payloads : List Json) : Nat :=
  (payloads.product ((template.bind (·.telemetrySchema)).getD [])).countP
    fun pair => decide (IsChecked device pair.1 pair.2)

theorem length_handleTelemetry (template : Option DeviceTemplateEntity) (payload : Json) :
    (handleTelemetry numberText template payload device).length =
      (((template.bind (·.telemetrySchema)).getD []).filterMap
        (warningOf numberText device payload)).length := by
  unfold handleTelemetry
  dsimp only
  cases template.bind (·.telemetrySchema) <;> rfl

theorem checkCount_cons (template : Option DeviceTemplateEntity) (payload : Json)
    (payloads : List Json) :
    checkCount template device (payload :: payloads) =
      ((template.bind (·.telemetrySchema)).getD []).countP (IsChecked device payload ·) +
        checkCount template device payloads := by
  unfold checkCount
  generalize (template.bind (·.telemetrySchema)).getD [] = schema
  have pairs : (payload :: payloads).product schema =
      schema.map (Prod.mk payload) ++ payloads.product schema := List.product_cons payload ..
  rw [pairs, List.countP_append, List.countP_map]
  rfl

theorem getTelemetryBreachCounts_eq (now : Date) (template : Option DeviceTemplateEntity)
    (records : List DeviceTelemetryEntity) :
    getTelemetryBreachCounts now template records device =
      { breaches := warningCount numberText template device
          ((recentTelemetry now device.id records).map (·.payload))
        totalChecks := checkCount template device
          ((recentTelemetry now device.id records).map (·.payload)) } := by
  have run : ∀ (recent : List DeviceTelemetryEntity) (counts : BreachCounts),
      recent.foldl (fun counts record => ((template.bind (·.telemetrySchema)).getD []).foldl
          (countReading device record.payload) counts) counts =
        { breaches := counts.breaches +
            warningCount numberText template device (recent.map (·.payload))
          totalChecks := counts.totalChecks +
            checkCount template device (recent.map (·.payload)) } := by
    intro recent
    induction recent with
    | nil => exact fun _ => rfl
    | cons record recent ih =>
      intro counts
      rw [List.foldl_cons, ih, foldl_countReading_eq numberText]
      simp only [warningCount, checkCount_cons, List.map_cons, List.sum_cons,
        length_handleTelemetry, add_assoc]
  refine (run (recentTelemetry now device.id records) {}).trans ?_
  simp only [zero_add]

/-- The telemetry of the device in the window of the assessment, no more than its limit. -/
structure WithinWindow (now : Date) (device : DeviceEntity)
    (records : List DeviceTelemetryEntity) : Prop where
  window : ∀ record ∈ records, record.deviceId = device.id ∧
    now - telemetryAssessmentWindowDays * (24 * 60 * 60 * 1000) ≤ record.recordedAt
  limit : records.length ≤ telemetryAssessmentSampleLimit

theorem WithinWindow.recentTelemetry_perm {now : Date} {records : List DeviceTelemetryEntity}
    (h : WithinWindow now device records) :
    (recentTelemetry now device.id records).Perm records := by
  unfold recentTelemetry
  dsimp only
  rw [List.filter_eq_self.mpr fun record hrecord => decide_eq_true (h.window record hrecord),
    List.take_of_length_le (by rw [List.length_mergeSort]; exact h.limit)]
  exact List.mergeSort_perm _ _

/-- The breaches are the warnings that the listener sends for the same payloads, and the checks
are the pairs of a payload and a field of the schema that are checked. -/
theorem breachCounts_eq_warnings (numberText : Rat → String) {now : Date}
    (template : Option DeviceTemplateEntity) {device : DeviceEntity}
    {records : List DeviceTelemetryEntity} (h : WithinWindow now device records) :
    (getTelemetryBreachCounts now template records device).breaches =
        warningCount numberText template device (records.map (·.payload)) ∧
      (getTelemetryBreachCounts now template records device).totalChecks =
        checkCount template device (records.map (·.payload)) := by
  have payloads := h.recentTelemetry_perm.map (·.payload)
  rw [getTelemetryBreachCounts_eq numberText]
  constructor
  · exact (payloads.map _).sum_eq
  · exact (payloads.product_right _).countP_eq _

/-! ## A motor that ran hot once -/

def motorSchema : DeviceTemplateEntity :=
  { id := "t1", name := "Motor node", type := .sensorNode
    telemetrySchema := some [⟨"temperature", "Temperature", some "C", none, some 80⟩]
    actionSchema := none, isActive := true }

def hotMotor : DeviceEntity :=
  { id := "d1", deviceId := "motor-1", name := "Motor", templateId := "t1", userId := "u1" }

def hotMotorRecords : List DeviceTelemetryEntity :=
  [⟨"d1", .object [("temperature", .number 70)], 0⟩,
    ⟨"d1", .object [("temperature", .number 90)], 1⟩]

theorem breachCounts_eq_warnings_hotMotor :
    (getTelemetryBreachCounts 1 (some motorSchema) hotMotorRecords hotMotor).breaches = 1 ∧
      (getTelemetryBreachCounts 1 (some motorSchema) hotMotorRecords hotMotor).totalChecks = 2 := by
  have window : WithinWindow 1 hotMotor hotMotorRecords := ⟨by decide, by decide⟩
  obtain ⟨breaches, checks⟩ :=
    breachCounts_eq_warnings (fun _ => "") (some motorSchema) window
  exact ⟨breaches.trans (by decide +kernel), checks.trans (by decide +kernel)⟩

end AiotCloud
