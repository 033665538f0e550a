import AiotCloud.OtaHistory

/-!
# The columns of an update

Status, progress and error of a device and of its attempts, one call at a time. An error
stays on the device until a report of success or the next attempt.

1. `progressFits_reported`: a report leaves a progress from 0 to 100.
2. `Columns.step`: what a call preserves.
3. `ota_columns`: after every run.
-/

namespace AiotCloud

/-! ## What the columns say -/

/-- A progress is from 0 to 100, and 100 after a success. -/
structure ProgressFits (status : DeviceOtaStatus) (progress : Option Int) : Prop where
  range : ∀ p, progress = some p → 0 ≤ p ∧ p ≤ 100
  success : status = .success → progress = some 100

/-- An attempt has an error exactly if it failed, and is completed if it failed or succeeded. -/
structure RowFits (row : DeviceOtaUpdateEntity) : Prop where
  progress : ProgressFits row.status row.progress
  error : row.error ≠ none ↔ row.status = .failed
  completed : row.status.Terminal → row.completedAt ≠ none

/-- What a call decides about the error: a failure sets it, a success and a new attempt clear
it. -/
def decides (w : OtaWorld) : OtaEvent → Option Bool
  | .trigger env call => (startsUpdate env call w).map fun _ => false
  | .report report =>
    match applyReport report (findReported w report) with
    | .error _ => none
    | .ok saved =>
      if saved.otaStatus = .failed then some true
      else if saved.otaStatus = .success then some false
      else none

/-- What the calls of a run decide about the error, in order. -/
def decisions (w : OtaWorld) : List OtaEvent → List Bool
  | [] => []
  | e :: es => (decides w e).toList ++ decisions (otaStep w e) es

theorem decisions_concat (w : OtaWorld) (es : List OtaEvent) (e : OtaEvent) :
    decisions w (es ++ [e]) = decisions w es ++ (decides (Run.exec otaStep w es) e).toList := by
  induction es generalizing w with
  | nil => simp [decisions]
  | cons e' es ih =>
    rw [List.cons_append, decisions, decisions, ih, List.append_assoc, Run.exec_cons]

/-- The last decision is a failure. -/
def FailedLast (made : List Bool) : Prop := made.getLast? = some true

theorem failedLast_append_none (made : List Bool) :
    FailedLast (made ++ (none : Option Bool).toList) ↔ FailedLast made := by
  rw [Option.toList_none, List.append_nil]

theorem failedLast_append_some (made : List Bool) (failed : Bool) :
    FailedLast (made ++ (some failed).toList) ↔ failed = true := by
  rw [Option.toList_some, FailedLast, List.getLast?_concat, Option.some_inj]

/-- The state after calls that made these decisions. -/
structure Columns (made : List Bool) (w : OtaWorld) : Prop where
  progress : ProgressFits w.device.otaStatus w.device.otaProgress
  error : w.device.otaError ≠ none ↔ FailedLast made
  failed : w.device.otaStatus = .failed → w.device.otaError ≠ none
  success : w.device.otaStatus = .success → w.device.otaError = none
  rows : ∀ row ∈ w.history, RowFits row

/-! ## One call -/

theorem clampProgress_range {value : JsNumber} {p : Int} (h : clampProgress value = some p) :
    0 ≤ p ∧ p ≤ 100 := by
  cases value with
  | nan => cases h
  | negInfinity =>
    cases h
    decide
  | infinity =>
    cases h
    decide
  | finite q =>
    obtain rfl := Option.some_inj.mp h
    exact ⟨le_min (by decide) (le_max_left _ _), min_le_left _ _⟩

theorem progressFits_reported {device : DeviceEntity} {payload : OtaStatusReportPayload}
    {status : DeviceOtaStatus} {progress : Option Int}
    (h : ProgressFits device.otaStatus device.otaProgress)
    (reported : reportedProgress device payload status = some progress) :
    ProgressFits status progress := by
  unfold reportedProgress at reported
  split at reported
  · next success =>
    obtain rfl := Option.some_inj.mp reported
    exact ⟨by simp, fun _ => rfl⟩
  · next other =>
    refine ⟨?_, fun success => absurd success other⟩
    cases hprogress : payload.progress with
    | none =>
      rw [hprogress] at reported
      obtain rfl := Option.some_inj.mp reported
      exact h.range
    | some value =>
      rw [hprogress] at reported
      obtain ⟨clamped, hclamped, rfl⟩ := Option.map_eq_some_iff.mp reported
      intro p same
      obtain rfl := Option.some_inj.mp same
      exact clampProgress_range hclamped

/-- The attempt that a report saves, which is open. -/
theorem rowFits_reported {row : DeviceOtaUpdateEntity} (h : RowFits row)
    (running : row.completedAt = none) {device : DeviceEntity}
    (progress : ProgressFits device.otaStatus device.otaProgress)
    (failed : device.otaStatus = .failed → device.otaError ≠ none) (now : Date) :
    RowFits (reportedRow row device now) := by
  have clean : row.error = none := by
    by_contra error
    have terminal : row.status.Terminal := .inr (h.error.mp error)
    exact h.completed terminal running
  refine ⟨progress, ?_, ?_⟩
  · show (if device.otaStatus = .success then none
      else if device.otaStatus = .failed then device.otaError else row.error) ≠ none ↔ _
    by_cases hfailed : device.otaStatus = .failed
    · simp [reportedRow, hfailed, failed hfailed]
    · simp [reportedRow, hfailed, clean]
  · intro terminal
    have terminal : device.otaStatus.Terminal := terminal
    simp [reportedRow, terminal]

theorem rowFits_inserted (w : OtaWorld) (firmware : FirmwareEntity) (call : TriggerCall) :
    RowFits (insertedRow w firmware call) := by
  refine ⟨⟨?_, ?_⟩, ?_, ?_⟩
  · rintro p ⟨⟩
    decide
  · rintro ⟨⟩
  · simp [insertedRow, pendingRow]
  · rintro (h | h) <;> cases h

theorem Columns.trigger {made : List Bool} {w : OtaWorld} (h : Columns made w) (env : ApiConfig)
    (call : TriggerCall) :
    Columns (made ++ (decides w (.trigger env call)).toList) (otaStep w (.trigger env call)) := by
  rcases otaStep_trigger env call w with ⟨stays, hstep⟩ | ⟨firmware, instruction, starts, hstep⟩
  · have undecided : decides w (.trigger env call) = none := by rw [decides, stays]; rfl
    rw [hstep, undecided, Option.toList_none, List.append_nil]
    exact h
  · have cleared : decides w (.trigger env call) = some false := by rw [decides, starts]; rfl
    rw [hstep, cleared]
    refine ⟨⟨?_, ?_⟩, ?_, ?_, ?_, ?_⟩
    · rintro p ⟨⟩
      decide
    · rintro ⟨⟩
    · rw [failedLast_append_some]
      simp [pendingDevice]
    · rintro ⟨⟩
    · rintro ⟨⟩
    · intro row hrow
      rcases List.mem_append.mp hrow with hrow | hrow
      · exact h.rows row hrow
      · rw [List.mem_singleton.mp hrow]
        exact rowFits_inserted w firmware call

theorem decides_report {w : OtaWorld} {report : OtaReport} {status : DeviceOtaStatus}
    {progress : Option Int} (takes : Takes w report status progress) :
    decides w (.report report) =
      if status = .failed then some true else if status = .success then some false else none := by
  obtain ⟨device, parsed, reported⟩ := takes
  have applied : applyReport report (findReported w report) =
      .ok (reportedDevice w.device report status progress) :=
    applyReport_eq_ok_iff.mpr ⟨w.device, status, progress, if_pos device, parsed, reported, rfl⟩
  simp only [decides, applied, reportedDevice]

theorem decides_ignored {w : OtaWorld} {report : OtaReport}
    (ignored : ∀ status progress, ¬ Takes w report status progress) :
    decides w (.report report) = none := by
  unfold decides
  dsimp only
  cases applied : applyReport report (findReported w report) with
  | error result => rfl
  | ok saved =>
    obtain ⟨device, status, progress, found, parsed, reported, -⟩ :=
      applyReport_eq_ok_iff.mp applied
    unfold findReported at found
    split at found
    · next hid =>
      obtain rfl := Option.some_inj.mp found
      exact absurd ⟨hid, parsed, reported⟩ (ignored status progress)
    · cases found

theorem Columns.report {made : List Bool} {w : OtaWorld} (h : Columns made w)
    (report : OtaReport) :
    Columns (made ++ (decides w (.report report)).toList) (otaStep w (.report report)) := by
  rcases otaStep_report report w with ⟨ignored, hstep⟩ | ⟨status, progress, takes, hstep⟩
  · rw [hstep, decides_ignored ignored, Option.toList_none, List.append_nil]
    exact h
  · have progressFits : ProgressFits status progress :=
      progressFits_reported h.progress takes.2.2
    have failed : status = .failed →
        (reportedDevice w.device report status progress).otaError ≠ none := by
      rintro rfl
      simp [reportedDevice]
    rw [hstep, decides_report takes]
    refine ⟨progressFits, ?_, failed, ?_, ?_⟩
    · show (if status = .success then none
        else if status = .failed then some _ else w.device.otaError) ≠ none ↔ _
      by_cases hfailed : status = .failed
      · simp only [hfailed, if_true, failedLast_append_some]
        simp
      · by_cases hsuccess : status = .success
        · simp only [hsuccess, if_true, reduceCtorEq, if_false, failedLast_append_some]
          simp
        · simp only [hfailed, hsuccess, if_false, failedLast_append_none]
          exact h.error
    · intro success
      exact if_pos success
    · intro row hrow
      rcases reportedHistory_cases w.history (reportedDevice w.device report status progress)
          report.now with
        ⟨-, hsame⟩ | ⟨latest, hlatest, running, hsaved⟩ | ⟨latest, -, -, hsame⟩
      · exact h.rows row (hsame ▸ hrow)
      · have hrow : row ∈ saveRow (reportedRow latest
            (reportedDevice w.device report status progress) report.now) w.history := hsaved ▸ hrow
        obtain ⟨old, hold, rfl⟩ := List.mem_map.mp hrow
        split
        · exact rowFits_reported (h.rows latest (Table.mem_of_latest hlatest)) running
            progressFits failed report.now
        · exact h.rows old hold
      · exact h.rows row (hsame ▸ hrow)

theorem Columns.step {made : List Bool} {w : OtaWorld} (h : Columns made w) (e : OtaEvent) :
    Columns (made ++ (decides w e).toList) (otaStep w e) := by
  cases e with
  | trigger env call => exact h.trigger env call
  | report report => exact h.report report

/-! ## Runs -/

/-- A device as registration leaves it. -/
structure Unused (w : OtaWorld) : Prop where
  history : w.history = []
  status : w.device.otaStatus = .idle
  progress : w.device.otaProgress = none
  error : w.device.otaError = none

theorem Unused.columns {w : OtaWorld} (h : Unused w) : Columns [] w := by
  refine ⟨⟨?_, ?_⟩, ?_, ?_, ?_, ?_⟩
  · simp [h.progress]
  · simp [h.status]
  · simp [h.error, FailedLast]
  · simp [h.status]
  · simp [h.status]
  · simp [h.history]

theorem columns_exec {w : OtaWorld} (h : Unused w) (es : List OtaEvent) :
    Columns (decisions w es) (Run.exec otaStep w es) := by
  induction es using List.reverseRecOn with
  | nil => exact h.columns
  | append_singleton es e ih =>
    rw [decisions_concat, Run.exec_append]
    exact ih.step e

/-- After every run the progress of the device and of each attempt fits the status. A device has
an error exactly if a failure was reported and no success was, and no attempt begun, after it;
an attempt has one exactly if it failed. -/
theorem ota_columns {w : OtaWorld} (h : Unused w) (es : List OtaEvent) :
    ProgressFits (Run.exec otaStep w es).device.otaStatus
        (Run.exec otaStep w es).device.otaProgress ∧
      ((Run.exec otaStep w es).device.otaError ≠ none ↔ FailedLast (decisions w es)) ∧
      ((Run.exec otaStep w es).device.otaStatus = .failed →
        (Run.exec otaStep w es).device.otaError ≠ none) ∧
      ((Run.exec otaStep w es).device.otaStatus = .success →
        (Run.exec otaStep w es).device.otaError = none) ∧
      ∀ row ∈ (Run.exec otaStep w es).history,
        ProgressFits row.status row.progress ∧ (row.error ≠ none ↔ row.status = .failed) := by
  have columns := columns_exec h es
  exact ⟨columns.progress, columns.error, columns.failed, columns.success,
    fun row hrow => ⟨(columns.rows row hrow).progress, (columns.rows row hrow).error⟩⟩

/-! ### A device that tries again -/

theorem idleWorld_unused : Unused idleWorld := ⟨rfl, rfl, rfl, rfl⟩

/-- An update fails and the device downloads it again. -/
def retriedUpdate : List OtaEvent :=
  [.trigger defaultEnv (updateTo2 1), .report (relayReport .failed none 2),
    .report (relayReport .downloading none 3)]

/-- The error of the failure is still there. -/
theorem retriedUpdate_error :
    ¬ ((Run.exec otaStep idleWorld retriedUpdate).device.otaError ≠ none ↔
      (Run.exec otaStep idleWorld retriedUpdate).device.otaStatus = .failed) := by
  decide

theorem ota_columns_retriedUpdate :
    (Run.exec otaStep idleWorld retriedUpdate).device.otaError ≠ none ↔
      FailedLast (decisions idleWorld retriedUpdate) :=
  (ota_columns idleWorld_unused retriedUpdate).2.1

end AiotCloud
