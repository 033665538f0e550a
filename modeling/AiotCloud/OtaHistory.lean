import AiotCloud.Ota

/-!
# Update attempts, one call at a time

Runs of `triggerUpdate` and `handleOtaStatusReport` in which every call ends before
the next one starts. The device row caches the state of the latest attempt; the
attempt itself is a history row.

A report changes the device row whenever its status is recognised, and the history
row only while that is open. The two come apart on a late report, on `IDLE`, and
on a success that names another version or none.

1. `agrees_iff_meets`: the cache and the history agree all along a run exactly when
   every report fits the latest attempt.
-/

namespace AiotCloud

open Interleave

/-- A call that runs from start to end. -/
inductive OtaEvent where
  | trigger (env : ApiConfig) (call : TriggerCall)
  | report (report : OtaReport)

def OtaEvent.proc : OtaEvent → Proc OtaWorld OtaStep OtaResult
  | .trigger env call => triggerUpdate env call
  | .report r => handleOtaStatusReport r

def otaStep (w : OtaWorld) (e : OtaEvent) : OtaWorld := (e.proc.exec OtaWorld.act w).1

/-! ## What one call does -/

/-- The row a trigger inserts. -/
def insertedRow (w : OtaWorld) (firmware : FirmwareEntity) (call : TriggerCall) :
    DeviceOtaUpdateEntity :=
  { pendingRow w.device firmware call.now with id := w.history.length }

theorem otaStep_trigger (env : ApiConfig) (call : TriggerCall) (w : OtaWorld) :
    (startsUpdate env call w = none ∧ otaStep w (.trigger env call) = w) ∨
    ∃ firmware instruction, startsUpdate env call w = some (firmware, instruction) ∧
      otaStep w (.trigger env call) =
        { w with
          device := pendingDevice w.device firmware call.now
          history := w.history ++ [insertedRow w firmware call]
          published := w.published ++ [instruction] } := by
  have hexec := exec_triggerUpdate env call w
  cases hstart : startsUpdate env call w with
  | none =>
    rw [hstart] at hexec
    exact Or.inl ⟨rfl, hexec⟩
  | some started =>
    rw [hstart] at hexec
    exact Or.inr ⟨started.1, started.2, rfl, hexec⟩

/-- The device takes the report at this status and progress. -/
def Takes (w : OtaWorld) (report : OtaReport) (status : DeviceOtaStatus)
    (progress : Option Int) : Prop :=
  w.device.deviceId = report.deviceId ∧ parseOtaStatus report.payload.status = some status ∧
    reportedProgress w.device report.payload status = some progress

theorem otaStep_report (report : OtaReport) (w : OtaWorld) :
    ((∀ status progress, ¬ Takes w report status progress) ∧ otaStep w (.report report) = w) ∨
    ∃ status progress, Takes w report status progress ∧
      otaStep w (.report report) =
        { w with
          device := reportedDevice w.device report status progress
          history := reportedHistory w.history
            (reportedDevice w.device report status progress) report.now } := by
  have hexec : otaStep w (.report report) = _ := exec_handleOtaStatusReport report w
  unfold findReported at hexec
  by_cases hid : w.device.deviceId = report.deviceId
  · rw [if_pos hid] at hexec
    cases hparse : parseOtaStatus report.payload.status with
    | none =>
      refine Or.inl ⟨fun _ _ takes => ?_, by simpa [applyReport, hparse] using hexec⟩
      exact absurd (hparse.symm.trans takes.2.1) (by simp)
    | some status =>
      cases hprogress : reportedProgress w.device report.payload status with
      | none =>
        refine Or.inl ⟨fun status' _ takes => ?_,
          by simpa [applyReport, hparse, hprogress] using hexec⟩
        obtain rfl := Option.some_inj.mp (hparse.symm.trans takes.2.1)
        exact absurd (hprogress.symm.trans takes.2.2) (by simp)
      | some progress =>
        refine Or.inr ⟨status, progress, ⟨hid, hparse, hprogress⟩, ?_⟩
        simpa [applyReport, hparse, hprogress] using hexec
  · rw [if_neg hid] at hexec
    exact Or.inl ⟨fun _ _ takes => absurd takes.1 hid, hexec⟩

theorem Takes.unique {w : OtaWorld} {report : OtaReport} {status status' : DeviceOtaStatus}
    {progress progress' : Option Int} (h : Takes w report status progress)
    (h' : Takes w report status' progress') : status = status' ∧ progress = progress' := by
  obtain rfl := Option.some_inj.mp (h.2.1.symm.trans h'.2.1)
  exact ⟨rfl, Option.some_inj.mp (h.2.2.symm.trans h'.2.2)⟩

/-! ## The table of attempts -/

/-- A report saves the latest row just when that is open. -/
theorem reportedHistory_cases (history : List DeviceOtaUpdateEntity) (device : DeviceEntity)
    (now : Date) :
    (latestUpdate history = none ∧ reportedHistory history device now = history) ∨
    (∃ row, latestUpdate history = some row ∧ row.completedAt = none ∧
      reportedHistory history device now = saveRow (reportedRow row device now) history) ∨
    (∃ row, latestUpdate history = some row ∧ row.completedAt ≠ none ∧
      reportedHistory history device now = history) := by
  unfold reportedHistory
  cases latestUpdate history with
  | none => exact Or.inl ⟨rfl, rfl⟩
  | some row =>
    cases hopen : row.completedAt with
    | none => exact Or.inr (Or.inl ⟨row, rfl, hopen, by simp [hopen]⟩)
    | some completedAt => exact Or.inr (Or.inr ⟨row, rfl, by simp [hopen], by simp [hopen]⟩)

/-- The key of an attempt is its position. -/
def Numbered (w : OtaWorld) : Prop := Table.Numbered (·.id) w.history

theorem numbered_step {w : OtaWorld} (h : Numbered w) (e : OtaEvent) : Numbered (otaStep w e) := by
  unfold Numbered at h ⊢
  cases e with
  | trigger env call =>
    rcases otaStep_trigger env call w with ⟨_, hstep⟩ | ⟨firmware, instruction, _, hstep⟩
    · rwa [hstep]
    · rw [hstep]
      exact h.append rfl
  | report r =>
    rcases otaStep_report r w with ⟨_, hstep⟩ | ⟨status, progress, _, hstep⟩
    · rwa [hstep]
    · rw [hstep]
      show Table.Numbered _ (reportedHistory _ _ _)
      rcases reportedHistory_cases w.history (reportedDevice w.device r status progress) r.now with
        ⟨_, hsame⟩ | ⟨_, _, _, hsaved⟩ | ⟨_, _, _, hsame⟩
      · rwa [hsame]
      · rw [hsaved]
        exact h.save _
      · rwa [hsame]

/-- Rows are numbered, and an open row is the latest. -/
structure Ordered (w : OtaWorld) : Prop where
  numbered : Numbered w
  open_latest : ∀ row ∈ w.history, row.completedAt = none → latestUpdate w.history = some row

theorem latestUpdate_saveRow {history : List DeviceOtaUpdateEntity}
    (numbered : Table.Numbered (·.id) history) {row : DeviceOtaUpdateEntity}
    (hlatest : latestUpdate history = some row) (device : DeviceEntity) (now : Date) :
    latestUpdate (saveRow (reportedRow row device now) history) =
      some (reportedRow row device now) :=
  Table.latest_save numbered hlatest rfl rfl

/-! ## The cache agrees with the history -/

/-- At most one attempt is open, the device has an update in flight just when the
latest attempt is open, and the device row shows the latest attempt. -/
structure Agrees (w : OtaWorld) : Prop where
  one_open : (w.history.filter fun row => row.completedAt = none).length ≤ 1
  in_progress : w.device.otaStatus.InProgress ↔
    ∃ row, latestUpdate w.history = some row ∧ row.completedAt = none
  cached : ∀ row, latestUpdate w.history = some row →
    w.device.otaStatus = row.status ∧ w.device.otaProgress = row.progress

/-- The report fits the latest attempt: an open one takes any status but `IDLE`, a
closed one only what it already shows, and without an attempt none is in progress. -/
def ReportFits (w : OtaWorld) (report : OtaReport) : Prop :=
  ∀ status progress, Takes w report status progress →
    match latestUpdate w.history with
    | none => ¬ status.InProgress
    | some row =>
      if row.completedAt = none then status ≠ .idle
      else status = row.status ∧ progress = row.progress

/-- The clock of a trigger that goes through is past the latest attempt. -/
def TriggerFits (env : ApiConfig) (call : TriggerCall) (w : OtaWorld) : Prop :=
  startsUpdate env call w ≠ none →
    ∀ row, latestUpdate w.history = some row → row.requestedAt < call.now

def OtaEvent.Fits (w : OtaWorld) : OtaEvent → Prop
  | .trigger env call => TriggerFits env call w
  | .report r => ReportFits w r

/-- The invariant of a run whose calls fit. -/
def Tracked (w : OtaWorld) : Prop := Agrees w ∧ Ordered w

/-- Rows that are all the latest one are one row. -/
theorem one_open_of_ordered {w : OtaWorld} (h : Ordered w) :
    (w.history.filter fun row => row.completedAt = none).length ≤ 1 := by
  have nodup := (h.numbered.nodup).filter fun row => decide (row.completedAt = none)
  cases hopen : w.history.filter fun row => row.completedAt = none with
  | nil => simp
  | cons row rows =>
    cases rows with
    | nil => simp
    | cons row' rows =>
      have mem : ∀ r ∈ w.history.filter fun row => row.completedAt = none,
          latestUpdate w.history = some r := by
        intro r hr
        obtain ⟨hmem, hclosed⟩ := List.mem_filter.mp hr
        exact h.open_latest r hmem (by simpa using hclosed)
      have hrow := mem row (by simp [hopen])
      have hrow' := mem row' (by simp [hopen])
      rw [hopen] at nodup
      have hne : row ≠ row' := by
        intro heq
        simp [heq] at nodup
      exact absurd (Option.some_inj.mp (hrow.symm.trans hrow')) hne

theorem tracked_trigger {env : ApiConfig} {call : TriggerCall} {w : OtaWorld} (h : Tracked w)
    (fits : TriggerFits env call w) : Tracked (otaStep w (.trigger env call)) := by
  rcases otaStep_trigger env call w with ⟨_, hstep⟩ | ⟨firmware, instruction, hstart, hstep⟩
  · rw [hstep]
    exact h
  · obtain ⟨agrees, ordered⟩ := h
    have idle := startsUpdate_idle hstart
    have later := fits (by simp [hstart])
    have hlatest : latestUpdate (w.history ++ [insertedRow w firmware call]) =
        some (insertedRow w firmware call) := Table.latest_append_of_lt later
    have closed : ∀ row ∈ w.history, row.completedAt ≠ none := by
      intro row hrow hopen
      exact idle (agrees.in_progress.mpr ⟨row, ordered.open_latest row hrow hopen, hopen⟩)
    have ordered' : Ordered (otaStep w (.trigger env call)) := by
      rw [hstep]
      refine ⟨ordered.numbered.append rfl, fun row hrow hopen => ?_⟩
      rcases List.mem_append.mp hrow with hold | hnew
      · exact absurd hopen (closed row hold)
      · rw [List.mem_singleton.mp hnew]
        exact hlatest
    refine ⟨⟨one_open_of_ordered ordered', ?_, ?_⟩, ordered'⟩
    · rw [hstep]
      refine ⟨fun _ => ⟨_, hlatest, rfl⟩, fun _ => ?_⟩
      show DeviceOtaStatus.pending ∈ otaInProgressStatuses
      decide
    · intro row hrow
      rw [hstep] at hrow ⊢
      obtain rfl := Option.some_inj.mp (hlatest.symm.trans hrow)
      exact ⟨rfl, rfl⟩

theorem reportedRow_open_iff (row : DeviceOtaUpdateEntity) (device : DeviceEntity) (now : Date)
    (hopen : row.completedAt = none) :
    (reportedRow row device now).completedAt = none ↔ ¬ device.otaStatus.Terminal := by
  unfold reportedRow
  by_cases hterminal : device.otaStatus.Terminal
  · simp [hterminal]
  · simp [hterminal, hopen]

/-- Every status but `IDLE` is in progress or terminal. -/
theorem inProgress_iff_not_terminal {status : DeviceOtaStatus} (h : status ≠ .idle) :
    status.InProgress ↔ ¬ status.Terminal := by
  cases status with
  | idle => exact absurd rfl h
  | pending => decide
  | downloading => decide
  | installing => decide
  | success => decide
  | failed => decide

theorem tracked_report {report : OtaReport} {w : OtaWorld} (h : Tracked w)
    (fits : ReportFits w report) : Tracked (otaStep w (.report report)) := by
  rcases otaStep_report report w with ⟨_, hstep⟩ | ⟨status, progress, takes, hstep⟩
  · rw [hstep]
    exact h
  · obtain ⟨agrees, ordered⟩ := h
    have hfits := fits status progress takes
    rcases reportedHistory_cases w.history (reportedDevice w.device report status progress)
        report.now with
      ⟨hlatest, hsame⟩ | ⟨row, hlatest, hopen, hsaved⟩ | ⟨row, hlatest, hclosed, hsame⟩
    · -- no attempt: the status must not claim one
      rw [hlatest] at hfits
      rw [hstep, hsame]
      refine ⟨⟨agrees.one_open, ⟨fun hin => absurd hin hfits, ?_⟩, ?_⟩,
        ⟨ordered.numbered, ordered.open_latest⟩⟩
      · rintro ⟨row, hrow, _⟩
        exact absurd (hlatest.symm.trans hrow) (by simp)
      · intro row hrow
        exact absurd (hlatest.symm.trans hrow) (by simp)
    · -- the open attempt takes the status of the device
      have hne : status ≠ .idle := by simpa [hlatest, hopen] using hfits
      rw [hsaved] at hstep
      have hlatest' := latestUpdate_saveRow ordered.numbered hlatest
        (reportedDevice w.device report status progress) report.now
      have ordered' : Ordered (otaStep w (.report report)) := by
        rw [hstep]
        refine ⟨ordered.numbered.save _, fun r hr hopen' => ?_⟩
        have hid : row.id = (reportedRow row (reportedDevice w.device report status progress)
            report.now).id := rfl
        rcases (Table.mem_save_iff (Table.mem_of_latest hlatest) hid).mp hr with
          rfl | ⟨hmem, hother⟩
        · exact hlatest'
        · have hsame := ordered.open_latest r hmem hopen'
          obtain rfl := Option.some_inj.mp (hlatest.symm.trans hsame)
          exact absurd rfl hother
      refine ⟨⟨one_open_of_ordered ordered', ?_, ?_⟩, ordered'⟩
      · rw [hstep]
        have hopens := reportedRow_open_iff row
          (reportedDevice w.device report status progress) report.now hopen
        refine (inProgress_iff_not_terminal hne).trans ⟨fun hnot => ⟨_, hlatest', ?_⟩, ?_⟩
        · exact hopens.mpr hnot
        · rintro ⟨r, hr, hropen⟩
          obtain rfl := Option.some_inj.mp (hlatest'.symm.trans hr)
          exact hopens.mp hropen
      · intro r hr
        rw [hstep] at hr ⊢
        obtain rfl := Option.some_inj.mp (hlatest'.symm.trans hr)
        exact ⟨rfl, rfl⟩
    · -- a closed attempt stays, so the report must repeat it
      obtain ⟨hstatus, hprogress⟩ : status = row.status ∧ progress = row.progress := by
        simpa [hlatest, hclosed] using hfits
      obtain ⟨hwas, _⟩ := agrees.cached row hlatest
      have hkept : status = w.device.otaStatus := hstatus.trans hwas.symm
      rw [hstep, hsame]
      refine ⟨⟨agrees.one_open, ?_, ?_⟩, ⟨ordered.numbered, ordered.open_latest⟩⟩
      · show status.InProgress ↔ _
        rw [hkept]
        exact agrees.in_progress
      · intro r hr
        obtain rfl := Option.some_inj.mp (hlatest.symm.trans hr)
        exact ⟨hstatus, hprogress⟩

theorem tracked_step {w : OtaWorld} {e : OtaEvent} (h : Tracked w) (fits : e.Fits w) :
    Tracked (otaStep w e) := by
  cases e with
  | trigger env call => exact tracked_trigger h fits
  | report report => exact tracked_report h fits

/-- A report after which the cache still agrees fits. -/
theorem reportFits_of_agrees {report : OtaReport} {w : OtaWorld} (h : Tracked w)
    (after : Agrees (otaStep w (.report report))) : ReportFits w report := by
  intro status progress takes
  rcases otaStep_report report w with ⟨ignored, _⟩ | ⟨status', progress', takes', hstep⟩
  · exact absurd takes (ignored status progress)
  · obtain ⟨rfl, rfl⟩ := takes'.unique takes
    rcases reportedHistory_cases w.history (reportedDevice w.device report status' progress')
        report.now with
      ⟨hlatest, hsame⟩ | ⟨row, hlatest, hopen, hsaved⟩ | ⟨row, hlatest, hclosed, hsame⟩
    · rw [hstep, hsame] at after
      rw [hlatest]
      intro hin
      obtain ⟨row, hrow, _⟩ := after.in_progress.mp hin
      exact absurd (hlatest.symm.trans hrow) (by simp)
    · rw [hlatest]
      simp only [hopen, if_true]
      rw [hstep, hsaved] at after
      have hlatest' := latestUpdate_saveRow h.2.numbered hlatest
        (reportedDevice w.device report status' progress') report.now
      rintro rfl
      have running : ¬ DeviceOtaStatus.Terminal .idle := by decide
      have hin : DeviceOtaStatus.InProgress .idle :=
        after.in_progress.mpr ⟨_, hlatest', (reportedRow_open_iff row _ _ hopen).mpr running⟩
      exact absurd hin (by decide)
    · rw [hlatest]
      simp only [hclosed, if_false]
      rw [hstep, hsame] at after
      exact after.cached row hlatest

/-- A trigger after which the cache still agrees is later than every attempt. -/
theorem triggerFits_of_agrees {env : ApiConfig} {call : TriggerCall} {w : OtaWorld}
    (h : Tracked w) (after : Agrees (otaStep w (.trigger env call))) :
    TriggerFits env call w := by
  intro starts row hrow
  rcases otaStep_trigger env call w with ⟨hnone, _⟩ | ⟨firmware, instruction, hstart, hstep⟩
  · exact absurd hnone starts
  · rw [hstep] at after
    by_contra early
    have hlatest : latestUpdate (w.history ++ [insertedRow w firmware call]) = some row :=
      Table.latest_append_of_not_lt hrow early
    have pending : DeviceOtaStatus.pending.InProgress := by decide
    obtain ⟨r, hr, hopen⟩ := after.in_progress.mp pending
    obtain rfl := Option.some_inj.mp (hlatest.symm.trans hr)
    exact startsUpdate_idle hstart (h.1.in_progress.mpr ⟨row, hrow, hopen⟩)

theorem fits_of_agrees {w : OtaWorld} {e : OtaEvent} (h : Tracked w)
    (after : Agrees (otaStep w e)) : e.Fits w := by
  cases e with
  | trigger env call => exact triggerFits_of_agrees h after
  | report report => exact reportFits_of_agrees h after

/-- A device that has had no update attempt. -/
structure Fresh (w : OtaWorld) : Prop where
  history : w.history = []
  idle : ¬ w.device.otaStatus.InProgress

theorem Fresh.tracked {w : OtaWorld} (h : Fresh w) : Tracked w := by
  have hlatest : latestUpdate w.history = none := Table.latest_eq_none_iff.mpr h.history
  refine ⟨⟨by simp [h.history], ⟨fun hin => absurd hin h.idle, ?_⟩, ?_⟩, ⟨?_, ?_⟩⟩
  · rintro ⟨row, hrow, _⟩
    exact absurd (hlatest.symm.trans hrow) (by simp)
  · intro row hrow
    exact absurd (hlatest.symm.trans hrow) (by simp)
  · unfold Numbered
    rw [h.history]
    exact Table.Numbered.nil
  · intro row hrow
    rw [h.history] at hrow
    exact absurd hrow List.not_mem_nil

/-- From a device without attempts, the cache and the history agree in every state
of the run exactly when every call of the run fits. -/
theorem agrees_iff_meets {w : OtaWorld} (fresh : Fresh w) (es : List OtaEvent) :
    (∀ pre, pre <+: es → Agrees (Run.exec otaStep w pre)) ↔
      Run.Meets otaStep (fun w e => e.Fits w) w es :=
  Run.always_iff_meets (fun _ h => h.1) (fun _ _ h => tracked_step h)
    (fun _ _ h => fits_of_agrees h) fresh.tracked es

/-! ### A late report -/

def build2 : FirmwareEntity :=
  { id := "f2", templateId := "t1", version := "2.0.0", fileUrl := "https://fw/2.0.0.bin"
    checksum := none, sizeBytes := none, releaseNotes := none, isActive := true, createdAt := 0 }

def idleWorld : OtaWorld :=
  { device := plainRelay, history := [], firmwares := [build2], published := [] }

def updateTo2 (now : Date) : TriggerCall :=
  { userId := "u1", id := "d1", dto := ⟨"f2"⟩, now := now, producer := true, kafka := .sent
    mqtt := true }

def relayReport (status : DeviceOtaStatus) (version : Option String) (now : Date) : OtaReport :=
  { deviceId := "relay-1", payload := { status := some status.name, version := version }
    now := now }

theorem idleWorld_fresh : Fresh idleWorld := ⟨rfl, by decide⟩

/-- An update succeeds, then its download report is delivered again: the device is
downloading, and no attempt is open. -/
theorem late_report_not_agrees :
    ¬ ∀ pre, pre <+: [.trigger defaultEnv (updateTo2 1), .report (relayReport .success "2.0.0" 2),
        .report (relayReport .downloading none 3)] →
      Agrees (Run.exec otaStep idleWorld pre) := by
  intro always
  have after := always _ (List.prefix_refl _)
  obtain ⟨row, hrow, hopen⟩ := after.in_progress.mp (by decide)
  have closed : (latestUpdate (Run.exec otaStep idleWorld
      [.trigger defaultEnv (updateTo2 1), .report (relayReport .success "2.0.0" 2),
        .report (relayReport .downloading none 3)]).history).bind (·.completedAt) = some 2 := by
    decide
  rw [hrow, Option.bind_some, hopen] at closed
  exact absurd closed (by simp)

/-- An update is triggered, downloaded and installed. -/
def updateRun : List OtaEvent :=
  [.trigger defaultEnv (updateTo2 1), .report (relayReport .downloading none 2),
    .report (relayReport .success "2.0.0" 3)]

theorem agrees_iff_meets_idleWorld :
    (∀ pre, pre <+: updateRun → Agrees (Run.exec otaStep idleWorld pre)) ↔
      Run.Meets otaStep (fun w e => e.Fits w) idleWorld updateRun :=
  agrees_iff_meets idleWorld_fresh updateRun

end AiotCloud
