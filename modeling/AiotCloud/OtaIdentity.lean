import AiotCloud.OtaHistory

/-!
# Which version an attempt installed

A report names no attempt, and may name no version: the handler closes the latest
attempt with it and copies the version it names to the device. `getManifest`
compares that version with the latest build.

`identified_iff_meets`: along a run, an attempt succeeds only by a report that does
not name another version, and a latest attempt that succeeded is the version the
device has, exactly when every success report that meets an open or successful
attempt leaves the device at that attempt's version.
-/

namespace AiotCloud

/-- A history row turns `SUCCESS` only by a report that names no other version. -/
def NamedRight (w : OtaWorld) (e : OtaEvent) : Prop :=
  ∀ row ∈ w.history, ∀ row' ∈ (otaStep w e).history, row'.id = row.id →
    row.status ≠ .success → row'.status = .success →
    ∃ r, e = .report r ∧ ∀ v, r.payload.version = some v → v = row.toVersion

/-- When the latest attempt succeeded, the device has its version. -/
def Identified (w : OtaWorld) : Prop :=
  ∀ row, latestUpdate w.history = some row → row.status = .success →
    w.device.firmwareVersion = some row.toVersion

/-- When the latest attempt succeeded and its version is the latest active build of
the template, the manifest offers no update. -/
def NothingOffered (w : OtaWorld) : Prop :=
  ∀ row, latestUpdate w.history = some row → row.status = .success →
    ∀ firmware, findLatestActiveForTemplate w.firmwares w.device.templateId = some firmware →
      firmware.version = row.toVersion →
      ∀ manifest, (getManifest w w.device.deviceId).data = some manifest →
        manifest.updateAvailable = false

/-- A success report that meets an open or successful attempt leaves the device at
its version: it names that version, or none when the device already has it. -/
def OtaEvent.Installs (w : OtaWorld) : OtaEvent → Prop
  | .trigger _ _ => True
  | .report r =>
    ∀ progress, Takes w r .success progress →
      ∀ row, latestUpdate w.history = some row →
        (row.completedAt = none ∨ row.status = .success) →
        (r.payload.version <|> w.device.firmwareVersion) = some row.toVersion

theorem nothingOffered_of_identified {w : OtaWorld} (h : Identified w) : NothingOffered w := by
  intro row hlatest hsuccess firmware hfirmware hversion manifest hmanifest
  have hdevice := h row hlatest hsuccess
  simp only [getManifest, if_true, ResponseCore.ok, Option.some_inj, hfirmware] at hmanifest
  rw [← hmanifest]
  simp [updateAvailable, hdevice, hversion]

theorem reportedDevice_firmwareVersion_of_ne {status : DeviceOtaStatus} (h : status ≠ .success)
    (device : DeviceEntity) (r : OtaReport) (progress : Option Int) :
    (reportedDevice device r status progress).firmwareVersion = device.firmwareVersion := by
  simp [reportedDevice, h]

/-- A trigger leaves the device as it is, and its attempt is pending. -/
theorem identified_trigger {w : OtaWorld} (h : Identified w) (env : ApiConfig)
    (call : TriggerCall) : Identified (otaStep w (.trigger env call)) := by
  rcases otaStep_trigger env call w with ⟨_, hstep⟩ | ⟨firmware, instruction, _, hstep⟩
  · rwa [hstep]
  · rw [hstep]
    intro row hlatest hsuccess
    -- an attempt requested earlier than the latest one does not become the latest
    rcases Classical.em (∀ r, latestUpdate w.history = some r → r.requestedAt < call.now) with
      later | early
    · have hnew : latestUpdate (w.history ++ [insertedRow w firmware call]) =
          some (insertedRow w firmware call) := Table.latest_append_of_lt later
      obtain rfl := Option.some_inj.mp (hnew.symm.trans hlatest)
      exact absurd hsuccess (by show DeviceOtaStatus.pending ≠ .success; decide)
    · push Not at early
      obtain ⟨r, hr, hearly⟩ := early
      have hold : latestUpdate (w.history ++ [insertedRow w firmware call]) = some r :=
        Table.latest_append_of_not_lt hr (Int.not_lt.mpr hearly)
      obtain rfl := Option.some_inj.mp (hold.symm.trans hlatest)
      exact h r hr hsuccess

/-- Along the run, the version of the device fits the latest attempt just when the
report installs it. -/
theorem identified_step_iff {w : OtaWorld} (numbered : Numbered w) (h : Identified w)
    (e : OtaEvent) : Identified (otaStep w e) ↔ e.Installs w := by
  cases e with
  | trigger env call => exact ⟨fun _ => trivial, fun _ => identified_trigger h env call⟩
  | report r =>
    rcases otaStep_report r w with ⟨ignored, hstep⟩ | ⟨status, progress, takes, hstep⟩
    · rw [hstep]
      exact ⟨fun _ progress takes => absurd takes (ignored _ progress), fun _ => h⟩
    · have installs : OtaEvent.Installs w (.report r) ↔
          (status = .success → ∀ row, latestUpdate w.history = some row →
            (row.completedAt = none ∨ row.status = .success) →
            (r.payload.version <|> w.device.firmwareVersion) = some row.toVersion) := by
        constructor
        · rintro hinstalls rfl
          exact hinstalls progress takes
        · intro hinstalls progress' takes'
          exact hinstalls (takes.unique takes').1
      rw [installs, hstep]
      rcases reportedHistory_cases w.history (reportedDevice w.device r status progress) r.now with
        ⟨hlatest, hsame⟩ | ⟨row, hlatest, hopen, hsaved⟩ | ⟨row, hlatest, hclosed, hsame⟩
      · rw [hsame]
        constructor
        · intro _ _ row hrow
          exact absurd (hlatest.symm.trans hrow) (by simp)
        · intro _ row hrow
          exact absurd (hlatest.symm.trans hrow) (by simp)
      · rw [hsaved]
        have hlatest' := latestUpdate_saveRow numbered hlatest
          (reportedDevice w.device r status progress) r.now
        constructor
        · -- the open attempt takes the status, and the device the version
          rintro after rfl row' hrow' _
          obtain rfl := Option.some_inj.mp (hlatest.symm.trans hrow')
          exact after (reportedRow row (reportedDevice w.device r .success progress) r.now)
            hlatest' rfl
        · intro hinstalls row' hrow' hsuccess
          obtain rfl := Option.some_inj.mp (hlatest'.symm.trans hrow')
          obtain rfl : status = .success := hsuccess
          exact hinstalls rfl row hlatest (Or.inl hopen)
      · rw [hsame]
        constructor
        · rintro after rfl row' hrow' hstate
          obtain rfl := Option.some_inj.mp (hlatest.symm.trans hrow')
          exact after row hlatest (hstate.resolve_left hclosed)
        · intro hinstalls row' hrow' hsuccess
          obtain rfl := Option.some_inj.mp (hlatest.symm.trans hrow')
          rcases eq_or_ne status .success with rfl | hstatus
          · exact hinstalls rfl row hlatest (Or.inr hsuccess)
          · -- any other status leaves the version
            show (reportedDevice w.device r status progress).firmwareVersion = _
            rw [reportedDevice_firmwareVersion_of_ne hstatus]
            exact h row hlatest hsuccess

/-- A report that installs its version closes the attempt of that version. -/
theorem namedRight_of_installs {w : OtaWorld} (numbered : Numbered w) {e : OtaEvent}
    (hinstalls : e.Installs w) : NamedRight w e := by
  intro row hrow row' hrow' hid hbefore hafter
  have unchanged : row' ∈ w.history → False := by
    intro hmem
    obtain rfl := Table.Numbered.eq_of_id numbered hmem hrow hid
    exact hbefore hafter
  cases e with
  | trigger env call =>
    rcases otaStep_trigger env call w with ⟨_, hstep⟩ | ⟨firmware, instruction, _, hstep⟩
    · rw [hstep] at hrow'
      exact (unchanged hrow').elim
    · rw [hstep] at hrow'
      rcases List.mem_append.mp hrow' with hold | hnew
      · exact (unchanged hold).elim
      · rw [List.mem_singleton.mp hnew] at hafter
        exact absurd hafter (by show DeviceOtaStatus.pending ≠ .success; decide)
  | report r =>
    refine ⟨r, rfl, fun v hv => ?_⟩
    rcases otaStep_report r w with ⟨_, hstep⟩ | ⟨status, progress, takes, hstep⟩
    · rw [hstep] at hrow'
      exact (unchanged hrow').elim
    · rw [hstep] at hrow'
      rcases reportedHistory_cases w.history (reportedDevice w.device r status progress) r.now with
        ⟨_, hsame⟩ | ⟨latest, hlatest, hopen, hsaved⟩ | ⟨_, _, _, hsame⟩
      · rw [hsame] at hrow'
        exact (unchanged hrow').elim
      · rw [hsaved] at hrow'
        have hkey : latest.id = (reportedRow latest (reportedDevice w.device r status progress)
            r.now).id := rfl
        rcases (Table.mem_save_iff (Table.mem_of_latest hlatest) hkey).mp hrow' with
          rfl | ⟨hmem, _⟩
        · obtain rfl : status = .success := hafter
          obtain rfl := Table.Numbered.eq_of_id numbered (Table.mem_of_latest hlatest) hrow hid
          have hversion := hinstalls progress takes latest hlatest (Or.inl hopen)
          rw [hv] at hversion
          exact Option.some_inj.mp hversion
        · exact (unchanged hmem).elim
      · rw [hsame] at hrow'
        exact (unchanged hrow').elim

/-- From a device without attempts, every step of the run keeps attempts and
versions together exactly when every success report installs its version. -/
theorem identified_iff_meets {w : OtaWorld} (fresh : Fresh w) (es : List OtaEvent) :
    Run.Meets otaStep
        (fun w e => NamedRight w e ∧ Identified (otaStep w e) ∧ NothingOffered (otaStep w e)) w es ↔
      Run.Meets otaStep (fun w e => e.Installs w) w es := by
  have init : Numbered w ∧ Identified w := by
    unfold Numbered Identified
    rw [fresh.history]
    refine ⟨Table.Numbered.nil, fun row hrow => ?_⟩
    exact absurd (Table.mem_of_latest hrow) List.not_mem_nil
  have same : ∀ w e, Numbered w ∧ Identified w →
      ((NamedRight w e ∧ Identified (otaStep w e) ∧ NothingOffered (otaStep w e)) ↔
        e.Installs w) := by
    rintro w e ⟨numbered, identified⟩
    constructor
    · rintro ⟨_, after, _⟩
      exact (identified_step_iff numbered identified e).mp after
    · intro hinstalls
      have after := (identified_step_iff numbered identified e).mpr hinstalls
      exact ⟨namedRight_of_installs numbered hinstalls, after, nothingOffered_of_identified after⟩
  have keeps : ∀ w e, Numbered w ∧ Identified w →
      (NamedRight w e ∧ Identified (otaStep w e) ∧ NothingOffered (otaStep w e)) →
      Numbered (otaStep w e) ∧ Identified (otaStep w e) := by
    rintro w e ⟨numbered, _⟩ ⟨_, after, _⟩
    exact ⟨numbered_step numbered e, after⟩
  exact Run.meets_congr same keeps init es

/-! ### A success report without a version -/

/-- The relay reports success and names no version: the attempt succeeds, and the
device has no version. -/
theorem unnamed_success_not_identified :
    ¬ Run.Meets otaStep
      (fun w e => NamedRight w e ∧ Identified (otaStep w e) ∧ NothingOffered (otaStep w e))
      idleWorld
      [.trigger defaultEnv (updateTo2 1), .report (relayReport .success none 2)] := by
  rintro ⟨_, ⟨_, identified, _⟩, _⟩
  have closed : (latestUpdate (Run.exec otaStep idleWorld
      [.trigger defaultEnv (updateTo2 1), .report (relayReport .success none 2)]).history).map
      (·.status) = some .success := by decide
  obtain ⟨row, hrow, hsuccess⟩ := Option.map_eq_some_iff.mp closed
  have version := identified row hrow hsuccess
  have unknown : (Run.exec otaStep idleWorld [.trigger defaultEnv (updateTo2 1),
      .report (relayReport .success none 2)]).device.firmwareVersion = none := by decide
  exact absurd (unknown.symm.trans version) (by simp)

theorem identified_iff_meets_idleWorld :
    Run.Meets otaStep
        (fun w e => NamedRight w e ∧ Identified (otaStep w e) ∧ NothingOffered (otaStep w e))
        idleWorld updateRun ↔
      Run.Meets otaStep (fun w e => e.Installs w) idleWorld updateRun :=
  identified_iff_meets idleWorld_fresh updateRun

end AiotCloud
