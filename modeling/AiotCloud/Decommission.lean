import AiotCloud.DeviceRegistry
import AiotCloud.Lib.Interleave
import AiotCloud.Lifecycle

/-!
# Decommissioning against assessments

The calls of `DeviceLifecycleService` as processes over the rows of `devices`. An
assessment is of a copy of the row: read by its own call, or loaded with all the others
by `assessAllDevices` and reached later in its loop. Its `update` does not look at the row.

1. `stage_kept_iff`: after a decommission is saved, the stage stays `DECOMMISSIONED` under
   any interleaving exactly when every later write of the device is a decommission's or
   comes from a copy that was read `DECOMMISSIONED`.
2. `decommission_final_iff`: of calls and messages one at a time, exactly those leave a
   decommissioned device as it is that do not assess it.
3. `stays_run`: its stage and date stay in any case.
-/

namespace AiotCloud

open Interleave

/-! ## The calls -/

/-- What an assessment reads besides the device: the clock, the joined template, and the
telemetry, `none` where that query throws. -/
structure AssessmentReads where
  now : String → Date
  templates : List DeviceTemplateEntity
  telemetry : String → Option (List DeviceTelemetryEntity)

/-- A write of one of the calls, with the copy of the row it comes from. -/
inductive LifecycleWrite where
  | saveConfig (copy : DeviceEntity) (dto : UpdateDeviceLifecycleDto)
  | assessment (copy : DeviceEntity) (now : Date) (template : Option DeviceTemplateEntity)
      (records : List DeviceTelemetryEntity)
  | decommission (copy : DeviceEntity) (now : Date)

namespace LifecycleWrite

def copy : LifecycleWrite → DeviceEntity
  | saveConfig copy _ => copy
  | assessment copy _ _ _ => copy
  | decommission copy _ => copy

def persist : LifecycleWrite → Persist
  | saveConfig copy dto => .save (applyLifecycleDto dto copy)
  | assessment copy now template records => .update (assessDevice now template records copy).1
  | decommission copy now => .save (decommissioned now copy)

/-- The rows after the write. -/
def commit (devices : List DeviceEntity) (w : LifecycleWrite) : List DeviceEntity :=
  Keyed.modify DeviceEntity.id w.copy.id w.persist.commit devices

end LifecycleWrite

inductive LifecycleStep where
  | readDevices
  | telemetryFactor
  | write (w : LifecycleWrite)

def LifecycleStep.act (devices : List DeviceEntity) : LifecycleStep → List DeviceEntity
  | .write w => w.commit devices
  | _ => devices

/-- A process over the rows. -/
abbrev LifecycleProc (α : Type) := Proc (List DeviceEntity) LifecycleStep α

/-- `assessDevice`, with its two awaits; `none` when it throws. -/
def assessDeviceProc (reads : AssessmentReads) (device : DeviceEntity) :
    LifecycleProc (Option DeviceLifecycleAssessmentDto) := do
  Proc.write .telemetryFactor
  match reads.telemetry device.id with
  | none => pure none
  | some records =>
    let now := reads.now device.id
    let template := findTemplate reads.templates device.templateId
    Proc.write (.write (.assessment device now template records))
    pure (some (assessDevice now template records device).2)

/-- The loop of `assessAllDevices`; a device that fails is skipped. -/
def assessLoop (reads : AssessmentReads) : List DeviceEntity → LifecycleProc Unit
  | [] => pure ()
  | device :: devices => do
    let _ ← assessDeviceProc reads device
    assessLoop reads devices

inductive AssessmentCall where
  | getAssessment (scope : AccessScope) (id : String) (reads : AssessmentReads)
  | updateConfig (userId id : String) (dto : UpdateDeviceLifecycleDto) (reads : AssessmentReads)
  | assessAllDevices (reads : AssessmentReads)

inductive LifecycleCall where
  | assess (call : AssessmentCall)
  | decommission (userId id : String) (now : Date)

/-- The answer of a call, if it has one. -/
abbrev AssessmentAnswer := Option (ResponseCore DeviceLifecycleAssessmentDto)

def AssessmentCall.proc : AssessmentCall → LifecycleProc AssessmentAnswer
  | .getAssessment scope id reads => do
    match ← Proc.read .readDevices (findInScope · scope id) with
    | none => pure (some (.fail .notFound "error.deviceNotFound"))
    | some device =>
      let assessment ← assessDeviceProc reads device
      pure (assessment.map .ok)
  | .updateConfig userId id dto reads => do
    match ← Proc.read .readDevices (findOwnedDevice · userId id) with
    | none => pure (some (.fail .notFound "error.deviceNotFound"))
    | some device =>
      Proc.write (.write (.saveConfig device dto))
      let assessment ← assessDeviceProc reads (applyLifecycleDto dto device)
      pure (assessment.map .ok)
  | .assessAllDevices reads => do
    let devices ← Proc.read .readDevices fun (devices : List DeviceEntity) =>
      devices.filter (·.lifecycleStage ≠ .decommissioned)
    assessLoop reads devices
    pure none

def LifecycleCall.proc : LifecycleCall → LifecycleProc AssessmentAnswer
  | .assess call => call.proc
  | .decommission userId id now => do
    match ← Proc.read .readDevices (findOwnedDevice · userId id) with
    | none => pure (some (.fail .notFound "error.deviceNotFound"))
    | some device =>
      Proc.write (.write (.decommission device now))
      pure (some (AiotCloud.decommission now (some device)).1)

/-! ## Interleavings -/

/-- Calls at their start. -/
def lifecycleCalls {ι : Type} (calls : ι → LifecycleCall) (devices : List DeviceEntity) :
    Sys ι (List DeviceEntity) LifecycleStep AssessmentAnswer :=
  ⟨devices, fun i => (calls i).proc⟩

def writtenIn {ι : Type} (trace : List (ι × LifecycleStep)) : List LifecycleWrite :=
  trace.filterMap fun
    | (_, .write w) => some w
    | _ => none

/-- The stored stage of the device. -/
def stageOf (id : String) (devices : List DeviceEntity) : Option DeviceLifecycleStage :=
  (Keyed.find DeviceEntity.id id devices).map (·.lifecycleStage)

/-- The write is a decommission of the device. -/
def LifecycleWrite.Retires (id : String) : LifecycleWrite → Prop
  | decommission copy _ => copy.id = id
  | _ => False

/-- The stage that the write sends. -/
def LifecycleWrite.stage : LifecycleWrite → DeviceLifecycleStage
  | saveConfig copy _ => copy.lifecycleStage
  | assessment copy now template records =>
    ((assessDevice now template records copy).1.lifecycleStage).getD copy.lifecycleStage
  | decommission _ _ => .decommissioned

theorem deriveStage_eq_decommissioned_iff {device : DeviceEntity} {score : Int} {now : Date} :
    deriveStage device score now = .decommissioned ↔ device.lifecycleStage = .decommissioned := by
  unfold deriveStage
  constructor
  · intro h
    by_contra hne
    rw [if_neg hne] at h
    split at h
    · exact absurd h (by decide)
    · cases hfind : stageScoreThresholds.find? fun threshold => threshold.2 ≤ score with
      | none =>
        rw [hfind] at h
        exact absurd h (by decide)
      | some threshold =>
        have hmem := List.mem_of_find?_eq_some hfind
        have others : ∀ t ∈ stageScoreThresholds, t.1 ≠ .decommissioned := by decide
        rw [hfind] at h
        exact absurd h (others threshold hmem)
  · intro h
    rw [if_pos h]

theorem LifecycleWrite.stage_eq_decommissioned_iff {w : LifecycleWrite} {id : String}
    (hid : w.copy.id = id) :
    w.stage = .decommissioned ↔ w.Retires id ∨ w.copy.lifecycleStage = .decommissioned := by
  cases w with
  | saveConfig copy dto => simp [stage, Retires, LifecycleWrite.copy]
  | assessment copy now template records =>
    show deriveStage copy _ now = .decommissioned ↔ False ∨ copy.lifecycleStage = .decommissioned
    rw [deriveStage_eq_decommissioned_iff, false_or]
  | decommission copy now => exact iff_of_true rfl (Or.inl hid)

theorem LifecycleWrite.commit_stage (w : LifecycleWrite) (row : DeviceEntity) :
    (w.persist.commit row).lifecycleStage = w.stage := by
  cases w <;> rfl

theorem LifecycleWrite.commit_id {w : LifecycleWrite} {row : DeviceEntity}
    (h : row.id = w.copy.id) :
    (w.persist.commit row).id = row.id := by
  cases w with
  | assessment => rfl
  | saveConfig => exact h.symm
  | decommission => exact h.symm

theorem find_commit (id : String) (devices : List DeviceEntity) (w : LifecycleWrite) :
    Keyed.find DeviceEntity.id id (w.commit devices) =
      if id = w.copy.id then (Keyed.find DeviceEntity.id id devices).map w.persist.commit
      else Keyed.find DeviceEntity.id id devices :=
  Keyed.find_modify fun _ hrow => w.commit_id hrow

theorem stageOf_commit {id : String} {devices : List DeviceEntity} (w : LifecycleWrite)
    (present : ∃ stage, stageOf id devices = some stage) :
    stageOf id (w.commit devices) =
      if id = w.copy.id then some w.stage else stageOf id devices := by
  obtain ⟨stage, hstage⟩ := present
  unfold stageOf at *
  rw [find_commit]
  obtain ⟨row, hrow, -⟩ := Option.map_eq_some_iff.mp hstage
  split
  · simp [hrow, w.commit_stage]
  · rfl

theorem exec_writtenIn {ι : Type} (devices : List DeviceEntity) (trace : List (ι × LifecycleStep)) :
    Run.exec LifecycleStep.act devices (trace.map (·.2)) =
      Run.exec LifecycleWrite.commit devices (writtenIn trace) := by
  induction trace generalizing devices with
  | nil => rfl
  | cons x trace ih =>
    obtain ⟨i, l⟩ := x
    cases l with
    | readDevices => exact ih devices
    | telemetryFactor => exact ih devices
    | write w => exact ih (w.commit devices)

theorem stageOf_exec {id : String} {devices : List DeviceEntity} (ws : List LifecycleWrite)
    (present : ∃ stage, stageOf id devices = some stage) :
    ∃ stage, stageOf id (Run.exec LifecycleWrite.commit devices ws) = some stage := by
  have keeps : ∀ (devices : List DeviceEntity) (w : LifecycleWrite),
      (∃ stage, stageOf id devices = some stage) →
      ∃ stage, stageOf id (w.commit devices) = some stage := by
    intro devices w h
    rw [stageOf_commit w h]
    split
    · exact ⟨_, rfl⟩
    · exact h
  exact Run.invariant keeps present ws

/-- The stage is that of the last write of the device. -/
theorem stageOf_concat {id : String} {devices : List DeviceEntity} (ws : List LifecycleWrite)
    (w : LifecycleWrite) (present : ∃ stage, stageOf id devices = some stage) :
    stageOf id (Run.exec LifecycleWrite.commit devices (ws ++ [w])) =
      if id = w.copy.id then some w.stage
      else stageOf id (Run.exec LifecycleWrite.commit devices ws) := by
  rw [Run.exec_append]
  exact stageOf_commit w (stageOf_exec ws present)

/-- All along a run of any calls on a stored device: from the first decommission of it on,
its stage is `DECOMMISSIONED` at every point, exactly when each later write of the device
is a decommission's or made from a copy that was read `DECOMMISSIONED`. -/
theorem stage_kept_iff {ι : Type} [DecidableEq ι] (calls : ι → LifecycleCall)
    {devices : List DeviceEntity} {device : DeviceEntity} (stored : device ∈ devices)
    (sched : List ι) :
    (∀ pre, pre <+: sched →
      (∃ w ∈ writtenIn ((lifecycleCalls calls devices).trace LifecycleStep.act pre),
        w.Retires device.id) →
      stageOf device.id ((lifecycleCalls calls devices).run LifecycleStep.act pre).shared =
        some .decommissioned) ↔
    ∀ before w,
      before ++ [w] <+: writtenIn ((lifecycleCalls calls devices).trace LifecycleStep.act sched) →
      w.copy.id = device.id → (∃ retiring ∈ before, retiring.Retires device.id) →
      w.Retires device.id ∨ w.copy.lifecycleStage = .decommissioned := by
  have present : ∃ stage, stageOf device.id devices = some stage := by
    unfold stageOf
    cases hfind : Keyed.find DeviceEntity.id device.id devices with
    | none => exact absurd rfl (Keyed.find_eq_none_iff.mp hfind device stored)
    | some row => exact ⟨_, rfl⟩
  have state : ∀ pre, ((lifecycleCalls calls devices).run LifecycleStep.act pre).shared =
      Run.exec LifecycleWrite.commit devices
        (writtenIn ((lifecycleCalls calls devices).trace LifecycleStep.act pre)) := by
    intro pre
    rw [Sys.shared_run, exec_writtenIn]
    rfl
  constructor
  · rintro kept before w hbegin hid ⟨retiring, hmem, hretires⟩
    obtain ⟨pre, hpre, htrace⟩ :=
      Sys.exists_prefix_filterMap _ (lifecycleCalls calls devices) hbegin
    have htrace : writtenIn ((lifecycleCalls calls devices).trace LifecycleStep.act pre) =
        before ++ [w] := htrace
    have hstage := kept pre hpre ⟨retiring, by simp [htrace, hmem], hretires⟩
    rw [state, htrace, stageOf_concat before w present, if_pos hid.symm] at hstage
    exact (LifecycleWrite.stage_eq_decommissioned_iff hid).mp (Option.some_inj.mp hstage)
  · rintro clean pre ⟨post, rfl⟩ retired
    rw [state]
    rw [Sys.trace_append] at clean
    have clean : ∀ before w,
        before ++ [w] <+: writtenIn ((lifecycleCalls calls devices).trace LifecycleStep.act pre) →
        w.copy.id = device.id → (∃ retiring ∈ before, retiring.Retires device.id) →
        w.Retires device.id ∨ w.copy.lifecycleStage = .decommissioned := by
      intro before w hbegin
      refine clean before w (hbegin.trans ?_)
      unfold writtenIn
      rw [List.filterMap_append]
      exact List.prefix_append _ _
    -- by the last write
    generalize writtenIn ((lifecycleCalls calls devices).trace LifecycleStep.act pre) = ws at *
    induction ws using List.reverseRecOn with
    | nil => simp at retired
    | append_singleton ws w ih =>
      rw [stageOf_concat ws w present]
      obtain ⟨retiring, hmem, hretires⟩ := retired
      split
      · next hid =>
        refine congrArg some ((LifecycleWrite.stage_eq_decommissioned_iff hid.symm).mpr ?_)
        rcases List.mem_append.mp hmem with hbefore | hlast
        · exact clean ws w (List.prefix_refl _) hid.symm ⟨retiring, hbefore, hretires⟩
        · exact Or.inl (List.mem_singleton.mp hlast ▸ hretires)
      · next hid =>
        have hbefore : retiring ∈ ws := by
          rcases List.mem_append.mp hmem with hbefore | hlast
          · exact hbefore
          · obtain rfl := List.mem_singleton.mp hlast
            cases retiring with
            | decommission copy now => exact absurd hretires.symm hid
            | saveConfig => exact hretires.elim
            | assessment => exact hretires.elim
        exact ih ⟨retiring, hbefore, hretires⟩
          fun before w' h => clean before w' (h.trans (List.prefix_append _ _))

/-! ### A sweep that loaded the device before -/

def pumpNode : DeviceEntity :=
  { id := "d1", deviceId := "pump-1", name := "Pump", templateId := "t1", userId := "u1" }

def noTelemetry : AssessmentReads := ⟨fun _ => 0, [], fun _ => some []⟩

def sweepAndRetire : Bool → LifecycleCall
  | true => .assess (.assessAllDevices noTelemetry)
  | false => .decommission "u1" "d1" 5

/-- The sweep loads the device, the device is decommissioned, the sweep assesses it. -/
theorem stage_not_kept :
    (∃ w ∈ writtenIn ((lifecycleCalls sweepAndRetire [pumpNode]).trace LifecycleStep.act
        [true, false, false, true, true]), w.Retires pumpNode.id) ∧
      stageOf pumpNode.id ((lifecycleCalls sweepAndRetire [pumpNode]).run LifecycleStep.act
        [true, false, false, true, true]).shared ≠ some .decommissioned := by
  refine ⟨⟨.decommission pumpNode 5, List.mem_cons_self, rfl⟩, fun h => ?_⟩
  have stage : deriveStage pumpNode _ 0 = .decommissioned := Option.some_inj.mp h
  exact absurd (deriveStage_eq_decommissioned_iff.mp stage) (by decide)

theorem stage_kept_iff_pumpNode :
    (∀ pre, pre <+: [false, false, true] →
      (∃ w ∈ writtenIn ((lifecycleCalls sweepAndRetire [pumpNode]).trace LifecycleStep.act pre),
        w.Retires pumpNode.id) →
      stageOf pumpNode.id
          ((lifecycleCalls sweepAndRetire [pumpNode]).run LifecycleStep.act pre).shared =
        some .decommissioned) ↔
    ∀ before w,
      before ++ [w] <+: writtenIn ((lifecycleCalls sweepAndRetire [pumpNode]).trace
        LifecycleStep.act [false, false, true]) →
      w.copy.id = pumpNode.id → (∃ retiring ∈ before, retiring.Retires pumpNode.id) →
      w.Retires pumpNode.id ∨ w.copy.lifecycleStage = .decommissioned :=
  stage_kept_iff sweepAndRetire List.mem_cons_self _

/-! ## One at a time -/

/-- What can happen to a decommissioned device. -/
inductive RetiredEvent where
  | assess (call : AssessmentCall)
  | telemetry (now : Date) (deviceId : String) (payload : Json)
  | status (now : Date) (deviceId : String) (payload : Json)
  | channel (now : Date) (deviceId : String) (event : DeviceChannelEventPayload)

/-- The rows, and the assessments returned so far. -/
structure LifecycleWorld where
  devices : List DeviceEntity
  returned : List DeviceLifecycleAssessmentDto

/-- The rows after a message is handled. -/
def afterMessage (devices : List DeviceEntity) (deviceId : String)
    (handle : Option DeviceEntity → Handled) : List DeviceEntity :=
  match findByDeviceId devices deviceId with
  | none => devices
  | some device =>
    match (handle (some device)).write with
    | none => devices
    | some p => Keyed.modify DeviceEntity.id device.id p.commit devices

def lifecycleStep (w : LifecycleWorld) : RetiredEvent → LifecycleWorld
  | .assess call =>
    let (devices, answer) := call.proc.exec LifecycleStep.act w.devices
    ⟨devices, w.returned ++ (answer.bind (·.data)).toList⟩
  | .telemetry now deviceId payload =>
    { w with devices := afterMessage w.devices deviceId (recordTelemetry now deviceId payload) }
  | .status now deviceId payload =>
    { w with
      devices := afterMessage w.devices deviceId (handleDeviceStatusMessage now deviceId payload) }
  | .channel now deviceId event =>
    { w with
      devices := afterMessage w.devices deviceId (handleDeviceChannelEvent now deviceId event) }

/-- The world in which the decommission has just answered. -/
def afterDecommission (userId id : String) (now : Date) (devices : List DeviceEntity) :
    LifecycleWorld :=
  let (devices, answer) := (LifecycleCall.decommission userId id now).proc.exec LifecycleStep.act
    devices
  ⟨devices, (answer.bind (·.data)).toList⟩

/-- The answer of a decommission for the device. -/
def DeviceLifecycleAssessmentDto.IsRetired (a : DeviceLifecycleAssessmentDto) : Prop :=
  a.stage = .decommissioned ∧ a.score = 0 ∧ a.factors = []

/-- The device is as its decommission left it, and so was every answer about it. -/
structure LifecycleWorld.Final (id : String) (now : Date) (w : LifecycleWorld) : Prop where
  row : ∃ row, Keyed.find DeviceEntity.id id w.devices = some row ∧
    row.lifecycleStage = .decommissioned ∧ row.lifecycleScore = none ∧
    row.decommissionedAt = some now
  returned : ∀ a ∈ w.returned, a.deviceId = id → a.IsRetired

/-- The call finds the device and gets as far as an assessment. -/
def AssessmentCall.Assesses (device : DeviceEntity) : AssessmentCall → Prop
  | .getAssessment scope id reads =>
    id = device.id ∧ scope.admits device = true ∧ (reads.telemetry id).isSome
  | .updateConfig userId id _ reads =>
    id = device.id ∧ device.userId = userId ∧ (reads.telemetry id).isSome
  | .assessAllDevices _ => False

def RetiredEvent.Assesses (device : DeviceEntity) : RetiredEvent → Prop
  | .assess call => call.Assesses device
  | _ => False

/-! ### What a call writes -/

/-- The write of `assessDevice`, if it gets to it. -/
def assessmentWrite (reads : AssessmentReads) (device : DeviceEntity) : Option LifecycleWrite :=
  (reads.telemetry device.id).map
    (.assessment device (reads.now device.id) (findTemplate reads.templates device.templateId))

/-- The answer of `assessDevice`, if it gets to it. -/
def assessmentAnswer (reads : AssessmentReads) (device : DeviceEntity) :
    Option DeviceLifecycleAssessmentDto :=
  (reads.telemetry device.id).map fun records =>
    (assessDevice (reads.now device.id) (findTemplate reads.templates device.templateId) records
      device).2

def AssessmentCall.writes (devices : List DeviceEntity) : AssessmentCall → List LifecycleWrite
  | .getAssessment scope id reads =>
    ((findInScope devices scope id).bind (assessmentWrite reads)).toList
  | .updateConfig userId id dto reads =>
    match findOwnedDevice devices userId id with
    | none => []
    | some device =>
      .saveConfig device dto :: (assessmentWrite reads (applyLifecycleDto dto device)).toList
  | .assessAllDevices reads =>
    (devices.filter (·.lifecycleStage ≠ .decommissioned)).filterMap (assessmentWrite reads)

def AssessmentCall.answers (devices : List DeviceEntity) :
    AssessmentCall → Option DeviceLifecycleAssessmentDto
  | .getAssessment scope id reads => (findInScope devices scope id).bind (assessmentAnswer reads)
  | .updateConfig userId id dto reads =>
    (findOwnedDevice devices userId id).bind fun device =>
      assessmentAnswer reads (applyLifecycleDto dto device)
  | .assessAllDevices _ => none

theorem exec_assessDeviceProc (reads : AssessmentReads) (device : DeviceEntity)
    (devices : List DeviceEntity) :
    (assessDeviceProc reads device).exec LifecycleStep.act devices =
      (Run.exec LifecycleWrite.commit devices (assessmentWrite reads device).toList,
        assessmentAnswer reads device) := by
  unfold assessDeviceProc assessmentAnswer assessmentWrite
  cases reads.telemetry device.id <;> rfl

theorem exec_assessLoop (reads : AssessmentReads) (loaded devices : List DeviceEntity) :
    ((assessLoop reads loaded).exec LifecycleStep.act devices).1 =
      Run.exec LifecycleWrite.commit devices (loaded.filterMap (assessmentWrite reads)) := by
  induction loaded generalizing devices with
  | nil => rfl
  | cons device loaded ih =>
    rw [assessLoop, Proc.exec_bind, exec_assessDeviceProc, ih, ← Run.exec_append]
    cases h : assessmentWrite reads device <;> simp [h]

/-- A call run alone makes its writes and gives its answer. -/
theorem exec_proc (call : AssessmentCall) (devices : List DeviceEntity) :
    (call.proc.exec LifecycleStep.act devices).1 =
        Run.exec LifecycleWrite.commit devices (call.writes devices) ∧
      (call.proc.exec LifecycleStep.act devices).2.bind (·.data) = call.answers devices := by
  cases call with
  | getAssessment scope id reads =>
    unfold AssessmentCall.proc AssessmentCall.writes AssessmentCall.answers
    cases hfind : findInScope devices scope id with
    | none => exact ⟨by simp [hfind, LifecycleStep.act], by simp [hfind, ResponseCore.fail]⟩
    | some device =>
      simp only [Proc.read_bind, Proc.exec_step, hfind, Proc.exec_bind, exec_assessDeviceProc,
        Option.bind_some]
      refine ⟨rfl, ?_⟩
      cases assessmentAnswer reads device <;> rfl
  | updateConfig userId id dto reads =>
    unfold AssessmentCall.proc AssessmentCall.writes AssessmentCall.answers
    cases hfind : findOwnedDevice devices userId id with
    | none => exact ⟨by simp [hfind, LifecycleStep.act], by simp [hfind, ResponseCore.fail]⟩
    | some device =>
      simp only [Proc.read_bind, Proc.exec_step, hfind, Proc.write_bind, Proc.exec_bind,
        exec_assessDeviceProc, Option.bind_some]
      refine ⟨rfl, ?_⟩
      cases assessmentAnswer reads (applyLifecycleDto dto device) <;> rfl
  | assessAllDevices reads =>
    unfold AssessmentCall.proc AssessmentCall.writes AssessmentCall.answers
    simp only [Proc.read_bind, Proc.exec_step, Proc.exec_bind, exec_assessLoop]
    exact ⟨rfl, rfl⟩

/-! ### What stays -/

/-- What no later call or message changes. -/
structure Stays (device : DeviceEntity) (now : Date) (row : DeviceEntity) : Prop where
  id : row.id = device.id
  userId : row.userId = device.userId
  factoryId : row.factoryId = device.factoryId
  stage : row.lifecycleStage = .decommissioned
  decommissionedAt : row.decommissionedAt = some now

/-- The row with the id, which has no other row's id, has `K`. -/
structure Holds (id : String) (K : DeviceEntity → Prop) (devices : List DeviceEntity) : Prop where
  ids : Keyed.Distinct DeviceEntity.id devices
  row : ∃ row, Keyed.find DeviceEntity.id id devices = some row ∧ K row

variable {id : String} {K : DeviceEntity → Prop} {device : DeviceEntity} {now : Date}
  {devices : List DeviceEntity}

theorem Holds.modify (h : Holds id K devices) {id' : String} {f : DeviceEntity → DeviceEntity}
    (same : ∀ row, row.id = id' → (f row).id = row.id)
    (kept : id' = id → ∀ row, K row → K (f row)) :
    Holds id K (Keyed.modify DeviceEntity.id id' f devices) := by
  obtain ⟨row, hrow, hK⟩ := h.row
  refine ⟨h.ids.modify fun r _ => same r, ?_⟩
  rw [Keyed.find_modify same]
  split
  · next hid => exact ⟨f row, by simp [hrow], kept hid.symm row hK⟩
  · exact ⟨row, hrow, hK⟩

theorem Holds.exec (h : Holds id K devices) {ws : List LifecycleWrite}
    (kept : ∀ w ∈ ws, w.copy.id = id → ∀ row, K row → K (w.persist.commit row)) :
    Holds id K (Run.exec LifecycleWrite.commit devices ws) := by
  induction ws generalizing devices with
  | nil => exact h
  | cons w ws ih =>
    have first : Holds id K (w.commit devices) :=
      h.modify (fun row hrow => w.commit_id hrow) (kept w List.mem_cons_self)
    exact ih first fun w' hw' => kept w' (List.mem_cons_of_mem _ hw')

/-- A handler that only updates columns which `K` does not read. -/
theorem Holds.afterMessage (h : Holds id K devices) {deviceId : String}
    {handle : Option DeviceEntity → Handled}
    (kept : ∀ copy p, (handle (some copy)).write = some p → ∀ row,
      (p.commit row).id = row.id ∧ (K row → K (p.commit row))) :
    Holds id K (afterMessage devices deviceId handle) := by
  cases hfind : findByDeviceId devices deviceId with
  | none => simpa [AiotCloud.afterMessage, hfind] using h
  | some copy =>
    cases hwrite : (handle (some copy)).write with
    | none => simpa [AiotCloud.afterMessage, hfind, hwrite] using h
    | some p =>
      simp only [AiotCloud.afterMessage, hfind, hwrite]
      exact h.modify (fun row _ => (kept copy p hwrite row).1)
        fun _ row => (kept copy p hwrite row).2

/-- A copy of the row that the call found is the row. -/
theorem Holds.found (h : Holds id K devices) {row copy : DeviceEntity}
    (hrow : Keyed.find DeviceEntity.id id devices = some row) (hcopy : copy ∈ devices)
    (hid : copy.id = id) : copy = row := by
  obtain ⟨hmem, hkey⟩ := Keyed.mem_of_find hrow
  exact h.ids.eq_of_key hcopy hmem (hid.trans hkey.symm)

theorem assessmentWrite_eq_some {reads : AssessmentReads} {copy : DeviceEntity}
    {w : LifecycleWrite} (h : assessmentWrite reads copy = some w) :
    (reads.telemetry copy.id).isSome ∧ ∃ now template records,
      w = .assessment copy now template records := by
  obtain ⟨records, hrecords, rfl⟩ := Option.map_eq_some_iff.mp h
  exact ⟨by simp [hrecords], _, _, records, rfl⟩

theorem assessmentWrite_of_telemetry (reads : AssessmentReads) {copy : DeviceEntity}
    {records : List DeviceTelemetryEntity} (h : reads.telemetry copy.id = some records) :
    assessmentWrite reads copy = some (.assessment copy (reads.now copy.id)
      (findTemplate reads.templates copy.templateId) records) := by
  simp [assessmentWrite, h]

theorem findInScope_mem {scope : AccessScope} {copy : DeviceEntity}
    (h : findInScope devices scope id = some copy) :
    copy ∈ devices ∧ copy.id = id ∧ scope.admits copy = true := by
  have found := List.find?_some h
  simp only [decide_eq_true_eq] at found
  exact ⟨List.mem_of_find?_eq_some h, found⟩

theorem Stays.admits {row : DeviceEntity} (h : Stays device now row) (scope : AccessScope) :
    scope.admits row = scope.admits device := by
  cases scope with
  | user userId => simp [AccessScope.admits, h.userId]
  | factory factoryId => simp [AccessScope.admits, h.factoryId]
  | unrestricted => rfl

/-- A write of a call on the retired device saves its row, or belongs to a call that
assesses the device. -/
theorem writes_retired (h : Holds device.id K devices) (stays : ∀ row, K row → Stays device now row)
    {call : AssessmentCall} {w : LifecycleWrite} (hw : w ∈ call.writes devices)
    (hid : w.copy.id = device.id) :
    (∃ copy dto, w = .saveConfig copy dto ∧ K copy) ∨
      (call.Assesses device ∧ ∃ copy now' template records,
        w = .assessment copy now' template records ∧ Stays device now copy) := by
  obtain ⟨row, hrow, hK⟩ := h.row
  cases call with
  | getAssessment scope id reads =>
    obtain ⟨copy, hfind, hwrite⟩ := Option.bind_eq_some_iff.mp (Option.mem_toList.mp hw)
    obtain ⟨answered, now', template, records, rfl⟩ := assessmentWrite_eq_some hwrite
    obtain ⟨hmem, hcopy, admitted⟩ := findInScope_mem hfind
    obtain rfl : copy = row := h.found hrow hmem hid
    refine Or.inr ⟨⟨hcopy.symm.trans hid, ?_, hcopy ▸ answered⟩, _, _, _, _, rfl, stays copy hK⟩
    rw [← (stays copy hK).admits, admitted]
  | updateConfig userId id dto reads =>
    unfold AssessmentCall.writes at hw
    cases hfind : findOwnedDevice devices userId id with
    | none => simp [hfind] at hw
    | some copy =>
      simp only [hfind, List.mem_cons, Option.mem_toList] at hw
      obtain ⟨hmem, hcopy, owned⟩ := findInScope_mem hfind
      rcases hw with rfl | hwrite
      · obtain rfl : copy = row := h.found hrow hmem hid
        exact Or.inl ⟨copy, dto, rfl, hK⟩
      · obtain ⟨answered, now', template, records, rfl⟩ := assessmentWrite_eq_some hwrite
        obtain rfl : copy = row := h.found hrow hmem hid
        obtain ⟨hid', huser, hfactory, hstage, hdate⟩ := stays copy hK
        refine Or.inr ⟨⟨hcopy.symm.trans hid, ?_, hcopy ▸ answered⟩, _, _, _, _, rfl,
          ⟨hid', huser, hfactory, hstage, hdate⟩⟩
        simpa [AccessScope.admits, huser] using owned
  | assessAllDevices reads =>
    -- the device is not among those loaded
    obtain ⟨copy, hloaded, hwrite⟩ := List.mem_filterMap.mp hw
    obtain ⟨hmem, hstage⟩ := List.mem_filter.mp hloaded
    obtain ⟨_, now', template, records, rfl⟩ := assessmentWrite_eq_some hwrite
    obtain rfl : copy = row := h.found hrow hmem hid
    simp [(stays copy hK).stage] at hstage

/-- A message updates none of the lifecycle columns. -/
def SparesLifecycle (p : Persist) : Prop :=
  ∃ columns : DevicePatch, p = .update columns ∧ columns.lifecycleStage = none ∧
    columns.lifecycleScore = none

theorem recordTelemetry_spares {seenAt : Date} {deviceId : String} {payload : Json}
    {copy : DeviceEntity} {p : Persist}
    (h : (recordTelemetry seenAt deviceId payload (some copy)).write = some p) :
    SparesLifecycle p :=
  ⟨_, (Option.some_inj.mp h).symm, rfl, rfl⟩

theorem handleDeviceStatusMessage_spares {seenAt : Date} {deviceId : String} {payload : Json}
    {copy : DeviceEntity} {p : Persist}
    (h : (handleDeviceStatusMessage seenAt deviceId payload (some copy)).write = some p) :
    SparesLifecycle p := by
  unfold handleDeviceStatusMessage at h
  cases hparse : parseStatusPayload payload with
  | none => simp [hparse] at h
  | some status =>
    simp only [hparse] at h
    exact ⟨_, (Option.some_inj.mp h).symm, rfl, rfl⟩

theorem handleDeviceChannelEvent_spares {seenAt : Date} {deviceId : String}
    {event : DeviceChannelEventPayload} {copy : DeviceEntity} {p : Persist}
    (h : (handleDeviceChannelEvent seenAt deviceId event (some copy)).write = some p) :
    SparesLifecycle p := by
  unfold handleDeviceChannelEvent at h
  cases hfailed : event.failed with
  | true =>
    simp only [hfailed, if_true] at h
    exact ⟨_, (Option.some_inj.mp h).symm, rfl, rfl⟩
  | false =>
    cases hchannel : event.channel with
    | none => simp [hfailed, hchannel] at h
    | some key =>
      simp only [hfailed, hchannel, Bool.false_eq_true, if_false] at h
      exact ⟨_, (Option.some_inj.mp h).symm, rfl, rfl⟩

theorem SparesLifecycle.commit_id {p : Persist} (h : SparesLifecycle p) (row : DeviceEntity) :
    (p.commit row).id = row.id := by
  obtain ⟨columns, rfl, -, -⟩ := h
  rfl

theorem SparesLifecycle.stays {p : Persist} (h : SparesLifecycle p) {row : DeviceEntity}
    (stays : Stays device now row) : Stays device now (p.commit row) := by
  obtain ⟨columns, rfl, hstage, -⟩ := h
  refine ⟨stays.id, stays.userId, stays.factoryId, ?_, stays.decommissionedAt⟩
  simp [DevicePatch.apply, hstage, stays.stage]

/-- As its decommission left it. -/
def Untouched (device : DeviceEntity) (now : Date) (row : DeviceEntity) : Prop :=
  Stays device now row ∧ row.lifecycleScore = none

theorem SparesLifecycle.untouched {p : Persist} (h : SparesLifecycle p) {row : DeviceEntity}
    (untouched : Untouched device now row) : Untouched device now (p.commit row) := by
  refine ⟨h.stays untouched.1, ?_⟩
  obtain ⟨columns, rfl, -, hscore⟩ := h
  simp [DevicePatch.apply, hscore, untouched.2]

/-- An event keeps what the writes keep: those of a message, which spare the lifecycle columns,
and those of an assessment. -/
theorem holds_lifecycleStep (w : LifecycleWorld) (h : Holds id K w.devices) {e : RetiredEvent}
    (spared : ∀ p, SparesLifecycle p → ∀ row, K row → K (p.commit row))
    (assessed : ∀ call, e = .assess call → ∀ write ∈ call.writes w.devices, write.copy.id = id →
      ∀ row, K row → K (write.persist.commit row)) :
    Holds id K (lifecycleStep w e).devices := by
  have each : ∀ deviceId handle,
      (∀ copy p, (handle (some copy)).write = some p → SparesLifecycle p) →
      Holds id K (afterMessage w.devices deviceId handle) := by
    intro deviceId handle spares
    exact h.afterMessage fun copy p hp row =>
      ⟨(spares copy p hp).commit_id row, spared p (spares copy p hp) row⟩
  cases e with
  | assess call =>
    show Holds _ _ (call.proc.exec LifecycleStep.act w.devices).1
    rw [(exec_proc call w.devices).1]
    exact h.exec (assessed call rfl)
  | telemetry seenAt deviceId payload =>
    exact each deviceId (recordTelemetry seenAt deviceId payload)
      fun copy p hp => recordTelemetry_spares hp
  | status seenAt deviceId payload =>
    exact each deviceId (handleDeviceStatusMessage seenAt deviceId payload)
      fun copy p hp => handleDeviceStatusMessage_spares hp
  | channel seenAt deviceId event =>
    exact each deviceId (handleDeviceChannelEvent seenAt deviceId event)
      fun copy p hp => handleDeviceChannelEvent_spares hp

theorem LifecycleWrite.commit_stays {w : LifecycleWrite} {row : DeviceEntity}
    (stays : Stays device now row)
    (source : (∃ copy dto, w = .saveConfig copy dto ∧ Stays device now copy) ∨
      ∃ copy now' template records,
        w = .assessment copy now' template records ∧ Stays device now copy) :
    Stays device now (w.persist.commit row) := by
  rcases source with ⟨copy, dto, rfl, copied⟩ | ⟨copy, now', template, records, rfl, copied⟩
  · exact ⟨copied.id, copied.userId, copied.factoryId, copied.stage, copied.decommissionedAt⟩
  · refine ⟨stays.id, stays.userId, stays.factoryId, ?_, stays.decommissionedAt⟩
    exact deriveStage_eq_decommissioned_iff.mpr copied.stage

theorem holds_stays_step (w : LifecycleWorld) (e : RetiredEvent)
    (h : Holds device.id (Stays device now) w.devices) :
    Holds device.id (Stays device now) (lifecycleStep w e).devices := by
  refine holds_lifecycleStep w h (fun p spares row => spares.stays) ?_
  rintro call rfl write hwrite hid row stays
  refine LifecycleWrite.commit_stays stays ?_
  exact (writes_retired h (fun _ hK => hK) hwrite hid).imp_right fun assessed => assessed.2

theorem holds_untouched_step (w : LifecycleWorld)
    (h : Holds device.id (Untouched device now) w.devices) {e : RetiredEvent}
    (spared : ¬ e.Assesses device) :
    Holds device.id (Untouched device now) (lifecycleStep w e).devices := by
  refine holds_lifecycleStep w h (fun p spares row => spares.untouched) ?_
  rintro call rfl write hwrite hid row untouched
  rcases writes_retired h (fun _ hK => hK.1) hwrite hid with ⟨copy, dto, rfl, hK⟩ | ⟨assesses, -⟩
  · exact ⟨LifecycleWrite.commit_stays untouched.1 (Or.inl ⟨copy, dto, rfl, hK.1⟩), hK.2⟩
  · exact absurd assesses spared

/-! ### The run -/

/-- An answer is about the copy of the call's last write. -/
theorem answers_written {call : AssessmentCall} {a : DeviceLifecycleAssessmentDto}
    (ha : call.answers devices = some a) : ∃ copy now' template records,
      LifecycleWrite.assessment copy now' template records ∈ call.writes devices ∧
        copy.id = a.deviceId := by
  have written : ∀ {reads copy}, assessmentAnswer reads copy = some a →
      ∃ now' template records,
        assessmentWrite reads copy = some (.assessment copy now' template records) ∧
          copy.id = a.deviceId := by
    intro reads copy hanswer
    obtain ⟨records, hrecords, rfl⟩ := Option.map_eq_some_iff.mp hanswer
    exact ⟨_, _, records, assessmentWrite_of_telemetry reads hrecords, rfl⟩
  cases call with
  | getAssessment scope id reads =>
    obtain ⟨copy, hfind, hanswer⟩ := Option.bind_eq_some_iff.mp ha
    obtain ⟨now', template, records, hwrite, hid⟩ := written hanswer
    exact ⟨copy, now', template, records, by simp [AssessmentCall.writes, hfind, hwrite], hid⟩
  | updateConfig userId id dto reads =>
    obtain ⟨copy, hfind, hanswer⟩ := Option.bind_eq_some_iff.mp ha
    obtain ⟨now', template, records, hwrite, hid⟩ := written hanswer
    exact ⟨_, now', template, records, by simp [AssessmentCall.writes, hfind, hwrite], hid⟩
  | assessAllDevices reads => simp [AssessmentCall.answers] at ha

theorem assesses_of_answers {call : AssessmentCall} {a : DeviceLifecycleAssessmentDto}
    (h : Holds device.id (Stays device now) devices) (ha : call.answers devices = some a)
    (hid : a.deviceId = device.id) : call.Assesses device := by
  obtain ⟨copy, now', template, records, hwrite, hcopy⟩ := answers_written ha
  rcases writes_retired h (fun _ hK => hK) hwrite (hcopy.trans hid) with
    ⟨_, _, hsave, -⟩ | ⟨assesses, -⟩
  · cases hsave
  · exact assesses

theorem writes_of_assesses {call : AssessmentCall} (assesses : call.Assesses device)
    (h : Holds device.id (Stays device now) devices) : ∃ before copy now' template records,
      call.writes devices = before ++ [.assessment copy now' template records] ∧
        copy.id = device.id := by
  obtain ⟨row, hrow, stays⟩ := h.row
  obtain ⟨hmem, hkey⟩ := Keyed.mem_of_find hrow
  -- a scope that admits the device finds its row
  have found : ∀ {scope : AccessScope}, scope.admits device = true →
      findInScope devices scope device.id = some row := by
    intro scope admitted
    cases hfind : findInScope devices scope device.id with
    | none =>
      have absent := List.find?_eq_none.mp hfind row hmem
      simp [hkey, stays.admits, admitted] at absent
    | some copy =>
      obtain ⟨hcopy, hid, -⟩ := findInScope_mem hfind
      rw [h.found hrow hcopy hid]
  cases call with
  | getAssessment scope id reads =>
    obtain ⟨rfl, admitted, answered⟩ := assesses
    obtain ⟨records, hrecords⟩ := Option.isSome_iff_exists.mp answered
    have hwrite := assessmentWrite_of_telemetry reads (hkey ▸ hrecords)
    have hwrites : (AssessmentCall.getAssessment scope device.id reads).writes devices =
        [.assessment row (reads.now row.id) (findTemplate reads.templates row.templateId)
          records] := by
      simp only [AssessmentCall.writes, found admitted, Option.bind_some, hwrite]
      rfl
    exact ⟨[], row, _, _, records, hwrites, hkey⟩
  | updateConfig userId id dto reads =>
    obtain ⟨rfl, owned, answered⟩ := assesses
    obtain ⟨records, hrecords⟩ := Option.isSome_iff_exists.mp answered
    have hfind : findOwnedDevice devices userId device.id = some row :=
      found (by simp [AccessScope.admits, owned])
    have hid : (applyLifecycleDto dto row).id = device.id := hkey
    have hwrite := assessmentWrite_of_telemetry reads (hid ▸ hrecords)
    have hwrites : (AssessmentCall.updateConfig userId device.id dto reads).writes devices =
        [.saveConfig row dto, .assessment (applyLifecycleDto dto row)
          (reads.now (applyLifecycleDto dto row).id)
          (findTemplate reads.templates (applyLifecycleDto dto row).templateId) records] := by
      simp only [AssessmentCall.writes, hfind, hwrite]
      rfl
    exact ⟨[.saveConfig row dto], _, _, _, records, hwrites, hid⟩
  | assessAllDevices reads => exact assesses.elim

/-- A call that assesses the device writes a score. -/
theorem scored_of_assesses {call : AssessmentCall} (assesses : call.Assesses device)
    (h : Holds device.id (Stays device now) devices) :
    ∃ row score, Keyed.find DeviceEntity.id device.id
        (Run.exec LifecycleWrite.commit devices (call.writes devices)) = some row ∧
      row.lifecycleScore = some score := by
  obtain ⟨before, copy, now', template, records, hwrites, hid⟩ := writes_of_assesses assesses h
  have earlier : Holds device.id (Stays device now)
      (Run.exec LifecycleWrite.commit devices before) := by
    refine h.exec fun w hw hcopy row stays => LifecycleWrite.commit_stays stays ?_
    have hw' : w ∈ call.writes devices := hwrites ▸ List.mem_append_left _ hw
    exact (writes_retired h (fun _ hK => hK) hw' hcopy).imp_right fun assessed => assessed.2
  obtain ⟨row, hrow, -⟩ := earlier.row
  obtain ⟨score, hscore, -⟩ := assessDevice_score now' template records copy
  refine ⟨(Persist.update (assessDevice now' template records copy).1).commit row, score, ?_, ?_⟩
  · rw [hwrites, Run.exec_append, Run.exec_cons, Run.exec_nil, find_commit, hrow]
    exact if_pos hid.symm
  · simp [DevicePatch.apply, hscore]

/-- The decommission that found the device leaves it so. -/
theorem holds_afterDecommission (ids : Keyed.Distinct DeviceEntity.id devices) {userId : String}
    (found : findOwnedDevice devices userId id = some device) (now : Date) :
    Holds device.id (Untouched device now) (afterDecommission userId id now devices).devices ∧
      ∀ a ∈ (afterDecommission userId id now devices).returned, a.IsRetired := by
  obtain ⟨hmem, -, -⟩ := findInScope_mem found
  have hworld : afterDecommission userId id now devices =
      ⟨LifecycleWrite.commit devices (.decommission device now),
        [buildDecommissionedAssessment now (decommissioned now device)]⟩ := by
    simp only [afterDecommission, LifecycleCall.proc, Proc.read_bind, Proc.exec_step, found,
      Proc.write_bind]
    rfl
  rw [hworld]
  refine ⟨⟨?_, decommissioned now device, ?_, ⟨rfl, rfl, rfl, rfl, rfl⟩, rfl⟩, ?_⟩
  · exact ids.modify fun row _ hrow => LifecycleWrite.commit_id hrow
  · rw [find_commit, ids.find_eq_some_iff.mpr ⟨hmem, rfl⟩]
    exact if_pos rfl
  · rintro a ha
    obtain rfl := List.mem_singleton.mp ha
    exact ⟨rfl, rfl, rfl⟩

/-- In a run that follows a decommission, the device is as it was left and so are the
answers about it. -/
structure Retired (device : DeviceEntity) (now : Date) (w : LifecycleWorld) : Prop where
  holds : Holds device.id (Untouched device now) w.devices
  returned : ∀ a ∈ w.returned, a.deviceId = device.id → a.IsRetired

theorem Retired.stays {w : LifecycleWorld} (h : Retired device now w) :
    Holds device.id (Stays device now) w.devices := by
  obtain ⟨row, hrow, untouched⟩ := h.holds.row
  exact ⟨h.holds.ids, row, hrow, untouched.1⟩

theorem Retired.final {w : LifecycleWorld} (h : Retired device now w) : w.Final device.id now := by
  obtain ⟨row, hrow, stays, score⟩ := h.holds.row
  exact ⟨⟨row, hrow, stays.stage, score, stays.decommissionedAt⟩, h.returned⟩

theorem Retired.step {w : LifecycleWorld} (h : Retired device now w) {e : RetiredEvent}
    (spared : ¬ e.Assesses device) : Retired device now (lifecycleStep w e) := by
  refine ⟨holds_untouched_step w h.holds spared, fun a ha hid => ?_⟩
  cases e with
  | assess call =>
    have hreturned : (lifecycleStep w (.assess call)).returned =
        w.returned ++ (call.answers w.devices).toList := by
      rw [← (exec_proc call w.devices).2]
      rfl
    rw [hreturned, List.mem_append, Option.mem_toList] at ha
    rcases ha with hold | hnew
    · exact h.returned a hold hid
    · exact absurd (assesses_of_answers h.stays hnew hid) spared
  | telemetry => exact h.returned a ha hid
  | status => exact h.returned a ha hid
  | channel => exact h.returned a ha hid

/-- The stage and the date of a decommission stay, whatever follows. -/
theorem stays_run (ids : Keyed.Distinct DeviceEntity.id devices) {userId : String}
    (found : findOwnedDevice devices userId id = some device) (now : Date)
    (events : List RetiredEvent) :
    Holds device.id (Stays device now)
      (Run.exec lifecycleStep (afterDecommission userId id now devices) events).devices := by
  obtain ⟨holds, -⟩ := holds_afterDecommission ids found now
  obtain ⟨row, hrow, untouched⟩ := holds.row
  have start : Holds device.id (Stays device now)
      (afterDecommission userId id now devices).devices := ⟨holds.ids, row, hrow, untouched.1⟩
  have keeps : ∀ (w : LifecycleWorld) e, Holds device.id (Stays device now) w.devices →
      Holds device.id (Stays device now) (lifecycleStep w e).devices := holds_stays_step
  exact Run.invariant keeps start events

/-- Of the calls and messages that follow a decommission one at a time, exactly those leave
the device final, all along, that do not assess it. -/
theorem decommission_final_iff (ids : Keyed.Distinct DeviceEntity.id devices) {userId : String}
    (found : findOwnedDevice devices userId id = some device) (now : Date)
    (events : List RetiredEvent) :
    (∀ pre, pre <+: events →
      (Run.exec lifecycleStep (afterDecommission userId id now devices) pre).Final device.id now) ↔
      ∀ e ∈ events, ¬ e.Assesses device := by
  obtain ⟨holds, returned⟩ := holds_afterDecommission ids found now
  have init : Retired device now (afterDecommission userId id now devices) :=
    ⟨holds, fun a ha _ => returned a ha⟩
  rw [← Run.meets_const_iff]
  refine Run.always_iff_meets (fun w h => h.final) (fun w e h spared => h.step spared) ?_ init
    events
  intro w e h final assesses
  cases e with
  | assess call =>
    obtain ⟨row, score, hrow, hscore⟩ := scored_of_assesses assesses h.stays
    obtain ⟨row', hrow', -, unscored, -⟩ := final.row
    have hsame : row = row' := by
      rw [← (exec_proc call w.devices).1] at hrow
      exact Option.some_inj.mp (hrow.symm.trans hrow')
    rw [← hsame, hscore] at unscored
    exact absurd unscored (by simp)
  | telemetry => exact assesses
  | status => exact assesses
  | channel => exact assesses

/-! ### A read of the assessment -/

/-- Reading the assessment of a decommissioned device stores a score and answers with
factors. -/
theorem decommission_not_final :
    ¬ (Run.exec lifecycleStep (afterDecommission "u1" "d1" 5 [pumpNode])
      [.assess (.getAssessment (.user "u1") "d1" noTelemetry)]).Final "d1" 5 := by
  intro final
  have answered := final.returned (assessDevice 0 none [] (decommissioned 5 pumpNode)).2
    (List.mem_cons_of_mem _ List.mem_cons_self) rfl
  exact absurd answered.2.2 (by simp [assessDevice, lifecycleFactors])

theorem decommission_final_iff_pumpNode :
    (∀ pre, pre <+: [RetiredEvent.telemetry 6 "pump-1" .null] →
      (Run.exec lifecycleStep (afterDecommission "u1" "d1" 5 [pumpNode]) pre).Final "d1" 5) ↔
      ∀ e ∈ [RetiredEvent.telemetry 6 "pump-1" .null], ¬ e.Assesses pumpNode := by
  have ids : Keyed.Distinct DeviceEntity.id [pumpNode] := List.nodup_singleton "d1"
  have found : findOwnedDevice [pumpNode] "u1" "d1" = some pumpNode := rfl
  exact decommission_final_iff ids found 5 _

end AiotCloud
