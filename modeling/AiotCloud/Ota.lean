import Mathlib.Algebra.Order.Floor.Ring
import Mathlib.Data.Rat.Floor
import AiotCloud.ActionDispatch
import AiotCloud.Lib.Interleave
import AiotCloud.Lib.Table

/-!
# Over-the-air updates

`DeviceOtaService`: `triggerUpdate` sends an update instruction to a device,
`handleOtaStatusReport` applies the device's reports, `getManifest` says whether
there is a newer build. The first two are processes: one step for each access to
the database or a broker, other calls may run in between.

`exec_triggerUpdate` and `exec_handleOtaStatusReport` say what a call does when
none does.
-/

namespace AiotCloud

open Interleave

/-! ## Requests -/

structure TriggerOtaUpdateDto where
  firmwareId : String
deriving DecidableEq, Repr

/-- A JavaScript number. -/
inductive JsNumber where
  | nan
  | negInfinity
  | infinity
  | finite (q : Rat)
deriving DecidableEq, Repr

/-- A report. A field is `none` when it is missing; `version` and `error` also
when they are `null`. `progress` is the number its field converts to. -/
structure OtaStatusReportPayload where
  status : Option String := none
  version : Option String := none
  progress : Option JsNumber := none
  error : Option String := none
deriving DecidableEq, Repr

/-- `Math.min(100, Math.max(0, Math.round(value)))`; `none` for `NaN`. -/
def clampProgress : JsNumber → Option Int
  | .nan => none
  | .negInfinity => some 0
  | .infinity => some 100
  | .finite q => some (min 100 (max 0 ⌊q + 1 / 2⌋))

/-- `DeviceOtaStatusDto`. -/
structure DeviceOtaStatusDto where
  deviceId : String
  status : DeviceOtaStatus
  currentVersion : Option String
  targetVersion : Option String
  firmwareId : Option String
  progress : Option Int
  error : Option String
  requestedAt : Option Date
  updatedAt : Option Date
deriving DecidableEq, Repr

def toStatusDto (device : DeviceEntity) : DeviceOtaStatusDto :=
  { deviceId := device.deviceId
    status := device.otaStatus
    currentVersion := device.firmwareVersion
    targetVersion := device.otaTargetVersion
    firmwareId := device.otaFirmwareId
    progress := device.otaProgress
    error := device.otaError
    requestedAt := device.otaRequestedAt
    updatedAt := device.otaUpdatedAt }

/-! ## The shared state -/

/-- Where an instruction goes. -/
inductive Downlink where
  | kafka (topic : String)
  | mqtt (topic : String)
deriving DecidableEq, Repr

structure OtaInstruction where
  downlink : Downlink
  deviceId : String
  version : String
  url : String
  checksum : Option String
  size : Option Int
deriving DecidableEq, Repr

/-- One device with its update attempts in the order they were inserted, the
firmware catalog, and the instructions that went out. -/
structure OtaWorld where
  device : DeviceEntity
  history : List DeviceOtaUpdateEntity
  firmwares : List FirmwareEntity
  published : List OtaInstruction

/-- The steps of the two calls. -/
inductive OtaStep where
  | readDevice
  | readFirmware
  | publish (instruction : OtaInstruction)
  | saveDevice (entity : DeviceEntity)
  | insertHistory (row : DeviceOtaUpdateEntity)
  | readLatest
  | saveHistory (row : DeviceOtaUpdateEntity)

/-- `save` of a loaded history row. -/
def saveRow (row : DeviceOtaUpdateEntity) (history : List DeviceOtaUpdateEntity) :
    List DeviceOtaUpdateEntity :=
  Table.save (·.id) row history

def OtaWorld.act (w : OtaWorld) : OtaStep → OtaWorld
  | .readDevice | .readFirmware | .readLatest => w
  | .publish instruction => { w with published := w.published ++ [instruction] }
  | .saveDevice entity => { w with device := entity }
  | .insertHistory row =>
    { w with history := w.history ++ [{ row with id := w.history.length }] }
  | .saveHistory row => { w with history := saveRow row w.history }

/-- `findOne({ order: { requestedAt: 'DESC' } })`. Of several rows requested at one
time the database may return any; here it is the first. -/
def latestUpdate (history : List DeviceOtaUpdateEntity) : Option DeviceOtaUpdateEntity :=
  Table.latest (·.requestedAt) history

/-- How a call ends: with a response, or as a handler, which may throw; with the
events it emits. -/
inductive OtaResult where
  | answered (response : ResponseCore DeviceOtaStatusDto) (events : List DeviceEvent)
  | handled (events : List DeviceEvent)
  | threw

/-! ## `triggerUpdate` -/

/-- One call: the request, the time, and what the brokers do. -/
structure TriggerCall where
  userId : String
  id : String
  dto : TriggerOtaUpdateDto
  now : Date
  producer : Bool
  kafka : KafkaAttempt
  mqtt : Bool
deriving DecidableEq, Repr

/-- The checks on the firmware and the device, in the order of the source. -/
def checkUpdate (device : DeviceEntity) :
    Option FirmwareEntity → Except Failure FirmwareEntity
  | none => .error (.notFound, "error.firmwareNotFound")
  | some firmware =>
    if firmware.templateId ≠ device.templateId then
      .error (.badRequest, "error.firmwareTemplateMismatch")
    else if firmware.isActive = false then .error (.badRequest, "error.firmwareInactive")
    else if device.pushChannel ≠ .mqtt ∧ device.pushChannel ≠ .kafka then
      .error (.badRequest, "error.deviceActionChannelUnsupported")
    else if device.otaStatus ∈ otaInProgressStatuses then
      .error (.badRequest, "error.deviceOtaAlreadyInProgress")
    else .ok firmware

/-- The topic of the instruction. -/
def otaDownlink (device : DeviceEntity) : Downlink :=
  if device.pushChannel = .kafka then .kafka kafkaGatewayCommandsTopic
  else .mqtt ((device.mqttTopics.bind (·.ota)).getD (defaultOtaTopic device.deviceId))

/-- Sending the instruction: `mqttDisabled` is returned before the publish, any
other failure is a throw that becomes `deviceOtaPublishFailed`. -/
def sendUpdate (env : ApiConfig) (call : TriggerCall) (device : DeviceEntity)
    (firmware : FirmwareEntity) : Except Failure OtaInstruction :=
  let instruction : OtaInstruction :=
    { downlink := otaDownlink device
      deviceId := device.deviceId
      version := firmware.version
      url := firmware.fileUrl
      checksum := firmware.checksum
      size := firmware.sizeBytes }
  match otaDownlink device with
  | .kafka _ =>
    if kafkaSend call.producer call.kafka then .ok instruction
    else .error (.internalServerError, "error.deviceOtaPublishFailed")
  | .mqtt _ =>
    if env.mqttEnabled = false then .error (.badRequest, "error.mqttDisabled")
    else if mqttPublish env call.mqtt then .ok instruction
    else .error (.internalServerError, "error.deviceOtaPublishFailed")

/-- The device row after the bookkeeping of a trigger. -/
def pendingDevice (device : DeviceEntity) (firmware : FirmwareEntity) (requestedAt : Date) :
    DeviceEntity :=
  { device with
    otaStatus := .pending
    otaFirmwareId := some firmware.id
    otaTargetVersion := some firmware.version
    otaProgress := some 0
    otaError := none
    otaRequestedAt := some requestedAt
    otaUpdatedAt := some requestedAt }

/-- The history row of a trigger, before the database gives it its key. -/
def pendingRow (device : DeviceEntity) (firmware : FirmwareEntity) (requestedAt : Date) :
    DeviceOtaUpdateEntity :=
  { id := 0
    deviceId := device.id
    firmwareId := some firmware.id
    fromVersion := device.firmwareVersion
    toVersion := firmware.version
    status := .pending
    progress := some 0
    requestedAt := requestedAt }

def answerFailure (failure : Failure) : OtaResult :=
  .answered (.fail failure.1 failure.2) []

/-- The device row, if it is the caller's. -/
def findOwned (w : OtaWorld) (call : TriggerCall) : Option DeviceEntity :=
  if w.device.id = call.id ∧ w.device.userId = call.userId then some w.device else none

def findFirmware (w : OtaWorld) (id : String) : Option FirmwareEntity :=
  w.firmwares.find? (·.id == id)

/-- The firmware and the instruction of a call that goes through, or why it fails. -/
def planUpdate (env : ApiConfig) (call : TriggerCall) (device : DeviceEntity)
    (firmware? : Option FirmwareEntity) : Except Failure (FirmwareEntity × OtaInstruction) :=
  match checkUpdate device firmware? with
  | .error failure => .error failure
  | .ok firmware =>
    match sendUpdate env call device firmware with
    | .error failure => .error failure
    | .ok instruction => .ok (firmware, instruction)

/-- The bookkeeping after the publish: the device row, then the history row. -/
def bookUpdate (call : TriggerCall) (device : DeviceEntity) (firmware : FirmwareEntity) :
    Proc OtaWorld OtaStep OtaResult := do
  let saved := pendingDevice device firmware call.now
  Proc.write (.saveDevice saved)
  Proc.write (.insertHistory (pendingRow saved firmware call.now))
  pure (.answered (.ok (toStatusDto saved))
    [.otaStatus device.deviceId .pending (some firmware.version) (some 0) none call.now])

/-- The call after its read of the firmware. -/
def finishUpdate (env : ApiConfig) (call : TriggerCall) (device : DeviceEntity)
    (firmware? : Option FirmwareEntity) : Proc OtaWorld OtaStep OtaResult :=
  match planUpdate env call device firmware? with
  | .error failure => pure (answerFailure failure)
  | .ok (firmware, instruction) => do
    Proc.write (.publish instruction)
    bookUpdate call device firmware

/-- The call after its read of the device. -/
def continueUpdate (env : ApiConfig) (call : TriggerCall) :
    Option DeviceEntity → Proc OtaWorld OtaStep OtaResult
  | none => pure (answerFailure (.notFound, "error.deviceNotFound"))
  | some device => do
    let firmware? ← Proc.read .readFirmware (findFirmware · call.dto.firmwareId)
    finishUpdate env call device firmware?

def triggerUpdate (env : ApiConfig) (call : TriggerCall) : Proc OtaWorld OtaStep OtaResult := do
  let found ← Proc.read .readDevice (findOwned · call)
  continueUpdate env call found

/-! ## `handleOtaStatusReport` -/

/-- One report as it is delivered. -/
structure OtaReport where
  deviceId : String
  payload : OtaStatusReportPayload
  now : Date
deriving DecidableEq, Repr

/-- The progress a report of the status leaves on the device; `none` for `NaN`,
which the database does not store. -/
def reportedProgress (device : DeviceEntity) (payload : OtaStatusReportPayload)
    (status : DeviceOtaStatus) : Option (Option Int) :=
  if status = .success then some (some 100)
  else
    match payload.progress with
    | none => some device.otaProgress
    | some value => (clampProgress value).map some

/-- The device row a report of the status saves, at the given progress. -/
def reportedDevice (device : DeviceEntity) (report : OtaReport) (status : DeviceOtaStatus)
    (progress : Option Int) : DeviceEntity :=
  { device with
    otaStatus := status
    otaUpdatedAt := some report.now
    otaProgress := progress
    firmwareVersion :=
      if status = .success then report.payload.version <|> device.firmwareVersion
      else device.firmwareVersion
    otaError :=
      if status = .success then none
      else if status = .failed then some (report.payload.error.getD "Unknown error")
      else device.otaError }

/-- The history row a report of the status saves; `device` is the saved row. -/
def reportedRow (row : DeviceOtaUpdateEntity) (device : DeviceEntity) (now : Date) :
    DeviceOtaUpdateEntity :=
  { row with
    status := device.otaStatus
    progress := device.otaProgress
    startedAt :=
      if row.startedAt = none ∧
        (device.otaStatus = .downloading ∨ device.otaStatus = .installing) then some now
      else row.startedAt
    completedAt := if device.otaStatus.Terminal then some now else row.completedAt
    error :=
      if device.otaStatus = .success then none
      else if device.otaStatus = .failed then device.otaError
      else row.error }

/-- The event a handled report emits; `device` is the saved row. -/
def reportEvent (report : OtaReport) (device : DeviceEntity) : DeviceEvent :=
  .otaStatus report.deviceId device.otaStatus (report.payload.version <|> device.firmwareVersion)
    device.otaProgress device.otaError report.now

/-- The device row a report saves, or how the handler ends before it saves. -/
def applyReport (report : OtaReport) : Option DeviceEntity → Except OtaResult DeviceEntity
  | none => .error (.handled [])
  | some device =>
    match parseOtaStatus report.payload.status with
    | none => .error (.handled [])
    | some status =>
      match reportedProgress device report.payload status with
      | none => .error .threw
      | some progress => .ok (reportedDevice device report status progress)

def findReported (w : OtaWorld) (report : OtaReport) : Option DeviceEntity :=
  if w.device.deviceId = report.deviceId then some w.device else none

/-- The handler after its read of the latest row. -/
def finishReport (report : OtaReport) (device : DeviceEntity)
    (latest : Option DeviceOtaUpdateEntity) : Proc OtaWorld OtaStep OtaResult :=
  match latest with
  | some row =>
    if row.completedAt = none then do
      Proc.write (.saveHistory (reportedRow row device report.now))
      pure (.handled [reportEvent report device])
    else pure (.handled [reportEvent report device])
  | none => pure (.handled [reportEvent report device])

/-- The handler after its save of the device row. -/
def closeReport (report : OtaReport) (device : DeviceEntity) :
    Proc OtaWorld OtaStep OtaResult := do
  let latest ← Proc.read .readLatest (latestUpdate ·.history)
  finishReport report device latest

/-- The handler after its read of the device row. -/
def continueReport (report : OtaReport) (found : Option DeviceEntity) :
    Proc OtaWorld OtaStep OtaResult :=
  match applyReport report found with
  | .error result => pure result
  | .ok device => do
    Proc.write (.saveDevice device)
    closeReport report device

def handleOtaStatusReport (report : OtaReport) : Proc OtaWorld OtaStep OtaResult := do
  let found ← Proc.read .readDevice (findReported · report)
  continueReport report found

/-! ## `getManifest` -/

structure OtaManifestDto where
  deviceId : String
  currentVersion : Option String
  updateAvailable : Bool
  latestVersion : Option String
  fileUrl : Option String
  checksum : Option String
  sizeBytes : Option Int
  releaseNotes : Option String
deriving DecidableEq, Repr

/-- `findOne({ where: { templateId, isActive: true }, order: { createdAt: 'DESC' } })`. -/
def findLatestActiveForTemplate (firmwares : List FirmwareEntity) (templateId : String) :
    Option FirmwareEntity :=
  Table.latest (·.createdAt) (firmwares.filter fun f => f.templateId == templateId && f.isActive)

def updateAvailable (device : DeviceEntity) (firmware : Option FirmwareEntity) : Bool :=
  match firmware with
  | some f => some f.version ≠ device.firmwareVersion
  | none => false

def getManifest (w : OtaWorld) (deviceId : String) : ResponseCore OtaManifestDto :=
  if w.device.deviceId = deviceId then
    let firmware := findLatestActiveForTemplate w.firmwares w.device.templateId
    let offered := firmware.filter fun _ => updateAvailable w.device firmware
    .ok
      { deviceId := w.device.deviceId
        currentVersion := w.device.firmwareVersion
        updateAvailable := updateAvailable w.device firmware
        latestVersion := firmware.map (·.version)
        fileUrl := offered.map (·.fileUrl)
        checksum := offered.bind (·.checksum)
        sizeBytes := offered.bind (·.sizeBytes)
        releaseNotes := offered.bind (·.releaseNotes) }
  else .fail .notFound "error.deviceNotFound"

/-! ## One call at a time -/

/-- The firmware and the instruction of a call that goes through when it runs alone. -/
def startsUpdate (env : ApiConfig) (call : TriggerCall) (w : OtaWorld) :
    Option (FirmwareEntity × OtaInstruction) :=
  (findOwned w call).bind fun device =>
    (planUpdate env call device (findFirmware w call.dto.firmwareId)).toOption

/-- The checks only let a device through that has no update in flight. -/
theorem checkUpdate_idle {device : DeviceEntity} {firmware? : Option FirmwareEntity}
    {firmware : FirmwareEntity} (h : checkUpdate device firmware? = .ok firmware) :
    ¬ device.otaStatus.InProgress := by
  intro progress
  have inFlight : device.otaStatus ∈ otaInProgressStatuses := progress
  cases firmware? with
  | none => simp [checkUpdate] at h
  | some fw =>
    simp only [checkUpdate, inFlight, if_true] at h
    split at h
    · exact absurd h (by simp)
    · split at h
      · exact absurd h (by simp)
      · split at h <;> exact absurd h (by simp)

theorem planUpdate_eq_ok {env : ApiConfig} {call : TriggerCall} {device : DeviceEntity}
    {firmware? : Option FirmwareEntity} {planned : FirmwareEntity × OtaInstruction}
    (h : planUpdate env call device firmware? = .ok planned) :
    checkUpdate device firmware? = .ok planned.1 := by
  unfold planUpdate at h
  cases hcheck : checkUpdate device firmware? with
  | error failure => simp [hcheck] at h
  | ok firmware =>
    cases hsend : sendUpdate env call device firmware with
    | error failure => simp [hcheck, hsend] at h
    | ok instruction =>
      simp only [hcheck, hsend, Except.ok.injEq] at h
      rw [← h]

theorem startsUpdate_eq_some {env : ApiConfig} {call : TriggerCall} {w : OtaWorld}
    {planned : FirmwareEntity × OtaInstruction} (h : startsUpdate env call w = some planned) :
    findOwned w call = some w.device ∧
      planUpdate env call w.device (findFirmware w call.dto.firmwareId) = .ok planned := by
  unfold startsUpdate at h
  obtain ⟨device, hfound, h⟩ := Option.bind_eq_some_iff.mp h
  have hdevice : device = w.device := by
    unfold findOwned at hfound
    split at hfound
    · exact (Option.some_inj.mp hfound).symm
    · exact absurd hfound (by simp)
  subst hdevice
  refine ⟨hfound, ?_⟩
  cases hplan : planUpdate env call w.device (findFirmware w call.dto.firmwareId) with
  | error failure => simp [hplan, Except.toOption] at h
  | ok planned' =>
    simp only [hplan, Except.toOption, Option.some_inj] at h
    rw [h]

theorem startsUpdate_idle {env : ApiConfig} {call : TriggerCall} {w : OtaWorld}
    {planned : FirmwareEntity × OtaInstruction} (h : startsUpdate env call w = some planned) :
    ¬ w.device.otaStatus.InProgress :=
  checkUpdate_idle (planUpdate_eq_ok (startsUpdate_eq_some h).2)

/-- A call that does not go through leaves the state; one that does publishes its
instruction, marks the device and inserts its row. -/
theorem exec_triggerUpdate (env : ApiConfig) (call : TriggerCall) (w : OtaWorld) :
    ((triggerUpdate env call).exec OtaWorld.act w).1 =
      match startsUpdate env call w with
      | none => w
      | some (firmware, instruction) =>
        { w with
          device := pendingDevice w.device firmware call.now
          history := w.history ++
            [{ pendingRow w.device firmware call.now with id := w.history.length }]
          published := w.published ++ [instruction] } := by
  unfold triggerUpdate startsUpdate
  by_cases hown : w.device.id = call.id ∧ w.device.userId = call.userId
  · have found : findOwned w call = some w.device := if_pos hown
    simp only [Proc.read_bind, Proc.exec_step, OtaWorld.act, found, Option.bind_some,
      continueUpdate, finishUpdate]
    cases planUpdate env call w.device (findFirmware w call.dto.firmwareId) with
    | error failure => rfl
    | ok planned => rfl
  · have found : findOwned w call = none := if_neg hown
    simp only [Proc.read_bind, Proc.exec_step, OtaWorld.act, found, Option.bind_none,
      continueUpdate, Proc.pure_eq, Proc.exec_ret]

theorem applyReport_eq_ok_iff {report : OtaReport} {found : Option DeviceEntity}
    {saved : DeviceEntity} :
    applyReport report found = .ok saved ↔ ∃ device status progress, found = some device ∧
      parseOtaStatus report.payload.status = some status ∧
      reportedProgress device report.payload status = some progress ∧
      saved = reportedDevice device report status progress := by
  constructor
  · intro h
    cases found with
    | none => cases h
    | some device =>
      unfold applyReport at h
      dsimp only at h
      split at h
      · cases h
      · next status hparse =>
        split at h
        · cases h
        · next progress hprogress =>
          obtain rfl := Except.ok.inj h
          exact ⟨device, status, progress, rfl, hparse, hprogress, rfl⟩
  · rintro ⟨device, status, progress, rfl, hparse, hprogress, rfl⟩
    simp [applyReport, hparse, hprogress]

/-- The history after a report whose saved device row is `device`. -/
def reportedHistory (history : List DeviceOtaUpdateEntity) (device : DeviceEntity) (now : Date) :
    List DeviceOtaUpdateEntity :=
  match latestUpdate history with
  | some row =>
    if row.completedAt = none then saveRow (reportedRow row device now) history else history
  | none => history

/-- A report that is ignored or throws leaves the state; another saves the device
row, and the latest history row if it is open. -/
theorem exec_handleOtaStatusReport (report : OtaReport) (w : OtaWorld) :
    ((handleOtaStatusReport report).exec OtaWorld.act w).1 =
      match applyReport report (findReported w report) with
      | .error _ => w
      | .ok device =>
        { w with
          device := device
          history := reportedHistory w.history device report.now } := by
  unfold handleOtaStatusReport continueReport
  simp only [Proc.read_bind, Proc.exec_step, OtaWorld.act]
  cases applyReport report (findReported w report) with
  | error result => rfl
  | ok device =>
    simp only [Proc.write_bind, Proc.exec_step, OtaWorld.act, closeReport, Proc.read_bind,
      finishReport, reportedHistory]
    cases latestUpdate w.history with
    | none => rfl
    | some row =>
      by_cases hopen : row.completedAt = none
      · simp [hopen, OtaWorld.act]
      · simp [hopen]

end AiotCloud
