import AiotCloud.AssetNodes
import AiotCloud.Lib.Cells
import AiotCloud.Lib.ReadModifyWrite
import AiotCloud.Lifecycle
import AiotCloud.Ota

/-!
# Writers of the device row

Ten operations read the device row, decide from their copy, and write. An `update`
sends the columns it names; a `save` sends the whole copy, so it also sends columns
the operation is not meant to change, as they were at its read. `handleDeviceChannelEvent`
does the same with the other channels.

`columns_kept_iff`: all along a run, every column and channel has the value of the last
write meant to change it, exactly when each write finds what else it sends unchanged
since its read.
-/

namespace AiotCloud

open Interleave

/-! ## Columns -/

/-- The columns of `devices`. `config` is its four sections, `channelStates` its keys. -/
inductive DeviceColumn where
  | id | deviceId | name | templateId | userId | factoryId | assetId | healthWeight
  | lastSeenAt | status | pushChannel | apiEndpoint | mqtt | http | kafka | configVersion
  | isActive | warningOverrides | channel (key : String) | offlineAlert | alertRules | failsafe
  | installedAt | expectedLifespanMonths | lifecycleStage | lifecycleScore
  | lifecycleAssessedAt | decommissionedAt | firmwareVersion | otaStatus | otaFirmwareId
  | otaTargetVersion | otaProgress | otaError | otaRequestedAt | otaUpdatedAt | createdAt
deriving DecidableEq, Repr

def DeviceColumn.Value : DeviceColumn → Type
  | .id | .deviceId | .name | .templateId | .userId => String
  | .factoryId | .assetId | .apiEndpoint | .firmwareVersion | .otaFirmwareId
  | .otaTargetVersion | .otaError | .channel _ => Option String
  | .healthWeight => Rat
  | .lastSeenAt | .installedAt | .lifecycleAssessedAt | .decommissionedAt | .otaRequestedAt
  | .otaUpdatedAt => Option Date
  | .status => DeviceStatus
  | .pushChannel => DevicePushChannel
  | .mqtt => Option DeviceMqttConfig
  | .http => Option DeviceHttpPushConfig
  | .kafka => Option DeviceKafkaConfig
  | .configVersion => Nat
  | .isActive => Bool
  | .warningOverrides => Option (Record DeviceWarningThreshold)
  | .offlineAlert => Option DeviceOfflineAlertConfig
  | .alertRules => Option (List String)
  | .failsafe => Option DeviceFailsafeConfig
  | .expectedLifespanMonths | .lifecycleScore | .otaProgress => Option Int
  | .lifecycleStage => DeviceLifecycleStage
  | .otaStatus => DeviceOtaStatus
  | .createdAt => Date

def DeviceEntity.column (d : DeviceEntity) : (c : DeviceColumn) → c.Value
  | .id => d.id
  | .deviceId => d.deviceId
  | .name => d.name
  | .templateId => d.templateId
  | .userId => d.userId
  | .factoryId => d.factoryId
  | .assetId => d.assetId
  | .healthWeight => d.healthWeight
  | .lastSeenAt => d.lastSeenAt
  | .status => d.status
  | .pushChannel => d.pushChannel
  | .apiEndpoint => d.config.bind (·.apiEndpoint)
  | .mqtt => d.mqttConfig
  | .http => d.config.bind (·.http)
  | .kafka => d.kafkaConfig
  | .configVersion => d.configVersion
  | .isActive => d.isActive
  | .warningOverrides => d.warningOverrides
  | .channel key => d.channelState key
  | .offlineAlert => d.offlineAlert
  | .alertRules => d.alertRules
  | .failsafe => d.failsafe
  | .installedAt => d.installedAt
  | .expectedLifespanMonths => d.expectedLifespanMonths
  | .lifecycleStage => d.lifecycleStage
  | .lifecycleScore => d.lifecycleScore
  | .lifecycleAssessedAt => d.lifecycleAssessedAt
  | .decommissionedAt => d.decommissionedAt
  | .firmwareVersion => d.firmwareVersion
  | .otaStatus => d.otaStatus
  | .otaFirmwareId => d.otaFirmwareId
  | .otaTargetVersion => d.otaTargetVersion
  | .otaProgress => d.otaProgress
  | .otaError => d.otaError
  | .otaRequestedAt => d.otaRequestedAt
  | .otaUpdatedAt => d.otaUpdatedAt
  | .createdAt => d.createdAt

/-- The columns an `update` sends. -/
def DevicePatch.sends (p : DevicePatch) : (c : DeviceColumn) → Option c.Value
  | .lastSeenAt => p.lastSeenAt.map some
  | .status => p.status
  | .channel key => p.channelStates.map (·.lookup key)
  | .lifecycleStage => p.lifecycleStage
  | .lifecycleScore => p.lifecycleScore.map some
  | .lifecycleAssessedAt => p.lifecycleAssessedAt.map some
  | _ => none

/-- The columns a write sends. -/
def Persist.sends : Persist → (c : DeviceColumn) → Option c.Value
  | .save entity, c => some (entity.column c)
  | .update columns, c => columns.sends c

theorem column_apply (p : DevicePatch) (row : DeviceEntity) (c : DeviceColumn) :
    (p.apply row).column c = (p.sends c).getD (row.column c) := by
  cases c with
  | lastSeenAt =>
    show (p.lastSeenAt <|> row.lastSeenAt) = (p.lastSeenAt.map some).getD row.lastSeenAt
    cases p.lastSeenAt <;> rfl
  | channel key =>
    show (p.channelStates <|> row.channelStates).bind (·.lookup key) =
      (p.channelStates.map (·.lookup key)).getD (row.channelStates.bind (·.lookup key))
    cases p.channelStates <;> rfl
  | lifecycleScore =>
    show (p.lifecycleScore <|> row.lifecycleScore) =
      (p.lifecycleScore.map some).getD row.lifecycleScore
    cases p.lifecycleScore <;> rfl
  | lifecycleAssessedAt =>
    show (p.lifecycleAssessedAt <|> row.lifecycleAssessedAt) =
      (p.lifecycleAssessedAt.map some).getD row.lifecycleAssessedAt
    cases p.lifecycleAssessedAt <;> rfl
  | _ => rfl

theorem column_commit (p : Persist) (row : DeviceEntity) (c : DeviceColumn) :
    (p.commit row).column c = (p.sends c).getD (row.column c) := by
  cases p with
  | save entity => rfl
  | update columns => exact column_apply columns row c

/-! ## Columns meant to change -/

def seenColumns : DeviceColumn → Bool
  | .lastSeenAt | .status => true
  | _ => false

def channelEventColumns (event : DeviceChannelEventPayload) : DeviceColumn → Bool
  | .lastSeenAt | .status => true
  | .channel key => event.channel = some key
  | _ => false

def otaReportColumns : DeviceColumn → Bool
  | .otaStatus | .otaProgress | .otaError | .otaUpdatedAt | .firmwareVersion => true
  | _ => false

/-- The fields the request gives, and the version. -/
def configColumns (dto : UpdateDeviceConfigDto) : DeviceColumn → Bool
  | .apiEndpoint => dto.apiEndpoint.isSome
  | .mqtt => dto.mqtt.isSome
  | .http => dto.http.isSome
  | .kafka => dto.kafka.isSome
  | .pushChannel => dto.pushChannel.isSome
  | .isActive => dto.isActive.isSome
  | .warningOverrides => dto.warningOverrides.isSome
  | .offlineAlert => dto.offlineAlert.isSome
  | .alertRules => dto.alertRules.isSome
  | .failsafe => dto.failsafe.isSome
  | .configVersion => true
  | _ => false

def kafkaColumn : DeviceColumn → Bool
  | .kafka => true
  | _ => false

def attachColumns (healthWeight : Option Rat) : DeviceColumn → Bool
  | .assetId => true
  | .healthWeight => healthWeight.isSome
  | _ => false

def weightColumn : DeviceColumn → Bool
  | .healthWeight => true
  | _ => false

def lifecycleConfigColumns (dto : UpdateDeviceLifecycleDto) : DeviceColumn → Bool
  | .installedAt => dto.installedAt.isSome
  | .expectedLifespanMonths => dto.expectedLifespanMonths.isSome
  | _ => false

def assessmentColumns : DeviceColumn → Bool
  | .lifecycleStage | .lifecycleScore | .lifecycleAssessedAt => true
  | _ => false

def decommissionColumns : DeviceColumn → Bool
  | .lifecycleStage | .lifecycleScore | .lifecycleAssessedAt | .decommissionedAt => true
  | _ => false

/-! ## What else is sent -/

/-- Outside the columns it is meant to change, the write sends what the copy holds. -/
def SendsCopy (copy : DeviceEntity) (p : Persist) (meant : DeviceColumn → Bool) : Prop :=
  ∀ c v, meant c = false → p.sends c = some v → copy.column c = v

theorem sendsCopy_save {copy saved : DeviceEntity} {meant : DeviceColumn → Bool}
    (h : ∀ c, meant c = false → saved.column c = copy.column c) :
    SendsCopy copy (.save saved) meant := by
  intro c v hc hv
  rw [← h c hc]
  exact Option.some_inj.mp hv

theorem sendsCopy_update {copy : DeviceEntity} {columns : DevicePatch}
    {meant : DeviceColumn → Bool} (h : ∀ c, meant c = false → columns.sends c = none) :
    SendsCopy copy (.update columns) meant := by
  intro c v hc hv
  exact absurd ((h c hc).symm.trans hv) (by simp)

theorem sendsCopy_recordTelemetry {now : Date} {deviceId : String} {payload : Json}
    {copy : DeviceEntity} {p : Persist}
    (h : (recordTelemetry now deviceId payload (some copy)).write = some p) :
    SendsCopy copy p seenColumns := by
  obtain rfl := Option.some_inj.mp h
  refine sendsCopy_update fun c hc => ?_
  cases c <;> first | rfl | exact absurd hc (by decide)

theorem sendsCopy_handleDeviceStatusMessage {now : Date} {deviceId : String} {payload : Json}
    {copy : DeviceEntity} {p : Persist}
    (h : (handleDeviceStatusMessage now deviceId payload (some copy)).write = some p) :
    SendsCopy copy p seenColumns := by
  unfold handleDeviceStatusMessage at h
  cases hparse : parseStatusPayload payload with
  | none => simp [hparse] at h
  | some status =>
    simp only [hparse, Option.some_inj] at h
    subst h
    refine sendsCopy_update fun c hc => ?_
    cases c <;> first | rfl | exact absurd hc (by decide)

/-- A channel event sends the other channels as the copy holds them. -/
theorem sendsCopy_handleDeviceChannelEvent {now : Date} {deviceId : String}
    {event : DeviceChannelEventPayload} {copy : DeviceEntity} {p : Persist}
    (h : (handleDeviceChannelEvent now deviceId event (some copy)).write = some p) :
    SendsCopy copy p (channelEventColumns event) := by
  unfold handleDeviceChannelEvent at h
  cases hfailed : event.failed with
  | true =>
    simp only [hfailed, if_true, Option.some_inj] at h
    subst h
    refine sendsCopy_update fun c hc => ?_
    cases c <;> first | rfl | exact absurd hc (by simp [channelEventColumns])
  | false =>
    cases hchannel : event.channel with
    | none => simp [hfailed, hchannel] at h
    | some key =>
      simp only [hfailed, hchannel, Option.some_inj, Bool.false_eq_true, if_false] at h
      subst h
      intro c v hc hv
      cases c with
      | channel key' =>
        have hne : key' ≠ key := by
          rintro rfl
          simp [channelEventColumns, hchannel] at hc
        have hlookup : (mergeChannelState copy key event.stored).lookup key' = v :=
          Option.some_inj.mp hv
        rw [lookup_mergeChannelState, if_neg hne] at hlookup
        exact hlookup
      | lastSeenAt => exact absurd hc (by simp [channelEventColumns])
      | status => exact absurd hc (by simp [channelEventColumns])
      | _ => nomatch hv

theorem sendsCopy_applyReport {report : OtaReport} {copy device : DeviceEntity}
    (h : applyReport report (some copy) = .ok device) :
    SendsCopy copy (.save device) otaReportColumns := by
  refine sendsCopy_save fun c hc => ?_
  obtain ⟨_, status, progress, ⟨⟩, -, -, rfl⟩ := applyReport_eq_ok_iff.mp h
  cases c <;> first | rfl | exact absurd hc (by decide)

/-- The value the request gives the column, if it does. -/
def UpdateDeviceConfigDto.gives (dto : UpdateDeviceConfigDto) : (c : DeviceColumn) → Option c.Value
  | .apiEndpoint => dto.apiEndpoint
  | .mqtt => dto.mqtt
  | .http => dto.http
  | .kafka => dto.kafka
  | .pushChannel => dto.pushChannel
  | .isActive => dto.isActive
  | .warningOverrides => dto.warningOverrides
  | .offlineAlert => dto.offlineAlert
  | .alertRules => dto.alertRules
  | .failsafe => dto.failsafe
  | _ => none

/-- A saved column has the given value, or that of the copy. -/
theorem column_applyConfigDto_gives (dto : UpdateDeviceConfigDto) (device : DeviceEntity)
    {c : DeviceColumn} (hc : c ≠ .configVersion) :
    (applyConfigDto dto device).column c = (dto.gives c).getD (device.column c) := by
  cases c with
  | apiEndpoint =>
    show dto.apiEndpoint.getD (configCopy device).apiEndpoint =
      dto.apiEndpoint.getD (device.config.bind (·.apiEndpoint))
    rw [configCopy]
    cases device.config <;> rfl
  | http =>
    show dto.http.getD (configCopy device).http = dto.http.getD (device.config.bind (·.http))
    rw [configCopy]
    cases device.config <;> rfl
  | mqtt => exact applyConfigDto_mqttConfig dto device
  | kafka => exact applyConfigDto_kafkaConfig dto device
  | configVersion => exact absurd rfl hc
  | _ => rfl

theorem gives_eq_none {dto : UpdateDeviceConfigDto} {c : DeviceColumn}
    (hc : configColumns dto c = false) : dto.gives c = none := by
  cases c with
  | apiEndpoint | mqtt | http | kafka | pushChannel | isActive | warningOverrides | offlineAlert
  | alertRules | failsafe => exact Option.not_isSome_iff_eq_none.mp (Bool.eq_false_iff.mp hc)
  | _ => rfl

/-- Outside the given fields and the version, a saved column is that of the copy. -/
theorem column_applyConfigDto {dto : UpdateDeviceConfigDto} {c : DeviceColumn}
    (hc : configColumns dto c = false) (device : DeviceEntity) :
    (applyConfigDto dto device).column c = device.column c := by
  have hversion : c ≠ .configVersion := by
    rintro rfl
    cases hc
  rw [column_applyConfigDto_gives dto device hversion, gives_eq_none hc]
  rfl

theorem sendsCopy_updateDeviceConfig {dto : UpdateDeviceConfigDto} {copy : DeviceEntity}
    {p : Persist} (h : (updateDeviceConfig dto (some copy)).2.1 = some p) :
    SendsCopy copy p (configColumns dto) := by
  obtain rfl := Option.some_inj.mp h
  exact sendsCopy_save fun c hc => column_applyConfigDto hc copy

theorem column_withKafkaConfig (device : DeviceEntity) (kafka : DeviceKafkaConfig)
    {c : DeviceColumn} (hc : kafkaColumn c = false) :
    (withKafkaConfig device kafka).column c = device.column c := by
  cases c with
  | apiEndpoint =>
    show (configCopy device).apiEndpoint = device.config.bind (·.apiEndpoint)
    unfold configCopy
    cases device.config <;> rfl
  | http =>
    show (configCopy device).http = device.config.bind (·.http)
    unfold configCopy
    cases device.config <;> rfl
  | mqtt => exact withKafkaConfig_mqttConfig device kafka
  | kafka => exact absurd hc (by decide)
  | _ => rfl

theorem sendsCopy_getBootConfig {env : ApiConfig} {template : Option DeviceTemplateEntity}
    {copy : DeviceEntity} {p : Persist}
    (h : (getBootConfig env template (some copy)).2 = some p) : SendsCopy copy p kafkaColumn := by
  unfold getBootConfig resolveKafkaConfig at h
  cases hkafka : copy.kafkaConfig with
  | some kafka =>
    simp only [hkafka] at h
    split at h <;> exact absurd h (by simp)
  | none =>
    simp only [hkafka] at h
    split at h
    · obtain rfl := Option.some_inj.mp h
      exact sendsCopy_save fun c hc => column_withKafkaConfig copy _ hc
    · exact absurd h (by simp)

theorem sendsCopy_attachNode {asset : AssetEntity} {healthWeight : Option Rat}
    {copy : DeviceEntity} {p : Persist}
    (h : attachNode healthWeight (some asset) (some copy) = .ok p) :
    SendsCopy copy p (attachColumns healthWeight) := by
  obtain rfl := Except.ok.inj h
  refine sendsCopy_save fun c hc => ?_
  cases c with
  | assetId => exact absurd hc (by simp [attachColumns])
  | healthWeight =>
    have hnone : healthWeight = none := by simpa [attachColumns] using hc
    show healthWeight.getD copy.healthWeight = copy.healthWeight
    rw [hnone, Option.getD_none]
  | _ => rfl

theorem sendsCopy_updateNodeWeight {asset : AssetEntity} {healthWeight : Rat}
    {copy : DeviceEntity} {p : Persist}
    (h : updateNodeWeight healthWeight (some asset) (findNode asset copy) = .ok p) :
    SendsCopy copy p weightColumn := by
  unfold findNode at h
  split at h
  · obtain rfl := Except.ok.inj h
    refine sendsCopy_save fun c hc => ?_
    cases c <;> first | rfl | exact absurd hc (by decide)
  · exact absurd h (by simp [updateNodeWeight])

theorem sendsCopy_applyLifecycleDto (dto : UpdateDeviceLifecycleDto) (copy : DeviceEntity) :
    SendsCopy copy (.save (applyLifecycleDto dto copy)) (lifecycleConfigColumns dto) := by
  refine sendsCopy_save fun c hc => ?_
  cases c with
  | installedAt =>
    have hnone : dto.installedAt = none := by simpa [lifecycleConfigColumns] using hc
    show dto.installedAt.getD copy.installedAt = copy.installedAt
    rw [hnone, Option.getD_none]
  | expectedLifespanMonths =>
    have hnone : dto.expectedLifespanMonths = none := by simpa [lifecycleConfigColumns] using hc
    show dto.expectedLifespanMonths.getD copy.expectedLifespanMonths = copy.expectedLifespanMonths
    rw [hnone, Option.getD_none]
  | _ => rfl

theorem sendsCopy_assessDevice (now : Date) (template : Option DeviceTemplateEntity)
    (records : List DeviceTelemetryEntity) (device copy : DeviceEntity) :
    SendsCopy copy (.update (assessDevice now template records device).1) assessmentColumns := by
  refine sendsCopy_update fun c hc => ?_
  cases c <;> first | rfl | exact absurd hc (by decide)

theorem sendsCopy_decommission {now : Date} {copy : DeviceEntity} {p : Persist}
    (h : (decommission now (some copy)).2 = some p) : SendsCopy copy p decommissionColumns := by
  obtain rfl := Option.some_inj.mp h
  refine sendsCopy_save fun c hc => ?_
  cases c <;> first | rfl | exact absurd hc (by decide)

/-! ## The operations -/

/-- The operations on one device, each with what it is called with and the rows of other
tables it has found. -/
inductive Writer where
  | recordTelemetry (now : Date) (payload : Json)
  | handleDeviceStatusMessage (now : Date) (payload : Json)
  | handleDeviceChannelEvent (now : Date) (event : DeviceChannelEventPayload)
  | handleOtaStatusReport (report : OtaReport)
  | updateDeviceConfig (dto : UpdateDeviceConfigDto)
  | getBootConfig (env : ApiConfig) (template : Option DeviceTemplateEntity)
  | attachNode (asset : AssetEntity) (healthWeight : Option Rat)
  | updateNodeWeight (asset : AssetEntity) (healthWeight : Rat)
  | updateLifecycleConfig (now : Date) (template : Option DeviceTemplateEntity)
      (records : List DeviceTelemetryEntity) (dto : UpdateDeviceLifecycleDto)
  | decommission (now : Date)

/-- One write: what it sends, the columns it is meant to change, and the copy of the row
the operation read. -/
structure RowWrite where
  copy : DeviceEntity
  persist : Persist
  meant : DeviceColumn → Bool
  sendsCopy : SendsCopy copy persist meant

/-- The writes of an operation that read `copy`. -/
def Writer.writes (copy : DeviceEntity) : Writer → List RowWrite
  | .recordTelemetry now payload =>
    match h : (AiotCloud.recordTelemetry now copy.deviceId payload (some copy)).write with
    | some p => [⟨copy, p, seenColumns, sendsCopy_recordTelemetry h⟩]
    | none => []
  | .handleDeviceStatusMessage now payload =>
    match h : (AiotCloud.handleDeviceStatusMessage now copy.deviceId payload (some copy)).write with
    | some p => [⟨copy, p, seenColumns, sendsCopy_handleDeviceStatusMessage h⟩]
    | none => []
  | .handleDeviceChannelEvent now event =>
    match h : (AiotCloud.handleDeviceChannelEvent now copy.deviceId event (some copy)).write with
    | some p => [⟨copy, p, channelEventColumns event, sendsCopy_handleDeviceChannelEvent h⟩]
    | none => []
  | .handleOtaStatusReport report =>
    match h : applyReport report (some copy) with
    | .ok device => [⟨copy, .save device, otaReportColumns, sendsCopy_applyReport h⟩]
    | .error _ => []
  | .updateDeviceConfig dto =>
    match h : (AiotCloud.updateDeviceConfig dto (some copy)).2.1 with
    | some p => [⟨copy, p, configColumns dto, sendsCopy_updateDeviceConfig h⟩]
    | none => []
  | .getBootConfig env template =>
    match h : (AiotCloud.getBootConfig env template (some copy)).2 with
    | some p => [⟨copy, p, kafkaColumn, sendsCopy_getBootConfig h⟩]
    | none => []
  | .attachNode asset healthWeight =>
    match h : AiotCloud.attachNode healthWeight (some asset) (some copy) with
    | .ok p => [⟨copy, p, attachColumns healthWeight, sendsCopy_attachNode h⟩]
    | .error _ => []
  | .updateNodeWeight asset healthWeight =>
    match h : AiotCloud.updateNodeWeight healthWeight (some asset) (findNode asset copy) with
    | .ok p => [⟨copy, p, weightColumn, sendsCopy_updateNodeWeight h⟩]
    | .error _ => []
  | .updateLifecycleConfig now template records dto =>
    -- the save, then the update of the assessment, which sends nothing of the copy
    [⟨copy, .save (applyLifecycleDto dto copy), lifecycleConfigColumns dto,
        sendsCopy_applyLifecycleDto dto copy⟩,
      ⟨copy, .update (assessDevice now template records (applyLifecycleDto dto copy)).1,
        assessmentColumns, sendsCopy_assessDevice now template records _ copy⟩]
  | .decommission now =>
    match h : (AiotCloud.decommission now (some copy)).2 with
    | some p => [⟨copy, p, decommissionColumns, sendsCopy_decommission h⟩]
    | none => []

theorem Writer.writes_updateLifecycleConfig (now : Date) (template : Option DeviceTemplateEntity)
    (records : List DeviceTelemetryEntity) (dto : UpdateDeviceLifecycleDto) (copy : DeviceEntity) :
    ((Writer.updateLifecycleConfig now template records dto).writes copy).map (·.persist) =
      (AiotCloud.updateLifecycleConfig now template records dto (some copy)).2 := rfl

/-! ## Interleavings -/

inductive RowStep where
  | read
  | write (w : RowWrite)

/-- The row after a write. -/
def RowWrite.commit (row : DeviceEntity) (w : RowWrite) : DeviceEntity := w.persist.commit row

def RowStep.act (row : DeviceEntity) : RowStep → DeviceEntity
  | .read => row
  | .write w => w.commit row

def writeAll : List RowWrite → Proc DeviceEntity RowStep Unit
  | [] => pure ()
  | w :: ws => do
    Proc.write (.write w)
    writeAll ws

/-- An operation: it reads the row, then makes its writes one by one. -/
def Writer.proc (writer : Writer) : Proc DeviceEntity RowStep Unit := do
  let copy ← Proc.read .read id
  writeAll (writer.writes copy)

/-- Operations at their start. -/
def writers {ι : Type} (ops : ι → Writer) (row : DeviceEntity) :
    Sys ι DeviceEntity RowStep Unit :=
  ⟨row, fun i => (ops i).proc⟩

/-- A step as a turn of its operation. -/
def rowTurn {ι : Type} : ι × RowStep → Option (ReadModifyWrite.Turn ι)
  | (i, .read) => some (.read i)
  | (i, .write _) => some (.write i)

theorem rowTurn_read {ι : Type} {i j : ι} {l : RowStep} (h : rowTurn (i, l) = some (.read j)) :
    i = j ∧ l = .read := by
  cases l with
  | read => exact ⟨ReadModifyWrite.Turn.read.inj (Option.some.inj h), rfl⟩
  | write w => exact absurd h (by simp [rowTurn])

theorem rowTurn_write {ι : Type} {i j : ι} {l : RowStep} (h : rowTurn (i, l) = some (.write j)) :
    i = j ∧ ∃ w, l = .write w := by
  cases l with
  | read => exact absurd h (by simp [rowTurn])
  | write w => exact ⟨ReadModifyWrite.Turn.write.inj (Option.some.inj h), w, rfl⟩

def turnsOf {ι : Type} (trace : List (ι × RowStep)) : List (ReadModifyWrite.Turn ι) :=
  trace.filterMap rowTurn

/-- The writes of a trace. -/
def writesOf {ι : Type} (trace : List (ι × RowStep)) : List RowWrite :=
  trace.filterMap fun
    | (_, .write w) => some w
    | _ => none

/-- What the write is meant to set the column to, if it is meant to change it. -/
def RowWrite.sets (w : RowWrite) (c : DeviceColumn) : Option c.Value :=
  if w.meant c then w.persist.sends c else none

/-- The value of the last write meant to change the column, or the value at the start. -/
def lastMeant (row : DeviceEntity) (ws : List RowWrite) (c : DeviceColumn) : c.Value :=
  ((ws.filterMap (·.sets c)).getLast?).getD (row.column c)

/-- What the write sends beyond the columns it is meant to change stands in the row as
the operation read it. -/
def RowWrite.Unchanged (row : DeviceEntity) (w : RowWrite) : Prop :=
  ∀ c, w.meant c = false → (w.persist.sends c).isSome → row.column c = w.copy.column c

/-- The write as a statement over the columns. -/
def RowWrite.statement (w : RowWrite) : Cells.Write DeviceColumn DeviceColumn.Value where
  meant := w.sets
  carried := w.persist.sends
  meant_carried := by
    intro c v h
    unfold RowWrite.sets at h
    split at h
    · exact h
    · exact absurd h (by simp)

theorem RowWrite.fresh_iff (row : DeviceEntity) (w : RowWrite) :
    w.statement.Fresh row.column ↔ w.Unchanged row := by
  constructor
  · intro fresh c hc hsent
    obtain ⟨v, hv⟩ := Option.isSome_iff_exists.mp hsent
    have unset : w.statement.meant c = none := by simp [RowWrite.statement, RowWrite.sets, hc]
    rw [fresh c v unset hv, w.sendsCopy c v hc hv]
  · intro unchanged c v unset hv
    have hc : w.meant c = false := by
      cases hmeant : w.meant c with
      | false => rfl
      | true =>
        have hset : w.statement.meant c = w.persist.sends c := by
          simp [RowWrite.statement, RowWrite.sets, hmeant]
        exact absurd ((hset.symm.trans unset).symm.trans hv) (by simp)
    rw [unchanged c hc (Option.isSome_iff_exists.mpr ⟨v, hv⟩), w.sendsCopy c v hc hv]

theorem column_exec_commit (row : DeviceEntity) (ws : List RowWrite) :
    (Run.exec RowWrite.commit row ws).column =
      Run.exec Cells.Write.commit row.column (ws.map (·.statement)) := by
  induction ws generalizing row with
  | nil => rfl
  | cons w ws ih =>
    have first : (w.commit row).column = w.statement.commit row.column :=
      funext fun c => column_commit w.persist row c
    rw [Run.exec_cons, ih, first, List.map_cons, Run.exec_cons]

theorem meets_unchanged_iff (row : DeviceEntity) (ws : List RowWrite) :
    Run.Meets RowWrite.commit (fun row w => w.Unchanged row) row ws ↔
      Run.Meets Cells.Write.commit (fun r w => w.Fresh r) row.column (ws.map (·.statement)) := by
  induction ws generalizing row with
  | nil => exact Iff.rfl
  | cons w ws ih =>
    have first : (w.commit row).column = w.statement.commit row.column :=
      funext fun c => column_commit w.persist row c
    show w.Unchanged row ∧ _ ↔ w.statement.Fresh row.column ∧ _
    rw [← first, ih, RowWrite.fresh_iff]

theorem lastMeant_eq_wanted (row : DeviceEntity) (ws : List RowWrite) (c : DeviceColumn) :
    lastMeant row ws c = Cells.wanted row.column (ws.map (·.statement)) c := by
  rw [Cells.wanted_apply, List.filterMap_map]
  rfl

theorem exec_writesOf {ι : Type} (row : DeviceEntity) (trace : List (ι × RowStep)) :
    Run.exec RowStep.act row (trace.map (·.2)) =
      Run.exec RowWrite.commit row (writesOf trace) := by
  induction trace generalizing row with
  | nil => rfl
  | cons x trace ih =>
    obtain ⟨i, l⟩ := x
    cases l with
    | read => exact ih row
    | write w => exact ih (w.commit row)

/-- In every state of a run of any operations, every column has the value of the last
write meant to change it, exactly when each write of the run finds what else it sends
unchanged since its read. -/
theorem columns_kept_iff {ι : Type} [DecidableEq ι] (ops : ι → Writer) (row : DeviceEntity)
    (sched : List ι) :
    (∀ pre, pre <+: sched → ∀ c,
      ((writers ops row).run RowStep.act pre).shared.column c =
        lastMeant row (writesOf ((writers ops row).trace RowStep.act pre)) c) ↔
      Run.Meets RowWrite.commit (fun row w => w.Unchanged row) row
        (writesOf ((writers ops row).trace RowStep.act sched)) := by
  have state : ∀ pre, ((writers ops row).run RowStep.act pre).shared.column =
      Run.exec Cells.Write.commit row.column
        ((writesOf ((writers ops row).trace RowStep.act pre)).map (·.statement)) := by
    intro pre
    rw [Sys.shared_run, exec_writesOf, column_exec_commit]
    rfl
  rw [meets_unchanged_iff, ← Cells.always_wanted_iff]
  constructor
  · rintro kept ws ⟨rest, hws⟩
    obtain ⟨ws, more, hsplit, rfl, rfl⟩ := List.map_eq_append_iff.mp hws.symm
    obtain ⟨pre, hpre, htrace⟩ := Sys.exists_prefix_filterMap _ (writers ops row)
      (show ws <+: writesOf ((writers ops row).trace RowStep.act sched) from ⟨more, hsplit.symm⟩)
    have htrace : writesOf ((writers ops row).trace RowStep.act pre) = ws := htrace
    funext c
    have hc := kept pre hpre c
    rwa [state, lastMeant_eq_wanted, htrace] at hc
  · rintro wanted pre ⟨rest, rfl⟩ c
    rw [state, lastMeant_eq_wanted]
    refine congrFun (wanted _ ?_) c
    rw [Sys.trace_append]
    unfold writesOf
    rw [List.filterMap_append, List.map_append]
    exact List.prefix_append _ _

/-! ### A config edit over a telemetry message -/

def editAndTelemetry : Bool → Writer
  | true => .updateDeviceConfig { isActive := some false }
  | false => .recordTelemetry 5 .null

def twoChannels : Bool → Writer
  | true => .handleDeviceChannelEvent 5 { key := some "relay1", value := some (some "ON") }
  | false => .handleDeviceChannelEvent 6 { key := some "relay2", value := some (some "ON") }

/-- A config edit that read the row before a telemetry message wrote takes the device
offline again, and of two channel events that read one row the first is lost. -/
theorem columns_not_kept :
    (((writers editAndTelemetry plainRelay).run RowStep.act
        [true, false, false, true]).Finished ∧
      ((writers editAndTelemetry plainRelay).run RowStep.act
          [true, false, false, true]).shared.column .status ≠
        lastMeant plainRelay (writesOf ((writers editAndTelemetry plainRelay).trace RowStep.act
          [true, false, false, true])) .status) ∧
    (((writers twoChannels plainRelay).run RowStep.act [true, false, true, false]).Finished ∧
      ((writers twoChannels plainRelay).run RowStep.act
          [true, false, true, false]).shared.column (.channel "relay1") ≠
        lastMeant plainRelay (writesOf ((writers twoChannels plainRelay).trace RowStep.act
          [true, false, true, false])) (.channel "relay1")) := by
  refine ⟨⟨?_, ?_⟩, ⟨?_, ?_⟩⟩
  · rintro (_ | _) <;> exact ⟨(), rfl⟩
  · show DeviceStatus.offline ≠ DeviceStatus.online
    decide
  · rintro (_ | _) <;> exact ⟨(), rfl⟩
  · show (none : Option String) ≠ some "ON"
    decide

end AiotCloud
