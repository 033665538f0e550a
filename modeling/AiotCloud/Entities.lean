import Mathlib.Data.Finmap
import Mathlib.Data.Rat.Defs
import AiotCloud.Constants

/-!
# Stored rows and the requests that change them

The rows of `devices`, `device_templates`, `device_ota_updates` and `firmwares`,
and the network config kept in `devices.config`. A nullable or optional field is
an `Option`: the readers of these fields go through `?.` and `??`, which do not
tell `null` from a missing field. A field is `Option (Option α)` where leaving it
out and giving `null` differ: the fields of `UpdateDeviceConfigDto`, the
channel list, which one query reads as JSON, and the fields that the boot
config hands on as they are stored.

`Accepted` predicates state what the validation pipe lets through: strings have
at least one character, channel indices start at 1.
-/

namespace AiotCloud

/-- A JavaScript object used as a dictionary. -/
abbrev Record (α : Type) := Finmap fun _ : String => α

/-! ## `DeviceNetworkConfig` -/

/-- One downlink topic of a multi-channel device. -/
structure DeviceMqttChannelTopic where
  index : Nat
  key : String
  label : String
  topic : String
deriving DecidableEq, Repr

structure DeviceMqttTopics where
  telemetry : String
  command : Option String
  status : Option String
  event : Option String
  ota : Option String
  channels : Option (Option (List DeviceMqttChannelTopic))
deriving DecidableEq, Repr

/-- `topics.channels ?? []`. -/
def DeviceMqttTopics.channelList (topics : DeviceMqttTopics) : List DeviceMqttChannelTopic :=
  topics.channels.join.getD []

structure DeviceMqttConfig where
  broker : String
  port : Nat
  username : Option (Option String)
  password : Option (Option String)
  topics : DeviceMqttTopics
deriving DecidableEq, Repr

structure DeviceHttpPushConfig where
  url : String
  headers : Option (Option (List (String × String)))
deriving DecidableEq, Repr

structure DeviceKafkaConfig where
  brokers : String
  topics : List String
  commandTopic : Option (Option String)
  clientId : Option (Option String)
  username : Option (Option String)
  password : Option (Option String)
deriving DecidableEq, Repr

structure DeviceNetworkConfig where
  apiEndpoint : Option String
  mqtt : Option DeviceMqttConfig
  http : Option DeviceHttpPushConfig
  kafka : Option DeviceKafkaConfig
deriving DecidableEq, Repr

/-- Override of a template's warning band for one telemetry field. -/
structure DeviceWarningThreshold where
  min : Option Rat
  max : Option Rat
  enabled : Option Bool
  channels : Option (List NotificationChannelType)
deriving DecidableEq, Repr

structure DeviceOfflineAlertConfig where
  enabled : Bool
  channels : Option (List NotificationChannelType)
deriving DecidableEq, Repr

structure DeviceFailsafeConfig where
  enabled : Bool
  rules : Option (Option (List String))
deriving DecidableEq, Repr

/-! ## Rows -/

structure TelemetryFieldDefinition where
  key : String
  label : String
  unit : Option String
  warningMin : Option Rat
  warningMax : Option Rat
deriving DecidableEq, Repr

structure ActionFieldDefinition where
  key : String
  label : String
  type : DeviceActionType
  onValue : Option String
  offValue : Option String
deriving DecidableEq, Repr

structure DeviceTemplateEntity where
  id : String
  name : String
  type : DeviceTemplateType
  telemetrySchema : Option (List TelemetryFieldDefinition)
  actionSchema : Option (List ActionFieldDefinition)
  isActive : Bool
deriving DecidableEq, Repr

/-- A row of `devices`. The `template` relation is not part of the row: the
calls that load it take the template beside the row. -/
structure DeviceEntity where
  id : String
  deviceId : String
  name : String
  templateId : String
  userId : String
  factoryId : Option String := none
  assetId : Option String := none
  healthWeight : Rat := 1
  lastSeenAt : Option Date := none
  status : DeviceStatus := .offline
  pushChannel : DevicePushChannel := .mqtt
  config : Option DeviceNetworkConfig := none
  configVersion : Nat := 1
  isActive : Bool := true
  warningOverrides : Option (Record DeviceWarningThreshold) := none
  channelStates : Option (Record String) := none
  offlineAlert : Option DeviceOfflineAlertConfig := none
  alertRules : Option (List String) := none
  failsafe : Option DeviceFailsafeConfig := none
  installedAt : Option Date := none
  expectedLifespanMonths : Option Int := none
  lifecycleStage : DeviceLifecycleStage := .new
  lifecycleScore : Option Int := none
  lifecycleAssessedAt : Option Date := none
  decommissionedAt : Option Date := none
  firmwareVersion : Option String := none
  otaStatus : DeviceOtaStatus := .idle
  otaFirmwareId : Option String := none
  otaTargetVersion : Option String := none
  otaProgress : Option Int := none
  otaError : Option String := none
  otaRequestedAt : Option Date := none
  otaUpdatedAt : Option Date := none
  createdAt : Date := 0

/-- A row of `device_ota_updates`: one update attempt on one device. The key is
generated by the database; here it is the number of rows inserted before. -/
structure DeviceOtaUpdateEntity where
  id : Nat
  deviceId : String
  firmwareId : Option String
  fromVersion : Option String
  toVersion : String
  status : DeviceOtaStatus
  progress : Option Int
  error : Option String := none
  requestedAt : Date
  startedAt : Option Date := none
  completedAt : Option Date := none
deriving DecidableEq, Repr

/-- A row of `firmwares`. -/
structure FirmwareEntity where
  id : String
  templateId : String
  version : String
  fileUrl : String
  checksum : Option String
  sizeBytes : Option Int
  releaseNotes : Option String
  isActive : Bool
  createdAt : Date
deriving DecidableEq, Repr

namespace DeviceEntity

/-- `device.config?.mqtt`. -/
def mqttConfig (d : DeviceEntity) : Option DeviceMqttConfig := d.config.bind (·.mqtt)

/-- `device.config?.mqtt?.topics`. -/
def mqttTopics (d : DeviceEntity) : Option DeviceMqttTopics := d.mqttConfig.map (·.topics)

/-- `device.config?.kafka`. -/
def kafkaConfig (d : DeviceEntity) : Option DeviceKafkaConfig := d.config.bind (·.kafka)

/-- The stored state of one channel. -/
def channelState (d : DeviceEntity) (key : String) : Option String :=
  d.channelStates.bind (·.lookup key)

end DeviceEntity

/-! ## Requests -/

structure RegisterDeviceDto where
  deviceId : String
  templateId : String
  name : String
  isActive : Option Bool
deriving DecidableEq, Repr

structure TriggerDeviceActionDto where
  key : String
  value : String
deriving DecidableEq, Repr

structure UpdateDeviceConfigDto where
  apiEndpoint : Option (Option String) := none
  pushChannel : Option DevicePushChannel := none
  mqtt : Option (Option DeviceMqttConfig) := none
  http : Option (Option DeviceHttpPushConfig) := none
  kafka : Option (Option DeviceKafkaConfig) := none
  isActive : Option Bool := none
  warningOverrides : Option (Option (Record DeviceWarningThreshold)) := none
  offlineAlert : Option (Option DeviceOfflineAlertConfig) := none
  alertRules : Option (Option (List String)) := none
  failsafe : Option (Option DeviceFailsafeConfig) := none

/-! ## What validation lets through -/

/-- `StringField()`: at least one character. -/
def StringField (s : String) : Prop := s ≠ ""

/-- `StringFieldOptional({ nullable: true })`. -/
def StringFieldOptional (s : Option String) : Prop := ∀ t, s = some t → StringField t

structure DeviceMqttChannelTopic.Accepted (c : DeviceMqttChannelTopic) : Prop where
  index : 1 ≤ c.index
  key : StringField c.key
  label : StringField c.label
  topic : StringField c.topic

structure DeviceMqttTopics.Accepted (t : DeviceMqttTopics) : Prop where
  telemetry : StringField t.telemetry
  command : StringFieldOptional t.command
  status : StringFieldOptional t.status
  event : StringFieldOptional t.event
  ota : StringFieldOptional t.ota
  channels : ∀ c ∈ t.channelList, c.Accepted

structure DeviceMqttConfig.Accepted (m : DeviceMqttConfig) : Prop where
  broker : StringField m.broker
  port : 1 ≤ m.port ∧ m.port ≤ 65535
  username : StringFieldOptional m.username.join
  password : StringFieldOptional m.password.join
  topics : m.topics.Accepted

structure RegisterDeviceDto.Accepted (dto : RegisterDeviceDto) : Prop where
  deviceId : StringField dto.deviceId
  templateId : StringField dto.templateId
  name : StringField dto.name

/-- The MQTT section, which is all that the topic resolvers read of a request. -/
structure UpdateDeviceConfigDto.Accepted (dto : UpdateDeviceConfigDto) : Prop where
  mqtt : ∀ m, dto.mqtt = some (some m) → m.Accepted

/-- A device row as registration and accepted config requests leave it. -/
structure DeviceEntity.Accepted (d : DeviceEntity) : Prop where
  deviceId : StringField d.deviceId
  mqtt : ∀ m, d.mqttConfig = some m → m.Accepted

end AiotCloud
