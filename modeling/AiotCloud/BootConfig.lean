import AiotCloud.DeviceRow
import AiotCloud.Topics

/-!
# Boot config and config edits

`getBootConfig` tells a device how to reach the cloud; `updateDeviceConfig`
changes what it tells. The environment (`ApiConfigService`) is a parameter.

1. `updateDeviceConfig_accepted`: rows stay `Accepted` under accepted requests.
2. `getBootConfig_accepted`: the row that a first Kafka boot saves is `Accepted`.
3. `bootKafkaConfig_saved`: the row saved by a first boot answers the next boot
   with the same Kafka config.
-/

namespace AiotCloud

structure KafkaSasl where
  username : String
  password : String
deriving DecidableEq, Repr

/-- The environment as `ApiConfigService` reads it. -/
structure ApiConfig where
  mqttEnabled : Bool
  mqttUrl : String
  mqttUsername : Option String
  mqttPassword : Option String
  kafkaBrokers : String
  kafkaClientId : String
  kafkaSasl : Option KafkaSasl
deriving DecidableEq, Repr

/-- The answer to `GET .../boot-config`. -/
structure DeviceConfigDto where
  deviceId : String
  name : String
  type : DeviceTemplateType
  apiEndpoint : Option String
  pushChannel : DevicePushChannel
  mqtt : Option DeviceMqttConfig
  http : Option DeviceHttpPushConfig
  kafka : Option DeviceKafkaConfig
  configVersion : Nat
  offlineAlert : Option DeviceOfflineAlertConfig
  alertRules : Option (List String)
  failsafe : Option DeviceFailsafeConfig
deriving DecidableEq, Repr

/-! ## MQTT -/

/-- The stored MQTT config, or one derived from the environment. -/
def mqttBase (env : ApiConfig) (device : DeviceEntity) : DeviceMqttConfig :=
  match device.mqttConfig with
  | some mqtt => mqtt
  | none =>
    { broker := env.mqttUrl
      port := 1883
      username := env.mqttUsername.map some
      password := env.mqttPassword.map some
      topics :=
        { telemetry := defaultTelemetryTopic device.deviceId
          command := some (defaultCommandTopic device.deviceId)
          status := some (defaultStatusTopic device.deviceId)
          event := some (defaultEventTopic device.deviceId)
          ota := some (defaultOtaTopic device.deviceId)
          channels := none } }

/-- `new Map(channels.map((c) => [c.key, c.topic])).get(key)`: the last entry for
the key. -/
def channelOverride (channels : List DeviceMqttChannelTopic) (key : String) : Option String :=
  (channels.reverse.find? (·.key == key)).map (·.topic)

def isChannelBasedTemplate (template : Option DeviceTemplateEntity) : Bool :=
  match template with
  | some t => t.type == .relayNode || t.type == .relayCurrentNode
  | none => false

def actionSchema (template : Option DeviceTemplateEntity) : List ActionFieldDefinition :=
  (template.bind (·.actionSchema)).getD []

/-- The channel entry of the action at position `i` of the schema. -/
def channelEntry (deviceId : String) (channels : List DeviceMqttChannelTopic)
    (action : ActionFieldDefinition) (i : Nat) : DeviceMqttChannelTopic :=
  { index := i + 1
    key := action.key
    label := action.label
    topic := ((channelOverride channels action.key).filter (· ≠ "")).getD
      (defaultChannelCommandTopic deviceId (i + 1)) }

def buildMqttTopics (device : DeviceEntity) (template : Option DeviceTemplateEntity)
    (base : DeviceMqttTopics) : DeviceMqttTopics :=
  if isChannelBasedTemplate template ∧ actionSchema template ≠ [] then
    { base with
      channels := some (some ((actionSchema template).mapIdx fun i action =>
        channelEntry device.deviceId base.channelList action i)) }
  else base

/-- The MQTT section handed to an MQTT-push device. `event` and `ota` get their
defaults also for a stored config that lacks them. -/
def bootMqttConfig (env : ApiConfig) (device : DeviceEntity)
    (template : Option DeviceTemplateEntity) : DeviceMqttConfig :=
  let base := mqttBase env device
  { base with
    topics := buildMqttTopics device template
      { base.topics with
        event := some (base.topics.event.getD (defaultEventTopic device.deviceId))
        ota := some (base.topics.ota.getD (defaultOtaTopic device.deviceId)) } }

/-! ## Kafka -/

def isGateway (template : Option DeviceTemplateEntity) : Bool :=
  match template with
  | some t => t.type == .gateway
  | none => false

/-- The Kafka section of a device that has none stored. -/
def defaultKafkaConfig (env : ApiConfig) (device : DeviceEntity)
    (template : Option DeviceTemplateEntity) : DeviceKafkaConfig :=
  { brokers := env.kafkaBrokers
    topics :=
      if isGateway template then
        [kafkaTelemetryTopic, kafkaStatusTopic, kafkaDeviceEventsTopic, kafkaCommandTopic,
          kafkaOtaStatusTopic]
      else [kafkaTelemetryTopic]
    commandTopic := some (if isGateway template then some kafkaGatewayCommandsTopic else none)
    clientId :=
      some (some (if isGateway template then env.kafkaClientId ++ "-gw-" ++ device.deviceId
        else env.kafkaClientId))
    username := some (env.kafkaSasl.map (·.username))
    password := some (env.kafkaSasl.map (·.password)) }

/-- `{ ...device.config }`. -/
def configCopy (device : DeviceEntity) : DeviceNetworkConfig :=
  device.config.getD { apiEndpoint := none, mqtt := none, http := none, kafka := none }

/-- `device.config = { ...device.config, kafka }`. -/
def withKafkaConfig (device : DeviceEntity) (kafka : DeviceKafkaConfig) : DeviceEntity :=
  { device with config := some { configCopy device with kafka := some kafka } }

/-- The Kafka section handed to a Kafka-push device, and the write that a first
boot makes. -/
def resolveKafkaConfig (env : ApiConfig) (device : DeviceEntity)
    (template : Option DeviceTemplateEntity) : DeviceKafkaConfig × Option Persist :=
  match device.kafkaConfig with
  | some kafka => (kafka, none)
  | none =>
    let kafka := defaultKafkaConfig env device template
    (kafka, some (.save (withKafkaConfig device kafka)))

/-! ## `getBootConfig` -/

/-- The response for a found device, with its Kafka section. -/
def bootConfig (env : ApiConfig) (device : DeviceEntity) (template : Option DeviceTemplateEntity)
    (kafka : Option DeviceKafkaConfig) : DeviceConfigDto :=
  { deviceId := device.deviceId
    name := device.name
    type := (template.map (·.type)).getD .other
    apiEndpoint := device.config.bind (·.apiEndpoint)
    pushChannel := device.pushChannel
    mqtt := if device.pushChannel = .mqtt then some (bootMqttConfig env device template) else none
    http := if device.pushChannel = .http then device.config.bind (·.http) else none
    kafka := kafka
    configVersion := device.configVersion
    offlineAlert := device.offlineAlert
    alertRules := device.alertRules
    failsafe := device.failsafe }

def getBootConfig (env : ApiConfig) (template : Option DeviceTemplateEntity) :
    Option DeviceEntity → ResponseCore DeviceConfigDto × Option Persist
  | none => (.fail .notFound "error.deviceNotFound", none)
  | some device =>
    if device.pushChannel = .kafka then
      let (kafka, write) := resolveKafkaConfig env device template
      (.ok (bootConfig env device template (some kafka)), write)
    else (.ok (bootConfig env device template none), none)

/-! ## `updateDeviceConfig` -/

/-- The row `updateDeviceConfig` saves. -/
def applyConfigDto (dto : UpdateDeviceConfigDto) (device : DeviceEntity) : DeviceEntity :=
  let config := configCopy device
  { device with
    config := some
      { apiEndpoint := dto.apiEndpoint.getD config.apiEndpoint
        mqtt := dto.mqtt.getD config.mqtt
        http := dto.http.getD config.http
        kafka := dto.kafka.getD config.kafka }
    pushChannel := dto.pushChannel.getD device.pushChannel
    isActive := dto.isActive.getD device.isActive
    warningOverrides := dto.warningOverrides.getD device.warningOverrides
    offlineAlert := dto.offlineAlert.getD device.offlineAlert
    alertRules := dto.alertRules.getD device.alertRules
    failsafe := dto.failsafe.getD device.failsafe
    configVersion := device.configVersion + 1 }

/-- The result, the write, and whether the topic cache is cleared. -/
def updateDeviceConfig (dto : UpdateDeviceConfigDto) :
    Option DeviceEntity → ResponseCore DeviceEntity × Option Persist × Bool
  | none => (.fail .notFound "error.deviceNotFound", none, false)
  | some device =>
    (.ok (applyConfigDto dto device), some (.save (applyConfigDto dto device)), dto.mqtt.isSome)

/-! ## Accepted rows stay accepted -/

theorem applyConfigDto_mqttConfig (dto : UpdateDeviceConfigDto) (device : DeviceEntity) :
    (applyConfigDto dto device).mqttConfig = dto.mqtt.getD device.mqttConfig := by
  unfold DeviceEntity.mqttConfig applyConfigDto configCopy
  cases device.config <;> rfl

theorem applyConfigDto_kafkaConfig (dto : UpdateDeviceConfigDto) (device : DeviceEntity) :
    (applyConfigDto dto device).kafkaConfig = dto.kafka.getD device.kafkaConfig := by
  unfold DeviceEntity.kafkaConfig applyConfigDto configCopy
  cases device.config <;> rfl

theorem updateDeviceConfig_accepted {dto : UpdateDeviceConfigDto} (hdto : dto.Accepted)
    {device : DeviceEntity} (h : device.Accepted) : (applyConfigDto dto device).Accepted := by
  refine ⟨h.deviceId, fun m hm => ?_⟩
  rw [applyConfigDto_mqttConfig] at hm
  cases hmqtt : dto.mqtt with
  | none =>
    rw [hmqtt] at hm
    exact h.mqtt m hm
  | some mqtt =>
    rw [hmqtt] at hm
    exact hdto.mqtt m (hmqtt.trans (congrArg some hm))

/-- The row a boot leaves. -/
def rowAfterBoot (env : ApiConfig) (template : Option DeviceTemplateEntity)
    (device : DeviceEntity) : DeviceEntity :=
  ((getBootConfig env template (some device)).2.map (Persist.commit device)).getD device

/-- A boot leaves the row, or saves it with the default Kafka section. -/
theorem rowAfterBoot_cases (env : ApiConfig) (template : Option DeviceTemplateEntity)
    (device : DeviceEntity) :
    rowAfterBoot env template device = device ∨
      (device.kafkaConfig = none ∧ rowAfterBoot env template device =
        withKafkaConfig device (defaultKafkaConfig env device template)) := by
  unfold rowAfterBoot getBootConfig resolveKafkaConfig
  by_cases hp : device.pushChannel = .kafka
  · cases hk : device.kafkaConfig with
    | some kafka => exact Or.inl (by simp [hp, hk])
    | none => exact Or.inr ⟨rfl, by simp [hp, hk]⟩
  · exact Or.inl (by simp [hp])

theorem withKafkaConfig_mqttConfig (device : DeviceEntity) (kafka : DeviceKafkaConfig) :
    (withKafkaConfig device kafka).mqttConfig = device.mqttConfig := by
  unfold DeviceEntity.mqttConfig withKafkaConfig configCopy
  cases device.config <;> rfl

theorem getBootConfig_accepted (env : ApiConfig) (template : Option DeviceTemplateEntity)
    {device : DeviceEntity} (h : device.Accepted) :
    (rowAfterBoot env template device).Accepted := by
  rcases rowAfterBoot_cases env template device with hrow | ⟨_, hrow⟩
  · rw [hrow]
    exact h
  · rw [hrow]
    refine ⟨h.deviceId, fun m hm => h.mqtt m ?_⟩
    rwa [withKafkaConfig_mqttConfig] at hm

/-- The Kafka section that a boot response carries for the row. -/
def bootKafkaConfig (env : ApiConfig) (template : Option DeviceTemplateEntity)
    (device : DeviceEntity) : DeviceKafkaConfig :=
  (resolveKafkaConfig env device template).1

theorem bootKafkaConfig_eq (env : ApiConfig) (template : Option DeviceTemplateEntity)
    (device : DeviceEntity) :
    bootKafkaConfig env template device =
      device.kafkaConfig.getD (defaultKafkaConfig env device template) := by
  unfold bootKafkaConfig resolveKafkaConfig
  cases device.kafkaConfig <;> rfl

/-- The second boot repeats the Kafka section of the first. -/
theorem bootKafkaConfig_saved (env : ApiConfig) (template : Option DeviceTemplateEntity)
    (device : DeviceEntity) :
    bootKafkaConfig env template (rowAfterBoot env template device) =
      bootKafkaConfig env template device := by
  rcases rowAfterBoot_cases env template device with hrow | ⟨hk, hrow⟩
  · rw [hrow]
  · rw [hrow, bootKafkaConfig_eq, bootKafkaConfig_eq, hk]
    rfl

end AiotCloud
