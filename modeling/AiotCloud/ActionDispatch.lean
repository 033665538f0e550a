import AiotCloud.BootConfig
import AiotCloud.DeviceMessages

/-!
# Sending a command to a device

`triggerDeviceAction` and `pushConfigSync`, with the two producers they publish
through. A call is a function of the row it reads and of what the brokers do
(`Brokers`); it returns its response and its effects in order. A publish either
happens or throws, so an effect is listed just when the publish went out.

`triggerDeviceAction` sends the command on Kafka, then, for an MQTT-push device,
on MQTT; the response of that second step is not looked at.

`triggerDeviceAction_truthful_iff` says for which inputs the response tells
whether the device was sent the command: the Kafka send fails, or the MQTT
publish goes out.
-/

namespace AiotCloud

/-! ## Producers -/

/-- What the brokers do with one `send`. `unknownTopic` is the protocol error
that makes the producer create the topic and send once more. -/
inductive KafkaAttempt where
  | sent
  | unknownTopic (created retrySent : Bool)
  | failed
deriving DecidableEq, Repr

/-- `KafkaProducerService.send`: does the record go out? Otherwise it throws. -/
def kafkaSend (producer : Bool) : KafkaAttempt → Bool
  | .sent => producer
  | .unknownTopic created retrySent => producer && created && retrySent
  | .failed => false

/-- `MqttProducerService.publish`: the client exists just when MQTT is enabled. -/
def mqttPublish (env : ApiConfig) (published : Bool) : Bool := env.mqttEnabled && published

/-- What happens to the publishes of one call. -/
structure Brokers where
  producer : Bool
  command : KafkaAttempt
  mqtt : Bool
  gatewayEvent : KafkaAttempt
  channelEvent : KafkaAttempt
deriving DecidableEq, Repr

/-! ## Effects -/

/-- The value of a Kafka record. -/
inductive KafkaValue where
  | command (deviceId key value : String) (topic : Option String)
  | gatewayEvent (deviceId key value : String) (topic : Option String) (requestedAt : Date)
  | channelEvent (deviceId key value status : String)
  | configSync (deviceId : String) (configVersion : Nat)
deriving DecidableEq, Repr

/-- `{ deviceId, key, value }`, the message on a device's command topic. -/
structure CommandMessage where
  deviceId : String
  key : String
  value : String
deriving DecidableEq, Repr

inductive Effect where
  | kafka (topic : String) (value : KafkaValue) (key : String)
  | mqtt (topic : String) (message : CommandMessage)
  | applyChannelEvent (deviceId : String) (event : DeviceChannelEventPayload)
deriving DecidableEq, Repr

/-! ## `triggerDeviceAction` -/

structure ActionReceipt where
  key : String
  value : String
  topic : String
  publishedAt : Date
deriving DecidableEq, Repr

/-- The action a request names. -/
def findAction (template : Option DeviceTemplateEntity) (key : String) :
    Option ActionFieldDefinition :=
  (actionSchema template).find? (·.key == key)

/-- A toggle takes its two values, a button any. -/
def ActionFieldDefinition.takes (action : ActionFieldDefinition) (value : String) : Prop :=
  action.type = .toggle → some value = action.onValue ∨ some value = action.offValue

instance (action : ActionFieldDefinition) (value : String) : Decidable (action.takes value) :=
  inferInstanceAs (Decidable (_ → _))

/-- `channels?.find((channel) => channel.key === key)?.topic`: the first entry. -/
def channelTopic (device : DeviceEntity) (key : String) : Option String :=
  (((device.mqttTopics.map (·.channelList)).getD []).find? (·.key == key)).map (·.topic)

/-- The device's MQTT topic for the action, as the stored config has it. -/
def deviceMqttTopic (device : DeviceEntity) (key : String) : Option String :=
  channelTopic device key <|> device.mqttTopics.bind (·.command)

/-- The Kafka topic a command is published on. -/
def commandKafkaTopic (device : DeviceEntity) : String :=
  (device.kafkaConfig.bind (·.commandTopic.join)).getD kafkaGatewayCommandsTopic

/-- The event that announces the command as done before the device has said so. -/
def optimisticEvent (dto : TriggerDeviceActionDto) : DeviceChannelEventPayload :=
  { key := some dto.key, value := some (some dto.value), status := some "ok" }

def triggerDeviceActionViaMqtt (env : ApiConfig) (brokers : Brokers) (now : Date)
    (device : DeviceEntity) (dto : TriggerDeviceActionDto) :
    Option String → ResponseCore ActionReceipt × List Effect
  | none => (.fail .badRequest "error.deviceActionTopicNotConfigured", [])
  | some topic =>
    if topic = "" then (.fail .badRequest "error.deviceActionTopicNotConfigured", [])
    else if env.mqttEnabled = false then (.fail .badRequest "error.mqttDisabled", [])
    else if mqttPublish env brokers.mqtt then
      (.ok ⟨dto.key, dto.value, topic, now⟩,
        [.mqtt topic ⟨device.deviceId, dto.key, dto.value⟩,
          .applyChannelEvent device.deviceId (optimisticEvent dto)])
    else (.fail .internalServerError "error.deviceActionPublishFailed", [])

/-- The two best-effort records after the command. The second is sent only when
the first went out. -/
def announceDispatch (brokers : Brokers) (now : Date) (device : DeviceEntity)
    (dto : TriggerDeviceActionDto) : List Effect :=
  if kafkaSend brokers.producer brokers.gatewayEvent then
    .kafka kafkaGatewayEventsTopic
      (.gatewayEvent device.deviceId dto.key dto.value (deviceMqttTopic device dto.key) now)
      device.deviceId ::
    if kafkaSend brokers.producer brokers.channelEvent then
      [.kafka kafkaDeviceEventsTopic (.channelEvent device.deviceId dto.key dto.value "ok")
        device.deviceId]
    else []
  else []

/-- The steps of `triggerDeviceAction` after its checks. -/
def dispatchAction (env : ApiConfig) (brokers : Brokers) (now : Date) (device : DeviceEntity)
    (dto : TriggerDeviceActionDto) : ResponseCore ActionReceipt × List Effect :=
  let topic := deviceMqttTopic device dto.key
  if kafkaSend brokers.producer brokers.command then
    let command := Effect.kafka (commandKafkaTopic device)
      (.command device.deviceId dto.key dto.value topic) device.deviceId
    -- the response of the MQTT step is dropped here, as in the source
    let viaMqtt :=
      if device.pushChannel = .mqtt then
        (triggerDeviceActionViaMqtt env brokers now device dto topic).2
      else []
    (.ok ⟨dto.key, dto.value, commandKafkaTopic device, now⟩,
      command :: viaMqtt ++ announceDispatch brokers now device dto)
  else (.fail .internalServerError "error.deviceActionPublishFailed", [])

def triggerDeviceAction (env : ApiConfig) (brokers : Brokers) (now : Date)
    (template : Option DeviceTemplateEntity) (dto : TriggerDeviceActionDto) :
    Option DeviceEntity → ResponseCore ActionReceipt × List Effect
  | none => (.fail .notFound "error.deviceNotFound", [])
  | some device =>
    match findAction template dto.key with
    | none => (.fail .badRequest "error.deviceActionNotFound", [])
    | some action =>
      if ¬ action.takes dto.value then (.fail .badRequest "error.deviceActionInvalidValue", [])
      else if device.pushChannel ≠ .mqtt ∧ device.pushChannel ≠ .kafka then
        (.fail .badRequest "error.deviceActionChannelUnsupported", [])
      else dispatchAction env brokers now device dto

/-- The template has the action and it takes the value. -/
def ActionAccepted (template : Option DeviceTemplateEntity) (dto : TriggerDeviceActionDto) : Prop :=
  ∃ action, findAction template dto.key = some action ∧ action.takes dto.value

theorem triggerDeviceAction_of_accepted {template : Option DeviceTemplateEntity}
    {dto : TriggerDeviceActionDto} (accepted : ActionAccepted template dto)
    {device : DeviceEntity} (push : device.pushChannel = .mqtt ∨ device.pushChannel = .kafka)
    (env : ApiConfig) (brokers : Brokers) (now : Date) :
    triggerDeviceAction env brokers now template dto (some device) =
      dispatchAction env brokers now device dto := by
  obtain ⟨action, hfind, htakes⟩ := accepted
  have supported : ¬ (device.pushChannel ≠ .mqtt ∧ device.pushChannel ≠ .kafka) := by
    rintro ⟨hm, hk⟩
    exact push.elim hm hk
  simp only [triggerDeviceAction, hfind, htakes, supported, not_true_eq_false, if_false]

/-! ## `pushConfigSync` -/

structure ConfigSyncReceipt where
  topic : String
  configVersion : Nat
  publishedAt : Date
deriving DecidableEq, Repr

def pushConfigSync (brokers : Brokers) (now : Date) :
    Option DeviceEntity → ResponseCore ConfigSyncReceipt × List Effect
  | none => (.fail .notFound "error.deviceNotFound", [])
  | some device =>
    if device.pushChannel ≠ .kafka then
      (.fail .badRequest "error.deviceActionChannelUnsupported", [])
    else if kafkaSend brokers.producer brokers.command then
      (.ok ⟨kafkaGatewayCommandsTopic, device.configVersion, now⟩,
        [.kafka kafkaGatewayCommandsTopic (.configSync device.deviceId device.configVersion)
          device.deviceId])
    else (.fail .internalServerError "error.deviceActionPublishFailed", [])

/-! ## What went out -/

/-- The command reached the broker on the device's own downlink topic. -/
def PublishedOnDownlink (device : DeviceEntity) (dto : TriggerDeviceActionDto)
    (effects : List Effect) : Prop :=
  ∃ topic, deviceMqttTopic device dto.key = some topic ∧
    Effect.mqtt topic ⟨device.deviceId, dto.key, dto.value⟩ ∈ effects

/-- The command is announced as done: in the process, or as a self-published
event. -/
def Announced (device : DeviceEntity) (dto : TriggerDeviceActionDto) (effects : List Effect) :
    Prop :=
  Effect.applyChannelEvent device.deviceId (optimisticEvent dto) ∈ effects ∨
    Effect.kafka kafkaDeviceEventsTopic (.channelEvent device.deviceId dto.key dto.value "ok")
      device.deviceId ∈ effects

/-- The MQTT publish of the command goes out, once it is tried. -/
def MqttGoesOut (env : ApiConfig) (brokers : Brokers) (device : DeviceEntity)
    (key : String) : Prop :=
  (∃ topic, deviceMqttTopic device key = some topic ∧ topic ≠ "") ∧
    mqttPublish env brokers.mqtt = true

theorem triggerDeviceActionViaMqtt_effects (env : ApiConfig) (brokers : Brokers) (now : Date)
    (device : DeviceEntity) (dto : TriggerDeviceActionDto) :
    (MqttGoesOut env brokers device dto.key ∧ ∃ topic,
      deviceMqttTopic device dto.key = some topic ∧
      (triggerDeviceActionViaMqtt env brokers now device dto
        (deviceMqttTopic device dto.key)).2 =
        [.mqtt topic ⟨device.deviceId, dto.key, dto.value⟩,
          .applyChannelEvent device.deviceId (optimisticEvent dto)]) ∨
    (¬ MqttGoesOut env brokers device dto.key ∧
      (triggerDeviceActionViaMqtt env brokers now device dto
        (deviceMqttTopic device dto.key)).2 = []) := by
  unfold MqttGoesOut
  cases htopic : deviceMqttTopic device dto.key with
  | none => exact Or.inr ⟨by simp, rfl⟩
  | some topic =>
    rcases eq_or_ne topic "" with hempty | hempty
    · exact Or.inr ⟨by simp [hempty], by simp [triggerDeviceActionViaMqtt, hempty]⟩
    · cases henv : env.mqttEnabled with
      | false =>
        exact Or.inr ⟨by simp [mqttPublish, henv],
          by simp [triggerDeviceActionViaMqtt, hempty, henv]⟩
      | true =>
        cases hpub : brokers.mqtt with
        | false =>
          exact Or.inr ⟨by simp [mqttPublish],
            by simp [triggerDeviceActionViaMqtt, hempty, henv, mqttPublish, hpub]⟩
        | true =>
          refine Or.inl ⟨⟨⟨topic, rfl, hempty⟩, by simp [mqttPublish, henv]⟩, topic, rfl, ?_⟩
          simp [triggerDeviceActionViaMqtt, hempty, henv, mqttPublish, hpub]

theorem mqtt_notMem_announceDispatch (brokers : Brokers) (now : Date) (device : DeviceEntity)
    (dto : TriggerDeviceActionDto) (topic : String) (message : CommandMessage) :
    Effect.mqtt topic message ∉ announceDispatch brokers now device dto := by
  unfold announceDispatch
  split
  · split <;> simp
  · simp

theorem publishedOnDownlink_dispatchAction (env : ApiConfig) (brokers : Brokers) (now : Date)
    {device : DeviceEntity} (push : device.pushChannel = .mqtt) (dto : TriggerDeviceActionDto) :
    PublishedOnDownlink device dto (dispatchAction env brokers now device dto).2 ↔
      kafkaSend brokers.producer brokers.command = true ∧
        MqttGoesOut env brokers device dto.key := by
  cases hsend : kafkaSend brokers.producer brokers.command with
  | true =>
    have effects : ∀ topic message,
        Effect.mqtt topic message ∈ (dispatchAction env brokers now device dto).2 ↔
          Effect.mqtt topic message ∈ (triggerDeviceActionViaMqtt env brokers now device dto
            (deviceMqttTopic device dto.key)).2 := by
      intro topic message
      simp [dispatchAction, hsend, push, mqtt_notMem_announceDispatch]
    unfold PublishedOnDownlink
    simp only [effects, true_and]
    rcases triggerDeviceActionViaMqtt_effects env brokers now device dto with
      ⟨goesOut, topic, htopic, heffects⟩ | ⟨stays, heffects⟩
    · rw [heffects]
      exact ⟨fun _ => goesOut, fun _ => ⟨topic, htopic, List.mem_cons_self⟩⟩
    · rw [heffects]
      refine ⟨fun ⟨_, _, hmem⟩ => ?_, fun goesOut => absurd goesOut stays⟩
      exact absurd hmem List.not_mem_nil
  | false =>
    have none : (dispatchAction env brokers now device dto).2 = [] := by
      simp [dispatchAction, hsend]
    unfold PublishedOnDownlink
    rw [none]
    refine ⟨fun ⟨_, _, hmem⟩ => absurd hmem List.not_mem_nil, fun h => absurd h.1 (by simp)⟩

/-! ## Does the response tell the truth? -/

/-- Success is returned just when the command was published on the device's
downlink topic, and nothing announces a command that was not. -/
def Truthful (device : DeviceEntity) (dto : TriggerDeviceActionDto)
    (call : ResponseCore ActionReceipt × List Effect) : Prop :=
  (call.1.error = .success ↔ PublishedOnDownlink device dto call.2) ∧
    (¬ PublishedOnDownlink device dto call.2 → ¬ Announced device dto call.2)

/-- For an MQTT-push device the call is truthful exactly when the Kafka send of
the command fails or the MQTT publish goes out. -/
theorem triggerDeviceAction_truthful_iff (env : ApiConfig) (brokers : Brokers) (now : Date)
    {template : Option DeviceTemplateEntity} {dto : TriggerDeviceActionDto}
    (accepted : ActionAccepted template dto)
    {device : DeviceEntity} (push : device.pushChannel = .mqtt) :
    Truthful device dto (triggerDeviceAction env brokers now template dto (some device)) ↔
      kafkaSend brokers.producer brokers.command = false ∨
        MqttGoesOut env brokers device dto.key := by
  rw [triggerDeviceAction_of_accepted accepted (Or.inl push)]
  unfold Truthful
  rw [publishedOnDownlink_dispatchAction env brokers now push dto]
  cases hsend : kafkaSend brokers.producer brokers.command with
  | false =>
    have failed : dispatchAction env brokers now device dto =
        (.fail .internalServerError "error.deviceActionPublishFailed", []) := by
      simp [dispatchAction, hsend]
    rw [failed]
    simp [Announced]
  | true =>
    have ok : (dispatchAction env brokers now device dto).1.error = .success := by
      simp [dispatchAction, hsend]
    rw [ok]
    constructor
    · intro ⟨truth, _⟩
      exact Or.inr (truth.mp rfl).2
    · rintro (h | goesOut)
      · exact absurd h (by simp)
      · exact ⟨by simp [goesOut], fun stays => absurd ⟨rfl, goesOut⟩ stays⟩

/-! ### A relay with no stored MQTT config -/

/-- A relay node as registration leaves it. -/
def plainRelay : DeviceEntity :=
  { id := "d1", deviceId := "relay-1", name := "Relay", templateId := "t1", userId := "u1" }

def relayTemplate : DeviceTemplateEntity :=
  { id := "t1", name := "Relay node", type := .relayNode, telemetrySchema := none
    actionSchema := some [⟨"relay1", "Relay 1", .toggle, some "ON", some "OFF"⟩]
    isActive := true }

def relayOn : TriggerDeviceActionDto := ⟨"relay1", "ON"⟩

def defaultEnv : ApiConfig :=
  { mqttEnabled := true, mqttUrl := "mqtt://localhost", mqttUsername := none, mqttPassword := none
    kafkaBrokers := "localhost:9092", kafkaClientId := "aiot-lab-service", kafkaSasl := none }

/-- Every publish goes out. -/
def healthyBrokers : Brokers :=
  { producer := true, command := .sent, mqtt := true, gatewayEvent := .sent
    channelEvent := .sent }

theorem relayOn_accepted : ActionAccepted (some relayTemplate) relayOn :=
  ⟨_, rfl, by decide⟩

/-- With every broker up, the command to the plain relay is answered with success
and announced as done, and is published on no MQTT topic. -/
theorem triggerDeviceAction_plainRelay_not_truthful :
    ¬ Truthful plainRelay relayOn
      (triggerDeviceAction defaultEnv healthyBrokers 0 (some relayTemplate) relayOn
        (some plainRelay)) := by
  intro ⟨truth, _⟩
  obtain ⟨topic, htopic, _⟩ := truth.mp (by decide)
  exact absurd htopic (by simp [deviceMqttTopic, channelTopic, plainRelay, DeviceEntity.mqttTopics,
    DeviceEntity.mqttConfig])

theorem triggerDeviceAction_truthful_iff_plainRelay :
    Truthful plainRelay relayOn
      (triggerDeviceAction defaultEnv { healthyBrokers with command := .failed } 0
        (some relayTemplate) relayOn (some plainRelay)) ↔
      kafkaSend true .failed = false ∨
        MqttGoesOut defaultEnv { healthyBrokers with command := .failed } plainRelay "relay1" :=
  triggerDeviceAction_truthful_iff defaultEnv { healthyBrokers with command := .failed } 0
    relayOn_accepted rfl

end AiotCloud
