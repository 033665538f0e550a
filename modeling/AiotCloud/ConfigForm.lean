import AiotCloud.BootConfig
import AiotCloud.Lib.JsNumber

/-!
# The config form

`deviceConfigFormDefaults` fills the form from a device, `deviceConfigFormSchema` checks it,
`deviceConfigFormToPayload` encodes it, and the validation pipe checks the request before
`updateDeviceConfig` gets it. The text fields of the form are optional; an input shows a
missing one as empty.

`isUrl` is the check of `IsUrl`.
-/

namespace AiotCloud

/-! ## Lists in a text field -/

/-- The text between the separators, trimmed. -/
def textFields (sep : Char) (text : String) : List String :=
  (TextItems.fields isJsSpace sep text.toList).map String.ofList

/-- The trimmed texts between the separators that are not empty. -/
def textItems (sep : Char) (text : String) : List String :=
  (TextItems.items isJsSpace sep text.toList).map String.ofList

/-- A text that a list in a text field can hold as one item. -/
def CleanText (sep : Char) (text : String) : Prop :=
  TextItems.Clean isJsSpace sep text.toList

instance (sep : Char) (text : String) : Decidable (CleanText sep text) :=
  inferInstanceAs (Decidable (TextItems.Clean isJsSpace sep text.toList))

def parseRuleLines (text : Option String) : List String := textItems '\n' (text.getD "")

/-! ## Values -/

structure ChannelTopicFormValue where
  key : String
  label : String
  topic : String
deriving DecidableEq, Repr

structure DeviceConfigFormValues where
  isActive : Bool
  apiEndpoint : Option String
  pushChannel : DevicePushChannel
  mqttBroker : Option String
  mqttPort : Option String
  mqttUsername : Option String
  mqttPassword : Option String
  mqttTelemetryTopic : Option String
  mqttCommandTopic : Option String
  mqttStatusTopic : Option String
  mqttEventTopic : Option String
  channelTopics : Option (List ChannelTopicFormValue)
  httpUrl : Option String
  kafkaBrokers : Option String
  kafkaTopics : Option String
  kafkaCommandTopic : Option String
  kafkaClientId : Option String
  kafkaUsername : Option String
  kafkaPassword : Option String
  alertRules : Option String
  failsafeEnabled : Option Bool
  failsafeRules : Option String
deriving DecidableEq, Repr

/-! ## `deviceConfigFormSchema` -/

structure FormIssue where
  path : List String
  message : String
deriving DecidableEq, Repr

def requireField (value : Option String) (path : String) : List FormIssue :=
  if jsTrim (value.getD "") = "" then [⟨[path], "This field is required."⟩] else []

/-- `topic: z.string().min(1)` of each channel. -/
def channelTopicIssues (channelTopics : List ChannelTopicFormValue) : List FormIssue :=
  (channelTopics.mapIdx fun i channel =>
    if channel.topic = "" then
      [⟨["channelTopics", toString i, "topic"], "Topic is required."⟩]
    else []).flatten

/-- What the form shows as errors. -/
def deviceConfigFormIssues (values : DeviceConfigFormValues) : List FormIssue :=
  channelTopicIssues (values.channelTopics.getD []) ++
    match values.pushChannel with
    | .mqtt =>
      requireField values.mqttBroker "mqttBroker" ++ requireField values.mqttPort "mqttPort" ++
        requireField values.mqttTelemetryTopic "mqttTelemetryTopic"
    | .http => requireField values.httpUrl "httpUrl"
    | .kafka =>
      requireField values.kafkaBrokers "kafkaBrokers" ++
        requireField values.kafkaTopics "kafkaTopics"

/-! ## `deviceConfigFormDefaults` -/

def channelBasedTemplateTypes : List DeviceTemplateType := [.relayNode, .relayCurrentNode]

/-- `deviceId ? defaultTopic(deviceId) : ''`. -/
def topicDefault (deviceId : Option String) (defaultTopic : String → String) : String :=
  match deviceId.filter (· ≠ "") with
  | some deviceId => defaultTopic deviceId
  | none => ""

def buildChannelTopicDefaults (deviceId : Option String) (template : Option DeviceTemplateEntity)
    (existingChannels : List DeviceMqttChannelTopic) : List ChannelTopicFormValue :=
  if template.any (channelBasedTemplateTypes.contains ·.type) ∧ actionSchema template ≠ [] then
    (actionSchema template).mapIdx fun index action =>
      { key := action.key
        label := action.label
        topic := ((channelOverride existingChannels action.key).filter (· ≠ "")).getD
          (topicDefault deviceId (defaultChannelCommandTopic · (index + 1))) }
  else []

def deviceConfigFormDefaults (config : Option DeviceNetworkConfig)
    (pushChannel : DevicePushChannel) (isActive : Bool) (deviceId : Option String)
    (template : Option DeviceTemplateEntity) (alertRules : Option (List String))
    (failsafe : Option DeviceFailsafeConfig) : DeviceConfigFormValues :=
  let mqtt := config.bind (·.mqtt)
  let kafka := config.bind (·.kafka)
  { isActive
    apiEndpoint := some ((config.bind (·.apiEndpoint)).getD "")
    pushChannel
    mqttBroker := some ((mqtt.map (·.broker)).getD "")
    mqttPort := some (match (mqtt.map (·.port)).filter (· ≠ 0) with
      | some port => toString port
      | none => "1883")
    mqttUsername := some ((mqtt.bind (·.username.join)).getD "")
    mqttPassword := some ((mqtt.bind (·.password.join)).getD "")
    mqttTelemetryTopic := some ((mqtt.map (·.topics.telemetry)).getD
      (topicDefault deviceId defaultTelemetryTopic))
    mqttCommandTopic := some ((mqtt.bind (·.topics.command)).getD
      (topicDefault deviceId defaultCommandTopic))
    mqttStatusTopic := some ((mqtt.bind (·.topics.status)).getD
      (topicDefault deviceId defaultStatusTopic))
    mqttEventTopic := some ((mqtt.bind (·.topics.event)).getD
      (topicDefault deviceId defaultEventTopic))
    channelTopics := some (buildChannelTopicDefaults deviceId template
      ((mqtt.map (·.topics.channelList)).getD []))
    httpUrl := some (((config.bind (·.http)).map (·.url)).getD "")
    kafkaBrokers := some ((kafka.map (·.brokers)).getD "localhost:9092")
    kafkaTopics := some ((kafka.map fun kafka => ", ".intercalate kafka.topics).getD "")
    kafkaCommandTopic := some ((kafka.bind (·.commandTopic.join)).getD "")
    kafkaClientId := some ((kafka.bind (·.clientId.join)).getD "")
    kafkaUsername := some ((kafka.bind (·.username.join)).getD "")
    kafkaPassword := some ((kafka.bind (·.password.join)).getD "")
    alertRules := some ("\n".intercalate (alertRules.getD []))
    failsafeEnabled := some ((failsafe.map (·.enabled)).getD false)
    failsafeRules := some ("\n".intercalate ((failsafe.bind (·.rules.join)).getD [])) }

/-- The form that the dialog opens with. -/
def DeviceEntity.formValues (device : DeviceEntity) (template : Option DeviceTemplateEntity) :
    DeviceConfigFormValues :=
  deviceConfigFormDefaults device.config device.pushChannel device.isActive (some device.deviceId)
    template device.alertRules device.failsafe

/-! ## `deviceConfigFormToPayload` -/

/-- The MQTT section of a request: its port is still any number. -/
structure MqttPayload where
  broker : String
  port : JsNumber.Value
  username : Option (Option String)
  password : Option (Option String)
  topics : DeviceMqttTopics

/-- `IUpdateDeviceConfig`, as far as the form sends it. A field that is `undefined` is not sent. -/
structure DeviceConfigPayload where
  isActive : Bool
  apiEndpoint : Option String
  pushChannel : DevicePushChannel
  mqtt : Option MqttPayload
  http : Option DeviceHttpPushConfig
  kafka : Option DeviceKafkaConfig
  alertRules : Option (Option (List String))
  failsafe : Option DeviceFailsafeConfig

/-- `value || undefined`. -/
def orUndefined (value : Option String) : Option String := value.filter (· ≠ "")

/-- `Number(text) || 1883`; a missing text is not a number. -/
def portNumber (text : Option String) : JsNumber.Value :=
  match (text.map fun text => JsNumber.number isJsSpace text.toList).getD .nan with
  | .nan => .finite 1883
  | .infinite => .infinite
  | .finite q => if q = 0 then .finite 1883 else .finite q

/-- The channel list that is sent; an empty one is not. -/
def channelPayload (channelTopics : List ChannelTopicFormValue) :
    Option (Option (List DeviceMqttChannelTopic)) :=
  if channelTopics = [] then none
  else some (some (channelTopics.mapIdx fun index channel =>
    { index := index + 1, key := channel.key, label := channel.label, topic := channel.topic }))

/-- `rules.length > 0 ? rules : null`. -/
def orNull (rules : List String) : Option (List String) :=
  if rules = [] then none else some rules

def deviceConfigFormToPayload (values : DeviceConfigFormValues)
    (templateType : Option DeviceTemplateType) : DeviceConfigPayload :=
  { isActive := values.isActive
    apiEndpoint := orUndefined values.apiEndpoint
    pushChannel := values.pushChannel
    mqtt :=
      if values.pushChannel = .mqtt then some
        { broker := values.mqttBroker.getD ""
          port := portNumber values.mqttPort
          username := (orUndefined values.mqttUsername).map some
          password := (orUndefined values.mqttPassword).map some
          topics :=
            { telemetry := values.mqttTelemetryTopic.getD ""
              command := orUndefined values.mqttCommandTopic
              status := orUndefined values.mqttStatusTopic
              event := orUndefined values.mqttEventTopic
              ota := none
              channels := channelPayload (values.channelTopics.getD []) } }
      else none
    http :=
      if values.pushChannel = .http then some { url := values.httpUrl.getD "", headers := none }
      else none
    kafka :=
      if values.pushChannel = .kafka then some
        { brokers := values.kafkaBrokers.getD ""
          topics := textItems ',' (values.kafkaTopics.getD "")
          commandTopic := (orUndefined values.kafkaCommandTopic).map some
          clientId := (orUndefined values.kafkaClientId).map some
          username := (orUndefined values.kafkaUsername).map some
          password := (orUndefined values.kafkaPassword).map some }
      else none
    alertRules :=
      if templateType = some .gateway then some (orNull (parseRuleLines values.alertRules))
      else none
    failsafe :=
      if templateType = some .gateway then some
        { enabled := values.failsafeEnabled.getD false
          rules := (orNull (parseRuleLines values.failsafeRules)).map some }
      else none }

/-! ## The validation pipe -/

variable (isUrl : String → Bool)

/-- `URLField()`. -/
def URLField (url : String) : Prop := StringField url ∧ isUrl url = true

structure DeviceHttpPushConfig.Accepted (http : DeviceHttpPushConfig) : Prop where
  url : URLField isUrl http.url

structure DeviceKafkaConfig.Accepted (kafka : DeviceKafkaConfig) : Prop where
  brokers : StringField kafka.brokers
  topics : ∀ topic ∈ kafka.topics, StringField topic
  commandTopic : StringFieldOptional kafka.commandTopic.join
  clientId : StringFieldOptional kafka.clientId.join
  username : StringFieldOptional kafka.username.join
  password : StringFieldOptional kafka.password.join

structure DeviceFailsafeConfig.Accepted (failsafe : DeviceFailsafeConfig) : Prop where
  rules : ∀ rules ∈ failsafe.rules.join, ∀ rule ∈ rules, StringField rule

/-- A request of the form that the pipe lets through. -/
structure UpdateDeviceConfigDto.Valid (dto : UpdateDeviceConfigDto) : Prop where
  apiEndpoint : ∀ url ∈ dto.apiEndpoint.join, URLField isUrl url
  mqtt : ∀ mqtt ∈ dto.mqtt.join, mqtt.Accepted
  http : ∀ http ∈ dto.http.join, http.Accepted isUrl
  kafka : ∀ kafka ∈ dto.kafka.join, kafka.Accepted
  alertRules : ∀ rules ∈ dto.alertRules.join, ∀ rule ∈ rules, StringField rule
  failsafe : ∀ failsafe ∈ dto.failsafe.join, failsafe.Accepted

/-- `@NumberField({ int: true })`, where the number is not negative. -/
def natField : JsNumber.Value → Option Nat
  | .finite q => if q.den = 1 ∧ 0 ≤ q.num then some q.num.toNat else none
  | .nan | .infinite => none

def MqttPayload.config (mqtt : MqttPayload) : Option DeviceMqttConfig :=
  (natField mqtt.port).map fun port =>
    { broker := mqtt.broker, port, username := mqtt.username, password := mqtt.password
      topics := mqtt.topics }

/-- The request as the controller gets it, with its MQTT section. -/
def DeviceConfigPayload.request (payload : DeviceConfigPayload) (mqtt : Option DeviceMqttConfig) :
    UpdateDeviceConfigDto :=
  { apiEndpoint := payload.apiEndpoint.map some
    pushChannel := some payload.pushChannel
    mqtt := mqtt.map some
    http := payload.http.map some
    kafka := payload.kafka.map some
    isActive := some payload.isActive
    alertRules := payload.alertRules
    failsafe := payload.failsafe.map some }

/-- `none` if the port is no natural number. -/
def DeviceConfigPayload.dto (payload : DeviceConfigPayload) : Option UpdateDeviceConfigDto :=
  match payload.mqtt with
  | some mqtt => mqtt.config.map fun mqtt => payload.request (some mqtt)
  | none => some (payload.request none)

instance (text : String) : Decidable (StringField text) := inferInstanceAs (Decidable (text ≠ ""))

instance (text : Option String) : Decidable (StringFieldOptional text) :=
  inferInstanceAs (Decidable (∀ t ∈ text, StringField t))

instance (c : DeviceMqttChannelTopic) : Decidable c.Accepted :=
  decidable_of_iff (1 ≤ c.index ∧ StringField c.key ∧ StringField c.label ∧ StringField c.topic)
    ⟨fun ⟨h₁, h₂, h₃, h₄⟩ => ⟨h₁, h₂, h₃, h₄⟩, fun ⟨h₁, h₂, h₃, h₄⟩ => ⟨h₁, h₂, h₃, h₄⟩⟩

instance (t : DeviceMqttTopics) : Decidable t.Accepted :=
  decidable_of_iff (StringField t.telemetry ∧ StringFieldOptional t.command ∧
      StringFieldOptional t.status ∧ StringFieldOptional t.event ∧ StringFieldOptional t.ota ∧
      ∀ c ∈ t.channelList, c.Accepted)
    ⟨fun ⟨h₁, h₂, h₃, h₄, h₅, h₆⟩ => ⟨h₁, h₂, h₃, h₄, h₅, h₆⟩,
      fun ⟨h₁, h₂, h₃, h₄, h₅, h₆⟩ => ⟨h₁, h₂, h₃, h₄, h₅, h₆⟩⟩

instance (m : DeviceMqttConfig) : Decidable m.Accepted :=
  decidable_of_iff (StringField m.broker ∧ (1 ≤ m.port ∧ m.port ≤ 65535) ∧
      StringFieldOptional m.username.join ∧ StringFieldOptional m.password.join ∧ m.topics.Accepted)
    ⟨fun ⟨h₁, h₂, h₃, h₄, h₅⟩ => ⟨h₁, h₂, h₃, h₄, h₅⟩,
      fun ⟨h₁, h₂, h₃, h₄, h₅⟩ => ⟨h₁, h₂, h₃, h₄, h₅⟩⟩

instance (http : DeviceHttpPushConfig) : Decidable (http.Accepted isUrl) :=
  decidable_of_iff (StringField http.url ∧ isUrl http.url = true) ⟨fun h => ⟨h⟩, fun ⟨h⟩ => h⟩

instance (kafka : DeviceKafkaConfig) : Decidable kafka.Accepted :=
  decidable_of_iff (StringField kafka.brokers ∧ (∀ topic ∈ kafka.topics, StringField topic) ∧
      StringFieldOptional kafka.commandTopic.join ∧ StringFieldOptional kafka.clientId.join ∧
      StringFieldOptional kafka.username.join ∧ StringFieldOptional kafka.password.join)
    ⟨fun ⟨h₁, h₂, h₃, h₄, h₅, h₆⟩ => ⟨h₁, h₂, h₃, h₄, h₅, h₆⟩,
      fun ⟨h₁, h₂, h₃, h₄, h₅, h₆⟩ => ⟨h₁, h₂, h₃, h₄, h₅, h₆⟩⟩

instance (failsafe : DeviceFailsafeConfig) : Decidable failsafe.Accepted :=
  decidable_of_iff (∀ rules ∈ failsafe.rules.join, ∀ rule ∈ rules, StringField rule)
    ⟨fun h => ⟨h⟩, fun ⟨h⟩ => h⟩

instance (dto : UpdateDeviceConfigDto) : Decidable (dto.Valid isUrl) :=
  decidable_of_iff ((∀ url ∈ dto.apiEndpoint.join, StringField url ∧ isUrl url = true) ∧
      (∀ mqtt ∈ dto.mqtt.join, mqtt.Accepted) ∧ (∀ http ∈ dto.http.join, http.Accepted isUrl) ∧
      (∀ kafka ∈ dto.kafka.join, kafka.Accepted) ∧
      (∀ rules ∈ dto.alertRules.join, ∀ rule ∈ rules, StringField rule) ∧
      ∀ failsafe ∈ dto.failsafe.join, failsafe.Accepted)
    ⟨fun ⟨h₁, h₂, h₃, h₄, h₅, h₆⟩ => ⟨h₁, h₂, h₃, h₄, h₅, h₆⟩,
      fun ⟨h₁, h₂, h₃, h₄, h₅, h₆⟩ => ⟨h₁, h₂, h₃, h₄, h₅, h₆⟩⟩

/-- The row that the dialog leaves when it sends the form; `none` if the request is refused. -/
def saveConfigForm (values : DeviceConfigFormValues) (template : Option DeviceTemplateEntity)
    (device : DeviceEntity) : Option DeviceEntity :=
  ((deviceConfigFormToPayload values (template.map (·.type))).dto.filter fun dto =>
    dto.Valid isUrl).map (applyConfigDto · device)

/-! ## The row that is saved -/

/-- The sections that the form sends. -/
def formMqtt (values : DeviceConfigFormValues) (port : Nat) : DeviceMqttConfig :=
  { broker := values.mqttBroker.getD ""
    port
    username := (orUndefined values.mqttUsername).map some
    password := (orUndefined values.mqttPassword).map some
    topics :=
      { telemetry := values.mqttTelemetryTopic.getD ""
        command := orUndefined values.mqttCommandTopic
        status := orUndefined values.mqttStatusTopic
        event := orUndefined values.mqttEventTopic
        ota := none
        channels := channelPayload (values.channelTopics.getD []) } }

def formHttp (values : DeviceConfigFormValues) : DeviceHttpPushConfig :=
  { url := values.httpUrl.getD "", headers := none }

def formKafka (values : DeviceConfigFormValues) : DeviceKafkaConfig :=
  { brokers := values.kafkaBrokers.getD ""
    topics := textItems ',' (values.kafkaTopics.getD "")
    commandTopic := (orUndefined values.kafkaCommandTopic).map some
    clientId := (orUndefined values.kafkaClientId).map some
    username := (orUndefined values.kafkaUsername).map some
    password := (orUndefined values.kafkaPassword).map some }

def formFailsafe (values : DeviceConfigFormValues) : DeviceFailsafeConfig :=
  { enabled := values.failsafeEnabled.getD false
    rules := (orNull (parseRuleLines values.failsafeRules)).map some }

/-- The request of the form, with its MQTT section. -/
def formRequest (values : DeviceConfigFormValues) (templateType : Option DeviceTemplateType)
    (mqtt : Option DeviceMqttConfig) : UpdateDeviceConfigDto :=
  (deviceConfigFormToPayload values templateType).request mqtt

/-- The MQTT section that the controller gets. -/
inductive MqttReceived (values : DeviceConfigFormValues) : Option DeviceMqttConfig → Prop
  | sent {port : Nat} (channel : values.pushChannel = .mqtt)
      (natural : natField (portNumber values.mqttPort) = some port) :
      MqttReceived values (some (formMqtt values port))
  | absent (channel : values.pushChannel ≠ .mqtt) : MqttReceived values none

theorem dto_eq_some_iff {values : DeviceConfigFormValues}
    {templateType : Option DeviceTemplateType} {dto : UpdateDeviceConfigDto} :
    (deviceConfigFormToPayload values templateType).dto = some dto ↔
      ∃ mqtt, MqttReceived values mqtt ∧ dto = formRequest values templateType mqtt := by
  by_cases channel : values.pushChannel = .mqtt
  · have sent : (deviceConfigFormToPayload values templateType).dto =
        (natField (portNumber values.mqttPort)).map fun port =>
          formRequest values templateType (some (formMqtt values port)) := by
      simp only [DeviceConfigPayload.dto, deviceConfigFormToPayload, if_pos channel,
        MqttPayload.config, Option.map_map]
      rfl
    rw [sent, Option.map_eq_some_iff]
    constructor
    · rintro ⟨port, natural, rfl⟩
      exact ⟨_, .sent channel natural, rfl⟩
    · rintro ⟨_, ⟨_, natural⟩ | ⟨other⟩, rfl⟩
      · exact ⟨_, natural, rfl⟩
      · exact absurd channel other
  · have absent : (deviceConfigFormToPayload values templateType).dto =
        some (formRequest values templateType none) := by
      simp only [DeviceConfigPayload.dto, deviceConfigFormToPayload, if_neg channel]
      rfl
    rw [absent]
    constructor
    · rintro ⟨⟩
      exact ⟨none, .absent channel, rfl⟩
    · rintro ⟨_, ⟨other, _⟩ | ⟨_⟩, rfl⟩
      · exact absurd other channel
      · rfl

/-- A form is saved if the pipe lets its request through. -/
theorem saveConfigForm_eq_some {values : DeviceConfigFormValues}
    {template : Option DeviceTemplateEntity} {device saved : DeviceEntity} :
    saveConfigForm isUrl values template device = some saved ↔
      ∃ mqtt, MqttReceived values mqtt ∧
        (formRequest values (template.map (·.type)) mqtt).Valid isUrl ∧
        applyConfigDto (formRequest values (template.map (·.type)) mqtt) device = saved := by
  unfold saveConfigForm
  simp only [Option.map_eq_some_iff, Option.filter_eq_some_iff, decide_eq_true_eq, dto_eq_some_iff]
  constructor
  · rintro ⟨_, ⟨⟨mqtt, received, rfl⟩, valid⟩, rfl⟩
    exact ⟨mqtt, received, valid, rfl⟩
  · rintro ⟨mqtt, received, valid, rfl⟩
    exact ⟨_, ⟨⟨mqtt, received, rfl⟩, valid⟩, rfl⟩

section Row

variable (values : DeviceConfigFormValues) (templateType : Option DeviceTemplateType)
  (mqtt : Option DeviceMqttConfig) (device : DeviceEntity)

/-- Sections are sent for the push channel, and rules for a gateway. -/
theorem formRequest_eq : formRequest values templateType mqtt =
    { apiEndpoint := (orUndefined values.apiEndpoint).map some
      pushChannel := some values.pushChannel
      mqtt := mqtt.map some
      http := if values.pushChannel = .http then some (some (formHttp values)) else none
      kafka := if values.pushChannel = .kafka then some (some (formKafka values)) else none
      isActive := some values.isActive
      alertRules := if templateType = some .gateway then
        some (orNull (parseRuleLines values.alertRules)) else none
      failsafe := if templateType = some .gateway then
        some (some (formFailsafe values)) else none } := by
  unfold formRequest DeviceConfigPayload.request deviceConfigFormToPayload
  by_cases http : values.pushChannel = .http <;> by_cases kafka : values.pushChannel = .kafka <;>
    by_cases gateway : templateType = some .gateway <;>
    simp [http, kafka, gateway, formHttp, formKafka, formFailsafe]

theorem formRequest_apiEndpoint :
    (applyConfigDto (formRequest values templateType mqtt) device).config.bind (·.apiEndpoint) =
      ((orUndefined values.apiEndpoint).map some).getD
        (device.config.bind (·.apiEndpoint)) := by
  unfold applyConfigDto configCopy
  cases device.config <;> rfl

theorem formRequest_mqtt :
    (applyConfigDto (formRequest values templateType mqtt) device).config.bind (·.mqtt) =
      (mqtt.map some).getD (device.config.bind (·.mqtt)) :=
  applyConfigDto_mqttConfig (formRequest values templateType mqtt) device

theorem formRequest_http (channel : values.pushChannel = .http) :
    (applyConfigDto (formRequest values templateType mqtt) device).config.bind (·.http) =
      some (formHttp values) := by
  rw [formRequest_eq, if_pos channel]
  rfl

theorem formRequest_kafka (channel : values.pushChannel = .kafka) :
    (applyConfigDto (formRequest values templateType mqtt) device).config.bind (·.kafka) =
      some (formKafka values) := by
  rw [formRequest_eq, if_pos channel]
  rfl

theorem formRequest_alertRules :
    (applyConfigDto (formRequest values templateType mqtt) device).alertRules =
      if templateType = some .gateway then orNull (parseRuleLines values.alertRules)
      else device.alertRules := by
  rw [formRequest_eq]
  by_cases gateway : templateType = some .gateway <;> simp [applyConfigDto, gateway]

theorem formRequest_failsafe :
    (applyConfigDto (formRequest values templateType mqtt) device).failsafe =
      if templateType = some .gateway then some (formFailsafe values) else device.failsafe := by
  rw [formRequest_eq]
  by_cases gateway : templateType = some .gateway <;> simp [applyConfigDto, gateway]

end Row

theorem isGateway_iff {template : Option DeviceTemplateEntity} :
    isGateway template = true ↔ template.map (·.type) = some .gateway := by
  cases template <;> simp [isGateway]

/-! ## Text fields -/

theorem toList_intercalate (sep : Char) (glue : List Char) (texts : List String) :
    ((String.ofList (sep :: glue)).intercalate texts).toList =
      TextItems.join sep glue (texts.map String.toList) := by
  rw [String.toList_intercalate, String.toList_ofList, TextItems.join]

theorem ofList_toList_map (texts : List String) :
    (texts.map String.toList).map String.ofList = texts := by
  simp [Function.comp_def]

theorem cleanText_of_mem_textItems {sep : Char} {text item : String}
    (h : item ∈ textItems sep text) : CleanText sep item := by
  obtain ⟨chars, hchars, rfl⟩ := List.mem_map.mp h
  unfold CleanText
  rw [String.toList_ofList]
  exact TextItems.clean_of_mem_items hchars

theorem CleanText.ne_empty {sep : Char} {text : String} (h : CleanText sep text) : text ≠ "" := by
  rintro rfl
  exact h.nonempty rfl

/-- A list is read from its text as it was written just when its items are clean. -/
theorem textItems_join_iff {sep : Char} (glue : List Char) (hglue : ∀ c ∈ glue, isJsSpace c = true)
    (hsep : sep ∉ glue) {texts : List String} :
    textItems sep ((String.ofList (sep :: glue)).intercalate texts) = texts ↔
      ∀ text ∈ texts, CleanText sep text := by
  have asText (items : List (List Char)) :
      items.map String.ofList = texts ↔ items = texts.map String.toList := by
    constructor
    · rintro rfl
      simp [Function.comp_def]
    · rintro rfl
      exact ofList_toList_map texts
  unfold textItems
  rw [toList_intercalate, asText, TextItems.items_join_iff hglue hsep, List.forall_mem_map]
  rfl

theorem ruleLines_join_iff {rules : List String} :
    parseRuleLines (some ("\n".intercalate rules)) = rules ↔ ∀ rule ∈ rules, CleanText '\n' rule :=
  textItems_join_iff [] (by simp) (by simp)

theorem blank_space : ∀ c ∈ [' '], isJsSpace c = true := by
  intro c hc
  rw [List.mem_singleton.mp hc]
  rfl

theorem topics_join_iff {topics : List String} :
    textItems ',' (", ".intercalate topics) = topics ↔ ∀ topic ∈ topics, CleanText ',' topic :=
  textItems_join_iff [' '] blank_space (by simp)

/-! ## Optional fields -/

theorem getD_orUndefined (value : Option String) (other : String) :
    (orUndefined value).getD other = if value.getD "" = "" then other else value.getD "" := by
  unfold orUndefined
  cases value with
  | none => rfl
  | some text => by_cases h : text = "" <;> simp [Option.filter_some, h]

theorem join_map_some {α : Type} (value : Option α) : (value.map some).join = value := by
  cases value <;> rfl

theorem getD_orNull (rules : List String) : (orNull rules).getD [] = rules := by
  unfold orNull
  split_ifs with h
  · exact h.symm
  · rfl

/-! ## The port -/

/-- The port of a text that a number is written as. -/
theorem portNumber_toString {port : Nat} (positive : 1 ≤ port) (small : port ≤ 65535) :
    portNumber (some (toString port)) = .finite port := by
  have digits : (toString port).toList = Nat.toDigits 10 port := Nat.toList_repr
  have value : JsNumber.number isJsSpace (toString port).toList = .finite port := by
    rw [digits, JsNumber.number_digits Nat.toDigits_ne_nil
      (fun c hc => Nat.isDigit_of_mem_toDigits (by decide) (by decide) hc) not_blank_digit]
    · rw [Nat.ofDigitChars_ten_toDigits]
    · rw [Nat.ofDigitChars_ten_toDigits]
      omega
  unfold portNumber
  rw [Option.map_some, Option.getD_some, value]
  have nonzero : (port : Rat) ≠ 0 := by exact_mod_cast (by omega : port ≠ 0)
  exact if_neg nonzero

theorem natField_natCast (n : Nat) : natField (.finite n) = some n := by
  simp [natField]

end AiotCloud
