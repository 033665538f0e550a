import AiotCloud.ConfigVersion
import AiotCloud.SavedForm

/-!
# Saving an untouched form

The dialog is opened for a device and saved as it is.

`untouched_form_iff`: when the boot config of the device stays as it was.
-/

namespace AiotCloud

/-! ## The device -/

/-- A stored device as accepted requests leave it, with a template whose actions were accepted
and have distinct keys. -/
structure FormDevice (isUrl : String → Bool) (device : DeviceEntity)
    (template : Option DeviceTemplateEntity) : Prop where
  deviceId : StringField device.deviceId
  apiEndpoint : ∀ url ∈ device.config.bind (·.apiEndpoint), URLField isUrl url
  mqtt : ∀ mqtt ∈ device.config.bind (·.mqtt), mqtt.Accepted
  http : ∀ http ∈ device.config.bind (·.http), http.Accepted isUrl
  kafka : ∀ kafka ∈ device.config.bind (·.kafka), kafka.Accepted
  actions : ∀ action ∈ actionSchema template, StringField action.key ∧ StringField action.label
  keys : ((actionSchema template).map (·.key)).Nodup

/-! ## When -/

/-- The command and status topics are stored, the OTA topic is the default one, a device without
channels in the form has none stored, and no `null` is stored for a credential. -/
structure MqttUntouched (deviceId : String) (template : Option DeviceTemplateEntity)
    (mqtt : DeviceMqttConfig) : Prop where
  username : mqtt.username ≠ some none
  password : mqtt.password ≠ some none
  command : mqtt.topics.command ≠ none
  status : mqtt.topics.status ≠ none
  ota : ∀ ota ∈ mqtt.topics.ota, ota = defaultOtaTopic deviceId
  channels : channelActions template = [] → mqtt.topics.channels = none

/-- The topics can be written with commas between them, and no `null` is stored. -/
structure KafkaUntouched (kafka : DeviceKafkaConfig) : Prop where
  topics : ∀ topic ∈ kafka.topics, CleanText ',' topic
  commandTopic : kafka.commandTopic ≠ some none
  clientId : kafka.clientId ≠ some none
  username : kafka.username ≠ some none
  password : kafka.password ≠ some none

/-- Rules that the text of the form can hold. -/
structure RulesUntouched (stored : Option (List String)) : Prop where
  nonempty : stored ≠ some []
  clean : ∀ rules ∈ stored, ∀ rule ∈ rules, CleanText '\n' rule

/-- What is stored survives the form. -/
structure FormUntouched (device : DeviceEntity) (template : Option DeviceTemplateEntity) :
    Prop where
  mqtt : device.pushChannel = .mqtt → ∀ mqtt ∈ device.config.bind (·.mqtt),
    MqttUntouched device.deviceId template mqtt
  http : device.pushChannel = .http → ∀ http ∈ device.config.bind (·.http), http.headers = none
  kafka : device.pushChannel = .kafka → ∀ kafka ∈ device.config.bind (·.kafka),
    KafkaUntouched kafka
  alertRules : isGateway template = true → RulesUntouched device.alertRules
  failsafe : isGateway template = true →
    ∃ failsafe, device.failsafe = some failsafe ∧ failsafe.rules ≠ some none ∧
      RulesUntouched failsafe.rules.join

/-! ## Single fields -/

theorem orUndefined_some_getD {value : Option String} (accepted : StringFieldOptional value) :
    orUndefined (some (value.getD "")) = value := by
  unfold orUndefined
  cases value with
  | none => rfl
  | some text => exact if_pos (decide_eq_true (accepted text rfl))

/-- A field is sent as it is stored, unless that is `null`. -/
theorem map_some_join_iff {α : Type} {field : Option (Option α)} :
    field.join.map some = field ↔ field ≠ some none := by
  obtain _ | _ | _ := field <;> simp

theorem orUndefined_getD_default {value : Option String} (accepted : StringFieldOptional value)
    {fallback : String} (h : fallback ≠ "") :
    orUndefined (some (value.getD fallback)) = some (value.getD fallback) := by
  unfold orUndefined
  cases value with
  | none => simp [Option.filter_some, h]
  | some text => exact if_pos (decide_eq_true (accepted text rfl))

theorem orNull_rules_iff (rules : Option (List String)) :
    orNull (parseRuleLines (some ("\n".intercalate (rules.getD [])))) = rules ↔
      RulesUntouched rules := by
  cases rules with
  | none => exact iff_of_true rfl ⟨by simp, by simp⟩
  | some rules =>
    have read : parseRuleLines (some ("\n".intercalate rules)) = rules ↔ _ := ruleLines_join_iff
    unfold orNull
    rw [Option.getD_some]
    constructor
    · intro h
      split_ifs at h with none
      have same := Option.some.inj h
      refine ⟨fun empty => none (same.trans (Option.some.inj empty)), ?_⟩
      rintro _ ⟨⟩
      exact read.mp same
    · rintro ⟨nonempty, clean⟩
      rw [read.mpr (clean rules rfl), if_neg fun empty => nonempty (congrArg some empty)]

theorem formFailsafe_iff (failsafe : Option DeviceFailsafeConfig) (values : DeviceConfigFormValues)
    (enabled : values.failsafeEnabled = some ((failsafe.map (·.enabled)).getD false))
    (rules : values.failsafeRules =
      some ("\n".intercalate ((failsafe.bind (·.rules.join)).getD []))) :
    some (formFailsafe values) = failsafe ↔
      ∃ stored, failsafe = some stored ∧ stored.rules ≠ some none ∧
        RulesUntouched stored.rules.join := by
  unfold formFailsafe
  rw [enabled, rules]
  cases failsafe with
  | none => simp
  | some stored =>
    obtain ⟨on, lines⟩ := stored
    have kept := orNull_rules_iff lines.join
    simp only [Option.map_some, Option.getD_some, Option.bind_some, Option.some_inj,
      DeviceFailsafeConfig.mk.injEq, true_and, exists_eq_left']
    rw [← kept, ← map_some_join_iff]
    constructor
    · intro sent
      have shown := congrArg Option.join sent
      rw [join_map_some] at shown
      rw [shown] at sent
      exact ⟨sent, shown⟩
    · rintro ⟨stays, shown⟩
      rw [shown, stays]

/-! ## Channels -/

theorem formActions_map (template : Option DeviceTemplateEntity) :
    (formActions template).map (fun action => (action.key, action.label)) =
      channelActions template := by
  unfold formActions channelActions isChannelBasedTemplate
  cases template with
  | none => rfl
  | some t =>
    obtain ⟨id, name, type, telemetry, actions, active⟩ := t
    cases type <;> rfl

/-- The form sends the channels that a boot derives. -/
theorem channelPayload_defaults {deviceId : String} (hid : deviceId ≠ "")
    (template : Option DeviceTemplateEntity) (stored : List DeviceMqttChannelTopic) :
    channelPayload (buildChannelTopicDefaults (some deviceId) template stored) =
      if channelActions template = [] then none
      else some (some (channelList deviceId stored (channelActions template))) := by
  have present : topicDefault (some deviceId) = fun defaultTopic => defaultTopic deviceId := by
    funext defaultTopic
    simp [topicDefault, Option.filter_some, hid]
  rw [buildChannelTopicDefaults_eq, ← formActions_map, present]
  unfold channelPayload
  by_cases idle : formActions template = []
  · simp [idle]
  · rw [if_neg (by simpa using idle), if_neg (by simpa using idle)]
    congr 2
    refine List.ext_getElem (by simp [channelList]) fun i hi hi' => ?_
    simp [channelList]

theorem channelList_keys (deviceId : String) (stored : List DeviceMqttChannelTopic)
    (actions : List (String × String)) :
    (channelList deviceId stored actions).map (·.key) = actions.map (·.1) :=
  map_mapIdx_eq (by intro _ _; rfl) actions

theorem getElem?_channelList (deviceId : String) (stored : List DeviceMqttChannelTopic)
    (actions : List (String × String)) (i : Nat) :
    (channelList deviceId stored actions)[i]? = actions[i]?.map fun action =>
      { index := i + 1
        key := action.1
        label := action.2
        topic := ((channelOverride stored action.1).filter (· ≠ "")).getD
          (defaultChannelCommandTopic deviceId (i + 1)) } :=
  List.getElem?_mapIdx

theorem channelList_topic_ne_empty {deviceId : String} {stored : List DeviceMqttChannelTopic}
    {actions : List (String × String)} :
    ∀ c ∈ channelList deviceId stored actions, c.topic ≠ "" := by
  intro c hc
  obtain ⟨i, hi, rfl⟩ := List.mem_mapIdx.mp hc
  cases hoverride : channelOverride stored actions[i].1 with
  | none => simp [defaultChannelCommandTopic]
  | some topic => by_cases empty : topic = "" <;>
      simp [Option.filter_some, empty, defaultChannelCommandTopic]

/-- With distinct keys, a derived list keeps its topics when it is stored. -/
theorem channelList_channelList {deviceId : String} (stored : List DeviceMqttChannelTopic)
    {actions : List (String × String)} (keys : (actions.map (·.1)).Nodup) :
    channelList deviceId (channelList deviceId stored actions) actions =
      channelList deviceId stored actions := by
  have override : ∀ c ∈ channelList deviceId stored actions,
      channelOverride (channelList deviceId stored actions) c.key = some c.topic := by
    intro c hc
    rw [← channelList_keys deviceId stored] at keys
    unfold channelOverride
    obtain ⟨c', hc', key, found⟩ := exists_find_reverse DeviceMqttChannelTopic.key hc
    -- the last entry with the key is the only one
    rw [found, Option.map_some, List.inj_on_of_nodup_map keys hc' hc key]
  refine List.ext_getElem? fun i => ?_
  rw [getElem?_channelList]
  cases haction : actions[i]? with
  | none => simp [getElem?_channelList, haction]
  | some action =>
    have stays := getElem?_channelList deviceId stored actions i
    rw [haction, Option.map_some] at stays
    have kept := override _ (List.mem_of_getElem? stays)
    have nonempty := channelList_topic_ne_empty _ (List.mem_of_getElem? stays)
    rw [Option.map_some, stays, kept, Option.filter_some, if_pos (decide_eq_true nonempty),
      Option.getD_some]

/-! ## MQTT -/

/-- The MQTT section that the untouched form sends. -/
def sentMqtt (deviceId : String) (template : Option DeviceTemplateEntity)
    (mqtt : DeviceMqttConfig) : DeviceMqttConfig :=
  { mqtt with
    username := mqtt.username.join.map some
    password := mqtt.password.join.map some
    topics :=
      { telemetry := mqtt.topics.telemetry
        command := some (mqtt.topics.command.getD (defaultCommandTopic deviceId))
        status := some (mqtt.topics.status.getD (defaultStatusTopic deviceId))
        event := some (mqtt.topics.event.getD (defaultEventTopic deviceId))
        ota := none
        channels := if channelActions template = [] then none
          else some (some (channelList deviceId mqtt.topics.channelList
            (channelActions template))) } }

section Untouched

variable {device : DeviceEntity} {template : Option DeviceTemplateEntity} {mqtt : DeviceMqttConfig}
  (stored : device.config.bind (·.mqtt) = some mqtt) (accepted : mqtt.Accepted)

include stored accepted

theorem formMqtt_untouched (hid : device.deviceId ≠ "") :
    formMqtt (device.formValues template) mqtt.port = sentMqtt device.deviceId template mqtt := by
  have fallback (defaultTopic : String → String) :
      topicDefault (some device.deviceId) defaultTopic = defaultTopic device.deviceId := by
    simp [topicDefault, Option.filter_some, hid]
  have channels : ((device.config.bind (·.mqtt)).map (·.topics.channelList)).getD [] =
      mqtt.topics.channelList := by rw [stored]; rfl
  have command : defaultCommandTopic device.deviceId ≠ "" := defaultTopic_ne_empty _ _
  have status : defaultStatusTopic device.deviceId ≠ "" := defaultTopic_ne_empty _ _
  have event : defaultEventTopic device.deviceId ≠ "" := defaultTopic_ne_empty _ _
  unfold formMqtt DeviceEntity.formValues deviceConfigFormDefaults sentMqtt
  simp only [Option.getD_some, fallback]
  rw [channels, channelPayload_defaults hid]
  simp only [stored, Option.map_some, Option.getD_some, Option.bind_some]
  rw [orUndefined_some_getD accepted.username, orUndefined_some_getD accepted.password,
    orUndefined_getD_default accepted.topics.command command,
    orUndefined_getD_default accepted.topics.status status,
    orUndefined_getD_default accepted.topics.event event]

theorem port_untouched :
    natField (portNumber (device.formValues template).mqttPort) = some mqtt.port := by
  have nonzero : mqtt.port ≠ 0 := Nat.one_le_iff_ne_zero.mp accepted.port.1
  have shown : (device.formValues template).mqttPort = some (toString mqtt.port) := by
    simp [DeviceEntity.formValues, deviceConfigFormDefaults, stored, Option.filter_some, nonzero]
  rw [shown, portNumber_toString accepted.port.1 accepted.port.2, natField_natCast]

end Untouched

theorem some_getD_eq_iff {value : Option String} {fallback : String} :
    some (value.getD fallback) = value ↔ value ≠ none := by
  cases value <;> simp

/-- The section sent answers a boot as the stored one does. -/
theorem bootMqttConfig_sent_iff (env : ApiConfig) {before after : DeviceEntity}
    {template : Option DeviceTemplateEntity} {mqtt : DeviceMqttConfig}
    (stored : before.mqttConfig = some mqtt) (id : after.deviceId = before.deviceId)
    (sent : after.mqttConfig = some (sentMqtt before.deviceId template mqtt))
    (keys : ((channelActions template).map (·.1)).Nodup) :
    bootMqttConfig env after template = bootMqttConfig env before template ↔
      MqttUntouched before.deviceId template mqtt := by
  have base : mqttBase env before = mqtt := by
    unfold mqttBase
    rw [stored]
  have base' : mqttBase env after = sentMqtt before.deviceId template mqtt := by
    unfold mqttBase
    rw [sent]
  unfold bootMqttConfig
  rw [base, base']
  dsimp only
  rw [buildMqttTopics_eq, buildMqttTopics_eq, id]
  have ota : defaultOtaTopic before.deviceId =
      mqtt.topics.ota.getD (defaultOtaTopic before.deviceId) ↔
        ∀ ota ∈ mqtt.topics.ota, ota = defaultOtaTopic before.deviceId := by
    cases mqtt.topics.ota <;> simp [eq_comm]
  -- without channels a boot answers the stored list, else one that is derived again
  by_cases idle : channelActions template = []
  · simp only [if_pos idle, sentMqtt, DeviceMqttConfig.mk.injEq, DeviceMqttTopics.mk.injEq,
      true_and, map_some_join_iff, some_getD_eq_iff, Option.getD_some, Option.getD_none,
      Option.some_inj, ota]
    constructor
    · rintro ⟨username, password, command, status, ota, channels⟩
      exact ⟨username, password, command, status, ota, fun _ => channels.symm⟩
    · rintro ⟨username, password, command, status, ota, channels⟩
      exact ⟨username, password, command, status, ota, (channels idle).symm⟩
  · simp only [if_neg idle, sentMqtt, DeviceMqttConfig.mk.injEq, DeviceMqttTopics.mk.injEq,
      true_and, map_some_join_iff, some_getD_eq_iff, Option.getD_some, Option.getD_none,
      Option.some_inj, ota, DeviceMqttTopics.channelList, Option.join_some]
    rw [channelList_channelList _ keys]
    constructor
    · rintro ⟨username, password, command, status, ota, -⟩
      exact ⟨username, password, command, status, ota, fun none => absurd none idle⟩
    · rintro ⟨username, password, command, status, ota, -⟩
      exact ⟨username, password, command, status, ota, rfl⟩

/-! ## The request -/

section Valid

variable {isUrl : String → Bool}

theorem stringFieldOptional_orUndefined (value : Option String) :
    StringFieldOptional (orUndefined value) := by
  intro text h
  exact of_decide_eq_true (Option.filter_eq_some_iff.mp h).2

theorem stringFieldOptional_sent (value : Option String) :
    StringFieldOptional ((orUndefined value).map some).join := by
  rw [join_map_some]
  exact stringFieldOptional_orUndefined value

theorem stringField_of_ruleLines {text : Option String} {rules : List String}
    (h : orNull (parseRuleLines text) = some rules) : ∀ rule ∈ rules, StringField rule := by
  unfold orNull at h
  split_ifs at h
  obtain rfl := Option.some.inj h
  exact fun rule hrule => (cleanText_of_mem_textItems hrule).ne_empty

theorem mem_join_map_some {α : Type} {o : Option α} {a : α} (h : a ∈ (o.map some).join) :
    a ∈ o := by
  rwa [join_map_some] at h

/-- What the pipe can still refuse: the endpoints, the brokers and the MQTT section. -/
theorem formRequest_valid {values : DeviceConfigFormValues}
    {templateType : Option DeviceTemplateType} {mqtt : Option DeviceMqttConfig}
    (apiEndpoint : ∀ url ∈ orUndefined values.apiEndpoint, URLField isUrl url)
    (hmqtt : ∀ m ∈ mqtt, m.Accepted)
    (http : values.pushChannel = .http → (formHttp values).Accepted isUrl)
    (brokers : values.pushChannel = .kafka → StringField (values.kafkaBrokers.getD "")) :
    (formRequest values templateType mqtt).Valid isUrl := by
  rw [formRequest_eq]
  constructor
  · exact fun url h => apiEndpoint url (mem_join_map_some h)
  · exact fun m h => hmqtt m (mem_join_map_some h)
  · intro sent h
    dsimp only at h
    split_ifs at h with channel
    · obtain rfl := Option.some.inj h
      exact http channel
    · cases h
  · intro sent h
    dsimp only at h
    split_ifs at h with channel
    · obtain rfl := Option.some.inj h
      exact
        { brokers := brokers channel
          topics := fun topic htopic => (cleanText_of_mem_textItems htopic).ne_empty
          commandTopic := stringFieldOptional_sent values.kafkaCommandTopic
          clientId := stringFieldOptional_sent values.kafkaClientId
          username := stringFieldOptional_sent values.kafkaUsername
          password := stringFieldOptional_sent values.kafkaPassword }
    · cases h
  · intro rules h
    dsimp only at h
    split_ifs at h with gateway
    · exact stringField_of_ruleLines h
    · cases h
  · intro sent h
    dsimp only at h
    split_ifs at h with gateway
    · obtain rfl := Option.some.inj h
      exact ⟨fun rules hrules => stringField_of_ruleLines (mem_join_map_some hrules)⟩
    · cases h

end Valid

/-! ## The save -/

theorem channelActions_accepted {template : Option DeviceTemplateEntity}
    (accepted : ∀ action ∈ actionSchema template,
      StringField action.key ∧ StringField action.label) :
    ∀ action ∈ channelActions template, StringField action.1 ∧ StringField action.2 := by
  intro action h
  unfold channelActions at h
  split_ifs at h
  · obtain ⟨field, hfield, rfl⟩ := List.mem_map.mp h
    exact accepted field hfield
  · cases h

theorem channelActions_nodup {template : Option DeviceTemplateEntity}
    (keys : ((actionSchema template).map (·.key)).Nodup) :
    ((channelActions template).map (·.1)).Nodup := by
  unfold channelActions
  split_ifs
  · rw [List.map_map]
    exact keys
  · exact List.nodup_nil

theorem sentMqtt_accepted {deviceId : String} {template : Option DeviceTemplateEntity}
    {mqtt : DeviceMqttConfig} (accepted : mqtt.Accepted)
    (actions : ∀ action ∈ actionSchema template,
      StringField action.key ∧ StringField action.label) :
    (sentMqtt deviceId template mqtt).Accepted := by
  have topic {value : Option String} (h : StringFieldOptional value) (suffix : String) :
      StringFieldOptional (some (value.getD ("devices/" ++ deviceId ++ suffix))) := by
    rintro _ ⟨⟩
    cases value with
    | none => exact defaultTopic_ne_empty suffix deviceId
    | some text => exact h text rfl
  have credential {value : Option (Option String)} (h : StringFieldOptional value.join) :
      StringFieldOptional (value.join.map some).join := by
    rwa [join_map_some]
  refine ⟨accepted.broker, accepted.port, credential accepted.username,
    credential accepted.password, accepted.topics.telemetry, topic accepted.topics.command _,
    topic accepted.topics.status _, topic accepted.topics.event _, (fun _ h => by cases h),
    fun c hc => ?_⟩
  unfold sentMqtt DeviceMqttTopics.channelList at hc
  dsimp only at hc
  split_ifs at hc with idle
  · cases hc
  · have nonempty := channelList_topic_ne_empty c hc
    obtain ⟨i, hi, rfl⟩ := List.mem_mapIdx.mp hc
    have names := channelActions_accepted actions _ (List.getElem_mem hi)
    exact ⟨Nat.succ_le_succ (Nat.zero_le i), names.1, names.2, nonempty⟩

/-- The boot config is as before, but for its version. -/
def SameBoot (env : ApiConfig) (template : Option DeviceTemplateEntity)
    (before after : DeviceEntity) : Prop :=
  (getBootConfig env template (some after)).1.data =
    (getBootConfig env template (some before)).1.data.map fun response =>
      { response with configVersion := after.configVersion }

/-- A saved form changes a boot config by its sections and its rules. -/
theorem sameBoot_iff (env : ApiConfig) {template : Option DeviceTemplateEntity}
    {device : DeviceEntity} {dto : UpdateDeviceConfigDto}
    (channel : dto.pushChannel = some device.pushChannel) (offline : dto.offlineAlert = none)
    (apiEndpoint : (applyConfigDto dto device).config.bind (·.apiEndpoint) =
      device.config.bind (·.apiEndpoint)) :
    SameBoot env template device (applyConfigDto dto device) ↔
      (device.pushChannel = .mqtt → bootMqttConfig env (applyConfigDto dto device) template =
        bootMqttConfig env device template) ∧
      (device.pushChannel = .http → (applyConfigDto dto device).config.bind (·.http) =
        device.config.bind (·.http)) ∧
      (device.pushChannel = .kafka → bootKafkaConfig env template (applyConfigDto dto device) =
        bootKafkaConfig env template device) ∧
      (applyConfigDto dto device).alertRules = device.alertRules ∧
      (applyConfigDto dto device).failsafe = device.failsafe := by
  have push : (applyConfigDto dto device).pushChannel = device.pushChannel := by
    simp [applyConfigDto, channel]
  have alert : (applyConfigDto dto device).offlineAlert = device.offlineAlert := by
    simp [applyConfigDto, offline]
  unfold SameBoot
  rw [getBootConfig_data, getBootConfig_data, Option.map_some, Option.some_inj]
  unfold bootResponse bootConfig
  rw [push, alert, apiEndpoint]
  simp only [DeviceConfigDto.mk.injEq, true_and]
  cases device.pushChannel with
  | mqtt => simp [applyConfigDto]
  | http => simp [applyConfigDto]
  | kafka => simp [applyConfigDto]

/-! ## The untouched form -/

section Device

variable {isUrl : String → Bool} {device : DeviceEntity} {template : Option DeviceTemplateEntity}

/-- A text shown for a section that is not stored is refused by the form. -/
theorem exists_of_required {α : Type} {stored : Option α} {text : α → String} {path : String}
    (h : requireField (some ((stored.map text).getD "")) path = []) : ∃ a, stored = some a := by
  cases stored with
  | none =>
    have required := requireField_eq_nil.mp h
    exact absurd rfl required
  | some a => exact ⟨a, rfl⟩

theorem exists_mqtt (noIssues : deviceConfigFormIssues (device.formValues template) = [])
    (channel : device.pushChannel = .mqtt) : ∃ mqtt, device.config.bind (·.mqtt) = some mqtt := by
  have issues := (List.append_eq_nil_iff.mp noIssues).2
  simp only [DeviceEntity.formValues, deviceConfigFormDefaults, channel,
    List.append_eq_nil_iff] at issues
  exact exists_of_required issues.1.1

theorem exists_http (noIssues : deviceConfigFormIssues (device.formValues template) = [])
    (channel : device.pushChannel = .http) : ∃ http, device.config.bind (·.http) = some http := by
  have issues := (List.append_eq_nil_iff.mp noIssues).2
  simp only [DeviceEntity.formValues, deviceConfigFormDefaults, channel] at issues
  exact exists_of_required issues

theorem exists_kafka (noIssues : deviceConfigFormIssues (device.formValues template) = [])
    (channel : device.pushChannel = .kafka) :
    ∃ kafka, device.config.bind (·.kafka) = some kafka := by
  have issues := (List.append_eq_nil_iff.mp noIssues).2
  simp only [DeviceEntity.formValues, deviceConfigFormDefaults, channel,
    List.append_eq_nil_iff] at issues
  exact exists_of_required issues.2

theorem formHttp_untouched {http : DeviceHttpPushConfig}
    (stored : device.config.bind (·.http) = some http) :
    formHttp (device.formValues template) = { http with headers := none } := by
  simp [formHttp, DeviceEntity.formValues, deviceConfigFormDefaults, stored]

theorem formKafka_untouched {kafka : DeviceKafkaConfig}
    (stored : device.config.bind (·.kafka) = some kafka) (accepted : kafka.Accepted) :
    formKafka (device.formValues template) =
      { brokers := kafka.brokers
        topics := textItems ',' (", ".intercalate kafka.topics)
        commandTopic := kafka.commandTopic.join.map some
        clientId := kafka.clientId.join.map some
        username := kafka.username.join.map some
        password := kafka.password.join.map some } := by
  unfold formKafka DeviceEntity.formValues deviceConfigFormDefaults
  simp only [stored, Option.map_some, Option.getD_some, Option.bind_some]
  rw [orUndefined_some_getD accepted.commandTopic, orUndefined_some_getD accepted.clientId,
    orUndefined_some_getD accepted.username, orUndefined_some_getD accepted.password]

theorem apiEndpoint_untouched (form : FormDevice isUrl device template) :
    orUndefined (device.formValues template).apiEndpoint = device.config.bind (·.apiEndpoint) :=
  orUndefined_some_getD fun url h => (form.apiEndpoint url h).1

/-- The pipe lets the request of the untouched form through. -/
theorem untouched_request (form : FormDevice isUrl device template)
    (noIssues : deviceConfigFormIssues (device.formValues template) = []) :
    ∃ mqtt, MqttReceived (device.formValues template) mqtt ∧
      (formRequest (device.formValues template) (template.map (·.type)) mqtt).Valid isUrl ∧
      (device.pushChannel = .mqtt → ∃ stored, device.config.bind (·.mqtt) = some stored ∧
        mqtt = some (sentMqtt device.deviceId template stored)) := by
  have apiEndpoint : ∀ url ∈ orUndefined (device.formValues template).apiEndpoint,
      URLField isUrl url := by
    rw [apiEndpoint_untouched form]
    exact form.apiEndpoint
  have http (channel : device.pushChannel = .http) :
      (formHttp (device.formValues template)).Accepted isUrl := by
    obtain ⟨http, stored⟩ := exists_http noIssues channel
    rw [formHttp_untouched stored]
    exact ⟨(form.http http stored).url⟩
  have brokers (channel : device.pushChannel = .kafka) :
      StringField ((device.formValues template).kafkaBrokers.getD "") := by
    obtain ⟨kafka, stored⟩ := exists_kafka noIssues channel
    have shown : (device.formValues template).kafkaBrokers = some kafka.brokers := by
      simp [DeviceEntity.formValues, deviceConfigFormDefaults, stored]
    rw [shown]
    exact (form.kafka kafka stored).brokers
  by_cases channel : device.pushChannel = .mqtt
  · obtain ⟨stored, hstored⟩ := exists_mqtt noIssues channel
    have accepted := form.mqtt stored hstored
    have sent : formMqtt (device.formValues template) stored.port =
        sentMqtt device.deviceId template stored :=
      formMqtt_untouched hstored accepted form.deviceId
    refine ⟨some (sentMqtt device.deviceId template stored), ?_, ?_,
      fun _ => ⟨stored, hstored, rfl⟩⟩
    · rw [← sent]
      exact .sent channel (port_untouched hstored accepted)
    · refine formRequest_valid apiEndpoint ?_ http brokers
      rintro _ ⟨⟩
      exact sentMqtt_accepted accepted form.actions
  · refine ⟨none, .absent channel, ?_, fun h => absurd h channel⟩
    exact formRequest_valid apiEndpoint (fun _ h => by cases h) http brokers

/-- The row after its form was sent as it is. -/
def DeviceEntity.resaved (device : DeviceEntity) (template : Option DeviceTemplateEntity)
    (mqtt : Option DeviceMqttConfig) : DeviceEntity :=
  applyConfigDto (formRequest (device.formValues template) (template.map (·.type)) mqtt) device

theorem resaved_apiEndpoint (form : FormDevice isUrl device template)
    (mqtt : Option DeviceMqttConfig) :
    (device.resaved template mqtt).config.bind (·.apiEndpoint) =
      device.config.bind (·.apiEndpoint) := by
  unfold DeviceEntity.resaved
  rw [formRequest_apiEndpoint, apiEndpoint_untouched form]
  cases device.config.bind (·.apiEndpoint) <;> rfl

theorem mqtt_untouched_iff (env : ApiConfig) (form : FormDevice isUrl device template)
    {mqtt : DeviceMqttConfig} (stored : device.config.bind (·.mqtt) = some mqtt) :
    bootMqttConfig env (device.resaved template (some (sentMqtt device.deviceId template mqtt)))
        template = bootMqttConfig env device template ↔
      ∀ mqtt ∈ device.config.bind (·.mqtt), MqttUntouched device.deviceId template mqtt := by
  have sent := formRequest_mqtt (device.formValues template) (template.map (·.type))
    (some (sentMqtt device.deviceId template mqtt)) device
  unfold DeviceEntity.resaved
  rw [bootMqttConfig_sent_iff env stored (by rfl) sent (channelActions_nodup form.keys), stored]
  simp

theorem http_untouched_iff {http : DeviceHttpPushConfig}
    (stored : device.config.bind (·.http) = some http) (channel : device.pushChannel = .http)
    (mqtt : Option DeviceMqttConfig) :
    (device.resaved template mqtt).config.bind (·.http) = device.config.bind (·.http) ↔
      ∀ http ∈ device.config.bind (·.http), http.headers = none := by
  unfold DeviceEntity.resaved
  rw [formRequest_http _ _ mqtt device channel, formHttp_untouched stored, stored]
  cases http
  simp [eq_comm]

theorem kafka_untouched_iff (env : ApiConfig) {kafka : DeviceKafkaConfig}
    (stored : device.config.bind (·.kafka) = some kafka) (accepted : kafka.Accepted)
    (channel : device.pushChannel = .kafka) (mqtt : Option DeviceMqttConfig) :
    bootKafkaConfig env template (device.resaved template mqtt) =
        bootKafkaConfig env template device ↔
      ∀ kafka ∈ device.config.bind (·.kafka), KafkaUntouched kafka := by
  have sent := formRequest_kafka (device.formValues template) (template.map (·.type)) mqtt device
    channel
  unfold DeviceEntity.resaved
  rw [bootKafkaConfig_eq, bootKafkaConfig_eq, DeviceEntity.kafkaConfig, sent,
    DeviceEntity.kafkaConfig, stored, Option.getD_some, Option.getD_some,
    formKafka_untouched stored accepted]
  simp only [Option.mem_some, forall_eq']
  obtain ⟨brokers, topics, commandTopic, clientId, username, password⟩ := kafka
  simp only [DeviceKafkaConfig.mk.injEq, true_and, map_some_join_iff, topics_join_iff]
  exact ⟨fun ⟨topics, commandTopic, clientId, username, password⟩ =>
      ⟨topics, commandTopic, clientId, username, password⟩,
    fun ⟨topics, commandTopic, clientId, username, password⟩ =>
      ⟨topics, commandTopic, clientId, username, password⟩⟩

/-- What a first boot stores for a device that is no gateway has a `null`. -/
theorem not_kafkaUntouched_default (env : ApiConfig) (device : DeviceEntity)
    (other : isGateway template = false) :
    ¬ KafkaUntouched (defaultKafkaConfig env device template) :=
  fun untouched => untouched.commandTopic (by simp [defaultKafkaConfig, other])

theorem alertRules_untouched_iff (mqtt : Option DeviceMqttConfig) :
    (device.resaved template mqtt).alertRules = device.alertRules ↔
      (isGateway template = true → RulesUntouched device.alertRules) := by
  unfold DeviceEntity.resaved
  rw [formRequest_alertRules, isGateway_iff]
  split_ifs with gateway
  · exact (orNull_rules_iff device.alertRules).trans ⟨fun h _ => h, fun h => h gateway⟩
  · exact iff_of_true rfl fun h => absurd h gateway

theorem failsafe_untouched_iff (mqtt : Option DeviceMqttConfig) :
    (device.resaved template mqtt).failsafe = device.failsafe ↔
      (isGateway template = true →
        ∃ failsafe, device.failsafe = some failsafe ∧ failsafe.rules ≠ some none ∧
          RulesUntouched failsafe.rules.join) := by
  unfold DeviceEntity.resaved
  rw [formRequest_failsafe, isGateway_iff]
  split_ifs with gateway
  · have kept := formFailsafe_iff device.failsafe (device.formValues template) rfl rfl
    exact kept.trans ⟨fun h _ => h, fun h => h gateway⟩
  · exact iff_of_true rfl fun h => absurd h gateway

end Device

/-- An untouched form leaves the boot config exactly when the form has room for what is stored:
the sections have no OTA topic of their own, no missing command or status topic, no channels
without a template that names them, no headers, no topic with commas and no `null` where the
form sends nothing, and a gateway has rules that can be written as lines. -/
theorem untouched_form_iff (env : ApiConfig) {isUrl : String → Bool} {device : DeviceEntity}
    {template : Option DeviceTemplateEntity} (form : FormDevice isUrl device template)
    (noIssues : deviceConfigFormIssues (device.formValues template) = []) :
    SameBoot env template device
        ((saveConfigForm isUrl (device.formValues template) template device).getD device) ↔
      FormUntouched device template := by
  obtain ⟨mqtt, received, valid, sections⟩ := untouched_request form noIssues
  rw [(saveConfigForm_eq_some isUrl).mpr ⟨mqtt, received, valid, rfl⟩, Option.getD_some,
    sameBoot_iff env rfl rfl (resaved_apiEndpoint form mqtt)]
  -- a boot answers the section of the push channel only, and the rules in any case
  have mqttPart (channel : device.pushChannel = .mqtt) :
      bootMqttConfig env (device.resaved template mqtt) template =
          bootMqttConfig env device template ↔
        ∀ mqtt ∈ device.config.bind (·.mqtt),
          MqttUntouched device.deviceId template mqtt := by
    obtain ⟨stored, hstored, rfl⟩ := sections channel
    exact mqtt_untouched_iff env form hstored
  have httpPart (channel : device.pushChannel = .http) :
      (device.resaved template mqtt).config.bind (·.http) = device.config.bind (·.http) ↔
        ∀ http ∈ device.config.bind (·.http), http.headers = none := by
    obtain ⟨http, stored⟩ := exists_http noIssues channel
    exact http_untouched_iff stored channel mqtt
  have kafkaPart (channel : device.pushChannel = .kafka) :
      bootKafkaConfig env template (device.resaved template mqtt) =
          bootKafkaConfig env template device ↔
        ∀ kafka ∈ device.config.bind (·.kafka), KafkaUntouched kafka := by
    obtain ⟨kafka, stored⟩ := exists_kafka noIssues channel
    exact kafka_untouched_iff env stored (form.kafka kafka stored) channel mqtt
  constructor
  · rintro ⟨mqttSame, httpSame, kafkaSame, alertRules, failsafe⟩
    exact
      { mqtt := fun channel => (mqttPart channel).mp (mqttSame channel)
        http := fun channel => (httpPart channel).mp (httpSame channel)
        kafka := fun channel => (kafkaPart channel).mp (kafkaSame channel)
        alertRules := (alertRules_untouched_iff mqtt).mp alertRules
        failsafe := (failsafe_untouched_iff mqtt).mp failsafe }
  · intro kept
    exact
      ⟨fun channel => (mqttPart channel).mpr (kept.mqtt channel),
        fun channel => (httpPart channel).mpr (kept.http channel),
        fun channel => (kafkaPart channel).mpr (kept.kafka channel),
        (alertRules_untouched_iff mqtt).mpr kept.alertRules,
        (failsafe_untouched_iff mqtt).mpr kept.failsafe⟩

/-- A pump with topics of its own, also for OTA updates. -/
def otaPump : DeviceEntity :=
  { id := "1", deviceId := "pump-1", name := "Pump", templateId := "t1", userId := "u1"
    config := some
      { apiEndpoint := none, http := none, kafka := none
        mqtt := some
          { broker := "mqtt://broker.example.com", port := 1883, username := none, password := none
            topics :=
              { telemetry := "pump/telemetry", command := some "pump/command"
                status := some "pump/status", event := some "pump/event", ota := some "pump/ota"
                channels := none } } } }

def sensorTemplate : DeviceTemplateEntity :=
  { id := "t1", name := "Sensor node", type := .sensorNode, telemetrySchema := none
    actionSchema := none, isActive := true }

theorem otaPump_form : FormDevice (fun _ => true) otaPump (some sensorTemplate) where
  deviceId := by decide
  apiEndpoint _ h := by cases h
  mqtt := by decide
  http _ h := by cases h
  kafka _ h := by cases h
  actions _ h := by cases h
  keys := by decide

/-- The OTA topic is the default one after the save. -/
theorem ota_topic_lost :
    deviceConfigFormIssues (otaPump.formValues (some sensorTemplate)) = [] ∧
      ¬ SameBoot defaultEnv (some sensorTemplate) otaPump
        ((saveConfigForm (fun _ => true) (otaPump.formValues (some sensorTemplate))
          (some sensorTemplate) otaPump).getD otaPump) := by
  unfold SameBoot
  decide +kernel

theorem untouched_form_iff_otaPump :
    SameBoot defaultEnv (some sensorTemplate) otaPump
        ((saveConfigForm (fun _ => true) (otaPump.formValues (some sensorTemplate))
          (some sensorTemplate) otaPump).getD otaPump) ↔
      FormUntouched otaPump (some sensorTemplate) :=
  untouched_form_iff defaultEnv otaPump_form (by decide +kernel)

end AiotCloud
