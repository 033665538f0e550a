import AiotCloud.ConfigForm

/-!
# The form after a save

The form is saved, and opened again for the stored device.

`saved_form_shown_iff`: when every field that is shown has the value that was saved.
-/

namespace AiotCloud

/-! ## What is shown again -/

/-- The text of an input. -/
def shownText (value : Option String) : String := value.getD ""

structure MqttShown (saved shown : DeviceConfigFormValues) : Prop where
  broker : shownText shown.mqttBroker = shownText saved.mqttBroker
  port : shownText shown.mqttPort = shownText saved.mqttPort
  username : shownText shown.mqttUsername = shownText saved.mqttUsername
  password : shownText shown.mqttPassword = shownText saved.mqttPassword
  telemetryTopic : shownText shown.mqttTelemetryTopic = shownText saved.mqttTelemetryTopic
  commandTopic : shownText shown.mqttCommandTopic = shownText saved.mqttCommandTopic
  statusTopic : shownText shown.mqttStatusTopic = shownText saved.mqttStatusTopic
  eventTopic : shownText shown.mqttEventTopic = shownText saved.mqttEventTopic
  channelTopics : shown.channelTopics.getD [] = saved.channelTopics.getD []

/-- The topics are compared after trimming. -/
structure KafkaShown (saved shown : DeviceConfigFormValues) : Prop where
  brokers : shownText shown.kafkaBrokers = shownText saved.kafkaBrokers
  topics : textFields ',' (shownText shown.kafkaTopics) =
    textFields ',' (shownText saved.kafkaTopics)
  commandTopic : shownText shown.kafkaCommandTopic = shownText saved.kafkaCommandTopic
  clientId : shownText shown.kafkaClientId = shownText saved.kafkaClientId
  username : shownText shown.kafkaUsername = shownText saved.kafkaUsername
  password : shownText shown.kafkaPassword = shownText saved.kafkaPassword

/-- The rules are compared after trimming, without the empty lines. -/
structure GatewayShown (saved shown : DeviceConfigFormValues) : Prop where
  alertRules : parseRuleLines shown.alertRules = parseRuleLines saved.alertRules
  failsafeEnabled : shown.failsafeEnabled.getD false = saved.failsafeEnabled.getD false
  failsafeRules : parseRuleLines shown.failsafeRules = parseRuleLines saved.failsafeRules

/-- The fields that are shown for the push channel and the template have the values saved. -/
structure FormShown (template : Option DeviceTemplateEntity)
    (saved shown : DeviceConfigFormValues) : Prop where
  isActive : shown.isActive = saved.isActive
  apiEndpoint : shownText shown.apiEndpoint = shownText saved.apiEndpoint
  pushChannel : shown.pushChannel = saved.pushChannel
  mqtt : saved.pushChannel = .mqtt → MqttShown saved shown
  http : saved.pushChannel = .http → shownText shown.httpUrl = shownText saved.httpUrl
  kafka : saved.pushChannel = .kafka → KafkaShown saved shown
  gateway : isGateway template = true → GatewayShown saved shown

/-! ## When -/

/-- The actions that have a channel topic in the form. -/
def formActions (template : Option DeviceTemplateEntity) : List ActionFieldDefinition :=
  if template.any (channelBasedTemplateTypes.contains ·.type) then actionSchema template else []

/-- The channel topics are those of the actions, with one topic for a key. -/
structure ChannelTopicsKept (template : Option DeviceTemplateEntity)
    (channelTopics : List ChannelTopicFormValue) : Prop where
  actions : channelTopics.map (fun channel => (channel.key, channel.label)) =
    (formActions template).map fun action => (action.key, action.label)
  topics : ∀ c ∈ channelTopics, ∀ c' ∈ channelTopics, c.key = c'.key → c.topic = c'.topic

/-- The port is written as a number is, and no topic is cleared that has a default. -/
structure MqttKept (deviceId : String) (template : Option DeviceTemplateEntity)
    (values : DeviceConfigFormValues) : Prop where
  port : ∃ port : Nat, 1 ≤ port ∧ port ≤ 65535 ∧ shownText values.mqttPort = toString port
  commandTopic : shownText values.mqttCommandTopic = "" → deviceId = ""
  statusTopic : shownText values.mqttStatusTopic = "" → deviceId = ""
  eventTopic : shownText values.mqttEventTopic = "" → deviceId = ""
  channelTopics : ChannelTopicsKept template (values.channelTopics.getD [])

/-- An API endpoint is not cleared, and a list of topics has no empty one. -/
structure FormKept (device : DeviceEntity) (template : Option DeviceTemplateEntity)
    (values : DeviceConfigFormValues) : Prop where
  apiEndpoint : shownText values.apiEndpoint = "" →
    shownText (device.config.bind (·.apiEndpoint)) = ""
  mqtt : values.pushChannel = .mqtt → MqttKept device.deviceId template values
  kafka : values.pushChannel = .kafka → "" ∉ textFields ',' (shownText values.kafkaTopics)

/-! ## Single fields -/

/-- A text that is left out of the request stays as it is stored. -/
theorem apiEndpoint_shown_iff (value stored : Option String) :
    shownText (((orUndefined value).map some).getD stored) = shownText value ↔
      (shownText value = "" → shownText stored = "") := by
  unfold shownText orUndefined
  cases value with
  | none => simp
  | some text => by_cases h : text = "" <;> simp [Option.filter_some, h]

theorem orUndefined_shown (value : Option String) :
    shownText (some ((orUndefined value).getD "")) = shownText value := by
  unfold shownText
  rw [Option.getD_some, getD_orUndefined]
  split_ifs with h
  · exact h.symm
  · rfl

/-- A cleared topic is shown with its default again. -/
theorem topic_shown_iff (value : Option String) (deviceId : String) {defaultTopic : String → String}
    (hdefault : ∀ id, defaultTopic id ≠ "") :
    shownText (some ((orUndefined value).getD (topicDefault (some deviceId) defaultTopic))) =
        shownText value ↔ (shownText value = "" → deviceId = "") := by
  unfold shownText topicDefault
  rw [Option.getD_some, getD_orUndefined, Option.filter_some]
  by_cases cleared : value.getD "" = ""
  · by_cases hid : deviceId = "" <;> simp [cleared, hid, hdefault]
  · simp [cleared]

theorem port_shown_iff {value : Option String} {port : Nat}
    (hport : natField (portNumber value) = some port) (range : 1 ≤ port ∧ port ≤ 65535) :
    toString port = shownText value ↔
      ∃ port : Nat, 1 ≤ port ∧ port ≤ 65535 ∧ shownText value = toString port := by
  constructor
  · exact fun h => ⟨port, range.1, range.2, h.symm⟩
  · rintro ⟨written, positive, small, h⟩
    cases value with
    | none => exact absurd h.symm (Nat.repr_ne_empty)
    | some text =>
      obtain rfl : text = toString written := h
      rw [portNumber_toString positive small, natField_natCast] at hport
      rw [Option.some.inj hport]
      rfl

theorem topics_shown_iff {value : Option String} (present : jsTrim (shownText value) ≠ "") :
    textFields ',' (", ".intercalate (textItems ',' (shownText value))) =
        textFields ',' (shownText value) ↔ "" ∉ textFields ',' (shownText value) := by
  -- the schema asks for some text, so the items are those of a text that is not blank
  have nonblank : TextItems.trim isJsSpace (shownText value).toList ≠ [] := by
    intro h
    exact present (congrArg String.ofList h)
  have empty (fields : List (List Char)) : "" ∈ fields.map String.ofList ↔ [] ∈ fields := by
    rw [List.mem_map]
    constructor
    · rintro ⟨chars, hchars, h⟩
      obtain rfl : chars = [] := by simpa using h
      exact hchars
    · exact fun h => ⟨[], h, rfl⟩
  unfold textFields
  rw [empty, ← TextItems.fields_join_items_iff [' '] blank_space (by simp) nonblank]
  have written : (", ".intercalate (textItems ',' (shownText value))).toList =
      TextItems.join ',' [' '] (TextItems.items isJsSpace ',' (shownText value).toList) := by
    refine (toList_intercalate ',' [' '] _).trans ?_
    rw [textItems, List.map_map]
    simp [Function.comp_def]
  rw [written]
  exact (List.map_injective_iff.mpr fun _ _ h => String.ofList_injective h).eq_iff

/-! ## Channel topics -/

theorem buildChannelTopicDefaults_eq (deviceId : Option String)
    (template : Option DeviceTemplateEntity) (channels : List DeviceMqttChannelTopic) :
    buildChannelTopicDefaults deviceId template channels =
      (formActions template).mapIdx fun index action =>
        { key := action.key
          label := action.label
          topic := ((channelOverride channels action.key).filter (· ≠ "")).getD
            (topicDefault deviceId (defaultChannelCommandTopic · (index + 1))) } := by
  unfold buildChannelTopicDefaults formActions
  by_cases based : template.any (channelBasedTemplateTypes.contains ·.type) = true
  · by_cases none : actionSchema template = []
    · simp [none]
    · rw [if_pos ⟨based, none⟩, if_pos based]
  · rw [if_neg fun h => based h.1, if_neg based]
    rfl

/-- What does not depend on the index is mapped as by `map`. -/
theorem map_mapIdx_eq {α β γ : Type} {f : Nat → α → β} {g : β → γ} {h : α → γ}
    (hf : ∀ i a, g (f i a) = h a) (l : List α) : (l.mapIdx f).map g = l.map h :=
  List.ext_getElem (by simp) fun i _ _ => by simp [hf]

/-- A stored override is the topic of the last entry with the key. -/
theorem channelOverride_eq (channels : List DeviceMqttChannelTopic) (key : String) :
    channelOverride channels key =
      ((channels.map fun c => (c.key, c.topic)).reverse.find? (·.1 == key)).map (·.2) := by
  unfold channelOverride
  rw [← List.map_reverse, List.find?_map, Option.map_map]
  rfl

theorem channelPayload_pairs (channelTopics : List ChannelTopicFormValue) :
    ((channelPayload channelTopics).join.getD []).map (fun c => (c.key, c.topic)) =
      channelTopics.map fun c => (c.key, c.topic) := by
  unfold channelPayload
  split_ifs with h
  · rw [h]
    rfl
  · exact map_mapIdx_eq (by intro _ _; rfl) channelTopics

/-- For a key that some item has, the last item with it is found. -/
theorem exists_find_reverse {α : Type} (key : α → String) {items : List α} {item : α}
    (h : item ∈ items) :
    ∃ last ∈ items, key last = key item ∧
      items.reverse.find? (key · == key item) = some last := by
  have found : (items.reverse.find? (key · == key item)).isSome := by
    rw [List.find?_isSome]
    exact ⟨item, List.mem_reverse.mpr h, by simp⟩
  obtain ⟨last, hlast⟩ := Option.isSome_iff_exists.mp found
  have same : key last = key item := by simpa using List.find?_some hlast
  exact ⟨last, List.mem_reverse.mp (List.mem_of_find?_eq_some hlast), same, hlast⟩

/-- The override of a key in the form is one of its topics there. -/
theorem exists_override {channelTopics : List ChannelTopicFormValue} {c : ChannelTopicFormValue}
    (hc : c ∈ channelTopics) :
    ∃ c' ∈ channelTopics, c'.key = c.key ∧
      channelOverride ((channelPayload channelTopics).join.getD []) c.key = some c'.topic := by
  rw [channelOverride_eq, channelPayload_pairs]
  have hpair : (c.key, c.topic) ∈ channelTopics.map fun c => (c.key, c.topic) :=
    List.mem_map_of_mem hc
  obtain ⟨last, hlast, key, found⟩ := exists_find_reverse Prod.fst hpair
  obtain ⟨c', hc', rfl⟩ := List.mem_map.mp hlast
  exact ⟨c', hc', key, congrArg (Option.map (·.2)) found⟩

theorem channelTopics_shown_iff (deviceId : Option String) (template : Option DeviceTemplateEntity)
    {channelTopics : List ChannelTopicFormValue} (present : ∀ c ∈ channelTopics, c.topic ≠ "") :
    buildChannelTopicDefaults deviceId template ((channelPayload channelTopics).join.getD []) =
        channelTopics ↔ ChannelTopicsKept template channelTopics := by
  rw [buildChannelTopicDefaults_eq]
  constructor
  · intro shown
    have actions : (formActions template).map (fun action => (action.key, action.label)) =
        channelTopics.map fun c => (c.key, c.label) := by
      rw [← shown]
      exact (map_mapIdx_eq (by intro _ _; rfl) _).symm
    -- an entry shows the override of its key, whatever its place
    have entry : ∀ c ∈ channelTopics,
        channelOverride ((channelPayload channelTopics).join.getD []) c.key = some c.topic := by
      intro c hc
      obtain ⟨c', hc', -, override⟩ := exists_override hc
      rw [← shown, List.mem_mapIdx] at hc
      obtain ⟨i, hi, rfl⟩ := hc
      dsimp only at override ⊢
      rw [override, Option.filter_some]
      simp [present c' hc']
    refine ⟨actions.symm, fun c hc c' hc' same => ?_⟩
    exact Option.some.inj ((entry c hc).symm.trans (same ▸ entry c' hc'))
  · rintro ⟨actions, topics⟩
    have length : (formActions template).length = channelTopics.length := by
      simpa using (congrArg List.length actions).symm
    refine List.ext_getElem (by simpa using length) fun i hi hi' => ?_
    have names := List.getElem_of_eq actions (by simpa using hi')
    obtain ⟨c', hc', key, override⟩ := exists_override (List.getElem_mem hi')
    simp only [List.getElem_map, Prod.mk.injEq] at names
    rw [List.getElem_mapIdx, ← names.1, override, Option.filter_some,
      if_pos (by simpa using present c' hc'), Option.getD_some,
      topics c' hc' _ (List.getElem_mem hi') key, ← names.2]

/-! ## Sections -/

theorem requireField_eq_nil {value : Option String} {path : String} :
    requireField value path = [] ↔ jsTrim (shownText value) ≠ "" := by
  unfold requireField shownText
  split_ifs with h <;> simp [h]

theorem topics_present {channelTopics : List ChannelTopicFormValue}
    (h : channelTopicIssues channelTopics = []) : ∀ c ∈ channelTopics, c.topic ≠ "" := by
  intro c hc empty
  obtain ⟨i, hi, rfl⟩ := List.getElem_of_mem hc
  have issue := List.flatten_eq_nil_iff.mp h _ (List.mem_mapIdx.mpr ⟨i, hi, rfl⟩)
  simp [empty] at issue

/-- A default topic has text around the device id. -/
theorem defaultTopic_ne_empty (suffix : String) (id : String) :
    "devices/" ++ id ++ suffix ≠ "" := by
  simp

theorem mqttShown_iff {values : DeviceConfigFormValues} {template : Option DeviceTemplateEntity}
    {saved : DeviceEntity} {port : Nat} (hport : natField (portNumber values.mqttPort) = some port)
    (range : 1 ≤ port ∧ port ≤ 65535)
    (present : ∀ c ∈ values.channelTopics.getD [], c.topic ≠ "")
    (stored : saved.config.bind (·.mqtt) = some (formMqtt values port)) :
    MqttShown values (saved.formValues template) ↔ MqttKept saved.deviceId template values := by
  have nonzero : port ≠ 0 := by omega
  have shown : saved.formValues template =
      { saved.formValues template with
        mqttBroker := some (values.mqttBroker.getD "")
        mqttPort := some (toString port)
        mqttUsername := some ((orUndefined values.mqttUsername).getD "")
        mqttPassword := some ((orUndefined values.mqttPassword).getD "")
        mqttTelemetryTopic := some (values.mqttTelemetryTopic.getD "")
        mqttCommandTopic := some ((orUndefined values.mqttCommandTopic).getD
          (topicDefault (some saved.deviceId) defaultCommandTopic))
        mqttStatusTopic := some ((orUndefined values.mqttStatusTopic).getD
          (topicDefault (some saved.deviceId) defaultStatusTopic))
        mqttEventTopic := some ((orUndefined values.mqttEventTopic).getD
          (topicDefault (some saved.deviceId) defaultEventTopic))
        channelTopics := some (buildChannelTopicDefaults (some saved.deviceId) template
          ((channelPayload (values.channelTopics.getD [])).join.getD [])) } := by
    simp [DeviceEntity.formValues, deviceConfigFormDefaults, stored, formMqtt, Option.filter_some,
      join_map_some, nonzero, DeviceMqttTopics.channelList]
  have hcommand := topic_shown_iff values.mqttCommandTopic saved.deviceId
    (defaultTopic_ne_empty "/command")
  have hstatus := topic_shown_iff values.mqttStatusTopic saved.deviceId
    (defaultTopic_ne_empty "/status")
  have hevent := topic_shown_iff values.mqttEventTopic saved.deviceId
    (defaultTopic_ne_empty "/event")
  have hchannels := channelTopics_shown_iff (some saved.deviceId) template present
  rw [shown]
  constructor
  · intro shown
    exact
      { port := (port_shown_iff hport range).mp shown.port
        commandTopic := hcommand.mp shown.commandTopic
        statusTopic := hstatus.mp shown.statusTopic
        eventTopic := hevent.mp shown.eventTopic
        channelTopics := hchannels.mp shown.channelTopics }
  · intro kept
    exact
      { broker := rfl
        port := (port_shown_iff hport range).mpr kept.port
        username := orUndefined_shown values.mqttUsername
        password := orUndefined_shown values.mqttPassword
        telemetryTopic := rfl
        commandTopic := hcommand.mpr kept.commandTopic
        statusTopic := hstatus.mpr kept.statusTopic
        eventTopic := hevent.mpr kept.eventTopic
        channelTopics := hchannels.mpr kept.channelTopics }

theorem kafkaShown_iff {values : DeviceConfigFormValues} {template : Option DeviceTemplateEntity}
    {saved : DeviceEntity} (present : jsTrim (shownText values.kafkaTopics) ≠ "")
    (stored : saved.config.bind (·.kafka) = some (formKafka values)) :
    KafkaShown values (saved.formValues template) ↔
      "" ∉ textFields ',' (shownText values.kafkaTopics) := by
  have shown : saved.formValues template =
      { saved.formValues template with
        kafkaBrokers := some (values.kafkaBrokers.getD "")
        kafkaTopics := some (", ".intercalate (textItems ',' (shownText values.kafkaTopics)))
        kafkaCommandTopic := some ((orUndefined values.kafkaCommandTopic).getD "")
        kafkaClientId := some ((orUndefined values.kafkaClientId).getD "")
        kafkaUsername := some ((orUndefined values.kafkaUsername).getD "")
        kafkaPassword := some ((orUndefined values.kafkaPassword).getD "") } := by
    simp [DeviceEntity.formValues, deviceConfigFormDefaults, stored, formKafka, shownText,
      join_map_some]
  rw [shown, ← topics_shown_iff present]
  constructor
  · exact fun shown => shown.topics
  · intro topics
    exact
      { brokers := rfl
        topics
        commandTopic := orUndefined_shown values.kafkaCommandTopic
        clientId := orUndefined_shown values.kafkaClientId
        username := orUndefined_shown values.kafkaUsername
        password := orUndefined_shown values.kafkaPassword }

/-- The rules of a list read from text are shown again. -/
theorem ruleLines_shown (rules : Option String) :
    parseRuleLines (some ("\n".intercalate ((orNull (parseRuleLines rules)).getD []))) =
      parseRuleLines rules := by
  rw [getD_orNull, ruleLines_join_iff]
  exact fun rule hrule => cleanText_of_mem_textItems hrule

theorem gatewayShown {values : DeviceConfigFormValues} {template : Option DeviceTemplateEntity}
    {saved : DeviceEntity}
    (alertRules : saved.alertRules = orNull (parseRuleLines values.alertRules))
    (failsafe : saved.failsafe = some (formFailsafe values)) :
    GatewayShown values (saved.formValues template) := by
  have shown : saved.formValues template =
      { saved.formValues template with
        alertRules := some ("\n".intercalate
          ((orNull (parseRuleLines values.alertRules)).getD []))
        failsafeEnabled := some (values.failsafeEnabled.getD false)
        failsafeRules := some ("\n".intercalate
          ((orNull (parseRuleLines values.failsafeRules)).getD [])) } := by
    simp [DeviceEntity.formValues, deviceConfigFormDefaults, alertRules, failsafe, formFailsafe,
      join_map_some]
  rw [shown]
  exact ⟨ruleLines_shown values.alertRules, rfl, ruleLines_shown values.failsafeRules⟩

/-! ## The save -/

/-- A form that was saved shows the same values again exactly when no API endpoint and no topic
with a default was cleared, the port is written as a number is, the channel topics are those of
the template, and no topic of a list is empty. -/
theorem saved_form_shown_iff (isUrl : String → Bool) {values : DeviceConfigFormValues}
    {template : Option DeviceTemplateEntity} {device saved : DeviceEntity}
    (noIssues : deviceConfigFormIssues values = [])
    (h : saveConfigForm isUrl values template device = some saved) :
    FormShown template values (saved.formValues template) ↔ FormKept device template values := by
  obtain ⟨mqtt, received, valid, rfl⟩ := (saveConfigForm_eq_some isUrl).mp h
  obtain ⟨topicIssues, sectionIssues⟩ := List.append_eq_nil_iff.mp noIssues
  -- the API endpoint is the only text that a save leaves as it is
  have apiEndpoint := apiEndpoint_shown_iff values.apiEndpoint (device.config.bind (·.apiEndpoint))
  rw [← formRequest_apiEndpoint values (template.map (·.type)) mqtt device] at apiEndpoint
  have mqttKept (channel : values.pushChannel = .mqtt) : MqttShown values
      ((applyConfigDto (formRequest values (template.map (·.type)) mqtt) device).formValues
        template) ↔ MqttKept device.deviceId template values := by
    rcases received with ⟨_, natural⟩ | ⟨other⟩
    · have range := (valid.mqtt _ rfl).port
      exact mqttShown_iff natural range (topics_present topicIssues)
        (formRequest_mqtt values _ (some (formMqtt values _)) device)
    · exact absurd channel other
  have http (channel : values.pushChannel = .http) : shownText
      ((applyConfigDto (formRequest values (template.map (·.type)) mqtt) device).formValues
        template).httpUrl = shownText values.httpUrl := by
    have stored := formRequest_http values (template.map (·.type)) mqtt device channel
    simp only [DeviceEntity.formValues, deviceConfigFormDefaults]
    rw [stored]
    rfl
  have kafka (channel : values.pushChannel = .kafka) : KafkaShown values
      ((applyConfigDto (formRequest values (template.map (·.type)) mqtt) device).formValues
        template) ↔ "" ∉ textFields ',' (shownText values.kafkaTopics) := by
    rw [channel] at sectionIssues
    have present := requireField_eq_nil.mp (List.append_eq_nil_iff.mp sectionIssues).2
    exact kafkaShown_iff present (formRequest_kafka values _ mqtt device channel)
  have gateway (h : isGateway template = true) : GatewayShown values
      ((applyConfigDto (formRequest values (template.map (·.type)) mqtt) device).formValues
        template) :=
    gatewayShown ((formRequest_alertRules values _ mqtt device).trans (if_pos (isGateway_iff.mp h)))
      ((formRequest_failsafe values _ mqtt device).trans (if_pos (isGateway_iff.mp h)))
  constructor
  · intro shown
    exact
      { apiEndpoint := apiEndpoint.mp shown.apiEndpoint
        mqtt := fun channel => (mqttKept channel).mp (shown.mqtt channel)
        kafka := fun channel => (kafka channel).mp (shown.kafka channel) }
  · intro kept
    exact
      { isActive := rfl
        apiEndpoint := apiEndpoint.mpr kept.apiEndpoint
        pushChannel := rfl
        mqtt := fun channel => (mqttKept channel).mpr (kept.mqtt channel)
        http
        kafka := fun channel => (kafka channel).mpr (kept.kafka channel)
        gateway }

/-- A pump that pushes over HTTP, with an API endpoint of its own. -/
def httpPump : DeviceEntity :=
  { id := "1", deviceId := "pump-1", name := "Pump", templateId := "t1", userId := "u1"
    pushChannel := .http
    config := some
      { apiEndpoint := some "https://api.example.com", mqtt := none, kafka := none
        http := some { url := "https://example.com/ingest", headers := none } } }

/-- Its form, with the API endpoint cleared. -/
def clearedEndpoint : DeviceConfigFormValues :=
  { httpPump.formValues none with apiEndpoint := some "" }

def savedPump : DeviceEntity := applyConfigDto (formRequest clearedEndpoint none none) httpPump

/-- The cleared endpoint is back. -/
theorem cleared_endpoint_returns :
    deviceConfigFormIssues clearedEndpoint = [] ∧
      saveConfigForm (fun _ => true) clearedEndpoint none httpPump = some savedPump ∧
      ¬ FormShown none clearedEndpoint (savedPump.formValues none) := by
  refine ⟨by decide +kernel, ?_, fun shown => ?_⟩
  · refine (saveConfigForm_eq_some _).mpr ⟨none, .absent (by decide), ?_, rfl⟩
    decide +kernel
  · exact absurd shown.apiEndpoint (by decide +kernel)

theorem saved_form_shown_iff_clearedEndpoint :
    FormShown none clearedEndpoint (savedPump.formValues none) ↔
      FormKept httpPump none clearedEndpoint := by
  have saved : saveConfigForm (fun _ => true) clearedEndpoint none httpPump = some savedPump := by
    refine (saveConfigForm_eq_some _).mpr ⟨none, .absent (by decide), ?_, rfl⟩
    decide +kernel
  exact saved_form_shown_iff (fun _ => true) (by decide +kernel) saved

end AiotCloud
