import AiotCloud.OptimisticState

/-!
# Downlink topics

Where a command is published against where the device was told to listen.

`downlinkAgrees_iff`: on MQTT. The trigger reads the stored channel list with the
first entry for a key, the boot config with the last; the trigger falls back to
the stored command topic, the boot config to the derived channel topic. So the
two agree only for some stored configs, and never when none is stored.
-/

namespace AiotCloud

/-! ## MQTT -/

/-- The topic a device listens on for the action: its `channels` entry on a
relay node, the `command` topic otherwise. -/
def listenTopic (boot : DeviceConfigDto) (key : String) : Option String :=
  boot.mqtt.bind fun mqtt =>
    if boot.type = .relayNode ∨ boot.type = .relayCurrentNode then
      (mqtt.topics.channelList.find? (·.key == key)).map (·.topic)
    else mqtt.topics.command

/-- The MQTT topics that something was published on. -/
def mqttTopicsOf (effects : List Effect) : List String :=
  effects.filterMap fun
    | .mqtt topic _ => some topic
    | _ => none

theorem mqttTopicsOf_announceDispatch (brokers : Brokers) (now : Date) (device : DeviceEntity)
    (dto : TriggerDeviceActionDto) :
    mqttTopicsOf (announceDispatch brokers now device dto) = [] := by
  unfold announceDispatch mqttTopicsOf
  split
  · split <;> rfl
  · rfl

/-- With the brokers up, the command is published on the stored topic, if there
is one. -/
theorem mqttTopicsOf_dispatchAction {env : ApiConfig} {brokers : Brokers}
    (sent : kafkaSend brokers.producer brokers.command = true)
    (published : mqttPublish env brokers.mqtt = true) (now : Date) {device : DeviceEntity}
    (push : device.pushChannel = .mqtt) (dto : TriggerDeviceActionDto) :
    mqttTopicsOf (dispatchAction env brokers now device dto).2 =
      ((deviceMqttTopic device dto.key).filter (· ≠ "")).toList := by
  have effects : mqttTopicsOf (dispatchAction env brokers now device dto).2 =
      mqttTopicsOf (triggerDeviceActionViaMqtt env brokers now device dto
        (deviceMqttTopic device dto.key)).2 ++
      mqttTopicsOf (announceDispatch brokers now device dto) := by
    simp [dispatchAction, sent, push, mqttTopicsOf]
  have enabled : env.mqttEnabled = true := by
    simp only [mqttPublish, Bool.and_eq_true] at published
    exact published.1
  rw [effects, mqttTopicsOf_announceDispatch, List.append_nil]
  cases deviceMqttTopic device dto.key with
  | none => rfl
  | some topic =>
    rcases eq_or_ne topic "" with hempty | hempty
    · simp [triggerDeviceActionViaMqtt, hempty, mqttTopicsOf]
    · simp [triggerDeviceActionViaMqtt, hempty, enabled, published, mqttTopicsOf, Option.filter]

/-- No stored topic is empty in an accepted row. -/
theorem deviceMqttTopic_ne_empty {device : DeviceEntity} (h : device.Accepted) (key : String) :
    deviceMqttTopic device key ≠ some "" := by
  unfold deviceMqttTopic channelTopic DeviceEntity.mqttTopics
  cases hm : device.mqttConfig with
  | none => simp
  | some mqtt =>
    have htopics := (h.mqtt mqtt hm).topics
    simp only [Option.map_some, Option.bind_some, Option.getD_some]
    cases hfind : mqtt.topics.channelList.find? (·.key == key) with
    | none =>
      intro hcommand
      exact htopics.command "" (by simpa using hcommand) rfl
    | some c =>
      have hmem := List.mem_of_find?_eq_some hfind
      intro htopic
      have hempty : c.topic = "" := by simpa using htopic
      exact (htopics.channels c hmem).topic hempty

/-- With distinct keys, the entry for an action is the one at its position. -/
theorem find_channelEntry (deviceId : String) (channels : List DeviceMqttChannelTopic)
    {schema : List ActionFieldDefinition} (distinct : (schema.map (·.key)).Nodup)
    {i : Nat} {action : ActionFieldDefinition} (hi : schema[i]? = some action) :
    (schema.mapIdx fun i action => channelEntry deviceId channels action i).find?
        (·.key == action.key) = some (channelEntry deviceId channels action i) := by
  obtain ⟨hlt, rfl⟩ := List.getElem?_eq_some_iff.mp hi
  rw [List.find?_eq_some_iff_getElem]
  refine ⟨by simp [channelEntry], i, by simpa using hlt, by simp, fun j hj => ?_⟩
  have hjlt : j < schema.length := Nat.lt_trans hj hlt
  have hne : schema[j].key ≠ schema[i].key := by
    have hpair := List.pairwise_iff_getElem.mp distinct j i (by simpa using hjlt)
      (by simpa using hlt) hj
    simpa using hpair
  simpa [channelEntry] using hne

theorem listenTopic_of_channelBased (env : ApiConfig) {template : DeviceTemplateEntity}
    (relay : isChannelBasedTemplate (some template) = true)
    (distinct : ((actionSchema (some template)).map (·.key)).Nodup)
    {i : Nat} {action : ActionFieldDefinition}
    (hi : (actionSchema (some template))[i]? = some action)
    {device : DeviceEntity} (push : device.pushChannel = .mqtt) :
    listenTopic (bootConfig env device (some template) none) action.key =
      some (channelEntry device.deviceId (mqttBase env device).topics.channelList
        action i).topic := by
  have hne : actionSchema (some template) ≠ [] := by
    intro hnil
    rw [hnil] at hi
    exact absurd hi (by simp)
  have htype : template.type = .relayNode ∨ template.type = .relayCurrentNode := by
    simpa [isChannelBasedTemplate] using relay
  have hentry := find_channelEntry device.deviceId
    (mqttBase env device).topics.channelList distinct hi
  simp only [listenTopic, bootConfig, push, if_true, Option.bind_some, Option.map_some,
    Option.getD_some, htype, bootMqttConfig, buildMqttTopics, relay, hne, ne_eq, not_false_eq_true,
    and_self, DeviceMqttTopics.channelList, Option.join_some] at hentry ⊢
  rw [hentry]
  rfl

theorem listenTopic_of_not_channelBased (env : ApiConfig) {template : DeviceTemplateEntity}
    (plain : isChannelBasedTemplate (some template) = false) (key : String)
    {device : DeviceEntity} (push : device.pushChannel = .mqtt) :
    listenTopic (bootConfig env device (some template) none) key =
      (mqttBase env device).topics.command := by
  have htype : ¬ (template.type = .relayNode ∨ template.type = .relayCurrentNode) := by
    simpa [isChannelBasedTemplate] using plain
  simp [listenTopic, bootConfig, push, htype, bootMqttConfig, buildMqttTopics, plain]

/-- The stored MQTT config makes the trigger and the boot config agree on the
action at position `i`. On a relay node: the first and the last channel entry for
the key have one topic, or there is none and the command topic is the derived
channel topic. Otherwise: there is no channel entry for the key, or the first one
has the command topic. -/
def DownlinkConfigured (template : DeviceTemplateEntity) (device : DeviceEntity) (key : String)
    (i : Nat) : Prop :=
  ∃ mqtt, device.mqttConfig = some mqtt ∧
    let channels := mqtt.topics.channelList
    let first := (channels.find? (·.key == key)).map (·.topic)
    if isChannelBasedTemplate (some template) then
      (first ≠ none ∧ first = channelOverride channels key) ∨
        (first = none ∧
          mqtt.topics.command = some (defaultChannelCommandTopic device.deviceId (i + 1)))
    else first = none ∨ first = mqtt.topics.command

/-- The command is published on just the topic the boot response gives. -/
def DownlinkAgrees (env : ApiConfig) (brokers : Brokers) (now : Date)
    (template : DeviceTemplateEntity) (device : DeviceEntity) (dto : TriggerDeviceActionDto) :
    Prop :=
  ∀ boot, (getBootConfig env (some template) (some device)).1.data = some boot →
    mqttTopicsOf (triggerDeviceAction env brokers now (some template) dto (some device)).2 =
      (listenTopic boot dto.key).toList

theorem downlinkAgrees_iff_topic {env : ApiConfig} {brokers : Brokers}
    (sent : kafkaSend brokers.producer brokers.command = true)
    (published : mqttPublish env brokers.mqtt = true) (now : Date)
    {template : DeviceTemplateEntity} {dto : TriggerDeviceActionDto}
    (takes : ActionAccepted (some template) dto)
    {device : DeviceEntity} (row : device.Accepted) (push : device.pushChannel = .mqtt) :
    DownlinkAgrees env brokers now template device dto ↔
      deviceMqttTopic device dto.key =
        listenTopic (bootConfig env device (some template) none) dto.key := by
  have boot : (getBootConfig env (some template) (some device)).1.data =
      some (bootConfig env device (some template) none) := by
    simp [getBootConfig, push, ResponseCore.ok]
  have stored : (deviceMqttTopic device dto.key).filter (· ≠ "") =
      deviceMqttTopic device dto.key := by
    have hne := deviceMqttTopic_ne_empty row dto.key
    cases htopic : deviceMqttTopic device dto.key with
    | none => rfl
    | some topic =>
      have : topic ≠ "" := fun h => hne (htopic.trans (congrArg some h))
      simp [Option.filter, this]
  unfold DownlinkAgrees
  rw [boot, triggerDeviceAction_of_accepted takes (Or.inl push),
    mqttTopicsOf_dispatchAction sent published now push, stored]
  constructor
  · intro h
    simpa using congrArg List.head? (h _ rfl)
  · intro h _ hboot
    rw [← Option.some_inj.mp hboot, h]

theorem find_none_iff_channelOverride {channels : List DeviceMqttChannelTopic} {key : String} :
    channels.find? (·.key == key) = none ↔ channelOverride channels key = none := by
  unfold channelOverride
  rw [Option.map_eq_none_iff, List.find?_eq_none, List.find?_eq_none]
  simp

/-- The last entry for a key has a topic of an entry. -/
theorem channelOverride_ne_empty {device : DeviceEntity} (row : device.Accepted)
    {mqtt : DeviceMqttConfig} (hm : device.mqttConfig = some mqtt) (key : String) :
    channelOverride mqtt.topics.channelList key ≠ some "" := by
  intro h
  unfold channelOverride at h
  obtain ⟨c, hfind, htopic⟩ := Option.map_eq_some_iff.mp h
  have hmem : c ∈ mqtt.topics.channelList :=
    List.mem_reverse.mp (List.mem_of_find?_eq_some hfind)
  exact ((row.mqtt mqtt hm).topics.channels c hmem).topic htopic

/-- For an MQTT-push device and an action of its template, the command is
published where the boot config says exactly when the stored config is
`DownlinkConfigured`. -/
theorem downlinkAgrees_iff {env : ApiConfig} {brokers : Brokers}
    (sent : kafkaSend brokers.producer brokers.command = true)
    (published : mqttPublish env brokers.mqtt = true) (now : Date)
    {template : DeviceTemplateEntity} {dto : TriggerDeviceActionDto}
    (distinct : ((actionSchema (some template)).map (·.key)).Nodup)
    {i : Nat} {action : ActionFieldDefinition}
    (hi : (actionSchema (some template))[i]? = some action) (hkey : action.key = dto.key)
    (takes : ActionAccepted (some template) dto)
    {device : DeviceEntity} (row : device.Accepted) (push : device.pushChannel = .mqtt) :
    DownlinkAgrees env brokers now template device dto ↔
      DownlinkConfigured template device dto.key i := by
  rw [downlinkAgrees_iff_topic sent published now takes row push]
  unfold DownlinkConfigured
  cases hm : device.mqttConfig with
  | none =>
    -- nothing is stored to publish on, while a boot derives a topic
    have stored : deviceMqttTopic device dto.key = none := by
      simp [deviceMqttTopic, channelTopic, DeviceEntity.mqttTopics, hm]
    have derived : listenTopic (bootConfig env device (some template) none) dto.key ≠ none := by
      cases hrelay : isChannelBasedTemplate (some template) with
      | true =>
        rw [← hkey, listenTopic_of_channelBased env hrelay distinct hi push]
        simp
      | false =>
        rw [listenTopic_of_not_channelBased env hrelay dto.key push]
        simp [mqttBase, hm]
    rw [stored]
    refine ⟨fun h => absurd h.symm derived, ?_⟩
    rintro ⟨_, h, _⟩
    exact absurd h (by simp)
  | some mqtt =>
    have hbase : mqttBase env device = mqtt := by simp [mqttBase, hm]
    have stored : deviceMqttTopic device dto.key =
        ((mqtt.topics.channelList.find? (·.key == dto.key)).map (·.topic)).or
          mqtt.topics.command := by
      simp [deviceMqttTopic, channelTopic, DeviceEntity.mqttTopics, hm]
    simp only [Option.some_inj, exists_eq_left', stored]
    cases hrelay : isChannelBasedTemplate (some template) with
    | true =>
      rw [← hkey, listenTopic_of_channelBased env hrelay distinct hi push, hbase, hkey]
      simp only [channelEntry, hkey, if_true]
      -- the server publishes on the first entry of a key, the boot config names the last one
      have hlast := channelOverride_ne_empty row hm dto.key
      cases hfind : mqtt.topics.channelList.find? (·.key == dto.key) with
      | none =>
        rw [find_none_iff_channelOverride.mp hfind]
        simp
      | some c =>
        cases hover : channelOverride mqtt.topics.channelList dto.key with
        | none =>
          rw [find_none_iff_channelOverride.mpr hover] at hfind
          exact absurd hfind (by simp)
        | some topic =>
          have hne : topic ≠ "" := fun h => hlast (hover.trans (congrArg some h))
          simp [Option.filter, hne]
    | false =>
      rw [listenTopic_of_not_channelBased env hrelay dto.key push, hbase]
      cases mqtt.topics.channelList.find? (·.key == dto.key) with
      | none => simp
      | some c => simp

/-! ### The relay with no stored MQTT config -/

theorem plainRelay_accepted : plainRelay.Accepted :=
  ⟨(by decide : plainRelay.deviceId ≠ ""),
    fun m hm => by simp [plainRelay, DeviceEntity.mqttConfig] at hm⟩

/-- The plain relay is told to listen on its derived channel topic, and nothing
is published there. -/
theorem plainRelay_not_downlinkAgrees :
    ¬ DownlinkAgrees defaultEnv healthyBrokers 0 relayTemplate plainRelay relayOn := by
  intro agrees
  have published := agrees _ rfl
  exact absurd published (by decide)

theorem downlinkAgrees_iff_plainRelay :
    DownlinkAgrees defaultEnv healthyBrokers 0 relayTemplate plainRelay relayOn ↔
      DownlinkConfigured relayTemplate plainRelay "relay1" 0 := by
  have hi : (actionSchema (some relayTemplate))[0]? =
      some ⟨"relay1", "Relay 1", .toggle, some "ON", some "OFF"⟩ := rfl
  exact downlinkAgrees_iff rfl rfl 0 (by decide) hi rfl relayOn_accepted plainRelay_accepted rfl

end AiotCloud
