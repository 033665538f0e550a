import AiotCloud.UntouchedForm

/-!
# Channel topics after a template edit

`buildMqttTopics` finds a stored override by the key of the action and derives a default
from its position. A form that is saved untouched stores the defaults of the positions of
that day.

`bootChannelTopics_nodup_iff`: when no two channels of a boot response share a topic.
-/

namespace AiotCloud

/-! ## A default for each position -/

section Positions

variable {κ τ : Type} {stored : κ → Option τ} {default : Nat → τ}

/-- What each key gets: the value stored for it, or the default of its position. -/
def atPositions (stored : κ → Option τ) (default : Nat → τ) (keys : List κ) : List τ :=
  keys.mapIdx fun i key => (stored key).getD (default i)

/-- No value stored for a key of the list is the default of a position whose key has none. -/
def DefaultsFree (stored : κ → Option τ) (default : Nat → τ) (keys : List κ) : Prop :=
  ∀ (j : Nat) (bare : κ), keys[j]? = some bare → stored bare = none →
    ∀ key ∈ keys, stored key ≠ some (default j)

theorem getElem?_atPositions (keys : List κ) (i : Nat) :
    (atPositions stored default keys)[i]? =
      keys[i]?.map fun key => (stored key).getD (default i) :=
  List.getElem?_mapIdx

/-- Distinct keys get distinct values, exactly when no stored value stands where a default
does. -/
theorem atPositions_nodup_iff {keys : List κ} (distinct : keys.Nodup)
    (default_inj : Function.Injective default)
    (stored_inj : ∀ key key' value, stored key = some value → stored key' = some value →
      key = key') :
    (atPositions stored default keys).Nodup ↔ DefaultsFree stored default keys := by
  constructor
  · intro nodup j bare hbare unset key hkey taken
    obtain ⟨i, hi, rfl⟩ := List.mem_iff_getElem.mp hkey
    have same : (atPositions stored default keys)[i]? = (atPositions stored default keys)[j]? := by
      rw [getElem?_atPositions, getElem?_atPositions, List.getElem?_eq_getElem hi, hbare,
        Option.map_some, Option.map_some, taken, unset]
      rfl
    obtain rfl : i = j := (List.getElem?_inj (by simpa [atPositions]) nodup).mp same
    obtain rfl : keys[i] = bare :=
      Option.some_inj.mp ((List.getElem?_eq_getElem hi).symm.trans hbare)
    exact absurd (unset.symm.trans taken) (by simp)
  · intro free
    refine List.nodup_iff_getElem?_ne_getElem?.mpr fun i j lt hj same => ?_
    have hjlen : j < keys.length := by simpa [atPositions] using hj
    have hi : keys[i]? = some keys[i] := List.getElem?_eq_getElem (lt.trans hjlen)
    have hj : keys[j]? = some keys[j] := List.getElem?_eq_getElem hjlen
    rw [getElem?_atPositions, getElem?_atPositions, hi, hj, Option.map_some, Option.map_some,
      Option.some_inj] at same
    cases hsi : stored keys[i] with
    | none =>
      cases hsj : stored keys[j] with
      | none =>
        rw [hsi, hsj] at same
        exact lt.ne (default_inj same)
      | some value =>
        rw [hsi, hsj] at same
        exact free i _ hi hsi _ (List.mem_of_getElem? hj) (hsj.trans (congrArg some same.symm))
    | some value =>
      cases hsj : stored keys[j] with
      | none =>
        rw [hsi, hsj] at same
        exact free j _ hj hsj _ (List.mem_of_getElem? hi) (hsi.trans (congrArg some same))
      | some value' =>
        rw [hsi, hsj] at same
        obtain rfl : value = value' := same
        exact lt.ne (distinct.getElem_inj_iff.mp (stored_inj _ _ _ hsi hsj))

end Positions

/-! ## The channels of a boot response -/

/-- The topics of the channels that a boot response lists. -/
def bootChannelTopics (response : DeviceConfigDto) : List String :=
  ((response.mqtt.map (·.topics.channelList)).getD []).map (·.topic)

/-- `device.config?.mqtt?.topics.channels ?? []`. -/
def storedChannelList (device : DeviceEntity) : List DeviceMqttChannelTopic :=
  (storedChannels device).join.getD []

/-- `overridesByKey.get(key)`, where an empty topic is none. -/
def setTopic (device : DeviceEntity) (key : String) : Option String :=
  (channelOverride (storedChannelList device) key).filter (· ≠ "")

/-- The default topic of the channel at position `i` of the schema. -/
def positionTopic (device : DeviceEntity) (i : Nat) : String :=
  defaultChannelCommandTopic device.deviceId (i + 1)

theorem positionTopic_injective (device : DeviceEntity) :
    Function.Injective (positionTopic device) := by
  intro i j same
  have numbers : toString (i + 1) = toString (j + 1) := by
    simpa [positionTopic, defaultChannelCommandTopic] using same
  exact Nat.succ.inj (toString_injective numbers)

theorem setTopic_injective {device : DeviceEntity}
    (topics : ((storedChannelList device).map (·.topic)).Nodup) (key key' topic : String)
    (h : setTopic device key = some topic) (h' : setTopic device key' = some topic) :
    key = key' := by
  have owner : ∀ key, setTopic device key = some topic →
      ∃ c ∈ storedChannelList device, c.key = key ∧ c.topic = topic := by
    intro key h
    obtain ⟨c, hc, rfl⟩ := Option.map_eq_some_iff.mp (Option.filter_eq_some_iff.mp h).1
    exact ⟨c, List.mem_reverse.mp (List.mem_of_find?_eq_some hc),
      by simpa using List.find?_some hc, rfl⟩
  obtain ⟨c, hc, rfl, ht⟩ := owner key h
  obtain ⟨c', hc', rfl, ht'⟩ := owner key' h'
  rw [List.inj_on_of_nodup_map topics hc hc' (ht.trans ht'.symm)]

theorem channelList_mqttBase (env : ApiConfig) (device : DeviceEntity) :
    (mqttBase env device).topics.channelList = storedChannelList device := by
  unfold mqttBase storedChannelList storedChannels DeviceEntity.mqttTopics
  cases device.mqttConfig <;> rfl

/-- The channels of the response follow the actions of the template; without actions they are
the stored ones. -/
theorem bootChannelTopics_bootResponse (env : ApiConfig) (template : Option DeviceTemplateEntity)
    {device : DeviceEntity} (push : device.pushChannel = .mqtt) :
    bootChannelTopics (bootResponse env template device) =
      if channelActions template = [] then (storedChannelList device).map (·.topic)
      else atPositions (setTopic device) (positionTopic device)
        ((channelActions template).map (·.1)) := by
  have topics : bootChannelTopics (bootResponse env template device) =
      (bootMqttConfig env device template).topics.channelList.map (·.topic) := by
    simp [bootChannelTopics, bootResponse, bootConfig, push]
  rw [topics, bootMqttConfig, buildMqttTopics_eq]
  by_cases idle : channelActions template = []
  · rw [if_pos idle, if_pos idle]
    exact congrArg _ (channelList_mqttBase env device)
  · rw [if_neg idle, if_neg idle]
    have stored := channelList_mqttBase env device
    unfold DeviceMqttTopics.channelList at stored ⊢
    simp only [stored, Option.join_some, Option.getD_some]
    refine List.ext_getElem? fun i => ?_
    rw [getElem?_atPositions, List.getElem?_map, getElem?_channelList, List.getElem?_map,
      Option.map_map, Option.map_map]
    rfl

/-- For every template a device is later answered with: its channels have distinct topics
exactly when the stored topic of an action is never the default of a position whose action has
no stored topic. -/
theorem bootChannelTopics_nodup_iff (env : ApiConfig) {device : DeviceEntity}
    (push : device.pushChannel = .mqtt)
    (topics : ((storedChannelList device).map (·.topic)).Nodup)
    {template : Option DeviceTemplateEntity}
    (keys : ((actionSchema template).map (·.key)).Nodup) :
    (∀ response ∈ (getBootConfig env template (some device)).1.data,
      (bootChannelTopics response).Nodup) ↔
      DefaultsFree (setTopic device) (positionTopic device)
        ((channelActions template).map (·.1)) := by
  have distinct : ((channelActions template).map (·.1)).Nodup := by
    unfold channelActions
    split
    · simpa [List.map_map, Function.comp_def] using keys
    · simp
  simp only [getBootConfig_data, Option.mem_some_iff, forall_eq',
    bootChannelTopics_bootResponse env template push]
  by_cases idle : channelActions template = []
  · rw [if_pos idle, idle]
    exact iff_of_true topics (by simp [DefaultsFree])
  · rw [if_neg idle]
    exact atPositions_nodup_iff distinct (positionTopic_injective device)
      (setTopic_injective topics)

/-! ### An action inserted before a saved one -/

/-- The relay after its form was saved as shown. -/
def savedRelay : DeviceEntity :=
  { plainRelay with
    config := some
      { apiEndpoint := none
        mqtt := some (sentMqtt "relay-1" (some relayTemplate) (mqttBase defaultEnv plainRelay))
        http := none
        kafka := none } }

/-- The template with an action put before the first one. -/
def insertedFirst : DeviceTemplateEntity :=
  applyTemplateDto
    { actionSchema := some
        [⟨"pump", "Pump", .toggle, some "ON", some "OFF"⟩,
          ⟨"relay1", "Relay 1", .toggle, some "ON", some "OFF"⟩] }
    relayTemplate

/-- The new action gets the topic that is stored for the old one. -/
theorem insertedFirst_shares_topic :
    ((storedChannelList savedRelay).map (·.key)).Nodup ∧
      ((storedChannelList savedRelay).map (·.topic)).Nodup ∧
      ((actionSchema (some insertedFirst)).map (·.key)).Nodup ∧
      ¬ ∀ response ∈ (getBootConfig defaultEnv (some insertedFirst) (some savedRelay)).1.data,
        (bootChannelTopics response).Nodup := by
  refine ⟨by decide, by decide, by decide, fun distinct => ?_⟩
  exact absurd (distinct _ rfl) (by decide)

theorem bootChannelTopics_nodup_iff_savedRelay :
    (∀ response ∈ (getBootConfig defaultEnv (some insertedFirst) (some savedRelay)).1.data,
      (bootChannelTopics response).Nodup) ↔
      DefaultsFree (setTopic savedRelay) (positionTopic savedRelay) ["pump", "relay1"] :=
  bootChannelTopics_nodup_iff defaultEnv rfl (by decide) (by decide)

end AiotCloud
