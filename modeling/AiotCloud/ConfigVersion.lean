import AiotCloud.ActionDispatch
import AiotCloud.DeviceRegistry
import AiotCloud.Lib.Run

/-!
# What a `configVersion` stands for

Runs of registrations, config edits, template edits and boots. A gateway compares the
version it last applied with the one it polls, and skips the download when they are equal.

1. `buildMqttTopics_eq_iff`: when two templates give a device the same channel list.
2. `bootResponse_eq_iff`: when they give it the same response.
3. `version_identifies_iff`: responses of one row with one version are equal, exactly when
   every boot finds a template that answers as those of the earlier boots at its version.
-/

namespace AiotCloud

/-! ## One response -/

/-- The response for a found row. -/
def bootResponse (env : ApiConfig) (template : Option DeviceTemplateEntity)
    (device : DeviceEntity) : DeviceConfigDto :=
  bootConfig env device template
    (if device.pushChannel = .kafka then some (bootKafkaConfig env template device) else none)

theorem getBootConfig_data (env : ApiConfig) (template : Option DeviceTemplateEntity)
    (device : DeviceEntity) :
    (getBootConfig env template (some device)).1.data =
      some (bootResponse env template device) := by
  unfold getBootConfig bootResponse
  by_cases hp : device.pushChannel = .kafka
  · simp only [hp, if_true]
    rfl
  · simp only [hp, if_false]
    rfl

/-- `device.template?.type ?? OTHER`. -/
def templateType (template : Option DeviceTemplateEntity) : DeviceTemplateType :=
  (template.map (·.type)).getD .other

/-- The keys and labels that become channels: those of the actions of a channel-based
template. -/
def channelActions (template : Option DeviceTemplateEntity) : List (String × String) :=
  if isChannelBasedTemplate template then (actionSchema template).map fun a => (a.key, a.label)
  else []

/-- The channel list for these keys and labels. -/
def channelList (deviceId : String) (stored : List DeviceMqttChannelTopic)
    (actions : List (String × String)) : List DeviceMqttChannelTopic :=
  actions.mapIdx fun i action =>
    { index := i + 1
      key := action.1
      label := action.2
      topic := ((channelOverride stored action.1).filter (· ≠ "")).getD
        (defaultChannelCommandTopic deviceId (i + 1)) }

/-- Two templates give a device the same channels: they have the same actions, or one of
them has none and the stored list is what the other one gives. -/
def SameChannels (deviceId : String) (stored : Option (Option (List DeviceMqttChannelTopic)))
    (template template' : Option DeviceTemplateEntity) : Prop :=
  channelActions template = channelActions template' ∨
    (channelActions template = [] ∧
      stored = some (some
        (channelList deviceId (stored.join.getD []) (channelActions template')))) ∨
    (channelActions template' = [] ∧
      stored = some (some (channelList deviceId (stored.join.getD []) (channelActions template))))

theorem channelList_injective {deviceId : String} {stored : List DeviceMqttChannelTopic}
    {actions actions' : List (String × String)}
    (h : channelList deviceId stored actions = channelList deviceId stored actions') :
    actions = actions' := by
  have back : ∀ actions : List (String × String),
      (channelList deviceId stored actions).map (fun c => (c.key, c.label)) = actions := by
    intro actions
    refine List.ext_getElem? fun i => ?_
    unfold channelList
    rw [List.getElem?_map, List.getElem?_mapIdx, Option.map_map]
    exact Option.map_id_apply
  rw [← back actions, h, back]

/-- The topics that `buildMqttTopics` gives, by the actions of the template. -/
theorem buildMqttTopics_eq (device : DeviceEntity) (template : Option DeviceTemplateEntity)
    (base : DeviceMqttTopics) :
    buildMqttTopics device template base =
      if channelActions template = [] then base
      else { base with
        channels := some (some (channelList device.deviceId base.channelList
          (channelActions template))) } := by
  unfold buildMqttTopics channelActions
  by_cases based : isChannelBasedTemplate template
  · by_cases empty : actionSchema template = []
    · simp [based, empty]
    · simp only [based, empty, true_and, ne_eq, not_false_eq_true, if_true, List.map_eq_nil_iff,
        if_false]
      have same : (actionSchema template).mapIdx (fun i action =>
          channelEntry device.deviceId base.channelList action i) = channelList device.deviceId
            base.channelList ((actionSchema template).map fun a => (a.key, a.label)) := by
        refine List.ext_getElem? fun i => ?_
        unfold channelList
        rw [List.getElem?_mapIdx, List.getElem?_mapIdx, List.getElem?_map, Option.map_map]
        rfl
      rw [same]
  · simp [based]

theorem buildMqttTopics_eq_iff (device : DeviceEntity)
    (template template' : Option DeviceTemplateEntity) (base : DeviceMqttTopics) :
    buildMqttTopics device template base = buildMqttTopics device template' base ↔
      SameChannels device.deviceId base.channels template template' := by
  have topics_eq_iff : ∀ channels channels' : Option (Option (List DeviceMqttChannelTopic)),
      ({ base with channels := channels } : DeviceMqttTopics) =
        { base with channels := channels' } ↔ channels = channels' := by
    intro channels channels'
    simp
  unfold SameChannels
  rw [buildMqttTopics_eq, buildMqttTopics_eq]
  by_cases idle : channelActions template = []
  · by_cases idle' : channelActions template' = []
    · simp [idle, idle']
    · rw [if_pos idle, if_neg idle']
      refine (topics_eq_iff base.channels _).trans ?_
      simp [idle, idle', DeviceMqttTopics.channelList]
  · by_cases idle' : channelActions template' = []
    · rw [if_neg idle, if_pos idle']
      refine (topics_eq_iff _ base.channels).trans ?_
      simp [idle, idle', DeviceMqttTopics.channelList, eq_comm]
    · rw [if_neg idle, if_neg idle']
      refine (topics_eq_iff _ _).trans ?_
      simp only [idle, idle', false_and, or_false, Option.some_inj]
      exact ⟨channelList_injective, fun same => congrArg _ same⟩

/-- The channel list of the stored topics. -/
def storedChannels (device : DeviceEntity) : Option (Option (List DeviceMqttChannelTopic)) :=
  device.mqttTopics.bind (·.channels)

/-- The templates have one type and, for an MQTT-push device, give the same channels. -/
def SameAnswer (device : DeviceEntity) (template template' : Option DeviceTemplateEntity) : Prop :=
  templateType template = templateType template' ∧
    (device.pushChannel = .mqtt →
      SameChannels device.deviceId (storedChannels device) template template')

theorem bootMqttConfig_eq_iff (env : ApiConfig) (device : DeviceEntity)
    (template template' : Option DeviceTemplateEntity) :
    bootMqttConfig env device template = bootMqttConfig env device template' ↔
      SameChannels device.deviceId (storedChannels device) template template' := by
  have stored : (mqttBase env device).topics.channels = storedChannels device := by
    unfold mqttBase storedChannels DeviceEntity.mqttTopics
    cases device.mqttConfig <;> rfl
  unfold bootMqttConfig
  simp only [DeviceMqttConfig.mk.injEq, true_and]
  rw [buildMqttTopics_eq_iff, ← stored]

/-- Two templates give a row the same response, when its Kafka section is stored. -/
theorem bootResponse_eq_iff (env : ApiConfig) {device : DeviceEntity}
    (registered : device.pushChannel = .kafka → device.kafkaConfig ≠ none)
    (template template' : Option DeviceTemplateEntity) :
    bootResponse env template device = bootResponse env template' device ↔
      SameAnswer device template template' := by
  have kafka : device.pushChannel = .kafka →
      bootKafkaConfig env template device = bootKafkaConfig env template' device := by
    intro hp
    obtain ⟨kafka, hkafka⟩ := Option.ne_none_iff_exists'.mp (registered hp)
    simp [bootKafkaConfig_eq, hkafka]
  unfold SameAnswer
  rw [← bootMqttConfig_eq_iff env]
  simp only [bootResponse, bootConfig, templateType, DeviceConfigDto.mk.injEq, true_and, and_true]
  cases hp : device.pushChannel with
  | mqtt => simp
  | http => simp
  | kafka => simp [kafka hp]

/-- A boot writes only for a Kafka-push device that has no Kafka section yet. -/
theorem rowAfterBoot_eq_self (env : ApiConfig) (template : Option DeviceTemplateEntity)
    {device : DeviceEntity}
    (registered : device.pushChannel = .kafka → device.kafkaConfig ≠ none) :
    rowAfterBoot env template device = device := by
  by_cases hp : device.pushChannel = .kafka
  · exact (rowAfterBoot_cases env template device).resolve_right fun h => registered hp h.1
  · unfold rowAfterBoot getBootConfig
    simp [hp]

/-- What a boot leaves of its row. -/
structure Booted (device after : DeviceEntity) : Prop where
  id : after.id = device.id
  deviceId : after.deviceId = device.deviceId
  version : after.configVersion = device.configVersion
  registered : after.pushChannel = .kafka → after.kafkaConfig ≠ none

theorem booted_rowAfterBoot (env : ApiConfig) (template : Option DeviceTemplateEntity)
    (device : DeviceEntity) : Booted device (rowAfterBoot env template device) := by
  rcases rowAfterBoot_cases env template device with hrow | ⟨hk, hrow⟩
  · refine ⟨by rw [hrow], by rw [hrow], by rw [hrow], fun hp => ?_⟩
    rw [hrow] at hp
    intro unsaved
    rw [hrow] at unsaved
    unfold rowAfterBoot getBootConfig resolveKafkaConfig at hrow
    simp only [hp, unsaved, if_true] at hrow
    have section' := congrArg DeviceEntity.kafkaConfig hrow
    rw [unsaved] at section'
    cases section'
  · rw [hrow]
    exact ⟨rfl, rfl, rfl, fun _ h => by cases h⟩

/-- The row that a boot leaves gives the same response under the same template. -/
theorem bootResponse_rowAfterBoot (env : ApiConfig) (template : Option DeviceTemplateEntity)
    (device : DeviceEntity) :
    bootResponse env template (rowAfterBoot env template device) =
      bootResponse env template device := by
  have saved := bootKafkaConfig_saved env template device
  by_cases hp : device.pushChannel = .kafka
  · rcases rowAfterBoot_cases env template device with hrow | ⟨hk, hrow⟩
    · rw [hrow]
    · have apiEndpoint :
          (withKafkaConfig device (defaultKafkaConfig env device template)).config.bind
            (·.apiEndpoint) = device.config.bind (·.apiEndpoint) := by
        unfold withKafkaConfig configCopy
        cases device.config <;> rfl
      rw [hrow] at saved ⊢
      have push : (withKafkaConfig device (defaultKafkaConfig env device template)).pushChannel =
        .kafka := hp
      simp only [bootResponse, bootConfig, saved, apiEndpoint, push, hp, if_true]
      simp [withKafkaConfig]
  · rw [rowAfterBoot_eq_self env template fun h => absurd h hp]

/-! ## Runs -/

/-- One boot: the row it answered for, the template joined to it, and the response. -/
structure Boot where
  row : String
  template : Option DeviceTemplateEntity
  response : DeviceConfigDto

/-- The database and the boots so far. -/
structure ConfigWorld where
  devices : List DeviceEntity
  templates : List DeviceTemplateEntity
  boots : List Boot

inductive ConfigCall where
  | registerDevice (id : String) (now : Date) (userId : String) (factoryId : Option String)
      (dto : RegisterDeviceDto)
  | updateDeviceConfig (userId id : String) (dto : UpdateDeviceConfigDto)
  | updateDeviceTemplate (id : String) (dto : UpdateDeviceTemplateDto)
  | getBootConfig (deviceId : String)

namespace ConfigWorld

/-- The template of a row. -/
def templateOf (w : ConfigWorld) (device : DeviceEntity) : Option DeviceTemplateEntity :=
  findTemplate w.templates device.templateId

/-- The effect of `getBootConfig` for a found row. -/
def boot (env : ApiConfig) (w : ConfigWorld) (device : DeviceEntity) : ConfigWorld :=
  match (getBootConfig env (w.templateOf device) (some device)).1.data with
  | none => w
  | some response =>
    { w with
      devices := Keyed.modify DeviceEntity.id device.id
        (fun _ => rowAfterBoot env (w.templateOf device) device) w.devices
      boots := w.boots ++ [⟨device.id, w.templateOf device, response⟩] }

def step (env : ApiConfig) (w : ConfigWorld) : ConfigCall → ConfigWorld
  | .registerDevice id now userId factoryId dto =>
    { w with devices := afterRegister id now userId factoryId dto w.templates w.devices }
  | .updateDeviceConfig userId id dto =>
    { w with devices := afterUpdateConfig userId id dto w.devices }
  | .updateDeviceTemplate id dto =>
    match (updateDeviceTemplate id dto w.templates).2 with
    | some entity =>
      { w with templates := Keyed.modify DeviceTemplateEntity.id id (fun _ => entity) w.templates }
    | none => w
  | .getBootConfig deviceId =>
    match findByDeviceId w.devices deviceId with
    | some device => w.boot env device
    | none => w

/-- Responses of one row with one version are equal. -/
def Identifies (w : ConfigWorld) : Prop :=
  ∀ b ∈ w.boots, ∀ b' ∈ w.boots, b.row = b'.row →
    b.response.configVersion = b'.response.configVersion → b.response = b'.response

/-- A boot finds a template that answers as those the earlier boots of its row found at the
version the row has. -/
def AnswersAsBefore (w : ConfigWorld) : ConfigCall → Prop
  | .getBootConfig deviceId => ∀ device, findByDeviceId w.devices deviceId = some device →
      ∀ b ∈ w.boots, b.row = device.id → b.response.configVersion = device.configVersion →
        SameAnswer device b.template (w.templateOf device)
  | _ => True

/-- Every boot is of a row that still stands, at the version it has or an earlier one; at the
version it has, the row gives the response of that boot. -/
structure Stands (env : ApiConfig) (w : ConfigWorld) : Prop where
  keys : Keys w.devices
  rows : ∀ b ∈ w.boots, ∃ device ∈ w.devices, device.id = b.row
  versions : ∀ b ∈ w.boots, ∀ device ∈ w.devices, device.id = b.row →
    b.response.configVersion ≤ device.configVersion
  current : ∀ b ∈ w.boots, ∀ device ∈ w.devices, device.id = b.row →
    b.response.configVersion = device.configVersion →
      b.response = bootResponse env b.template device ∧
        (device.pushChannel = .kafka → device.kafkaConfig ≠ none)
  identifies : w.Identifies

variable {env : ApiConfig} {w : ConfigWorld}

theorem boot_eq (env : ApiConfig) (w : ConfigWorld) (device : DeviceEntity) :
    w.boot env device =
      { w with
        devices := Keyed.modify DeviceEntity.id device.id
          (fun _ => rowAfterBoot env (w.templateOf device) device) w.devices
        boots := w.boots ++ [⟨device.id, w.templateOf device,
          bootResponse env (w.templateOf device) device⟩] } := by
  unfold boot
  rw [getBootConfig_data]

/-- An inserted row has not booted. -/
theorem Stands.insert (stands : w.Stands env) {row : DeviceEntity}
    (id : ∀ d ∈ w.devices, d.id ≠ row.id) (deviceId : ∀ d ∈ w.devices, d.deviceId ≠ row.deviceId) :
    Stands env { w with devices := w.devices ++ [row] } := by
  have old : ∀ b ∈ w.boots, ∀ device ∈ w.devices ++ [row], device.id = b.row →
      device ∈ w.devices := by
    intro b hb device hdevice hid
    refine (List.mem_append.mp hdevice).resolve_right fun hrow => ?_
    obtain rfl := List.mem_singleton.mp hrow
    obtain ⟨booted, hbooted, hrow⟩ := stands.rows b hb
    exact id booted hbooted (hrow.trans hid.symm)
  refine ⟨stands.keys.concat id deviceId, fun b hb => ?_, fun b hb device hdevice hid => ?_,
    fun b hb device hdevice hid => ?_, stands.identifies⟩
  · obtain ⟨device, hdevice, hid⟩ := stands.rows b hb
    exact ⟨device, List.mem_append_left _ hdevice, hid⟩
  · exact stands.versions b hb device (old b hb device hdevice hid) hid
  · exact stands.current b hb device (old b hb device hdevice hid) hid

/-- A row that gets a version it never had has not booted with it. -/
theorem Stands.edit (stands : w.Stands env) {device after : DeviceEntity}
    (hdevice : device ∈ w.devices) (id : after.id = device.id)
    (deviceId : after.deviceId = device.deviceId)
    (version : after.configVersion = device.configVersion + 1) :
    Stands env { w with
      devices := Keyed.modify DeviceEntity.id device.id (fun _ => after) w.devices } := by
  have newer : ∀ b ∈ w.boots, after.id = b.row →
      b.response.configVersion < after.configVersion := by
    intro b hb hid
    have bound := stands.versions b hb device hdevice (id ▸ hid)
    omega
  refine ⟨?_, fun b hb => ?_, fun b hb row hrow hid => ?_, fun b hb row hrow hid => ?_,
    stands.identifies⟩
  · refine stands.keys.modify fun d hd h => ?_
    rw [stands.keys.ids.eq_of_key hd hdevice h]
    exact ⟨id, deviceId⟩
  · obtain ⟨row, hrow, hid⟩ := stands.rows b hb
    rcases eq_or_ne row.id device.id with same | hne
    · exact ⟨after, Keyed.mem_modify_iff.mpr (Or.inl ⟨row, hrow, same, rfl⟩),
        id.trans (same ▸ hid)⟩
    · exact ⟨row, Keyed.mem_modify_iff.mpr (Or.inr ⟨hrow, hne⟩), hid⟩
  · rcases Keyed.mem_modify_iff.mp hrow with ⟨-, -, -, rfl⟩ | ⟨hrow, -⟩
    · exact (newer b hb hid).le
    · exact stands.versions b hb row hrow hid
  · rcases Keyed.mem_modify_iff.mp hrow with ⟨-, -, -, rfl⟩ | ⟨hrow, -⟩
    · exact fun same => absurd same (newer b hb hid).ne
    · exact stands.current b hb row hrow hid

/-- After a boot the responses are still equal exactly if the template answers as before. -/
theorem identifies_boot_iff (stands : w.Stands env) {device : DeviceEntity}
    (hdevice : device ∈ w.devices) :
    (w.boot env device).Identifies ↔ ∀ b ∈ w.boots, b.row = device.id →
      b.response.configVersion = device.configVersion →
        SameAnswer device b.template (w.templateOf device) := by
  have equal_iff : ∀ b ∈ w.boots, b.row = device.id →
      b.response.configVersion = device.configVersion →
        (b.response = bootResponse env (w.templateOf device) device ↔
          SameAnswer device b.template (w.templateOf device)) := by
    intro b hb hrow hversion
    obtain ⟨response, registered⟩ := stands.current b hb device hdevice hrow.symm hversion
    rw [response]
    exact bootResponse_eq_iff env registered _ _
  have version : (bootResponse env (w.templateOf device) device).configVersion =
    device.configVersion := rfl
  rw [boot_eq]
  constructor
  · intro identifies b hb hrow hversion
    refine (equal_iff b hb hrow hversion).mp ?_
    exact identifies b (List.mem_append_left _ hb) _ (List.mem_append_right _ List.mem_cons_self)
      hrow (hversion.trans version.symm)
  · intro answers b hb b' hb' hrow hversion
    rcases List.mem_append.mp hb with hb | hb <;> rcases List.mem_append.mp hb' with hb' | hb'
    · exact stands.identifies b hb b' hb' hrow hversion
    · obtain rfl := List.mem_singleton.mp hb'
      exact (equal_iff b hb hrow hversion).mpr (answers b hb hrow hversion)
    · obtain rfl := List.mem_singleton.mp hb
      exact ((equal_iff b' hb' hrow.symm hversion.symm).mpr
        (answers b' hb' hrow.symm hversion.symm)).symm
    · obtain rfl := List.mem_singleton.mp hb
      obtain rfl := List.mem_singleton.mp hb'
      rfl

/-- A boot at the version of an earlier one writes nothing. -/
theorem Stands.rowAfterBoot_eq_self (stands : w.Stands env) {device : DeviceEntity}
    (hdevice : device ∈ w.devices) {b : Boot} (hb : b ∈ w.boots) (row : b.row = device.id)
    (version : b.response.configVersion = device.configVersion)
    (template : Option DeviceTemplateEntity) : rowAfterBoot env template device = device :=
  AiotCloud.rowAfterBoot_eq_self env template
    (stands.current b hb device hdevice row.symm version).2

theorem Stands.boot (stands : w.Stands env) {device : DeviceEntity} (hdevice : device ∈ w.devices)
    (identifies : (w.boot env device).Identifies) : (w.boot env device).Stands env := by
  have booted := booted_rowAfterBoot env (w.templateOf device) device
  have response := bootResponse_rowAfterBoot env (w.templateOf device) device
  have still : ∀ b ∈ w.boots, b.row = device.id →
      b.response.configVersion = device.configVersion →
        rowAfterBoot env (w.templateOf device) device = device :=
    fun b hb row version => stands.rowAfterBoot_eq_self hdevice hb row version _
  generalize hafter : rowAfterBoot env (w.templateOf device) device = after at booted response still
  rw [boot_eq, hafter] at identifies ⊢
  -- a row of the table after the boot is the one that booted, or one that did not
  have cases : ∀ {row}, row ∈ Keyed.modify DeviceEntity.id device.id (fun _ => after) w.devices →
      row = after ∨ row ∈ w.devices ∧ row.id ≠ device.id := fun hrow =>
    (Keyed.mem_modify_iff.mp hrow).imp_left fun ⟨_, _, _, same⟩ => same
  refine ⟨?_, fun b hb => ?_, fun b hb row hrow hid => ?_, fun b hb row hrow hid => ?_, identifies⟩
  · refine stands.keys.modify fun d hd h => ?_
    rw [stands.keys.ids.eq_of_key hd hdevice h]
    exact ⟨booted.id, booted.deviceId⟩
  · have stays : after ∈ Keyed.modify DeviceEntity.id device.id (fun _ => after) w.devices :=
      Keyed.mem_modify_iff.mpr (Or.inl ⟨device, hdevice, rfl, rfl⟩)
    rcases List.mem_append.mp hb with hb | hb
    · obtain ⟨row, hrow, hid⟩ := stands.rows b hb
      rcases eq_or_ne row.id device.id with same | hne
      · exact ⟨after, stays, booted.id.trans (same ▸ hid)⟩
      · exact ⟨row, Keyed.mem_modify_iff.mpr (Or.inr ⟨hrow, hne⟩), hid⟩
    · obtain rfl := List.mem_singleton.mp hb
      exact ⟨after, stays, booted.id⟩
  · rcases List.mem_append.mp hb with earlier | latest
    · rcases cases hrow with rfl | ⟨hrow, -⟩
      · rw [booted.version]
        exact stands.versions b earlier device hdevice (booted.id ▸ hid)
      · exact stands.versions b earlier row hrow hid
    · obtain rfl := List.mem_singleton.mp latest
      rcases cases hrow with rfl | ⟨-, hne⟩
      · exact booted.version.ge
      · exact absurd hid hne
  · rcases List.mem_append.mp hb with earlier | latest
    · rcases cases hrow with rfl | ⟨hrow, -⟩
      · intro version
        have hrow := booted.id.symm.trans hid
        rw [booted.version] at version
        rw [still b earlier hrow.symm version]
        exact stands.current b earlier device hdevice hrow version
      · exact stands.current b earlier row hrow hid
    · obtain rfl := List.mem_singleton.mp latest
      rcases cases hrow with rfl | ⟨-, hne⟩
      · exact fun _ => ⟨response.symm, booted.registered⟩
      · exact absurd hid hne

/-- What a call does: nothing to rows and boots, one row more, one row with the next version,
or one boot. -/
theorem step_cases (env : ApiConfig) (w : ConfigWorld) (keys : Keys w.devices) (call : ConfigCall) :
    ((w.step env call).devices = w.devices ∧ (w.step env call).boots = w.boots ∧
        w.AnswersAsBefore call) ∨
      (∃ row, (∀ d ∈ w.devices, d.id ≠ row.id) ∧ (∀ d ∈ w.devices, d.deviceId ≠ row.deviceId) ∧
        w.step env call = { w with devices := w.devices ++ [row] } ∧ w.AnswersAsBefore call) ∨
      (∃ device ∈ w.devices, ∃ after : DeviceEntity, after.id = device.id ∧
        after.deviceId = device.deviceId ∧ after.configVersion = device.configVersion + 1 ∧
        w.step env call = { w with
          devices := Keyed.modify DeviceEntity.id device.id (fun _ => after) w.devices } ∧
        w.AnswersAsBefore call) ∨
      ∃ deviceId, ∃ device ∈ w.devices, call = .getBootConfig deviceId ∧
        findByDeviceId w.devices deviceId = some device ∧ w.step env call = w.boot env device := by
  cases call with
  | registerDevice id now userId factoryId dto =>
    unfold step
    dsimp only
    rcases afterRegister_cases id now userId factoryId dto w.templates w.devices with same |
      ⟨row, -, fresh, deviceId, inserted⟩
    · exact Or.inl ⟨same, rfl, trivial⟩
    · exact Or.inr (Or.inl ⟨row, fresh, deviceId, by rw [inserted], trivial⟩)
  | updateDeviceConfig userId id dto =>
    unfold step
    dsimp only
    cases hfind : findOwnedDevice w.devices userId id with
    | none => exact Or.inl ⟨afterUpdateConfig_of_none hfind dto, rfl, trivial⟩
    | some device =>
      obtain ⟨hdevice, rfl, -⟩ := (findInScope_eq_some_iff keys).mp hfind
      exact Or.inr (Or.inr (Or.inl ⟨device, hdevice, applyConfigDto dto device, rfl, rfl, rfl,
        by rw [afterUpdateConfig_of_some hfind], trivial⟩))
  | updateDeviceTemplate id dto =>
    unfold step
    dsimp only
    split <;> exact Or.inl ⟨rfl, rfl, trivial⟩
  | getBootConfig deviceId =>
    unfold step
    dsimp only
    cases hfind : findByDeviceId w.devices deviceId with
    | none => exact Or.inl ⟨rfl, rfl, fun device h => by simp [hfind] at h⟩
    | some device =>
      have hdevice := (Keyed.mem_of_find hfind).1
      exact Or.inr (Or.inr (Or.inr ⟨deviceId, device, hdevice, rfl, hfind, rfl⟩))

/-- A boot answers as before exactly if the responses stay equal; the other calls do anyway. -/
theorem identifies_step_iff (stands : w.Stands env) (call : ConfigCall) :
    (w.step env call).Identifies ↔ w.AnswersAsBefore call := by
  rcases step_cases env w stands.keys call with ⟨-, boots, answers⟩ | ⟨row, -, -, step, answers⟩ |
    ⟨device, -, after, -, -, -, step, answers⟩ | ⟨deviceId, device, hdevice, rfl, hfind, step⟩
  · refine iff_of_true ?_ answers
    unfold Identifies
    rw [boots]
    exact stands.identifies
  · rw [step]
    exact iff_of_true stands.identifies answers
  · rw [step]
    exact iff_of_true stands.identifies answers
  · rw [step, identifies_boot_iff stands hdevice]
    refine ⟨fun answers found hfound => ?_, fun answers => answers device hfind⟩
    obtain rfl := Option.some.inj (hfind.symm.trans hfound)
    exact answers

theorem Stands.step (stands : w.Stands env) (call : ConfigCall)
    (identifies : (w.step env call).Identifies) : (w.step env call).Stands env := by
  rcases step_cases env w stands.keys call with ⟨devices, boots, -⟩ |
    ⟨row, id, deviceId, step, -⟩ | ⟨device, hdevice, after, id, deviceId, version, step, -⟩ |
    ⟨deviceId, device, hdevice, rfl, hfind, step⟩
  · exact ⟨devices ▸ stands.keys, by rw [devices, boots]; exact stands.rows,
      by rw [devices, boots]; exact stands.versions, by rw [devices, boots]; exact stands.current,
      identifies⟩
  · rw [step]
    exact stands.insert id deviceId
  · rw [step]
    exact stands.edit hdevice id deviceId version
  · rw [step] at identifies ⊢
    exact stands.boot hdevice identifies

end ConfigWorld

open ConfigWorld in
/-- From any database, in every state of the run any two boot responses of one row with one
`configVersion` are equal, exactly when every boot finds a template that answers as those of
the earlier boots of the row at its version. -/
theorem version_identifies_iff (env : ApiConfig) (devices : List DeviceEntity)
    (templates : List DeviceTemplateEntity) (keys : Keys devices) (calls : List ConfigCall) :
    (∀ pre, pre <+: calls →
        (Run.exec (ConfigWorld.step env) ⟨devices, templates, []⟩ pre).Identifies) ↔
      Run.Meets (ConfigWorld.step env) AnswersAsBefore ⟨devices, templates, []⟩ calls := by
  have start : Stands env ⟨devices, templates, []⟩ :=
    ⟨keys, by simp, by simp, by simp, by simp [Identifies]⟩
  have keeps : ∀ w call, Stands env w → AnswersAsBefore w call → Stands env (w.step env call) :=
    fun w call stands answers => stands.step call ((identifies_step_iff stands call).mpr answers)
  exact Run.always_iff_meets (fun w stands => stands.identifies) keeps
    (fun w call stands => (identifies_step_iff stands call).mp) start calls

theorem plainRelay_keys : Keys [plainRelay] := ⟨List.nodup_singleton _, List.nodup_singleton _⟩

/-- A relay that boots twice. -/
theorem version_identifies_iff_twoBoots :
    (Run.exec (ConfigWorld.step defaultEnv) ⟨[plainRelay], [relayTemplate], []⟩
      [.getBootConfig "relay-1", .getBootConfig "relay-1"]).Identifies := by
  refine (version_identifies_iff defaultEnv [plainRelay] [relayTemplate] plainRelay_keys
    [.getBootConfig "relay-1", .getBootConfig "relay-1"]).mpr ⟨?_, ?_, trivial⟩ _
      (List.prefix_refl _)
  · rintro device - b hb
    cases hb
  · intro device hfind b hb row version
    obtain rfl : plainRelay = device := Option.some.inj hfind
    obtain rfl := List.mem_singleton.mp hb
    exact ⟨rfl, fun _ => Or.inl rfl⟩

/-- Between two boots the label of the relay's action is changed on the template. -/
def relabel : List ConfigCall :=
  [.getBootConfig "relay-1",
    .updateDeviceTemplate "t1"
      { actionSchema := some [⟨"relay1", "Pump", .toggle, some "ON", some "OFF"⟩] },
    .getBootConfig "relay-1"]

def relabelled : ConfigWorld :=
  Run.exec (ConfigWorld.step defaultEnv) ⟨[plainRelay], [relayTemplate], []⟩ relabel

/-- The version stays, and the second boot is told another label. -/
theorem version_not_identifying : ¬ relabelled.Identifies := by
  intro identifies
  have same := identifies (relabelled.boots.get ⟨0, by decide⟩) (List.get_mem ..)
    (relabelled.boots.get ⟨1, by decide⟩) (List.get_mem ..) (by decide) (by decide)
  have labels := congrArg
    (fun r : DeviceConfigDto => r.mqtt.map fun m => m.topics.channelList.map (·.label)) same
  exact absurd labels (by decide)

end AiotCloud
