import AiotCloud.Decommission
import AiotCloud.Ota
import AiotCloud.UplinkRouting

/-!
# The topic cache over registrations, edits and deletions

`MqttTopicRegistryService` keeps a found topic until an edit that carries `mqtt` clears it.
What a lookup answers depends on the push channel of the rows, their stored topics and
which rows there are.

1. `couldAnswer_some_iff`, `couldAnswer_none_iff`: what a lookup can answer, over all orders
   in which the database may return the rows.
2. `topic_cache_coherent_iff`: every cached entry is one the lookup could still return, in
   every state of a run, exactly when no deletion and no edit without `mqtt` takes from a
   cached topic the device it names, or makes its lookup throw.
-/

namespace AiotCloud

/-! ## What a lookup can answer -/

/-- The answer from the row that is found. -/
def answerOf (device : DeviceEntity) (topic : String) : Option ResolvedMqttTopic :=
  device.mqttTopics.bind fun topics => (roleOf topics topic).map (⟨device.deviceId, ·⟩)

/-- The lookup answers so when the rows come in some order. -/
def CouldAnswer (devices : List DeviceEntity) (topic : String)
    (answer : Option ResolvedMqttTopic) : Prop :=
  ∃ rows : List DeviceEntity, rows.Perm devices ∧ resolveCustomMqttTopic rows topic = some answer

/-- No row makes the query throw. -/
def Queryable (devices : List DeviceEntity) (topic : String) : Prop :=
  ∀ device ∈ devices, device.pushChannel = .mqtt → matchesTopic device topic ≠ none

/-- The query selects the row. -/
def Selected (device : DeviceEntity) (topic : String) : Prop :=
  device.pushChannel = .mqtt ∧ matchesTopic device topic = some true

instance (device : DeviceEntity) (topic : String) : Decidable (Selected device topic) :=
  inferInstanceAs (Decidable (_ ∧ _))

theorem resolveCustomMqttTopic_eq_some_iff {rows : List DeviceEntity} {topic : String}
    {answer : Option ResolvedMqttTopic} :
    resolveCustomMqttTopic rows topic = some answer ↔ Queryable rows topic ∧
      (rows.find? fun device => Selected device topic).bind (answerOf · topic) = answer := by
  have throws : (rows.any fun device =>
      device.pushChannel = .mqtt ∧ matchesTopic device topic = none) = true ↔
        ¬ Queryable rows topic := by
    simp [Queryable]
  unfold resolveCustomMqttTopic
  by_cases queryable : Queryable rows topic
  · rw [if_neg fun h => throws.mp h queryable, Option.some_inj]
    exact ⟨fun h => ⟨queryable, h⟩, fun h => h.2⟩
  · rw [if_pos (throws.mpr queryable)]
    simp [queryable]

/-- A row the query selects has a role for the topic. -/
theorem answerOf_of_selected {device : DeviceEntity} {topic : String}
    (selected : Selected device topic) :
    ∃ role, answerOf device topic = some ⟨device.deviceId, role⟩ := by
  obtain ⟨-, stores⟩ := selected
  unfold matchesTopic at stores
  unfold answerOf
  cases htopics : device.mqttTopics with
  | none => simp [htopics] at stores
  | some topics =>
    have role : ∃ role, roleOf topics topic = some role := by
      unfold roleOf
      split_ifs with telemetry status event command
      · exact ⟨_, rfl⟩
      · exact ⟨_, rfl⟩
      · exact ⟨_, rfl⟩
      · exact ⟨_, rfl⟩
      · -- none of the fields has the topic, so the row is not selected
        simp only [not_or] at command
        have unnamed : topics.names topic = false := by
          simp [DeviceMqttTopics.names, telemetry, status, event, command]
        simp only [htopics, unnamed, Bool.false_eq_true, if_false] at stores
        split_ifs at stores
        exact absurd (Option.some.inj stores) command.2.2
    obtain ⟨role, hrole⟩ := role
    exact ⟨role, by simp [hrole]⟩

theorem Queryable.perm {rows devices : List DeviceEntity} (perm : rows.Perm devices)
    {topic : String} : Queryable rows topic ↔ Queryable devices topic := by
  unfold Queryable
  simp only [perm.mem_iff]

/-- A mapping is possible if a selected row gives it. -/
theorem couldAnswer_some_iff {devices : List DeviceEntity} {topic : String}
    {resolved : ResolvedMqttTopic} :
    CouldAnswer devices topic (some resolved) ↔ Queryable devices topic ∧
      ∃ device ∈ devices, Selected device topic ∧ answerOf device topic = some resolved := by
  constructor
  · rintro ⟨rows, perm, hrows⟩
    obtain ⟨queryable, hanswer⟩ := resolveCustomMqttTopic_eq_some_iff.mp hrows
    obtain ⟨device, hfind, hdevice⟩ := Option.bind_eq_some_iff.mp hanswer
    refine ⟨(Queryable.perm perm).mp queryable, device,
      perm.mem_iff.mp (List.mem_of_find?_eq_some hfind), ?_, hdevice⟩
    simpa using List.find?_some hfind
  · rintro ⟨queryable, device, hdevice, selected, hanswer⟩
    -- the row comes first
    obtain ⟨before, after, rfl⟩ := List.append_of_mem hdevice
    have perm : (device :: (before ++ after)).Perm (before ++ device :: after) :=
      List.perm_middle.symm
    refine ⟨device :: (before ++ after), perm, resolveCustomMqttTopic_eq_some_iff.mpr
      ⟨(Queryable.perm perm).mpr queryable, ?_⟩⟩
    rw [List.find?_cons_of_pos (by simpa using selected)]
    exact hanswer

/-- A miss is possible if no row is selected. -/
theorem couldAnswer_none_iff {devices : List DeviceEntity} {topic : String} :
    CouldAnswer devices topic none ↔
      Queryable devices topic ∧ ∀ device ∈ devices, ¬ Selected device topic := by
  constructor
  · rintro ⟨rows, perm, hrows⟩
    obtain ⟨queryable, hanswer⟩ := resolveCustomMqttTopic_eq_some_iff.mp hrows
    refine ⟨(Queryable.perm perm).mp queryable, fun device hdevice selected => ?_⟩
    cases hfind : rows.find? fun device => Selected device topic with
    | none =>
      have unselected := List.find?_eq_none.mp hfind device (perm.mem_iff.mpr hdevice)
      exact unselected (by simpa using selected)
    | some found =>
      have selected : Selected found topic := by simpa using List.find?_some hfind
      obtain ⟨role, hrole⟩ := answerOf_of_selected selected
      rw [hfind] at hanswer
      exact absurd (hrole.symm.trans hanswer) (by simp)
  · rintro ⟨queryable, unselected⟩
    refine ⟨devices, List.Perm.refl _, resolveCustomMqttTopic_eq_some_iff.mpr ⟨queryable, ?_⟩⟩
    rw [List.find?_eq_none.mpr fun device hdevice => by simpa using unselected device hdevice]
    rfl

/-! ## Runs -/

/-- `clear()`. -/
def MqttTopicRegistry.clear (_ : MqttTopicRegistry) : MqttTopicRegistry := .empty

/-- The body of a message, as each handler reads it. -/
structure MqttData where
  payload : Json
  envelope : DeviceChannelEventPayload
  report : OtaStatusReportPayload

/-- `handleOtaStatusReport`, as far as the device row goes. -/
def otaHandled (report : OtaReport) (found : Option DeviceEntity) : Handled :=
  match applyReport report found with
  | .ok device => { write := some (.save device) }
  | .error _ => {}

/-- The rows after the handler that a message is dispatched to. -/
def afterDispatch (now : Date) (data : MqttData) (devices : List DeviceEntity) :
    Option Dispatch → List DeviceEntity
  | none => devices
  | some (.uplink .telemetry id) => afterMessage devices id (recordTelemetry now id data.payload)
  | some (.uplink .status id) =>
    afterMessage devices id (handleDeviceStatusMessage now id data.payload)
  | some (.uplink .event id) =>
    afterMessage devices id (handleDeviceChannelEvent now id data.envelope)
  | some (.otaStatus id) => afterMessage devices id (otaHandled ⟨id, data.report, now⟩)

structure TopicWorld where
  devices : List DeviceEntity
  templates : List DeviceTemplateEntity
  registry : MqttTopicRegistry

/-- An order in which the database returns the rows of a query. -/
structure RowOrder where
  order : List DeviceEntity → List DeviceEntity
  perm : ∀ devices, (order devices).Perm devices

inductive TopicEvent where
  | registerDevice (id : String) (now : Date) (userId : String) (factoryId : Option String)
      (dto : RegisterDeviceDto)
  | updateDeviceConfig (userId id : String) (dto : UpdateDeviceConfigDto)
  | deleteDevice (userId id : String)
  | message (rows : RowOrder) (now : Date) (topic : String) (data : MqttData)

namespace TopicWorld

def step (w : TopicWorld) : TopicEvent → TopicWorld
  | .registerDevice id now userId factoryId dto =>
    { w with devices := afterRegister id now userId factoryId dto w.templates w.devices }
  | .updateDeviceConfig userId id dto =>
    { w with
      devices := afterUpdateConfig userId id dto w.devices
      registry :=
        if (updateDeviceConfig dto (findOwnedDevice w.devices userId id)).2.2 then w.registry.clear
        else w.registry }
  | .deleteDevice userId id => { w with devices := afterDelete userId id w.devices }
  | .message rows now topic data =>
    let (dispatch, registry) := handleAny (rows.order w.devices) w.registry now topic
    { w with devices := afterDispatch now data w.devices dispatch, registry := registry }

/-- Every cached entry is one the lookup could return. -/
def Coherent (w : TopicWorld) : Prop :=
  ∀ topic cached, w.registry.get topic = some cached →
    CouldAnswer w.devices topic (some cached)

/-- The step takes no device from a cached topic: no deletion of the device it names, no
edit without `mqtt` that moves that device off MQTT push, and none that moves a device with
`channels: null` to MQTT push while a topic it does not name is cached. -/
def SparesCached (w : TopicWorld) : TopicEvent → Prop
  | .deleteDevice userId id => ∀ device, findOwnedDevice w.devices userId id = some device →
      ∀ topic cached, w.registry.get topic = some cached → cached.deviceId ≠ device.deviceId
  | .updateDeviceConfig userId id dto => dto.mqtt = none →
      ∀ device, findOwnedDevice w.devices userId id = some device →
        ∀ topic cached, w.registry.get topic = some cached →
          (cached.deviceId = device.deviceId →
            dto.pushChannel.getD device.pushChannel = .mqtt) ∧
          (dto.pushChannel.getD device.pushChannel = .mqtt → matchesTopic device topic ≠ none)
  | _ => True

structure Standing (w : TopicWorld) : Prop where
  keys : Keys w.devices
  coherent : w.Coherent

end TopicWorld

/-! ### Messages -/

/-- The columns that keys and lookups read. -/
def lookupColumns (device : DeviceEntity) :
    String × String × DevicePushChannel × Option DeviceNetworkConfig :=
  (device.id, device.deviceId, device.pushChannel, device.config)

theorem lookupColumns_afterMessage {devices : List DeviceEntity} (keys : Keys devices)
    (deviceId : String) {handle : Option DeviceEntity → Handled}
    (spares : ∀ device p, (handle (some device)).write = some p →
      lookupColumns (p.commit device) = lookupColumns device) :
    (afterMessage devices deviceId handle).map lookupColumns = devices.map lookupColumns := by
  unfold afterMessage
  cases hfind : findByDeviceId devices deviceId with
  | none => rfl
  | some device =>
    cases hwrite : (handle (some device)).write with
    | none => simp [hwrite]
    | some p =>
      simp only [hwrite]
      refine Keyed.map_modify fun row hrow same => ?_
      rw [keys.ids.eq_of_key hrow (Keyed.mem_of_find hfind).1 same]
      exact spares device p hwrite

theorem lookupColumns_afterDispatch {devices : List DeviceEntity} (keys : Keys devices)
    (now : Date) (data : MqttData) (dispatch : Option Dispatch) :
    (afterDispatch now data devices dispatch).map lookupColumns = devices.map lookupColumns := by
  have spares : ∀ {p : Persist}, SparesLifecycle p → ∀ device : DeviceEntity,
      lookupColumns (p.commit device) = lookupColumns device := by
    rintro p ⟨columns, rfl, -⟩ device
    rfl
  cases dispatch with
  | none => rfl
  | some dispatch =>
    cases dispatch with
    | uplink kind id =>
      cases kind with
      | telemetry =>
        show (afterMessage devices id (recordTelemetry now id data.payload)).map _ = _
        exact lookupColumns_afterMessage keys id fun device p hp =>
          spares (recordTelemetry_spares hp) device
      | status =>
        show (afterMessage devices id (handleDeviceStatusMessage now id data.payload)).map _ = _
        exact lookupColumns_afterMessage keys id fun device p hp =>
          spares (handleDeviceStatusMessage_spares hp) device
      | event =>
        show (afterMessage devices id (handleDeviceChannelEvent now id data.envelope)).map _ = _
        exact lookupColumns_afterMessage keys id fun device p hp =>
          spares (handleDeviceChannelEvent_spares hp) device
    | otaStatus id =>
      show (afterMessage devices id (otaHandled ⟨id, data.report, now⟩)).map _ = _
      refine lookupColumns_afterMessage keys id fun device p hp => ?_
      unfold otaHandled at hp
      split at hp
      · next saved happly =>
        obtain rfl := Option.some.inj hp
        obtain ⟨found, status, progress, ⟨⟩, -, -, rfl⟩ := applyReport_eq_ok_iff.mp happly
        rfl
      · cases hp

section Lookups

variable {devices devices' : List DeviceEntity} {topic : String} {cached : ResolvedMqttTopic}

theorem exists_of_lookupColumns (same : devices'.map lookupColumns = devices.map lookupColumns)
    {device : DeviceEntity} (hdevice : device ∈ devices) :
    ∃ device' ∈ devices', lookupColumns device' = lookupColumns device := by
  have hcolumns := List.mem_map_of_mem (f := lookupColumns) hdevice
  rw [← same] at hcolumns
  exact List.mem_map.mp hcolumns

/-- What a row answers is determined by the columns that lookups read. -/
theorem matchesTopic_congr {device device' : DeviceEntity}
    (same : device'.mqttTopics = device.mqttTopics) (topic : String) :
    matchesTopic device' topic = matchesTopic device topic := by
  unfold matchesTopic
  rw [same]

theorem answerOf_congr {device device' : DeviceEntity}
    (same : device'.mqttTopics = device.mqttTopics) (deviceId : device'.deviceId = device.deviceId)
    (topic : String) : answerOf device' topic = answerOf device topic := by
  unfold answerOf
  rw [same, deviceId]

theorem deviceId_of_answerOf {device : DeviceEntity} (h : answerOf device topic = some cached) :
    cached.deviceId = device.deviceId := by
  obtain ⟨topics, -, h⟩ := Option.bind_eq_some_iff.mp h
  obtain ⟨role, -, rfl⟩ := Option.map_eq_some_iff.mp h
  rfl

theorem lookupColumns_eq {device device' : DeviceEntity}
    (h : lookupColumns device' = lookupColumns device) :
    device'.id = device.id ∧ device'.deviceId = device.deviceId ∧
      device'.pushChannel = device.pushChannel ∧ device'.mqttTopics = device.mqttTopics := by
  simp only [lookupColumns, Prod.mk.injEq] at h
  obtain ⟨id, deviceId, push, config⟩ := h
  refine ⟨id, deviceId, push, ?_⟩
  unfold DeviceEntity.mqttTopics DeviceEntity.mqttConfig
  rw [config]

/-- Writes to other columns leave what a lookup can return. -/
theorem CouldAnswer.of_lookupColumns
    (same : devices'.map lookupColumns = devices.map lookupColumns)
    (h : CouldAnswer devices topic (some cached)) : CouldAnswer devices' topic (some cached) := by
  rw [couldAnswer_some_iff] at h ⊢
  obtain ⟨queryable, device, hdevice, ⟨push, stores⟩, answer⟩ := h
  refine ⟨fun row hrow hpush => ?_, ?_⟩
  · obtain ⟨old, hold, hcolumns⟩ := exists_of_lookupColumns same.symm hrow
    obtain ⟨-, -, oldPush, topics⟩ := lookupColumns_eq hcolumns
    rw [← matchesTopic_congr topics]
    exact queryable old hold (oldPush.trans hpush)
  · obtain ⟨row, hrow, hcolumns⟩ := exists_of_lookupColumns same hdevice
    obtain ⟨-, deviceId, rowPush, topics⟩ := lookupColumns_eq hcolumns
    exact ⟨row, hrow, ⟨rowPush.trans push, (matchesTopic_congr topics topic).trans stores⟩,
      (answerOf_congr topics deviceId topic).trans answer⟩

theorem Keys.of_lookupColumns (same : devices'.map lookupColumns = devices.map lookupColumns)
    (keys : Keys devices) : Keys devices' := by
  have ids := congrArg (List.map Prod.fst) same
  have deviceIds := congrArg (List.map (·.2.1)) same
  rw [List.map_map, List.map_map] at ids deviceIds
  exact ⟨(congrArg List.Nodup ids).mpr keys.ids, (congrArg List.Nodup deviceIds).mpr keys.deviceIds⟩

/-- A row that stores no topics adds nothing. -/
theorem CouldAnswer.concat {row : DeviceEntity} (plain : row.mqttTopics = none)
    (h : CouldAnswer devices topic (some cached)) :
    CouldAnswer (devices ++ [row]) topic (some cached) := by
  rw [couldAnswer_some_iff] at h ⊢
  obtain ⟨queryable, device, hdevice, selected, answer⟩ := h
  refine ⟨fun other hother push => ?_, device, List.mem_append_left _ hdevice, selected, answer⟩
  rcases List.mem_append.mp hother with hother | hother
  · exact queryable other hother push
  · obtain rfl := List.mem_singleton.mp hother
    simp [matchesTopic, plain]

/-- Without a row the mapping stays possible exactly if it does not name the row. -/
theorem couldAnswer_remove_iff (keys : Keys devices) {device : DeviceEntity}
    (hdevice : device ∈ devices) (h : CouldAnswer devices topic (some cached)) :
    CouldAnswer (Keyed.remove DeviceEntity.id device.id devices) topic (some cached) ↔
      cached.deviceId ≠ device.deviceId := by
  rw [couldAnswer_some_iff] at h ⊢
  obtain ⟨queryable, owner, howner, selected, answer⟩ := h
  have named := deviceId_of_answerOf answer
  constructor
  · rintro ⟨-, other, hother, -, otherAnswer⟩ same
    obtain ⟨hother, hne⟩ := Keyed.mem_remove_iff.mp hother
    have deviceId := (deviceId_of_answerOf otherAnswer).symm.trans same
    exact hne (congrArg _ (keys.deviceIds.eq_of_key hother hdevice deviceId))
  · intro hne
    refine ⟨fun other hother => queryable other (Keyed.mem_remove_iff.mp hother).1, owner,
      Keyed.mem_remove_iff.mpr ⟨howner, fun same => hne ?_⟩, selected, answer⟩
    rw [named, keys.ids.eq_of_key howner hdevice same]

/-- After an edit that keeps the stored topics, the mapping stays possible exactly if the
row it names is still on MQTT push and the edited row does not make the query throw. -/
theorem couldAnswer_modify_iff (keys : Keys devices) {device after : DeviceEntity}
    (hdevice : device ∈ devices) (deviceId : after.deviceId = device.deviceId)
    (topics : after.mqttTopics = device.mqttTopics)
    (h : CouldAnswer devices topic (some cached)) :
    CouldAnswer (Keyed.modify DeviceEntity.id device.id (fun _ => after) devices) topic
        (some cached) ↔
      (cached.deviceId = device.deviceId → after.pushChannel = .mqtt) ∧
        (after.pushChannel = .mqtt → matchesTopic device topic ≠ none) := by
  have stays : after ∈ Keyed.modify DeviceEntity.id device.id (fun _ => after) devices :=
    Keyed.mem_modify_iff.mpr (Or.inl ⟨device, hdevice, rfl, rfl⟩)
  rw [couldAnswer_some_iff] at h ⊢
  obtain ⟨queryable, owner, howner, selected, answer⟩ := h
  have named := deviceId_of_answerOf answer
  constructor
  · rintro ⟨still, other, hother, otherSelected, otherAnswer⟩
    refine ⟨fun same => ?_, fun push => ?_⟩
    · rcases Keyed.mem_modify_iff.mp hother with ⟨-, -, -, rfl⟩ | ⟨hother, hne⟩
      · exact otherSelected.1
      · have otherId := (deviceId_of_answerOf otherAnswer).symm.trans same
        exact absurd (congrArg _ (keys.deviceIds.eq_of_key hother hdevice otherId)) hne
    · rw [← matchesTopic_congr topics]
      exact still after stays push
  · rintro ⟨push, still⟩
    refine ⟨fun other hother otherPush => ?_, ?_⟩
    · rcases Keyed.mem_modify_iff.mp hother with ⟨-, -, -, rfl⟩ | ⟨hother, -⟩
      · rw [matchesTopic_congr topics]
        exact still otherPush
      · exact queryable other hother otherPush
    · rcases eq_or_ne owner.id device.id with same | hne
      · obtain rfl := keys.ids.eq_of_key howner hdevice same
        exact ⟨after, stays, ⟨push named, (matchesTopic_congr topics topic).trans selected.2⟩,
          (answerOf_congr topics deviceId topic).trans answer⟩
      · exact ⟨owner, Keyed.mem_modify_iff.mpr (Or.inr ⟨howner, hne⟩), selected, answer⟩

end Lookups

/-! ### Steps -/

/-- A message adds at most what the lookup answered for its topic. -/
theorem get_handleAny {rows : List DeviceEntity} {registry : MqttTopicRegistry} {now : Date}
    {topic topic' : String} {cached : ResolvedMqttTopic}
    (h : (handleAny rows registry now topic).2.get topic' = some cached) :
    registry.get topic' = some cached ∨
      (topic' = topic ∧ resolveCustomMqttTopic rows topic = some (some cached)) := by
  by_cases shaped : DefaultShaped topic
  · rw [(handleAny_of_shaped shaped rows registry now).1] at h
    exact Or.inl h
  · rw [handleAny_of_not_shaped shaped] at h
    unfold resolveCustomTopic at h
    split at h
    · exact Or.inl h
    · split at h
      · exact Or.inl h
      · split at h
        · exact Or.inl h
        · exact Or.inl h
        · next resolved hresolved =>
          rcases eq_or_ne topic' topic with rfl | hne
          · have stored : (registry.recordHit topic' resolved).get topic' = some resolved :=
              Finmap.lookup_insert _
            obtain rfl := Option.some.inj (stored.symm.trans h)
            exact Or.inr ⟨rfl, hresolved⟩
          · refine Or.inl (Eq.trans ?_ h)
            exact (Finmap.lookup_insert_of_ne _ hne).symm

namespace TopicWorld

variable {w : TopicWorld}

theorem Standing.keys_step (h : w.Standing) (e : TopicEvent) : Keys (w.step e).devices := by
  cases e with
  | registerDevice id now userId factoryId dto => exact h.keys.afterRegister ..
  | updateDeviceConfig userId id dto => exact h.keys.afterUpdateConfig ..
  | deleteDevice userId id => exact h.keys.afterDelete ..
  | message rows now topic data =>
    exact h.keys.of_lookupColumns (lookupColumns_afterDispatch h.keys now data _)

/-- A registered row has no stored topics. -/
theorem coherent_register (h : w.Standing) (id : String) (now : Date) (userId : String)
    (factoryId : Option String) (dto : RegisterDeviceDto) :
    (w.step (.registerDevice id now userId factoryId dto)).Coherent := by
  intro topic cached hcached
  have could := h.coherent topic cached hcached
  show CouldAnswer (afterRegister id now userId factoryId dto w.templates w.devices) _ _
  rcases afterRegister_cases id now userId factoryId dto w.templates w.devices with same |
    ⟨row, rfl, -, -, inserted⟩
  · rwa [same]
  · rw [inserted]
    exact could.concat rfl

/-- The cache gets only what the lookup has just returned. -/
theorem coherent_message (h : w.Standing) (rows : RowOrder) (now : Date) (topic : String)
    (data : MqttData) : (w.step (.message rows now topic data)).Coherent := by
  intro topic' cached hcached
  have same := lookupColumns_afterDispatch h.keys now data
    (handleAny (rows.order w.devices) w.registry now topic).1
  refine CouldAnswer.of_lookupColumns same ?_
  rcases get_handleAny hcached with hcached | ⟨rfl, hresolved⟩
  · exact h.coherent topic' cached hcached
  · exact ⟨rows.order w.devices, rows.perm w.devices, hresolved⟩

theorem coherent_delete_iff (h : w.Standing) (userId id : String) :
    (w.step (.deleteDevice userId id)).Coherent ↔ w.SparesCached (.deleteDevice userId id) := by
  unfold Coherent SparesCached
  show (∀ topic cached, w.registry.get topic = some cached →
    CouldAnswer (afterDelete userId id w.devices) topic (some cached)) ↔ _
  cases hfind : findOwnedDevice w.devices userId id with
  | none =>
    rw [afterDelete_of_none hfind]
    exact iff_of_true h.coherent (by simp [hfind])
  | some device =>
    obtain ⟨hdevice, -, -⟩ := (findInScope_eq_some_iff h.keys).mp hfind
    rw [afterDelete_of_some hfind]
    simp only [hfind, Option.some_inj, forall_eq']
    refine forall_congr' fun topic => forall_congr' fun cached => forall_congr' fun hcached => ?_
    exact couldAnswer_remove_iff h.keys hdevice (h.coherent topic cached hcached)

theorem coherent_update_iff (h : w.Standing) (userId id : String) (dto : UpdateDeviceConfigDto) :
    (w.step (.updateDeviceConfig userId id dto)).Coherent ↔
      w.SparesCached (.updateDeviceConfig userId id dto) := by
  unfold Coherent SparesCached step
  cases hfind : findOwnedDevice w.devices userId id with
  | none =>
    simp only [afterUpdateConfig_of_none hfind, hfind, updateDeviceConfig, Bool.false_eq_true,
      if_false]
    exact iff_of_true h.coherent (by simp)
  | some device =>
    obtain ⟨hdevice, rfl, -⟩ := (findInScope_eq_some_iff h.keys).mp hfind
    simp only [afterUpdateConfig_of_some hfind, hfind, updateDeviceConfig]
    cases hmqtt : dto.mqtt with
    | some mqtt =>
      refine iff_of_true (fun topic cached hcached => ?_) (by simp)
      cases hcached
    | none =>
      have topics : (applyConfigDto dto device).mqttTopics = device.mqttTopics := by
        unfold DeviceEntity.mqttTopics
        rw [applyConfigDto_mqttConfig, hmqtt]
        rfl
      simp only [Option.isSome_none, Bool.false_eq_true, if_false, Option.some_inj, forall_eq',
        true_implies]
      refine forall_congr' fun topic => forall_congr' fun cached => forall_congr' fun hcached => ?_
      exact couldAnswer_modify_iff h.keys hdevice rfl topics (h.coherent topic cached hcached)

theorem coherent_step_iff (h : w.Standing) (e : TopicEvent) :
    (w.step e).Coherent ↔ w.SparesCached e := by
  cases e with
  | registerDevice id now userId factoryId dto =>
    exact iff_of_true (coherent_register h id now userId factoryId dto) trivial
  | updateDeviceConfig userId id dto => exact coherent_update_iff h userId id dto
  | deleteDevice userId id => exact coherent_delete_iff h userId id
  | message rows now topic data =>
    exact iff_of_true (coherent_message h rows now topic data) trivial

end TopicWorld

open TopicWorld in
/-- From any database and an empty cache, every cached entry is one the lookup could return
in every state of the run, exactly when each step spares what is cached. -/
theorem topic_cache_coherent_iff (devices : List DeviceEntity)
    (templates : List DeviceTemplateEntity) (keys : Keys devices) (es : List TopicEvent) :
    (∀ pre, pre <+: es → (Run.exec step ⟨devices, templates, .empty⟩ pre).Coherent) ↔
      Run.Meets step SparesCached ⟨devices, templates, .empty⟩ es := by
  have start : Standing ⟨devices, templates, .empty⟩ := by
    refine ⟨keys, fun topic cached hcached => ?_⟩
    cases hcached
  have keeps : ∀ w e, Standing w → SparesCached w e → Standing (w.step e) :=
    fun w e h spares => ⟨h.keys_step e, (coherent_step_iff h e).mpr spares⟩
  exact Run.always_iff_meets (fun w h => h.coherent) keeps
    (fun w e h => (coherent_step_iff h e).mp) start es

theorem lineA_keys : Keys [lineA] := ⟨List.nodup_singleton _, List.nodup_singleton _⟩

/-- A telemetry message on the override of `lineA`. -/
def onPlant : TopicEvent :=
  .message ⟨id, fun devices => List.Perm.refl devices⟩ 0 "plant"
    ⟨.number 21, {}, {}⟩

/-- An edit that carries `mqtt` clears the cache before the deletion. -/
theorem topic_cache_coherent_iff_cleared :
    (Run.exec TopicWorld.step ⟨[lineA], [], .empty⟩
      [onPlant, .updateDeviceConfig "u1" "a" { mqtt := some none },
        .deleteDevice "u1" "a"]).Coherent := by
  refine (topic_cache_coherent_iff [lineA] [] lineA_keys
    [onPlant, .updateDeviceConfig "u1" "a" { mqtt := some none }, .deleteDevice "u1" "a"]).mpr
      ⟨trivial, ?_, ?_, trivial⟩ _ (List.prefix_refl _)
  · rintro ⟨⟩
  · intro device _ topic cached hcached
    cases hcached

/-- After the deletion the topic is still mapped to the device. -/
theorem topic_cache_not_coherent :
    ¬ (Run.exec TopicWorld.step ⟨[lineA], [], .empty⟩
      [onPlant, .deleteDevice "u1" "a"]).Coherent := by
  intro coherent
  have could := coherent "plant" ⟨"a", .telemetry⟩ (by decide)
  obtain ⟨-, device, hdevice, -⟩ := couldAnswer_some_iff.mp could
  cases hdevice

end AiotCloud
