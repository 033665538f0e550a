import AiotCloud.ActionDispatch
import AiotCloud.Lib.Run
import AiotCloud.Lib.Table

/-!
# Uplink routing

`MqttController.handleAny` with `MqttTopicRegistryService` and
`resolveCustomMqttTopic`: which handler gets a message, and for which device. A topic
of a default shape is routed by its regex. Any other topic is looked up among the
stored configs; the query has no order, so its rows come in any (`rows`).

1. `uplink_routed_iff`: an uplink topic of a boot response is routed to its device and
   role, whatever the order of the rows, exactly when it is the default topic, or has no
   default shape, is an override found for that role, and no other MQTT-push device
   stores it.
2. `uplink_routed_run`: then it is routed so after any messages.
-/

namespace AiotCloud

/-! ## `MqttTopicRegistryService` -/

inductive MqttTopicRole where
  | telemetry
  | status
  | event
  | command
deriving DecidableEq, Repr

structure ResolvedMqttTopic where
  deviceId : String
  role : MqttTopicRole
deriving DecidableEq, Repr

/-- `NEGATIVE_TTL_MS`. -/
def negativeTtlMs : Int := 60000

structure MqttTopicRegistry where
  resolved : Record ResolvedMqttTopic
  missedAt : Record Date

namespace MqttTopicRegistry

def empty : MqttTopicRegistry := ⟨∅, ∅⟩

def get (registry : MqttTopicRegistry) (topic : String) : Option ResolvedMqttTopic :=
  registry.resolved.lookup topic

def isRecentMiss (registry : MqttTopicRegistry) (now : Date) (topic : String) : Bool :=
  match registry.missedAt.lookup topic with
  | some missedAt => now - missedAt < negativeTtlMs
  | none => false

def recordHit (registry : MqttTopicRegistry) (topic : String) (resolved : ResolvedMqttTopic) :
    MqttTopicRegistry :=
  ⟨registry.resolved.insert topic resolved, registry.missedAt.erase topic⟩

def recordMiss (registry : MqttTopicRegistry) (now : Date) (topic : String) : MqttTopicRegistry :=
  ⟨registry.resolved, registry.missedAt.insert topic now⟩

end MqttTopicRegistry

/-! ## `resolveCustomMqttTopic` -/

/-- The arms of the `WHERE` clause before the channel list. -/
def DeviceMqttTopics.names (topics : DeviceMqttTopics) (topic : String) : Bool :=
  topics.telemetry == topic || topics.status == some topic || topics.event == some topic ||
    topics.command == some topic || topics.ota == some topic

/-- The `WHERE` clause on one row; `none` when it throws. `jsonb_array_elements` throws
on a JSON `null`: `COALESCE` only replaces a missing channel list. -/
def matchesTopic (device : DeviceEntity) (topic : String) : Option Bool :=
  match device.mqttTopics with
  | none => some false
  | some topics =>
    if topics.names topic then some true
    else if topics.channels = some none then none
    else some (topics.channelList.any (·.topic == topic))

/-- The role of a topic of the found row. -/
def roleOf (topics : DeviceMqttTopics) (topic : String) : Option MqttTopicRole :=
  if topics.telemetry = topic then some .telemetry
  else if topics.status = some topic then some .status
  else if topics.event = some topic then some .event
  else if topics.command = some topic ∨ topics.ota = some topic ∨
      topics.channelList.any (·.topic == topic) then some .command
  else none

/-- The answer of the lookup; `none` when the query throws. -/
def resolveCustomMqttTopic (rows : List DeviceEntity) (topic : String) :
    Option (Option ResolvedMqttTopic) :=
  if rows.any fun device => device.pushChannel = .mqtt ∧ matchesTopic device topic = none then none
  else
    let found := rows.find? fun device =>
      device.pushChannel = .mqtt ∧ matchesTopic device topic = some true
    some (found.bind fun device => device.mqttTopics.bind fun topics =>
      (roleOf topics topic).map (⟨device.deviceId, ·⟩))

/-! ## `MqttController` -/

/-- What a device sends on topics of its own. -/
inductive Uplink where
  | telemetry
  | status
  | event
deriving DecidableEq, Repr

/-- The handler a message goes to, with the device id it is given. -/
inductive Dispatch where
  | uplink (kind : Uplink) (deviceId : String)
  | otaStatus (deviceId : String)
deriving DecidableEq, Repr

/-- A downlink topic goes to no handler: it is the echo of an own publish. -/
def dispatchByRole (resolved : ResolvedMqttTopic) : Option Dispatch :=
  match resolved.role with
  | .telemetry => some (.uplink .telemetry resolved.deviceId)
  | .status => some (.uplink .status resolved.deviceId)
  | .event => some (.uplink .event resolved.deviceId)
  | .command => none

def resolveCustomTopic (rows : List DeviceEntity) (registry : MqttTopicRegistry) (now : Date)
    (topic : String) : Option Dispatch × MqttTopicRegistry :=
  match registry.get topic with
  | some cached => (dispatchByRole cached, registry)
  | none =>
    if registry.isRecentMiss now topic then (none, registry)
    else
      match resolveCustomMqttTopic rows topic with
      | none => (none, registry)
      | some none => (none, registry.recordMiss now topic)
      | some (some resolved) => (dispatchByRole resolved, registry.recordHit topic resolved)

/-- Where a message on the topic goes, and the topic cache after it. -/
def handleAny (rows : List DeviceEntity) (registry : MqttTopicRegistry) (now : Date)
    (topic : String) : Option Dispatch × MqttTopicRegistry :=
  match exec telemetryTopicRegex topic with
  | some deviceId => (some (.uplink .telemetry deviceId), registry)
  | none =>
    match exec statusTopicRegex topic with
    | some deviceId => (some (.uplink .status deviceId), registry)
    | none =>
      match exec eventTopicRegex topic with
      | some deviceId => (some (.uplink .event deviceId), registry)
      | none =>
        match exec otaStatusTopicRegex topic with
        | some deviceId => (some (.otaStatus deviceId), registry)
        | none =>
          if test commandTopicRegex topic || test channelCommandTopicRegex topic ||
              test otaTopicRegex topic then (none, registry)
          else resolveCustomTopic rows registry now topic

/-! ## Topics of a default shape -/

/-- The topic has one of the seven default shapes. -/
def DefaultShaped (topic : String) : Prop :=
  (exec telemetryTopicRegex topic).isSome ∨ (exec statusTopicRegex topic).isSome ∨
    (exec eventTopicRegex topic).isSome ∨ (exec otaStatusTopicRegex topic).isSome ∨
    (test commandTopicRegex topic || test channelCommandTopicRegex topic ||
      test otaTopicRegex topic) = true

instance (topic : String) : Decidable (DefaultShaped topic) :=
  inferInstanceAs (Decidable (_ ∨ _))

def Uplink.defaultTopic : Uplink → String → String
  | .telemetry => defaultTelemetryTopic
  | .status => defaultStatusTopic
  | .event => defaultEventTopic

theorem exec_telemetry_iff {topic id : String} :
    exec telemetryTopicRegex topic = some id ↔
      IsSegment id ∧ topic = Uplink.defaultTopic .telemetry id := exec_iff rfl

theorem exec_status_iff {topic id : String} :
    exec statusTopicRegex topic = some id ↔
      IsSegment id ∧ topic = Uplink.defaultTopic .status id := exec_iff rfl

theorem exec_event_iff {topic id : String} :
    exec eventTopicRegex topic = some id ↔
      IsSegment id ∧ topic = Uplink.defaultTopic .event id := exec_iff rfl

/-- Default topics of different kinds differ. -/
theorem Uplink.eq_of_defaultTopic {kind kind' : Uplink} {id id' : String}
    (h : kind.defaultTopic id = kind'.defaultTopic id') : kind = kind' := by
  have differ : ∀ {suffix suffix' : String},
      suffix.toList.getLast? ≠ suffix'.toList.getLast? → suffix ≠ "" → suffix' ≠ "" →
      "devices/" ++ id ++ suffix ≠ "devices/" ++ id' ++ suffix' := topic_ne_of_last
  cases kind with
  | telemetry =>
    cases kind' with
    | telemetry => rfl
    | status => exact absurd h (differ (by decide) (by decide) (by decide))
    | event => exact absurd h (differ (by decide) (by decide) (by decide))
  | status =>
    cases kind' with
    | telemetry => exact absurd h (differ (by decide) (by decide) (by decide))
    | status => rfl
    | event => exact absurd h (differ (by decide) (by decide) (by decide))
  | event =>
    cases kind' with
    | telemetry => exact absurd h (differ (by decide) (by decide) (by decide))
    | status => exact absurd h (differ (by decide) (by decide) (by decide))
    | event => rfl

/-- A topic of a default shape goes to the device and role it is the default topic of,
and leaves the cache. -/
theorem handleAny_of_shaped {topic : String} (shaped : DefaultShaped topic)
    (rows : List DeviceEntity) (registry : MqttTopicRegistry) (now : Date) :
    (handleAny rows registry now topic).2 = registry ∧
      ∀ (kind : Uplink) id, (handleAny rows registry now topic).1 = some (.uplink kind id) ↔
        IsSegment id ∧ topic = kind.defaultTopic id := by
  -- a match for one kind and a default topic of another exclude one another
  have routed : ∀ {kind' : Uplink} {id' : String}, IsSegment id' → topic = kind'.defaultTopic id' →
      (∀ id, IsSegment id ∧ topic = kind'.defaultTopic id → id' = id) → ∀ (kind : Uplink) id,
      some (Dispatch.uplink kind' id') = some (.uplink kind id) ↔
        IsSegment id ∧ topic = kind.defaultTopic id := by
    intro kind' id' segment htopic unique kind id
    constructor
    · intro heq
      obtain ⟨rfl, rfl⟩ := Dispatch.uplink.inj (Option.some_inj.mp heq)
      exact ⟨segment, htopic⟩
    · rintro ⟨hsegment, htopic'⟩
      obtain rfl := Uplink.eq_of_defaultTopic (htopic.symm.trans htopic')
      rw [unique id ⟨hsegment, htopic'⟩]
  unfold handleAny
  cases htelemetry : exec telemetryTopicRegex topic with
  | some id' =>
    obtain ⟨segment, htopic⟩ := exec_telemetry_iff.mp htelemetry
    refine ⟨rfl, routed segment htopic fun id h => ?_⟩
    exact Option.some_inj.mp (htelemetry.symm.trans (exec_telemetry_iff.mpr h))
  | none =>
    cases hstatus : exec statusTopicRegex topic with
    | some id' =>
      obtain ⟨segment, htopic⟩ := exec_status_iff.mp hstatus
      refine ⟨rfl, routed segment htopic fun id h => ?_⟩
      exact Option.some_inj.mp (hstatus.symm.trans (exec_status_iff.mpr h))
    | none =>
      cases hevent : exec eventTopicRegex topic with
      | some id' =>
        obtain ⟨segment, htopic⟩ := exec_event_iff.mp hevent
        refine ⟨rfl, routed segment htopic fun id h => ?_⟩
        exact Option.some_inj.mp (hevent.symm.trans (exec_event_iff.mpr h))
      | none =>
        -- no uplink regex matches, so the topic is no segment's default topic
        have unrouted : ∀ (kind : Uplink) id, ¬ (IsSegment id ∧ topic = kind.defaultTopic id) := by
          intro kind id h
          cases kind with
          | telemetry => exact absurd (htelemetry.symm.trans (exec_telemetry_iff.mpr h)) (by simp)
          | status => exact absurd (hstatus.symm.trans (exec_status_iff.mpr h)) (by simp)
          | event => exact absurd (hevent.symm.trans (exec_event_iff.mpr h)) (by simp)
        cases hota : exec otaStatusTopicRegex topic with
        | some id' =>
          exact ⟨rfl, fun kind id => ⟨fun heq => absurd heq (by simp),
            fun h => absurd h (unrouted kind id)⟩⟩
        | none =>
          have downlink : (test commandTopicRegex topic || test channelCommandTopicRegex topic ||
              test otaTopicRegex topic) = true := by
            simpa [DefaultShaped, htelemetry, hstatus, hevent, hota] using shaped
          simp only [downlink, if_true]
          exact ⟨trivial, fun kind id => ⟨fun heq => absurd heq (by simp),
            fun h => absurd h (unrouted kind id)⟩⟩

theorem handleAny_of_not_shaped {topic : String} (custom : ¬ DefaultShaped topic)
    (rows : List DeviceEntity) (registry : MqttTopicRegistry) (now : Date) :
    handleAny rows registry now topic = resolveCustomTopic rows registry now topic := by
  simp only [DefaultShaped, not_or, Option.not_isSome_iff_eq_none] at custom
  obtain ⟨htelemetry, hstatus, hevent, hota, hdownlink⟩ := custom
  simp only [handleAny, htelemetry, hstatus, hevent, hota]
  exact if_neg hdownlink

/-! ## Overrides -/

/-- The device's topic of the kind. -/
def Uplink.topicOf (topics : DeviceMqttTopics) : Uplink → Option String
  | .telemetry => some topics.telemetry
  | .status => topics.status
  | .event => topics.event

def Uplink.role : Uplink → MqttTopicRole
  | .telemetry => .telemetry
  | .status => .status
  | .event => .event

/-- The kinds the lookup tries first. -/
def Uplink.before : Uplink → List Uplink
  | .telemetry => []
  | .status => [.telemetry]
  | .event => [.telemetry, .status]

/-- The stored config of the device has the topic somewhere. -/
def Stores (device : DeviceEntity) (topic : String) : Prop :=
  matchesTopic device topic = some true

/-- No lookup throws: no MQTT-push device has `channels: null` stored. -/
def Readable (devices : List DeviceEntity) : Prop :=
  ∀ device ∈ devices, device.pushChannel = .mqtt → ∀ topics, device.mqttTopics = some topics →
    topics.channels ≠ some none

theorem matchesTopic_ne_none {devices : List DeviceEntity} (readable : Readable devices)
    {device : DeviceEntity} (hd : device ∈ devices) (push : device.pushChannel = .mqtt)
    (topic : String) : matchesTopic device topic ≠ none := by
  unfold matchesTopic
  cases htopics : device.mqttTopics with
  | none => simp
  | some topics =>
    have hchannels := readable device hd push topics htopics
    simp only [hchannels, if_false]
    split <;> simp

theorem dispatchByRole_eq_iff {resolved : ResolvedMqttTopic} {kind : Uplink} {id : String} :
    dispatchByRole resolved = some (.uplink kind id) ↔ resolved = ⟨id, kind.role⟩ := by
  obtain ⟨deviceId, role⟩ := resolved
  unfold dispatchByRole
  cases role <;> cases kind <;> simp [Uplink.role]

/-- From an empty cache a topic is dispatched as the lookup resolves it. -/
theorem resolveCustomTopic_empty {rows : List DeviceEntity} {now : Date} {topic : String}
    {kind : Uplink} {id : String} :
    (resolveCustomTopic rows .empty now topic).1 = some (.uplink kind id) ↔
      resolveCustomMqttTopic rows topic = some (some ⟨id, kind.role⟩) := by
  have miss : MqttTopicRegistry.empty.get topic = none := rfl
  have recent : MqttTopicRegistry.empty.isRecentMiss now topic = false := rfl
  simp only [resolveCustomTopic, miss, recent]
  cases resolveCustomMqttTopic rows topic with
  | none => simp
  | some found =>
    cases found with
    | none => simp
    | some resolved =>
      show dispatchByRole resolved = _ ↔ _
      rw [dispatchByRole_eq_iff, Option.some_inj, Option.some_inj]

/-- The found row has the role of the kind just when no field tried first has the
topic. -/
theorem roleOf_eq_iff {topics : DeviceMqttTopics} {kind : Uplink} {topic : String}
    (htopic : kind.topicOf topics = some topic) :
    roleOf topics topic = some kind.role ↔
      ∀ earlier ∈ kind.before, earlier.topicOf topics ≠ some topic := by
  unfold roleOf
  cases kind with
  | telemetry =>
    have hfield : topics.telemetry = topic := by simpa [Uplink.topicOf] using htopic
    simp [Uplink.before, Uplink.role, hfield]
  | status =>
    have hfield : topics.status = some topic := htopic
    simp only [Uplink.before, Uplink.role, Uplink.topicOf, hfield, List.forall_mem_singleton,
      if_true, ne_eq, Option.some_inj]
    split
    · next h => simp [h]
    · next h => simp [h]
  | event =>
    have hfield : topics.event = some topic := htopic
    simp only [Uplink.before, Uplink.role, Uplink.topicOf, hfield, List.forall_mem_cons,
      if_true, ne_eq, Option.some_inj]
    split
    · next h => simp [h]
    · next h =>
      split
      · next h' => simp [h']
      · next h' => simp [h, h']

theorem stores_of_topicOf {device : DeviceEntity} {topics : DeviceMqttTopics}
    (htopics : device.mqttTopics = some topics) {kind : Uplink} {topic : String}
    (htopic : kind.topicOf topics = some topic) : Stores device topic := by
  have named : topics.names topic = true := by
    unfold DeviceMqttTopics.names
    cases kind with
    | telemetry => simp [show topics.telemetry = topic by simpa [Uplink.topicOf] using htopic]
    | status => simp [show topics.status = some topic from htopic]
    | event => simp [show topics.event = some topic from htopic]
  unfold Stores matchesTopic
  simp [htopics, named]

/-- A device is found for its topic in every order of the rows exactly when the topic
has the kind's role and no other MQTT-push device stores it. -/
theorem resolved_iff {devices : List DeviceEntity}
    (distinct : (devices.map (·.deviceId)).Nodup) (readable : Readable devices)
    {device : DeviceEntity} (hd : device ∈ devices) (push : device.pushChannel = .mqtt)
    {topics : DeviceMqttTopics} (htopics : device.mqttTopics = some topics) {kind : Uplink}
    {topic : String} (htopic : kind.topicOf topics = some topic) :
    (∀ rows : List DeviceEntity, rows.Perm devices →
      resolveCustomMqttTopic rows topic = some (some ⟨device.deviceId, kind.role⟩)) ↔
    (∀ earlier ∈ kind.before, earlier.topicOf topics ≠ some topic) ∧
      ∀ other ∈ devices, other.pushChannel = .mqtt → Stores other topic → other = device := by
  have answers : ∀ rows : List DeviceEntity, rows.Perm devices →
      resolveCustomMqttTopic rows topic =
        some ((rows.find? fun device =>
          device.pushChannel = .mqtt ∧ matchesTopic device topic = some true).bind fun device =>
            device.mqttTopics.bind fun topics =>
              (roleOf topics topic).map (⟨device.deviceId, ·⟩)) := by
    intro rows perm
    refine if_neg fun throws => ?_
    obtain ⟨row, hrow, hthrows⟩ := List.any_eq_true.mp throws
    obtain ⟨hpush, hnone⟩ := of_decide_eq_true hthrows
    exact matchesTopic_ne_none readable (perm.mem_iff.mp hrow) hpush topic hnone
  have hmatch : decide (device.pushChannel = .mqtt ∧ matchesTopic device topic = some true) =
      true := decide_eq_true ⟨push, stores_of_topicOf htopics htopic⟩
  rw [← roleOf_eq_iff htopic]
  constructor
  · intro resolved
    -- whatever comes first has the device's id, so it is the device
    have first : ∀ rows : List DeviceEntity, rows.Perm devices → (rows.find? fun device =>
        device.pushChannel = .mqtt ∧ matchesTopic device topic = some true) = some device := by
      intro rows perm
      have hanswer := (answers rows perm).symm.trans (resolved rows perm)
      obtain ⟨row, hfind, hrow⟩ := Option.bind_eq_some_iff.mp (Option.some_inj.mp hanswer)
      obtain ⟨_, _, hrole⟩ := Option.bind_eq_some_iff.mp hrow
      obtain ⟨_, _, hid⟩ := Option.map_eq_some_iff.mp hrole
      have hmem : row ∈ devices := perm.mem_iff.mp (List.mem_of_find?_eq_some hfind)
      have hsame : row.deviceId = device.deviceId := congrArg (·.deviceId) hid
      rw [hfind, List.inj_on_of_nodup_map distinct hmem hd hsame]
    obtain ⟨_, _, unique⟩ := Table.forall_perm_find?_iff.mp first
    refine ⟨?_, fun other hother hpush hstores => unique other hother ?_⟩
    · have hanswer := (answers devices (List.Perm.refl _)).symm.trans
        (resolved devices (List.Perm.refl _))
      rw [first devices (List.Perm.refl _)] at hanswer
      simp only [Option.bind_some, htopics, Option.some_inj, Option.map_eq_some_iff] at hanswer
      obtain ⟨role, hrole, hid⟩ := hanswer
      rw [hrole, (ResolvedMqttTopic.mk.inj hid).2]
    · exact decide_eq_true ⟨hpush, hstores⟩
  · rintro ⟨hrole, unique⟩ rows perm
    have only : ∀ other ∈ devices, decide (other.pushChannel = .mqtt ∧
        matchesTopic other topic = some true) = true → other = device := by
      intro other hother hp
      obtain ⟨hpush, hstores⟩ := of_decide_eq_true hp
      exact unique other hother hpush hstores
    rw [answers rows perm, Table.forall_perm_find?_iff.mpr ⟨hd, hmatch, only⟩ rows perm]
    simp [htopics, hrole]

/-! ## Uplink topics of a boot response -/

/-- The topic a boot response gives for the kind. -/
def uplinkTopic (boot : DeviceConfigDto) (kind : Uplink) : Option String :=
  boot.mqtt.bind fun mqtt => kind.topicOf mqtt.topics

/-- A message on the topic goes to the device and role, whatever the order of the rows. -/
def Routed (devices : List DeviceEntity) (registry : MqttTopicRegistry) (device : DeviceEntity)
    (kind : Uplink) (topic : String) : Prop :=
  ∀ rows : List DeviceEntity, rows.Perm devices → ∀ now,
    (handleAny rows registry now topic).1 = some (.uplink kind device.deviceId)

/-- An override the lookup finds for the device and the kind, and for no other. -/
structure OwnOverride (devices : List DeviceEntity) (device : DeviceEntity) (kind : Uplink)
    (topic : String) : Prop where
  custom : ¬ DefaultShaped topic
  first : ∀ topics, device.mqttTopics = some topics →
    ∀ earlier ∈ kind.before, earlier.topicOf topics ≠ some topic
  only : ∀ other ∈ devices, other.pushChannel = .mqtt → Stores other topic → other = device

theorem topicOf_buildMqttTopics (device : DeviceEntity) (template : Option DeviceTemplateEntity)
    (base : DeviceMqttTopics) (kind : Uplink) :
    kind.topicOf (buildMqttTopics device template base) = kind.topicOf base := by
  unfold buildMqttTopics
  split
  · cases kind <;> rfl
  · rfl

/-- An uplink topic of a boot response is the default one or a stored one. -/
theorem uplinkTopic_cases {env : ApiConfig} {template : Option DeviceTemplateEntity}
    {device : DeviceEntity} (push : device.pushChannel = .mqtt) {boot : DeviceConfigDto}
    (hboot : (getBootConfig env template (some device)).1.data = some boot) {kind : Uplink}
    {topic : String} (htopic : uplinkTopic boot kind = some topic) :
    topic = kind.defaultTopic device.deviceId ∨
      ∃ topics, device.mqttTopics = some topics ∧ kind.topicOf topics = some topic := by
  have hmqtt : boot.mqtt = some (bootMqttConfig env device template) := by
    simp only [getBootConfig, push, reduceCtorEq, if_false, ResponseCore.ok, Option.some_inj]
      at hboot
    rw [← hboot]
    simp [bootConfig, push]
  rw [uplinkTopic, hmqtt, Option.bind_some, bootMqttConfig, topicOf_buildMqttTopics] at htopic
  cases hstored : device.mqttConfig with
  | none =>
    refine Or.inl (Eq.symm ?_)
    cases kind <;> simpa [Uplink.topicOf, Uplink.defaultTopic, mqttBase, hstored] using htopic
  | some mqtt =>
    have htopics : device.mqttTopics = some mqtt.topics := by
      simp [DeviceEntity.mqttTopics, hstored]
    cases kind with
    | telemetry =>
      exact Or.inr ⟨_, htopics, by simpa [Uplink.topicOf, mqttBase, hstored] using htopic⟩
    | status =>
      exact Or.inr ⟨_, htopics, by simpa [Uplink.topicOf, mqttBase, hstored] using htopic⟩
    | event =>
      -- a stored config without an event topic gets the default one
      cases hevent : mqtt.topics.event with
      | none =>
        refine Or.inl (Eq.symm ?_)
        simpa [Uplink.topicOf, Uplink.defaultTopic, mqttBase, hstored, hevent] using htopic
      | some event =>
        refine Or.inr ⟨_, htopics, ?_⟩
        simpa [Uplink.topicOf, mqttBase, hstored, hevent] using htopic

theorem shaped_of_defaultTopic {id : String} (segment : IsSegment id) (kind : Uplink) :
    DefaultShaped (kind.defaultTopic id) := by
  cases kind with
  | telemetry => exact Or.inl (by simp [exec_telemetry_iff.mpr ⟨segment, rfl⟩])
  | status => exact Or.inr (Or.inl (by simp [exec_status_iff.mpr ⟨segment, rfl⟩]))
  | event => exact Or.inr (Or.inr (Or.inl (by simp [exec_event_iff.mpr ⟨segment, rfl⟩])))

theorem routed_of_default {id : String} (segment : IsSegment id) (kind : Uplink)
    (rows : List DeviceEntity) (registry : MqttTopicRegistry) (now : Date) :
    (handleAny rows registry now (kind.defaultTopic id)).1 = some (.uplink kind id) :=
  ((handleAny_of_shaped (shaped_of_defaultTopic segment kind) rows registry now).2 kind id).mpr
    ⟨segment, rfl⟩

/-- From an empty cache a topic of no default shape is routed as the lookup resolves it. -/
theorem routed_empty_iff {devices : List DeviceEntity} {device : DeviceEntity} {kind : Uplink}
    {topic : String} (custom : ¬ DefaultShaped topic) :
    Routed devices .empty device kind topic ↔
      ∀ rows : List DeviceEntity, rows.Perm devices →
        resolveCustomMqttTopic rows topic = some (some ⟨device.deviceId, kind.role⟩) := by
  unfold Routed
  simp only [handleAny_of_not_shaped custom, resolveCustomTopic_empty, forall_const]

/-- An uplink topic of a boot response is routed from an empty cache to its device and
role, in every order of the rows, exactly when it is the device's default topic or an
own override. Left out: a default topic of an id with a slash, and lookups that throw. -/
theorem uplink_routed_iff {devices : List DeviceEntity}
    (distinct : (devices.map (·.deviceId)).Nodup) (readable : Readable devices)
    {device : DeviceEntity} (hd : device ∈ devices) (push : device.pushChannel = .mqtt)
    {env : ApiConfig} {template : Option DeviceTemplateEntity} {boot : DeviceConfigDto}
    (hboot : (getBootConfig env template (some device)).1.data = some boot) {kind : Uplink}
    {topic : String} (htopic : uplinkTopic boot kind = some topic)
    (segment : topic = kind.defaultTopic device.deviceId → IsSegment device.deviceId) :
    Routed devices .empty device kind topic ↔
      topic = kind.defaultTopic device.deviceId ∨ OwnOverride devices device kind topic := by
  rcases uplinkTopic_cases push hboot htopic with hdefault | ⟨topics, htopics, hstored⟩
  · refine ⟨fun _ => Or.inl hdefault, fun _ rows _ now => ?_⟩
    rw [hdefault]
    exact routed_of_default (segment hdefault) kind rows .empty now
  · have resolved := resolved_iff distinct readable hd push htopics hstored
    constructor
    · intro routed
      by_cases shaped : DefaultShaped topic
      · have now := routed devices (List.Perm.refl _) 0
        exact Or.inl (((handleAny_of_shaped shaped devices .empty 0).2 kind _).mp now).2
      · obtain ⟨first, only⟩ := resolved.mp ((routed_empty_iff shaped).mp routed)
        refine Or.inr ⟨shaped, fun topics' htopics' => ?_, only⟩
        obtain rfl := Option.some_inj.mp (htopics.symm.trans htopics')
        exact first
    · rintro (hdefault | own)
      · intro rows _ now
        rw [hdefault]
        exact routed_of_default (segment hdefault) kind rows .empty now
      · exact (routed_empty_iff own.custom).mpr (resolved.mpr ⟨own.first topics htopics, own.only⟩)

/-! ### Topics that go astray -/

def mqttDevice (deviceId : String) (topics : Option DeviceMqttTopics) : DeviceEntity :=
  { id := deviceId, deviceId := deviceId, name := "Line", templateId := "t1", userId := "u1"
    config := some
      { apiEndpoint := none, http := none, kafka := none
        mqtt := topics.map fun topics =>
          { broker := "localhost", port := 1883, username := none, password := none
            topics := topics } } }

def telemetryOn (topic : String) (channels : Option (Option (List DeviceMqttChannelTopic))) :
    DeviceMqttTopics :=
  { telemetry := topic, command := none, status := none, event := none, ota := none
    channels := channels }

def lineA : DeviceEntity := mqttDevice "a" (telemetryOn "plant" none)
def lineB : DeviceEntity := mqttDevice "b" (telemetryOn "plant" none)
def slashId : DeviceEntity := mqttDevice "a/b" none
def nullChannels : DeviceEntity := mqttDevice "c" (telemetryOn "other" (some none))

def bootOf (device : DeviceEntity) : DeviceConfigDto := bootConfig defaultEnv device none none

/-- Two devices that store one override, a default topic of an id with a slash, and an
override beside a device with `channels: null`: each message goes elsewhere. -/
theorem uplinks_not_routed :
    (uplinkTopic (bootOf lineA) .telemetry = some "plant" ∧
      ¬ Routed [lineA, lineB] .empty lineA .telemetry "plant") ∧
    (uplinkTopic (bootOf slashId) .telemetry = some "devices/a/b/telemetry" ∧
      ¬ Routed [slashId] .empty slashId .telemetry "devices/a/b/telemetry") ∧
    ¬ Routed [lineA, nullChannels] .empty lineA .telemetry "plant" := by
  refine ⟨⟨rfl, fun routed => ?_⟩, ⟨by decide, fun routed => ?_⟩, fun routed => ?_⟩
  · exact absurd (routed _ (List.Perm.swap _ _ _) 0) (by decide)
  · exact absurd (routed _ (List.Perm.refl _) 0) (by decide)
  · exact absurd (routed _ (List.Perm.refl _) 0) (by decide)

theorem uplink_routed_iff_lineA :
    Routed [lineA, slashId] .empty lineA .telemetry "plant" ↔
      "plant" = defaultTelemetryTopic "a" ∨
        OwnOverride [lineA, slashId] lineA .telemetry "plant" := by
  have readable : Readable [lineA, slashId] := by
    intro device hd _ topics htopics
    rcases List.mem_pair.mp hd with rfl | rfl
    · rw [← Option.some_inj.mp htopics]
      decide
    · have none : slashId.mqttTopics = none := rfl
      rw [none] at htopics
      exact absurd htopics (by simp)
  have boot : (getBootConfig defaultEnv none (some lineA)).1.data = some (bootOf lineA) := rfl
  exact uplink_routed_iff (by decide) readable List.mem_cons_self rfl boot rfl
    fun _ => by decide

/-! ## After other messages -/

/-- One message, with the order in which its lookup gets the rows. -/
structure MqttMessage (devices : List DeviceEntity) where
  rows : List DeviceEntity
  perm : rows.Perm devices
  now : Date
  topic : String

/-- The topic cache after a message. -/
def cacheStep {devices : List DeviceEntity} (registry : MqttTopicRegistry)
    (message : MqttMessage devices) : MqttTopicRegistry :=
  (handleAny message.rows registry message.now message.topic).2

/-- The cache has the right answer for the topic, or none. -/
structure Cached (topic : String) (resolved : ResolvedMqttTopic) (registry : MqttTopicRegistry) :
    Prop where
  hit : ∀ cached, registry.get topic = some cached → cached = resolved
  noMiss : registry.missedAt.lookup topic = none

theorem cached_step {devices : List DeviceEntity} {topic : String} {resolved : ResolvedMqttTopic}
    (found : ∀ rows : List DeviceEntity, rows.Perm devices →
      resolveCustomMqttTopic rows topic = some (some resolved))
    {registry : MqttTopicRegistry} (h : Cached topic resolved registry)
    (message : MqttMessage devices) : Cached topic resolved (cacheStep registry message) := by
  unfold cacheStep
  by_cases shaped : DefaultShaped message.topic
  · rw [(handleAny_of_shaped shaped message.rows registry message.now).1]
    exact h
  · rw [handleAny_of_not_shaped shaped]
    unfold resolveCustomTopic
    split
    · exact h
    · split
      · exact h
      · have hfound := found message.rows message.perm
        split
        · exact h
        · next hnone =>
          -- a miss is recorded for another topic
          have hne : topic ≠ message.topic := by
            rintro rfl
            exact absurd (hnone.symm.trans hfound) (by simp)
          refine ⟨h.hit, ?_⟩
          show (Finmap.insert _ _ _).lookup topic = none
          rw [Finmap.lookup_insert_of_ne _ hne, h.noMiss]
        · next answer hanswer =>
          rcases eq_or_ne topic message.topic with rfl | heq
          · obtain rfl : answer = resolved := by simpa using hanswer.symm.trans hfound
            refine ⟨fun cached hcached => ?_, Finmap.lookup_erase _ _⟩
            have hinsert : (registry.recordHit message.topic answer).get message.topic =
                some answer := Finmap.lookup_insert _
            exact (Option.some_inj.mp (hinsert.symm.trans hcached)).symm
          · refine ⟨fun cached hcached => h.hit cached ?_, ?_⟩
            · rw [← hcached]
              exact (Finmap.lookup_insert_of_ne _ heq).symm
            · show (Finmap.erase _ _).lookup topic = none
              rw [Finmap.lookup_erase_ne heq, h.noMiss]

theorem cached_run {devices : List DeviceEntity} {topic : String} {resolved : ResolvedMqttTopic}
    (found : ∀ rows : List DeviceEntity, rows.Perm devices →
      resolveCustomMqttTopic rows topic = some (some resolved))
    (messages : List (MqttMessage devices)) :
    Cached topic resolved (Run.exec cacheStep .empty messages) := by
  have empty : Cached topic resolved .empty :=
    ⟨fun cached hcached =>
        absurd hcached (by simp [MqttTopicRegistry.get, MqttTopicRegistry.empty]),
      by simp [MqttTopicRegistry.empty]⟩
  have keeps : ∀ registry (message : MqttMessage devices), Cached topic resolved registry →
      Cached topic resolved (cacheStep registry message) :=
    fun _ message h => cached_step found h message
  exact Run.invariant keeps empty messages

/-- A topic that is routed from an empty cache is routed the same after any messages,
while the rows stay. -/
theorem uplink_routed_run {devices : List DeviceEntity} {device : DeviceEntity} {kind : Uplink}
    {topic : String} (routed : Routed devices .empty device kind topic)
    (messages : List (MqttMessage devices)) :
    Routed devices (Run.exec cacheStep .empty messages) device kind topic := by
  intro rows perm now
  by_cases shaped : DefaultShaped topic
  · -- the cache plays no part
    have own := (handleAny_of_shaped shaped rows .empty now).2 kind device.deviceId
    have after := (handleAny_of_shaped shaped rows (Run.exec cacheStep .empty messages) now).2 kind
      device.deviceId
    exact after.mpr (own.mp (routed rows perm now))
  · have found := (routed_empty_iff shaped).mp routed
    have cached := cached_run found messages
    rw [handleAny_of_not_shaped shaped]
    unfold resolveCustomTopic
    cases hget : (Run.exec cacheStep MqttTopicRegistry.empty messages).get topic with
    | some hit =>
      rw [cached.hit hit hget]
      exact dispatchByRole_eq_iff.mpr rfl
    | none =>
      simp only [MqttTopicRegistry.isRecentMiss, cached.noMiss, found rows perm]
      exact dispatchByRole_eq_iff.mpr rfl

end AiotCloud
