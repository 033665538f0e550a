import AiotCloud.Lib.LastWriter
import AiotCloud.LiveFeed
import AiotCloud.StatusWriters

/-!
# The snapshot of the dashboard

`useDeviceSocket` keeps the latest payload of each device. It merges every telemetry payload
onto it, and every map of channel states; the server sends the whole map that a device has
accumulated, also the channels that the event is not about.

* `channelState_exec`: what the row holds for a channel after any messages.
* `sent_agrees_iff`: when one message leaves every field with its last report.
* `dashboard_snapshot_iff`: along any messages.
-/

namespace AiotCloud

open LastWriter

/-! ## `useDeviceSocket` -/

/-- The own fields of a value, as a spread copies them: the items of an array are under
their indices. -/
def Json.fields : Json → String → Option Json
  | .object fields, name => fields.lookup name
  | .array items, name => (items.zipIdx.find? fun item => toString item.2 == name).map (·.1)
  | _, _ => none

/-- `ILatestTelemetry`, with the fields of its payload. -/
structure LatestTelemetry where
  deviceId : String
  payload : String → Option Json
  recordedAt : Date

/-- `previousPayload ? { ...previousPayload, ...payload } : payload`, set for the device. -/
def mergeLatest (latestByDevice : Record LatestTelemetry) (deviceId : String)
    (payload : String → Option Json) (recordedAt : Date) : Record LatestTelemetry :=
  let previousPayload := (latestByDevice.lookup deviceId).map (·.payload)
  latestByDevice.insert deviceId
    { deviceId
      payload := match previousPayload with
        | some previousPayload => spread previousPayload payload
        | none => payload
      recordedAt }

/-- A map of channel states, as a payload. -/
def channelFields (channelStates : Record String) (name : String) : Option Json :=
  (channelStates.lookup name).map .string

/-- The handlers of the socket: the other events leave the snapshot. -/
def onEvent (latestByDevice : Record LatestTelemetry) : DeviceEvent → Record LatestTelemetry
  | .telemetry deviceId payload recordedAt =>
    mergeLatest latestByDevice deviceId payload.fields recordedAt
  | .channelState deviceId channelStates changedAt =>
    mergeLatest latestByDevice deviceId (channelFields channelStates) changedAt
  | .status .. | .actionResult .. | .otaStatus .. => latestByDevice

/-- `latestByDevice.get(deviceId)?.payload[name]`. -/
def latestField (latestByDevice : Record LatestTelemetry) (deviceId name : String) : Option Json :=
  (latestByDevice.lookup deviceId).bind (·.payload name)

/-! ## A device and a browser -/

/-- The row of a device, and the snapshots of a browser in its room. -/
structure Watched where
  device : DeviceEntity
  latestByDevice : Record LatestTelemetry

/-- A message is handled, and its events are delivered under the id that the gateway gives them. -/
def Watched.step (entityId : String) (w : Watched) (message : DeviceMessage) : Watched :=
  let handled := message.handle w.device.deviceId (some w.device)
  { device := handled.row w.device
    latestByDevice :=
      (handled.events.map (·.withDeviceId entityId)).foldl onEvent w.latestByDevice }

/-- A browser that has shown nothing yet. -/
def Watched.start (device : DeviceEntity) : Watched := ⟨device, ∅⟩

def Watched.field (entityId : String) (w : Watched) : String → Option Json :=
  latestField w.latestByDevice entityId

/-! ## What a message reports -/

/-- The channel that a message sets, and its value. -/
def DeviceMessage.applied : DeviceMessage → Option (String × String)
  | .event _ envelope =>
    if envelope.failed then none else envelope.channel.map (·, envelope.stored)
  | .telemetry .. | .status .. => none

/-- The value that a message sets for a channel. -/
def DeviceMessage.channelValue (message : DeviceMessage) (name : String) : Option String :=
  message.applied.bind fun (key, value) => if name = key then some value else none

/-- The value that a message carries for a field. -/
def DeviceMessage.reported : DeviceMessage → String → Option Json
  | .telemetry _ payload, name => (normalizePayload payload).fields name
  | message, name => (message.channelValue name).map .string

/-- What the row holds for a channel after the messages: the last value set, or else what
was stored before. -/
def storedChannel (device : DeviceEntity) (messages : List DeviceMessage) :
    String → Option String :=
  spread device.channelState (last DeviceMessage.channelValue messages)

/-- Whenever a message sets a channel, each other channel of the row has the value that was
last reported under its name. -/
def ChannelsCurrent (device : DeviceEntity) (messages : List DeviceMessage) : Prop :=
  ∀ before message, before ++ [message] <+: messages → ∀ key value,
    message.applied = some (key, value) → ∀ name, name ≠ key → ∀ state,
      storedChannel device before name = some state →
        last DeviceMessage.reported before name = some (.string state)

/-! ## One message -/

theorem latestField_mergeLatest (latestByDevice : Record LatestTelemetry) (deviceId : String)
    (payload : String → Option Json) (recordedAt : Date) :
    latestField (mergeLatest latestByDevice deviceId payload recordedAt) deviceId =
      spread (latestField latestByDevice deviceId) payload := by
  funext name
  unfold latestField mergeLatest
  rw [Finmap.lookup_insert]
  cases latestByDevice.lookup deviceId with
  | none => exact (Option.or_none).symm
  | some latest => rfl

theorem foldl_cameOnline (device : DeviceEntity) (deviceId entityId : String) (changedAt : Date)
    (latestByDevice : Record LatestTelemetry) :
    ((cameOnline device deviceId changedAt).map (·.withDeviceId entityId)).foldl onEvent
      latestByDevice = latestByDevice := by
  unfold cameOnline
  split_ifs <;> rfl

/-- A message changes the channel that it sets, and no other. -/
theorem channelState_step (entityId : String) (w : Watched) (message : DeviceMessage) :
    (w.step entityId message).device.channelState =
      spread w.device.channelState message.channelValue := by
  funext name
  unfold Watched.step spread DeviceMessage.channelValue DeviceMessage.applied
  cases message with
  | telemetry now payload => rfl
  | status now payload =>
    dsimp only [DeviceMessage.handle, handleDeviceStatusMessage]
    cases parseStatusPayload payload <;> rfl
  | event now envelope =>
    rw [DeviceMessage.handle, channelState_apply]
    cases hfailed : envelope.failed with
    | true => simp [hfailed]
    | false =>
      cases hchannel : envelope.channel with
      | none => simp [hfailed, hchannel]
      | some key =>
        by_cases same : name = key
        · simp [hfailed, hchannel, same]
        · simp [hfailed, hchannel, same, Ne.symm same]

theorem channelState_exec (entityId : String) (device : DeviceEntity)
    (messages : List DeviceMessage) :
    (Run.exec (Watched.step entityId) (Watched.start device) messages).device.channelState =
      storedChannel device messages :=
  exec_eq_last (fun w : Watched => w.device.channelState) (channelState_step entityId) _ messages

/-- What the server sends of a message: a payload as it is, or all channels of the row. -/
def Watched.sent (w : Watched) : DeviceMessage → String → Option Json
  | .telemetry _ payload => (normalizePayload payload).fields
  | message => fun name => (message.applied.bind fun (key, value) =>
      (mergeChannelState w.device key value).lookup name).map .string

theorem field_step (entityId : String) (w : Watched) (message : DeviceMessage) :
    (w.step entityId message).field entityId = spread (w.field entityId) (w.sent message) := by
  unfold Watched.step Watched.field
  cases message with
  | telemetry now payload =>
    dsimp only [DeviceMessage.handle, recordTelemetry]
    rw [List.map_cons, List.foldl_cons, foldl_cameOnline]
    exact latestField_mergeLatest _ _ _ _
  | status now payload =>
    dsimp only [DeviceMessage.handle, handleDeviceStatusMessage]
    cases parseStatusPayload payload with
    | none => rfl
    | some status =>
      dsimp only
      split_ifs <;> rfl
  | event now envelope =>
    dsimp only [DeviceMessage.handle, handleDeviceChannelEvent]
    cases hfailed : envelope.failed with
    | true =>
      -- a failed event brings the device online and sends no channels
      rw [if_pos rfl, List.map_append, List.foldl_append, foldl_cameOnline]
      have sent : w.sent (.event now envelope) = fun _ => none := by
        simp [Watched.sent, DeviceMessage.applied, hfailed]
      rw [sent]
      cases envelope.channel <;> rfl
    | false =>
      rw [if_neg Bool.false_ne_true]
      cases hchannel : envelope.channel with
      | none =>
        have sent : w.sent (.event now envelope) = fun _ => none := by
          simp [Watched.sent, DeviceMessage.applied, hfailed, hchannel]
        rw [sent]
        rfl
      | some key =>
        have sent : w.sent (.event now envelope) =
            channelFields (mergeChannelState w.device key envelope.stored) := by
          funext name
          simp [Watched.sent, DeviceMessage.applied, hfailed, hchannel, channelFields]
        rw [sent, List.map_append, List.foldl_append, foldl_cameOnline]
        exact latestField_mergeLatest _ _ _ _

/-- What is sent beyond the report makes no difference just when the snapshot has it already. -/
theorem sent_agrees_iff (w : Watched) (message : DeviceMessage) (shown : String → Option Json) :
    spread shown (w.sent message) = spread shown message.reported ↔
      ∀ key value, message.applied = some (key, value) → ∀ name, name ≠ key → ∀ state,
        w.device.channelState name = some state → shown name = some (.string state) := by
  cases happlied : message.applied with
  | none =>
    -- a payload is sent as it is; a message that sets nothing sends nothing
    have same : w.sent message = message.reported := by
      funext name
      cases message with
      | telemetry now payload => rfl
      | status now payload => rfl
      | event now envelope =>
        simp [Watched.sent, DeviceMessage.reported, DeviceMessage.channelValue, happlied]
    exact iff_of_true (by rw [same]) (by simp)
  | some set =>
    obtain ⟨key, value⟩ := set
    have sent (name : String) : w.sent message name =
        (if name = key then some value else w.device.channelState name).map Json.string := by
      cases message with
      | telemetry now payload | status now payload => cases happlied
      | event now envelope => simp [Watched.sent, happlied, lookup_mergeChannelState]
    have reported (name : String) : message.reported name =
        (if name = key then some value else none).map Json.string := by
      cases message with
      | telemetry now payload | status now payload => cases happlied
      | event now envelope =>
        simp [DeviceMessage.reported, DeviceMessage.channelValue, happlied]
    constructor
    · rintro agrees _ _ ⟨⟩ name other state stored
      have h := congrFun agrees name
      simpa [spread, sent, reported, other, stored, eq_comm] using h
    · intro shows
      funext name
      unfold spread
      rw [sent, reported]
      by_cases same : name = key
      · rw [if_pos same, if_pos same]
      · rw [if_neg same, if_neg same]
        cases hstored : w.device.channelState name with
        | none => rfl
        | some state => exact (shows key value rfl name same state hstored).symm

/-! ## All messages -/

/-- After each message the snapshot shows the last report of every field exactly when, whenever
a channel is set, each other channel of the row has the value that was last reported. -/
theorem dashboard_snapshot_iff (entityId : String) (device : DeviceEntity)
    (messages : List DeviceMessage) :
    (∀ received, received <+: messages →
        (Run.exec (Watched.step entityId) (Watched.start device) received).field entityId =
          last DeviceMessage.reported received) ↔
      ChannelsCurrent device messages := by
  rw [agrees_iff (Watched.field entityId) Watched.sent (field_step entityId) (fun _ => rfl)]
  refine forall_congr' fun before => forall_congr' fun message => forall_congr' fun _ => ?_
  rw [sent_agrees_iff, channelState_exec]

/-- A relay that is switched on, and reports later that it is off. -/
def switchedOff : List DeviceMessage :=
  [.event 1 { key := some "relay1", value := some (some "ON") },
    .telemetry 2 (.object [("relay1", .string "OFF")]),
    .event 3 { key := some "relay2", value := some (some "ON") }]

/-- The event of another channel shows the old state again. -/
theorem switchedOff_shows_on :
    ¬ ∀ received, received <+: switchedOff →
      (Run.exec (Watched.step "1") (Watched.start plainRelay) received).field "1" =
        last DeviceMessage.reported received := by
  intro agrees
  have shown : (Run.exec (Watched.step "1") (Watched.start plainRelay) switchedOff).field "1"
      "relay1" = some (.string "ON") := rfl
  have reported : last DeviceMessage.reported switchedOff "relay1" = some (.string "OFF") := rfl
  rw [agrees _ (List.prefix_refl _), reported] at shown
  simp at shown

end AiotCloud
