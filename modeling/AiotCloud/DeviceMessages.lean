import AiotCloud.DeviceRow

/-!
# Uplink messages

`recordTelemetry`, `handleDeviceStatusMessage` and `handleDeviceChannelEvent`.
Each reads the device row once, decides from that copy, and writes once. The
model is the decision: from the copy that was read to the write and the events.

`handleDeviceChannelEvent` sends the channel states of the copy back with one
entry changed. `channelState_apply` says what a channel shows afterwards when
the row is still the copy.
-/

namespace AiotCloud

/-- A row of the telemetry table. -/
structure DeviceTelemetryEntity where
  deviceId : String
  payload : Json
  recordedAt : Date

/-- A message from a device id that nobody has registered. -/
structure UnclaimedSighting where
  deviceId : String
  lastTopic : String
  lastSeenAt : Date

/-- What a handler does after its read. -/
structure Handled where
  write : Option Persist := none
  telemetry : Option DeviceTelemetryEntity := none
  events : List DeviceEvent := []
  sighting : Option UnclaimedSighting := none

/-- The row a handler leaves when nothing wrote since its read. -/
def Handled.row (h : Handled) (device : DeviceEntity) : DeviceEntity :=
  (h.write.map (Persist.commit device)).getD device

/-- Emitted by a handler that found the device not online. -/
def cameOnline (device : DeviceEntity) (deviceId : String) (changedAt : Date) :
    List DeviceEvent :=
  if device.status ≠ .online then [.status deviceId .online changedAt] else []

/-! ## Telemetry -/

/-- `payload && typeof payload === 'object' ? payload : { value: payload }`. -/
def normalizePayload : Json → Json
  | .array items => .array items
  | .object fields => .object fields
  | payload => .object [("value", payload)]

def recordTelemetry (now : Date) (deviceId : String) (payload : Json) :
    Option DeviceEntity → Handled
  | none => { sighting := some ⟨deviceId, "telemetry", now⟩ }
  | some device =>
    { write := some (.update { lastSeenAt := some now, status := some .online })
      telemetry := some ⟨device.id, normalizePayload payload, now⟩
      events := .telemetry deviceId (normalizePayload payload) now ::
        cameOnline device deviceId now }

/-! ## Status -/

/-- The text of a status payload: a string, or the string under `status`. -/
def statusText : Json → Option String
  | .string s => some s
  | .object fields =>
    match fields.lookup "status" with
    | some (.string s) => some s
    | _ => none
  | _ => none

def parseStatusPayload (payload : Json) : Option DeviceStatus :=
  (statusText payload).bind parseStatusText

def handleDeviceStatusMessage (now : Date) (deviceId : String) (payload : Json) :
    Option DeviceEntity → Handled
  | none => { sighting := some ⟨deviceId, "status", now⟩ }
  | some device =>
    match parseStatusPayload payload with
    | none => {}
    | some status =>
      { write := some (.update
          { status := some status, lastSeenAt := if status = .online then some now else none })
        events := if status ≠ device.status then [.status deviceId status now] else [] }

/-! ## Channel events -/

/-- The envelope of a channel event. A field is `none` when it is missing; the
value is `some none` when it is `null`, and otherwise the text that `String`
makes of it. -/
structure DeviceChannelEventPayload where
  key : Option String := none
  value : Option (Option String) := none
  topic : Option String := none
  status : Option String := none
  error : Option String := none
deriving DecidableEq, Repr

namespace DeviceChannelEventPayload

/-- `(event.status ?? 'ok').trim().toLowerCase() === 'error'`. -/
def failed (event : DeviceChannelEventPayload) : Bool :=
  jsToLowerCase (jsTrim (event.status.getD "ok")) == "error"

/-- The key, where it is truthy. -/
def channel (event : DeviceChannelEventPayload) : Option String :=
  event.key.filter (· ≠ "")

/-- `String(event.value ?? '')`. -/
def stored (event : DeviceChannelEventPayload) : String := (event.value.bind id).getD ""

/-- `event.value !== undefined ? String(event.value) : undefined`. -/
def shown (event : DeviceChannelEventPayload) : Option String :=
  event.value.map (·.getD "null")

end DeviceChannelEventPayload

/-- `{ ...(device.channelStates ?? {}), [key]: value }`. -/
def mergeChannelState (device : DeviceEntity) (key value : String) : Record String :=
  (device.channelStates.getD ∅).insert key value

def handleDeviceChannelEvent (now : Date) (deviceId : String)
    (event : DeviceChannelEventPayload) : Option DeviceEntity → Handled
  | none => { sighting := some ⟨deviceId, event.topic.getD kafkaDeviceEventsTopic, now⟩ }
  | some device =>
    if event.failed then
      { write := some (.update { lastSeenAt := some now, status := some .online })
        events :=
          (match event.channel with
            | some key => [.actionResult deviceId key event.shown false event.error now]
            | none => []) ++ cameOnline device deviceId now }
    else
      match event.channel with
      | some key =>
        { write := some (.update
            { channelStates := some (mergeChannelState device key event.stored)
              lastSeenAt := some now
              status := some .online })
          events :=
            [.channelState deviceId (mergeChannelState device key event.stored) now,
              .actionResult deviceId key (some event.stored) true none now] ++
            cameOnline device deviceId now }
      | none => {}

theorem lookup_mergeChannelState (device : DeviceEntity) (key value key' : String) :
    (mergeChannelState device key value).lookup key' =
      if key' = key then some value else device.channelState key' := by
  unfold mergeChannelState DeviceEntity.channelState
  split
  · next h => rw [h, Finmap.lookup_insert]
  · next h =>
    rw [Finmap.lookup_insert_of_ne _ h]
    cases device.channelStates <;> simp

/-- A failed command leaves every channel as it is; a successful one sets its
own channel and leaves the others. -/
theorem channelState_apply (now : Date) (deviceId : String) (event : DeviceChannelEventPayload)
    (device : DeviceEntity) (key : String) :
    ((handleDeviceChannelEvent now deviceId event (some device)).row device).channelState key =
      if event.failed = false ∧ event.channel = some key then some event.stored
      else device.channelState key := by
  cases hf : event.failed with
  | true => simp [handleDeviceChannelEvent, hf, Handled.row, DevicePatch.apply,
      DeviceEntity.channelState]
  | false =>
    cases hc : event.channel with
    | none => simp [handleDeviceChannelEvent, hf, hc, Handled.row]
    | some key' =>
      have hrow : ((handleDeviceChannelEvent now deviceId event (some device)).row
          device).channelState key =
          (mergeChannelState device key' event.stored).lookup key := by
        simp [handleDeviceChannelEvent, hf, hc, Handled.row, DevicePatch.apply,
          DeviceEntity.channelState]
      rw [hrow, lookup_mergeChannelState]
      simp [eq_comm]

end AiotCloud
