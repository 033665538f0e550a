import AiotCloud.ColumnWriters
import AiotCloud.UplinkRouting

/-!
# Messages of one device

`MqttController.handleAny` starts a handler for each message and does not wait for it, so
the handlers of messages that arrive close together overlap: each reads the row at its
own time and writes from that copy.

`arrival_order_iff`: when all handlers are through, status and channel states are those of
handling the messages one after another exactly when the last status written is that of
the last message that sets one, and the chain of channel writes behind the stored states
ends, for every channel, with the value of the last message that sets it.
-/

namespace AiotCloud

open Interleave ReadModifyWrite

/-! ## Messages -/

/-- A message on one of the device's topics. -/
inductive DeviceMessage where
  | telemetry (now : Date) (payload : Json)
  | status (now : Date) (payload : Json)
  | event (now : Date) (envelope : DeviceChannelEventPayload)

namespace DeviceMessage

def kind : DeviceMessage → Uplink
  | .telemetry _ _ => .telemetry
  | .status _ _ => .status
  | .event _ _ => .event

/-- The handler that the message is given to. -/
def handler : DeviceMessage → Writer
  | .telemetry now payload => .recordTelemetry now payload
  | .status now payload => .handleDeviceStatusMessage now payload
  | .event now envelope => .handleDeviceChannelEvent now envelope

/-- The status that the handler writes, if it writes at all. -/
def setsStatus : DeviceMessage → Option DeviceStatus
  | .telemetry _ _ => some .online
  | .status _ payload => parseStatusPayload payload
  | .event _ envelope =>
    if envelope.failed ∨ envelope.channel.isSome then some .online else none

/-- The channel and the value that the handler stores. -/
def setsChannel : DeviceMessage → Option (String × String)
  | .event _ envelope =>
    if envelope.failed then none else envelope.channel.map (·, envelope.stored)
  | _ => none

end DeviceMessage

/-- A message as it arrives, on a topic that is routed to the device and the handler of its
kind. A topic that has no default shape and is not cached is looked up first. -/
structure Arrival (devices : List DeviceEntity) (device : DeviceEntity) where
  topic : String
  message : DeviceMessage
  routed : Routed devices .empty device message.kind topic
  lookedUp : Bool
  custom : lookedUp = true → ¬ DefaultShaped topic

variable {devices : List DeviceEntity} {device : DeviceEntity} {n : Nat}

/-- What `handleAny` starts. -/
def Arrival.proc (arrival : Arrival devices device) : Proc DeviceEntity RowStep Unit :=
  if arrival.lookedUp then do
    let _ ← Proc.read .read id
    arrival.message.handler.proc
  else arrival.message.handler.proc

/-- The started handlers, in the order of arrival. -/
def arrivals (messages : Fin n → Arrival devices device) :
    Sys (Fin n) DeviceEntity RowStep Unit :=
  ⟨device, fun i => (messages i).proc⟩

/-- The row after the messages are handled one after another. -/
def handledInOrder (messages : Fin n → Arrival devices device) : DeviceEntity :=
  (List.finRange n).foldl (fun row i => ((messages i).proc.exec RowStep.act row).1) device

/-! ## What a handler writes -/

/-- The write of a message that sets a status, made from `copy`. -/
structure WritesFrom (message : DeviceMessage) (copy : DeviceEntity) (status : DeviceStatus)
    (w : RowWrite) : Prop where
  status : ∀ row, (w.commit row).status = status
  channelStates : ∀ row, (w.commit row).channelStates =
    match message.setsChannel with
    | some (key, value) => some (mergeChannelState copy key value)
    | none => row.channelStates

section

variable {copy : DeviceEntity} {now : Date} {payload : Json}
  {envelope : DeviceChannelEventPayload} {p : Persist}

theorem writes_status_of_some
    (h : (handleDeviceStatusMessage now copy.deviceId payload (some copy)).write = some p) :
    Writer.writes copy (.handleDeviceStatusMessage now payload) =
      [⟨copy, p, seenColumns, sendsCopy_handleDeviceStatusMessage h⟩] := by
  simp only [Writer.writes]
  split
  · next q hq =>
    obtain rfl := Option.some_inj.mp (h.symm.trans hq)
    rfl
  · next hq => exact absurd (h.symm.trans hq) (by simp)

theorem writes_status_of_none
    (h : (handleDeviceStatusMessage now copy.deviceId payload (some copy)).write = none) :
    Writer.writes copy (.handleDeviceStatusMessage now payload) = [] := by
  simp only [Writer.writes]
  split
  · next q hq => exact absurd (h.symm.trans hq) (by simp)
  · rfl

theorem writes_event_of_some
    (h : (handleDeviceChannelEvent now copy.deviceId envelope (some copy)).write = some p) :
    Writer.writes copy (.handleDeviceChannelEvent now envelope) =
      [⟨copy, p, channelEventColumns envelope, sendsCopy_handleDeviceChannelEvent h⟩] := by
  simp only [Writer.writes]
  split
  · next q hq =>
    obtain rfl := Option.some_inj.mp (h.symm.trans hq)
    rfl
  · next hq => exact absurd (h.symm.trans hq) (by simp)

theorem writes_event_of_none
    (h : (handleDeviceChannelEvent now copy.deviceId envelope (some copy)).write = none) :
    Writer.writes copy (.handleDeviceChannelEvent now envelope) = [] := by
  simp only [Writer.writes]
  split
  · next q hq => exact absurd (h.symm.trans hq) (by simp)
  · rfl

end

theorem writes_of_setsStatus {message : DeviceMessage} {status : DeviceStatus}
    (h : message.setsStatus = some status) (copy : DeviceEntity) :
    ∃ w, message.handler.writes copy = [w] ∧ WritesFrom message copy status w := by
  cases message with
  | telemetry now payload =>
    obtain rfl : DeviceStatus.online = status := Option.some_inj.mp h
    exact ⟨_, rfl, fun _ => rfl, fun _ => rfl⟩
  | status now payload =>
    have hparse : parseStatusPayload payload = some status := h
    have hwrite : (handleDeviceStatusMessage now copy.deviceId payload (some copy)).write =
        some (.update
          { status := some status
            lastSeenAt := if status = .online then some now else none }) := by
      simp [handleDeviceStatusMessage, hparse]
    exact ⟨_, writes_status_of_some hwrite, fun _ => rfl, fun _ => rfl⟩
  | event now envelope =>
    cases hfailed : envelope.failed with
    | true =>
      obtain rfl : DeviceStatus.online = status := by
        simpa [DeviceMessage.setsStatus, hfailed] using h
      have hwrite : (handleDeviceChannelEvent now copy.deviceId envelope (some copy)).write =
          some (.update { lastSeenAt := some now, status := some .online }) := by
        simp [handleDeviceChannelEvent, hfailed]
      refine ⟨_, writes_event_of_some hwrite, fun _ => rfl, fun _ => ?_⟩
      simp [DeviceMessage.setsChannel, hfailed, RowWrite.commit, DevicePatch.apply]
    | false =>
      cases hchannel : envelope.channel with
      | none => simp [DeviceMessage.setsStatus, hfailed, hchannel] at h
      | some key =>
        obtain rfl : DeviceStatus.online = status := by
          simpa [DeviceMessage.setsStatus, hfailed, hchannel] using h
        have hwrite : (handleDeviceChannelEvent now copy.deviceId envelope (some copy)).write =
            some (.update
              { channelStates := some (mergeChannelState copy key envelope.stored)
                lastSeenAt := some now
                status := some .online }) := by
          simp [handleDeviceChannelEvent, hfailed, hchannel]
        refine ⟨_, writes_event_of_some hwrite, fun _ => rfl, fun _ => ?_⟩
        simp [DeviceMessage.setsChannel, hfailed, hchannel, RowWrite.commit, DevicePatch.apply]

theorem writes_of_silent {message : DeviceMessage} (h : message.setsStatus = none)
    (copy : DeviceEntity) : message.handler.writes copy = [] := by
  cases message with
  | telemetry now payload => exact absurd h (by simp [DeviceMessage.setsStatus])
  | status now payload =>
    have hparse : parseStatusPayload payload = none := h
    exact writes_status_of_none (by simp [handleDeviceStatusMessage, hparse])
  | event now envelope =>
    have hsilent : envelope.failed = false ∧ envelope.channel = none := by
      simpa [DeviceMessage.setsStatus] using h
    exact writes_event_of_none (by simp [handleDeviceChannelEvent, hsilent.1, hsilent.2])

/-- Only a message that sets a status sets a channel. -/
theorem setsStatus_of_setsChannel {message : DeviceMessage} (h : message.setsChannel ≠ none) :
    message.setsStatus = some .online := by
  cases message with
  | telemetry now payload => exact absurd rfl h
  | status now payload => exact absurd rfl h
  | event now envelope =>
    have hchannel : envelope.channel.isSome := by
      cases hkey : envelope.channel with
      | none => simp [DeviceMessage.setsChannel, hkey] at h
      | some key => rfl
    simp [DeviceMessage.setsStatus, hchannel]

/-! ## The points of a handler -/

/-- A handler before its write, with the copy it holds. -/
inductive Unhandled (arrival : Arrival devices device) (p : Proc DeviceEntity RowStep Unit)
    (copy : Option DeviceEntity) : Prop where
  | arrived (stands : p = arrival.proc)
  | lookedUp (stands : p = arrival.message.handler.proc)
  | writing (row : DeviceEntity) (status : DeviceStatus) (w : RowWrite) (holds : copy = some row)
      (sets : arrival.message.setsStatus = some status)
      (source : WritesFrom arrival.message row status w)
      (stands : p = .step (.write w) fun _ => .ret ())
  | silent (sets : arrival.message.setsStatus = none) (stands : p = .ret ())

theorem handler_proc_eq (writer : Writer) :
    writer.proc = .step .read fun copy => writeAll (writer.writes copy) := rfl

theorem Unhandled.of_read (arrival : Arrival devices device) (row : DeviceEntity) :
    Unhandled arrival (writeAll (arrival.message.handler.writes row)) (some row) := by
  cases hsets : arrival.message.setsStatus with
  | none =>
    rw [writes_of_silent hsets]
    exact .silent hsets rfl
  | some status =>
    obtain ⟨w, hwrites, source⟩ := writes_of_setsStatus hsets row
    rw [hwrites]
    exact .writing row status w rfl hsets source rfl

theorem Unhandled.read {arrival : Arrival devices device} {copy : Option DeviceEntity}
    {k : DeviceEntity → Proc DeviceEntity RowStep Unit}
    (h : Unhandled arrival (.step .read k) copy) (row : DeviceEntity) :
    Unhandled arrival (k row) (some row) := by
  have handling : Proc.step RowStep.read k = arrival.message.handler.proc →
      Unhandled arrival (k row) (some row) := by
    intro stands
    rw [handler_proc_eq] at stands
    obtain ⟨-, rfl⟩ := Proc.step.inj stands
    exact .of_read arrival row
  cases h with
  | arrived stands =>
    unfold Arrival.proc at stands
    split at stands
    · obtain ⟨-, rfl⟩ := Proc.step.inj stands
      exact .lookedUp rfl
    · exact handling stands
  | lookedUp stands => exact handling stands
  | writing _ _ _ _ _ _ stands => cases stands
  | silent _ stands => cases stands

theorem Unhandled.write {arrival : Arrival devices device} {copy : Option DeviceEntity}
    {w : RowWrite} {k : DeviceEntity → Proc DeviceEntity RowStep Unit}
    (h : Unhandled arrival (.step (.write w) k) copy) :
    ∃ row status, copy = some row ∧ arrival.message.setsStatus = some status ∧
      WritesFrom arrival.message row status w ∧ ∀ s, k s = .ret () := by
  have reading : Proc.step (RowStep.write w) k ≠ arrival.message.handler.proc := by
    intro stands
    rw [handler_proc_eq] at stands
    cases stands
  cases h with
  | arrived stands =>
    unfold Arrival.proc at stands
    split at stands
    · cases stands
    · exact absurd stands reading
  | lookedUp stands => exact absurd stands reading
  | writing row status w' holds sets source stands =>
    obtain ⟨hw, rfl⟩ := Proc.step.inj stands
    obtain rfl := RowStep.write.inj hw
    exact ⟨row, status, holds, sets, source, fun _ => rfl⟩
  | silent _ stands => cases stands

/-- The turns of the messages that `sets` selects. -/
def selectedTurn (sets : Fin n → Bool) (x : Fin n × RowStep) : Option (Turn (Fin n)) :=
  if sets x.1 then rowTurn x else none

theorem selectedTurn_eq_some_iff {sets : Fin n → Bool} {x : Fin n × RowStep} {t : Turn (Fin n)} :
    selectedTurn sets x = some t ↔ sets x.1 = true ∧ rowTurn x = some t := by
  unfold selectedTurn
  split
  · next selected => simp [selected]
  · next unselected => simp [unselected]

/-- The handlers as read-modify-write operations on a part of the row. -/
theorem arrivals_simulate {τ : Type} (messages : Fin n → Arrival devices device)
    (view : DeviceEntity → τ) (sets : Fin n → Bool) (f : Fin n → τ → τ)
    (changes : ∀ i row status w, (messages i).message.setsStatus = some status →
      WritesFrom (messages i).message row status w → ∀ r,
      view (w.commit r) = if sets i then f i (view row) else view r) :
    Simulates RowStep.act (selectedTurn sets) view f fun i p x =>
      ∃ copy, (Unhandled (messages i) p copy ∨ p = .ret ()) ∧ (sets i → x = copy.map view) where
  other i l k x row h hturn := by
    obtain ⟨copy, point, hx⟩ := h
    have unselected : sets i = false := by
      cases hs : sets i with
      | false => rfl
      | true => cases l <;> simp [selectedTurn, rowTurn, hs] at hturn
    rcases point with unhandled | hret
    · cases l with
      | read => exact ⟨rfl, some row, Or.inl (unhandled.read row), by simp [unselected]⟩
      | write w =>
        obtain ⟨copied, status, -, hsets, source, hnext⟩ := unhandled.write
        have hview := changes i copied status w hsets source row
        rw [unselected] at hview
        exact ⟨hview, copy, Or.inr (hnext row), by simp [unselected]⟩
    · cases hret
  read i l k x row j h hturn := by
    obtain ⟨copy, point, -⟩ := h
    obtain ⟨rfl, rfl⟩ := rowTurn_read (selectedTurn_eq_some_iff.mp hturn).2
    rcases point with unhandled | hret
    · exact ⟨rfl, rfl, some row, Or.inl (unhandled.read row), fun _ => rfl⟩
    · cases hret
  write i l k x row j h hturn := by
    obtain ⟨copy, point, hx⟩ := h
    obtain ⟨selected, hrow⟩ := selectedTurn_eq_some_iff.mp hturn
    obtain ⟨rfl, w, rfl⟩ := rowTurn_write hrow
    rcases point with unhandled | hret
    · obtain ⟨copied, status, rfl, hsets, source, hnext⟩ := unhandled.write
      have hview := changes i copied status w hsets source row
      rw [selected] at hview
      exact ⟨rfl, view copied, hx selected, hview, some copied, Or.inr (hnext row), hx⟩
    · cases hret

theorem arrivals_write_once (messages : Fin n → Arrival devices device) :
    WritesOnce rowTurn
      (fun i (p : Proc DeviceEntity RowStep Unit) => ∃ copy, Unhandled (messages i) p copy)
      fun i p => p = .ret () ∧ (messages i).message.setsStatus ≠ none where
  own i l j hturn := (rowTurn_write hturn).1.symm
  before i l k s h quiet := by
    obtain ⟨copy, unhandled⟩ := h
    cases l with
    | read => exact ⟨some s, unhandled.read s⟩
    | write w => exact absurd rfl (quiet i)
  write i l k s j h hturn := by
    obtain ⟨copy, unhandled⟩ := h
    obtain ⟨-, w, rfl⟩ := rowTurn_write hturn
    obtain ⟨row, status, -, sets, -, hnext⟩ := unhandled.write
    exact ⟨hnext s, by simp [sets]⟩
  after i l k s h := by
    obtain ⟨hret, -⟩ := h
    cases hret

/-! ## One after another -/

/-- The channel states after a message has stored its channel. -/
def storeChannel (set : Option (String × String)) (states : Option (Record String)) :
    Option (Record String) :=
  match set with
  | some (key, value) => some ((states.getD ∅).insert key value)
  | none => states

theorem WritesFrom.storeChannel {message : DeviceMessage} {copy : DeviceEntity}
    {status : DeviceStatus} {w : RowWrite} (h : WritesFrom message copy status w)
    (row : DeviceEntity) : (w.commit row).channelStates =
      if message.setsChannel.isSome then
        AiotCloud.storeChannel message.setsChannel copy.channelStates
      else row.channelStates := by
  rw [h.channelStates row]
  cases message.setsChannel <;> rfl

theorem exec_handler (message : DeviceMessage) (row : DeviceEntity) :
    (message.handler.proc.exec RowStep.act row).1.status = message.setsStatus.getD row.status ∧
      (message.handler.proc.exec RowStep.act row).1.channelStates =
        storeChannel message.setsChannel row.channelStates := by
  rw [handler_proc_eq, Proc.exec_step]
  show _ = _ ∧ _
  cases hsets : message.setsStatus with
  | none =>
    have unset : message.setsChannel = none := by
      by_contra hchannel
      rw [setsStatus_of_setsChannel hchannel] at hsets
      exact absurd hsets (by simp)
    rw [writes_of_silent hsets, unset]
    exact ⟨rfl, rfl⟩
  | some status =>
    obtain ⟨w, hwrites, source⟩ := writes_of_setsStatus hsets row
    rw [hwrites]
    refine ⟨source.status row, (source.storeChannel row).trans ?_⟩
    cases message.setsChannel <;> rfl

theorem exec_arrival (arrival : Arrival devices device) (row : DeviceEntity) :
    arrival.proc.exec RowStep.act row = arrival.message.handler.proc.exec RowStep.act row := by
  unfold Arrival.proc
  split <;> rfl

theorem handledInOrder_eq (messages : Fin n → Arrival devices device) :
    (handledInOrder messages).status = (List.finRange n).foldl
        (fun status i => (messages i).message.setsStatus.getD status) device.status ∧
      (handledInOrder messages).channelStates = (List.finRange n).foldl
        (fun states i => storeChannel (messages i).message.setsChannel states)
        device.channelStates := by
  suffices each : ∀ (order : List (Fin n)) (row : DeviceEntity),
      (order.foldl (fun row i => ((messages i).proc.exec RowStep.act row).1) row).status =
        order.foldl (fun status i => (messages i).message.setsStatus.getD status) row.status ∧
      (order.foldl (fun row i => ((messages i).proc.exec RowStep.act row).1) row).channelStates =
        order.foldl (fun states i => storeChannel (messages i).message.setsChannel states)
          row.channelStates from each _ device
  intro order
  induction order with
  | nil => exact fun row => ⟨rfl, rfl⟩
  | cons i order ih =>
    intro row
    obtain ⟨hstatus, hstates⟩ := exec_handler (messages i).message row
    have next := ih ((messages i).proc.exec RowStep.act row).1
    rw [exec_arrival, hstatus, hstates] at next
    simpa only [List.foldl_cons, exec_arrival] using next

/-! ## The last to set a value -/

/-- The status set last in the order. -/
def lastStatus (messages : Fin n → Arrival devices device) (order : List (Fin n)) :
    Option DeviceStatus :=
  (order.filterMap fun i => (messages i).message.setsStatus).getLast?

/-- The value stored last for the channel in the order. -/
def lastValue (messages : Fin n → Arrival devices device) (key : String) (order : List (Fin n)) :
    Option String :=
  (order.filterMap fun i => (messages i).message.setsChannel.bind fun (channel, value) =>
    if channel = key then some value else none).getLast?

theorem foldl_setsStatus (messages : Fin n → Arrival devices device) (order : List (Fin n))
    (status : DeviceStatus) :
    order.foldl (fun status i => (messages i).message.setsStatus.getD status) status =
      (lastStatus messages order).getD status := by
  induction order using List.reverseRecOn with
  | nil => rfl
  | append_singleton order i ih =>
    rw [List.foldl_append, ih]
    unfold lastStatus
    cases h : (messages i).message.setsStatus <;> simp [h]

theorem lookup_foldl_storeChannel (messages : Fin n → Arrival devices device) (key : String)
    (order : List (Fin n)) (states : Option (Record String)) :
    (order.foldl (fun states i => storeChannel (messages i).message.setsChannel states)
        states).bind (·.lookup key) =
      (lastValue messages key order).or (states.bind (·.lookup key)) := by
  induction order using List.reverseRecOn with
  | nil => rfl
  | append_singleton order i ih =>
    rw [List.foldl_append]
    unfold lastValue at *
    generalize order.foldl (fun states i => storeChannel (messages i).message.setsChannel states)
      states = stored at *
    cases h : (messages i).message.setsChannel with
    | none => simpa [h, storeChannel] using ih
    | some set =>
      obtain ⟨channel, value⟩ := set
      rcases eq_or_ne channel key with rfl | hne
      · simp [h, storeChannel]
      · have other : ((stored.getD ∅).insert channel value).lookup key =
            stored.bind (·.lookup key) := by
          rw [Finmap.lookup_insert_of_ne _ hne.symm]
          cases stored <;> simp
        simpa [h, storeChannel, hne, other] using ih

theorem isSome_foldl_storeChannel (messages : Fin n → Arrival devices device)
    (order : List (Fin n)) (states : Option (Record String)) :
    (order.foldl (fun states i => storeChannel (messages i).message.setsChannel states)
        states).isSome ↔
      states.isSome ∨ ∃ i ∈ order, (messages i).message.setsChannel.isSome := by
  induction order generalizing states with
  | nil => simp
  | cons i order ih =>
    rw [List.foldl_cons, ih]
    cases h : (messages i).message.setsChannel <;> simp [h, storeChannel]

/-- Channel states are their presence and their channels. -/
theorem channelStates_eq_iff {a b : Option (Record String)} :
    a = b ↔ (a.isSome ↔ b.isSome) ∧ ∀ key, a.bind (·.lookup key) = b.bind (·.lookup key) := by
  constructor
  · rintro rfl
    exact ⟨Iff.rfl, fun _ => rfl⟩
  · rintro ⟨present, same⟩
    cases a with
    | none =>
      cases b with
      | none => rfl
      | some b => exact absurd (present.mpr rfl) (by simp)
    | some a =>
      cases b with
      | none => exact absurd (present.mp rfl) (by simp)
      | some b => exact congrArg some (Finmap.ext_lookup fun key => same key)

/-! ## The order kept -/

/-- The turns of the messages that store a channel. -/
def channelTurns (messages : Fin n → Arrival devices device) (trace : List (Fin n × RowStep)) :
    List (Turn (Fin n)) :=
  trace.filterMap (selectedTurn fun i => (messages i).message.setsChannel.isSome)

/-- The last status written is that of the last message that sets one; and going back from
the last channel write to the one its handler had read, and so on, the first that sets a
channel sets it as the last message that does, or as it was if there is none. -/
structure OrderKept (messages : Fin n → Arrival devices device) (trace : List (Fin n × RowStep)) :
    Prop where
  status : lastStatus messages (writes (turnsOf trace)) = lastStatus messages (List.finRange n)
  channels : ∀ key,
    (lastValue messages key (lineage (channelTurns messages trace))).or (device.channelState key) =
      (lastValue messages key (List.finRange n)).or (device.channelState key)

section Run

variable {messages : Fin n → Arrival devices device} {sched : List (Fin n)}

theorem isSome_lastStatus (messages : Fin n → Arrival devices device) (order : List (Fin n)) :
    (lastStatus messages order).isSome ↔ ∃ i ∈ order, (messages i).message.setsStatus.isSome := by
  unfold lastStatus
  rw [← Option.ne_none_iff_isSome, Ne, List.getLast?_eq_none_iff, List.filterMap_eq_nil_iff]
  simp [Option.isSome_iff_ne_none]

theorem lastStatus_of_all {order : List (Fin n)}
    (all : ∀ i ∈ order, (messages i).message.setsStatus ≠ none) :
    lastStatus messages order = order.getLast?.bind fun i => (messages i).message.setsStatus := by
  induction order using List.reverseRecOn with
  | nil => rfl
  | append_singleton order i ih =>
    obtain ⟨status, hstatus⟩ := Option.ne_none_iff_exists'.mp (all i (by simp))
    simp [lastStatus, hstatus]

theorem turnsOf_eq (trace : List (Fin n × RowStep)) :
    turnsOf trace = trace.filterMap (selectedTurn fun _ => true) := by
  unfold turnsOf selectedTurn
  simp

theorem mem_writes_channelTurns {trace : List (Fin n × RowStep)} {i : Fin n} :
    i ∈ writes (channelTurns messages trace) ↔
      i ∈ writes (turnsOf trace) ∧ (messages i).message.setsChannel.isSome := by
  simp only [mem_writes, channelTurns, turnsOf, List.mem_filterMap, selectedTurn_eq_some_iff]
  constructor
  · rintro ⟨⟨j, l⟩, hx, sets, hturn⟩
    obtain rfl := (rowTurn_write hturn).1
    exact ⟨⟨(j, l), hx, hturn⟩, sets⟩
  · rintro ⟨⟨⟨j, l⟩, hx, hturn⟩, sets⟩
    obtain rfl := (rowTurn_write hturn).1
    exact ⟨(j, l), hx, sets, hturn⟩

/-- When the handlers are through, exactly those have written whose message sets a
status. -/
theorem mem_writes_iff (finished : ((arrivals messages).run RowStep.act sched).Finished)
    (i : Fin n) : i ∈ writes (turnsOf ((arrivals messages).trace RowStep.act sched)) ↔
      (messages i).message.setsStatus ≠ none := by
  have written : Written (fun i p => ∃ copy, Unhandled (messages i) p copy)
      (fun i p => p = .ret () ∧ (messages i).message.setsStatus ≠ none)
      ((arrivals messages).run RowStep.act sched)
      (writes (turnsOf ((arrivals messages).trace RowStep.act sched))) :=
    (arrivals_write_once messages).written_run (fun i => ⟨none, .arrived rfl⟩) sched
  refine ⟨fun hi => (written.after i hi).2, fun sets => ?_⟩
  by_contra unwritten
  obtain ⟨copy, unhandled⟩ := written.before i unwritten
  obtain ⟨⟨⟩, hret⟩ := finished i
  unfold Sys.Returned at hret
  rw [hret] at unhandled
  have handler : Proc.ret () ≠ (messages i).message.handler.proc := by
    intro stands
    cases stands
  cases unhandled with
  | arrived stands =>
    unfold Arrival.proc at stands
    split at stands
    · cases stands
    · exact handler stands
  | lookedUp stands => exact handler stands
  | writing _ _ _ _ _ _ stands => cases stands
  | silent silent _ => exact sets silent

/-- The status is the last one written. -/
theorem status_arrivals (finished : ((arrivals messages).run RowStep.act sched).Finished) :
    ((arrivals messages).run RowStep.act sched).shared.status =
      (lastStatus messages
        (writes (turnsOf ((arrivals messages).trace RowStep.act sched)))).getD device.status := by
  have sim := arrivals_simulate messages (·.status) (fun _ => true)
    (fun i status => (messages i).message.setsStatus.getD status)
    fun i row status w hsets source r => by simp [source.status r, hsets]
  have init : ∀ i, ∃ copy : Option DeviceEntity, (Unhandled (messages i) (messages i).proc copy ∨
      (messages i).proc = .ret ()) ∧ (true = true → none = copy.map (·.status)) :=
    fun i => ⟨none, Or.inl (.arrived rfl), fun _ => rfl⟩
  have final := sim.view_run (c := arrivals messages) init sched
  have begun := (sim.tracks_run (c := arrivals messages) init sched).begun
  rw [← turnsOf_eq] at final begun
  rw [final, foldl_setsStatus]
  have all := fun i hi => (mem_writes_iff finished i).mp hi
  rw [lastStatus_of_all fun i hi => all i ((lineage_sublist _).subset hi), lastStatus_of_all all,
    getLast?_lineage begun]
  rfl

/-- The channel states are what the chain of channel writes behind them makes of the
start. -/
theorem channelStates_arrivals (messages : Fin n → Arrival devices device)
    (sched : List (Fin n)) :
    ((arrivals messages).run RowStep.act sched).shared.channelStates =
        (lineage (channelTurns messages ((arrivals messages).trace RowStep.act sched))).foldl
          (fun states i => storeChannel (messages i).message.setsChannel states)
          device.channelStates ∧
      Begun (channelTurns messages ((arrivals messages).trace RowStep.act sched)) := by
  have sim := arrivals_simulate messages (·.channelStates)
    (fun i => (messages i).message.setsChannel.isSome)
    (fun i states => storeChannel (messages i).message.setsChannel states)
    fun i row status w hsets source r => source.storeChannel r
  have init : ∀ i, ∃ copy : Option DeviceEntity, (Unhandled (messages i) (messages i).proc copy ∨
      (messages i).proc = .ret ()) ∧ ((messages i).message.setsChannel.isSome = true →
        none = copy.map (·.channelStates)) :=
    fun i => ⟨none, Or.inl (.arrived rfl), fun _ => rfl⟩
  exact ⟨sim.view_run (c := arrivals messages) init sched,
    (sim.tracks_run (c := arrivals messages) init sched).begun⟩

/-- Some message has stored a channel just when one stores a channel at all. -/
theorem stored_iff (finished : ((arrivals messages).run RowStep.act sched).Finished) :
    (∃ i ∈ lineage (channelTurns messages ((arrivals messages).trace RowStep.act sched)),
        (messages i).message.setsChannel.isSome) ↔
      ∃ i ∈ List.finRange n, (messages i).message.setsChannel.isSome := by
  constructor
  · rintro ⟨i, -, hi⟩
    exact ⟨i, List.mem_finRange i, hi⟩
  · rintro ⟨i, -, hi⟩
    have hstatus : (messages i).message.setsStatus ≠ none := by
      rw [setsStatus_of_setsChannel (Option.isSome_iff_ne_none.mp hi)]
      simp
    have hwrites := mem_writes_channelTurns.mpr ⟨(mem_writes_iff finished i).mpr hstatus, hi⟩
    have hlast := getLast?_lineage (channelStates_arrivals messages sched).2
    -- the last channel write is in the chain
    cases hj : (lineage (channelTurns messages
        ((arrivals messages).trace RowStep.act sched))).getLast? with
    | none =>
      rw [hj, eq_comm, List.getLast?_eq_none_iff] at hlast
      rw [hlast] at hwrites
      exact absurd hwrites (by simp)
    | some j =>
      have hmem := List.mem_of_getLast? hj
      exact ⟨j, hmem, (mem_writes_channelTurns.mp ((lineage_sublist _).subset hmem)).2⟩

end Run

/-- When all handlers of any finite sequence of messages are through, under any schedule,
status and channel states are those of handling the messages in order exactly when
`OrderKept` holds of the schedule. -/
theorem arrival_order_iff (messages : Fin n → Arrival devices device) {sched : List (Fin n)}
    (finished : ((arrivals messages).run RowStep.act sched).Finished) :
    (((arrivals messages).run RowStep.act sched).shared.status =
        (handledInOrder messages).status ∧
      ((arrivals messages).run RowStep.act sched).shared.channelStates =
        (handledInOrder messages).channelStates) ↔
      OrderKept messages ((arrivals messages).trace RowStep.act sched) := by
  obtain ⟨seqStatus, seqStates⟩ := handledInOrder_eq messages
  have status : ((arrivals messages).run RowStep.act sched).shared.status =
        (handledInOrder messages).status ↔
      lastStatus messages (writes (turnsOf ((arrivals messages).trace RowStep.act sched))) =
        lastStatus messages (List.finRange n) := by
    have present : (lastStatus messages
          (writes (turnsOf ((arrivals messages).trace RowStep.act sched)))).isSome ↔
        (lastStatus messages (List.finRange n)).isSome := by
      rw [isSome_lastStatus, isSome_lastStatus]
      constructor
      · rintro ⟨i, -, hi⟩
        exact ⟨i, List.mem_finRange i, hi⟩
      · rintro ⟨i, -, hi⟩
        exact ⟨i, (mem_writes_iff finished i).mpr (Option.isSome_iff_ne_none.mp hi), hi⟩
    rw [status_arrivals finished, seqStatus, foldl_setsStatus]
    generalize lastStatus messages
      (writes (turnsOf ((arrivals messages).trace RowStep.act sched))) = written at *
    generalize lastStatus messages (List.finRange n) = arrived at *
    cases written <;> cases arrived <;> simp at present ⊢
  have channels : ((arrivals messages).run RowStep.act sched).shared.channelStates =
        (handledInOrder messages).channelStates ↔
      ∀ key, (lastValue messages key
          (lineage (channelTurns messages ((arrivals messages).trace RowStep.act sched)))).or
            (device.channelState key) =
        (lastValue messages key (List.finRange n)).or (device.channelState key) := by
    rw [(channelStates_arrivals messages sched).1, seqStates, channelStates_eq_iff,
      isSome_foldl_storeChannel, isSome_foldl_storeChannel, stored_iff finished]
    simp only [lookup_foldl_storeChannel, true_and]
    rfl
  rw [status, channels]
  exact ⟨fun h => ⟨h.1, h.2⟩, fun h => ⟨h.status, h.channels⟩⟩

/-! ### Two messages that overlap -/

def relayArrival (message : DeviceMessage) : Arrival [plainRelay] plainRelay where
  topic := message.kind.defaultTopic "relay-1"
  message := message
  routed rows _ now := routed_of_default (by decide) message.kind rows .empty now
  lookedUp := false
  custom h := absurd h (by decide)

def offlineThenTelemetry : Fin 2 → Arrival [plainRelay] plainRelay
  | 0 => relayArrival (.status 5 (.string "OFFLINE"))
  | 1 => relayArrival (.telemetry 6 .null)

/-- The handler of the later message is faster: the device ends up offline. -/
theorem arrival_order_lost :
    ((arrivals offlineThenTelemetry).run RowStep.act [0, 1, 1, 0]).Finished ∧
      ((arrivals offlineThenTelemetry).run RowStep.act [0, 1, 1, 0]).shared.status ≠
        (handledInOrder offlineThenTelemetry).status := by
  refine ⟨Fin.forall_fin_two.mpr ⟨⟨(), rfl⟩, ⟨(), rfl⟩⟩, ?_⟩
  show DeviceStatus.offline ≠ DeviceStatus.online
  decide

theorem arrival_order_iff_offlineThenTelemetry :
    (((arrivals offlineThenTelemetry).run RowStep.act [0, 0, 1, 1]).shared.status =
        (handledInOrder offlineThenTelemetry).status ∧
      ((arrivals offlineThenTelemetry).run RowStep.act [0, 0, 1, 1]).shared.channelStates =
        (handledInOrder offlineThenTelemetry).channelStates) ↔
      OrderKept offlineThenTelemetry
        ((arrivals offlineThenTelemetry).trace RowStep.act [0, 0, 1, 1]) := by
  have finished : ((arrivals offlineThenTelemetry).run RowStep.act [0, 0, 1, 1]).Finished :=
    Fin.forall_fin_two.mpr ⟨⟨(), rfl⟩, ⟨(), rfl⟩⟩
  exact arrival_order_iff offlineThenTelemetry finished

end AiotCloud
